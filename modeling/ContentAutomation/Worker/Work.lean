import ContentAutomation.Jobs.Frames

/-!
# The work of handlers

What `execute` does between the claim of a job and its settlement, one step at a time:
it calls back into the job framework, sends a statement on a connection of its own, asks
a provider, and in the end returns a result or throws. A worker whose lease has expired
goes on until a callback, or the commit of its result, turns it away.
-/

namespace ContentAutomation

open Function

variable {App Request Answer Local : Type}

/-- What the work of a handler does next. -/
inductive Instruction (App Request Answer Local : Type)
  /-- A callback of the framework; what it throws is caught. -/
  | callback (kind : CallbackKind) (resume : Local) (rescue : Option JobError → Local)
  /-- A statement on the analysis jobs and the tables of the application, with what it
  leaves of them. -/
  | statement (run : Database App → (List AnalysisJob × App) × Local)
  /-- A request to a provider. -/
  | request (request : Request) (resume : Answer → Local)
  | finish (outcome : ExecutionOutcome App)

/-- A transaction of its own, as a statement of the work. -/
def asStatement {α : Type} (body : JobTransaction App α) (next : α → Local) (rescue : Local)
    (db : Database App) : (List AnalysisJob × App) × Local :=
  match body.run db with
  | .ok (value, db') => (db'.contents, next value)
  | .error _ => (db.contents, rescue)

/-- A transaction of the application, as an effect of a result. -/
def asEffect {α : Type} (body : JobTransaction App α) : CommitEffect App :=
  .write fun db =>
    match body.run db with
    | .ok (_, db') => some db'.app
    | .error _ => none

theorem asStatement_of_ensures {α : Type} {body : JobTransaction App α} {next : α → Local}
    {rescue : Local} {db : Database App} {P : List AnalysisJob × App → Local → Prop}
    (h : body.Ensures (fun value db' => P db'.contents (next value)) (fun _ => True) db)
    (hrescue : P db.contents rescue) :
    P (asStatement body next rescue db).1 (asStatement body next rescue db).2 := by
  unfold Relational.Transaction.Ensures at h
  unfold asStatement
  cases hrun : body.run db with
  | error error => exact hrescue
  | ok result =>
    rw [hrun] at h
    exact h

theorem asEffect_of_ensures {α : Type} {body : JobTransaction App α} {R : App → App → Prop}
    (h : ∀ db, body.Ensures (fun _ db' => R db.app db'.app) (fun _ => True) db)
    {update : Database App → Option App} (hupdate : CommitEffect.write update ∈ [asEffect body])
    {db : Database App} {app : App} (happ : update db = some app) : R db.app app := by
  cases List.mem_singleton.mp hupdate
  have hbody := h db
  unfold Relational.Transaction.Ensures at hbody
  cases hrun : body.run db with
  | error error =>
    simp only [hrun] at happ
    cases happ
  | ok result =>
    rw [hrun] at hbody
    simp only [hrun] at happ
    cases happ
    exact hbody

/-- The work of a handler, as what it does next in each of its states. -/
structure Script (App Request Answer Local : Type) where
  start : Delivery → JobClaim → Local
  next : Local → Instruction App Request Answer Local

/-- Where the work of a handler stands. -/
inductive Work (App Local : Type)
  | running (state : Local)
  /-- It has called the callback of a state, and waits for it. -/
  | calling (callback : ℕ) (state : Local)
  /-- It has sent the request of a state, and waits for the answer. -/
  | awaiting (state : Local)
  | done (outcome : ExecutionOutcome App)

/-- The state of a work that is not over. -/
def Work.state? : Work App Local → Option Local
  | .running state | .calling _ state | .awaiting state => some state
  | .done _ => none

/-- The work of one attempt at a job. -/
structure Attempt (App Local : Type) where
  jobId : String
  /-- How many retries of the job operators had been granted when it was claimed. -/
  period : ℕ
  work : Work App Local

/-- A request that was sent to a provider. -/
structure SentRequest (Request : Type) where
  jobId : String
  period : ℕ
  request : Request

/-- The job framework, with the work of its handlers and the log of what was sent. -/
structure WorkSystem (App Request Local : Type) where
  system : System App
  attempts : ℕ → Option (Attempt App Local)
  /-- The requests that were sent, latest first. -/
  sent : List (SentRequest Request)
  /-- The jobs of the retries that operators were granted, latest first. -/
  retried : List String
  /-- For each handler, the number of retries of its job before its claim. -/
  periods : ℕ → ℕ

/-- What may happen. -/
inductive WorkEvent (App Answer : Type)
  | framework (event : Event App)
  | begin (pid : ℕ)
  | call (pid callback : ℕ) (calledAt : ℤ)
  /-- The callback that the work waits for is over. -/
  | resume (pid : ℕ)
  | statement (pid : ℕ)
  | send (pid : ℕ)
  | receive (pid : ℕ) (answer : Answer)
  /-- The work is over: the handler goes on with its outcome. -/
  | finish (pid : ℕ) (input : HandlerInput App)
  /-- The rest of the application writes. -/
  | others (analysisJobs : List AnalysisJob) (app : App)

/-- What the work of a handler throws. -/
inductive WorkException
  | failure (reason : JobFailure)
  | cancelled
  | other

/-- What a callback has thrown, which the work may throw on. -/
def WorkException.ofCallback : Option JobError → WorkException
  | none => .cancelled
  | some _ => .other

/-- The outcome of a work that throws. -/
def WorkException.outcome : WorkException → ExecutionOutcome App
  | .failure reason => .threw (some reason)
  | .cancelled => .cancelled
  | .other => .threw none

/-- The outcome of a work whose delivery may have been aborted. -/
def ExecutionOutcome.whenAborted (aborted : Bool) : ExecutionOutcome App → ExecutionOutcome App
  | .threw failure => if aborted then .abandoned else .threw failure
  | outcome => outcome

/-- A system whose contents have been written. -/
def System.write (s : System App) (contents : List AnalysisJob × App) : System App :=
  { s with db := { s.db with analysisJobs := contents.1, app := contents.2 } }

/-- The handler is at work. -/
def System.executing (s : System App) (pid : ℕ) : Option (Delivery × JobClaim) :=
  match s.processes pid with
  | .handler ⟨delivery, .executing claim⟩ => some (delivery, claim)
  | _ => none

namespace WorkSystem

/-- The framework may take the event: the application does not write, the work calls its
callbacks itself but for the heartbeats of a timer, and it ends by itself. -/
def permits (s : WorkSystem App Request Local) : Event App → Bool
  | .write .. => false
  | .command (.application _) => false
  | .spawn _ (.callback _ kind _) => kind == .heartbeat
  | .advance pid _ => (s.system.executing pid).isNone
  | _ => true

/-- The periods of the handlers after a step of the framework: one that has just claimed
its job begins with the present period. -/
def periodsAfter (s : WorkSystem App Request Local) (system : System App) (pid : ℕ) : ℕ :=
  if (system.processes pid).claim? = (s.system.processes pid).claim? then s.periods pid
  else
    match (system.processes pid).claim? with
    | some (jobId, _) => s.retried.count jobId
    | none => 0

/-- A step of the framework has been taken. -/
def observe (environment : Environment App) (s : WorkSystem App Request Local) (event : Event App)
    (system : System App) : WorkSystem App Request Local :=
  { s with
    system
    retried := (s.system.accepts environment event).toList ++ s.retried
    periods := s.periodsAfter system }

/-- The work of a handler goes on. -/
def setWork (s : WorkSystem App Request Local) (pid : ℕ) (attempt : Attempt App Local)
    (work : Work App Local) : WorkSystem App Request Local :=
  { s with attempts := update s.attempts pid (some { attempt with work }) }

/-- The work of a handler that is at work. -/
def attemptAt (s : WorkSystem App Request Local) (pid : ℕ) : Option (Attempt App Local) :=
  if (s.system.executing pid).isSome then s.attempts pid else none

variable (environment : Environment App) (script : Script App Request Answer Local)

/-- One step, if the event can happen. -/
def step (s : WorkSystem App Request Local) :
    WorkEvent App Answer → Option (WorkSystem App Request Local)
  | .framework event =>
    if s.permits event then (s.system.step environment event).map (s.observe environment event)
    else none
  | .begin pid =>
    match s.system.executing pid, s.attempts pid with
    | some (delivery, claim), none =>
      some { s with
        attempts := update s.attempts pid
          (some ⟨delivery.envelope.domainJobId, s.periods pid,
            .running (script.start delivery claim)⟩) }
    | _, _ => none
  | .call pid callback calledAt =>
    match s.attemptAt pid with
    | some ⟨jobId, period, .running state⟩ =>
      match script.next state with
      | .callback kind _ _ =>
        let event : Event App := .spawn callback (.callback pid kind calledAt)
        (s.system.step environment event).map fun system =>
          (s.observe environment event system).setWork pid ⟨jobId, period, .running state⟩
            (.calling callback state)
      | _ => none
    | _ => none
  | .resume pid =>
    match s.attemptAt pid with
    | some ⟨jobId, period, .calling callback state⟩ =>
      match script.next state, s.system.processes callback with
      | .callback _ resume _, .callback ⟨_, _, _, _, .returned⟩ =>
        some (s.setWork pid ⟨jobId, period, .calling callback state⟩ (.running resume))
      | .callback _ _ rescue, .callback ⟨_, _, _, _, .threw error⟩ =>
        some (s.setWork pid ⟨jobId, period, .calling callback state⟩ (.running (rescue error)))
      | _, _ => none
    | _ => none
  | .statement pid =>
    match s.attemptAt pid with
    | some ⟨jobId, period, .running state⟩ =>
      match script.next state with
      | .statement run =>
        some ({ s with system := s.system.write (run s.system.db).1 }.setWork pid
          ⟨jobId, period, .running state⟩ (.running (run s.system.db).2))
      | _ => none
    | _ => none
  | .send pid =>
    match s.attemptAt pid with
    | some ⟨jobId, period, .running state⟩ =>
      match script.next state with
      | .request request _ =>
        some ({ s with sent := ⟨jobId, period, request⟩ :: s.sent }.setWork pid
          ⟨jobId, period, .running state⟩ (.awaiting state))
      | _ => none
    | _ => none
  | .receive pid answer =>
    match s.attemptAt pid with
    | some ⟨jobId, period, .awaiting state⟩ =>
      match script.next state with
      | .request _ resume =>
        some (s.setWork pid ⟨jobId, period, .awaiting state⟩ (.running (resume answer)))
      | _ => none
    | _ => none
  | .finish pid input =>
    match s.attemptAt pid with
    | some ⟨jobId, period, .running state⟩ =>
      match script.next state with
      | .finish outcome =>
        some (s.setWork pid ⟨jobId, period, .running state⟩ (.done outcome))
      | _ => none
    | some ⟨_, _, .done outcome⟩ =>
      let event : Event App :=
        .advance pid (.handler { input with outcome := outcome.whenAborted input.aborted })
      (s.system.step environment event).map (s.observe environment event)
    | _ => none
  | .others analysisJobs app => some { s with system := s.system.write (analysisJobs, app) }

/-- The system takes a step, in which the rest of the application writes only what it may. -/
def Step (others : List AnalysisJob × App → List AnalysisJob × App → Prop)
    (s : WorkSystem App Request Local) (event : WorkEvent App Answer)
    (t : WorkSystem App Request Local) : Prop :=
  (∀ analysisJobs app, event = .others analysisJobs app →
      others s.system.db.contents (analysisJobs, app)) ∧
    s.step environment script event = some t

/-- A system without jobs, processes and attempts. -/
def initial (clock : ℤ) (internalUsers : List InternalUser) (app : App) :
    WorkSystem App Request Local where
  system := System.initial clock internalUsers app
  attempts _ := none
  sent := []
  retried := []
  periods _ := 0

end WorkSystem

/-! ### What a step does -/

/-- What an observer of the work sees: the contents of the database, the attempts, the
requests and the retries. -/
@[ext]
structure WorkView (App Request Local : Type) where
  analysisJobs : List AnalysisJob
  app : App
  attempts : ℕ → Option (Attempt App Local)
  sent : List (SentRequest Request)
  retried : List String

/-- The view of a system. -/
def WorkSystem.view (s : WorkSystem App Request Local) : WorkView App Request Local where
  analysisJobs := s.system.db.analysisJobs
  app := s.system.db.app
  attempts := s.attempts
  sent := s.sent
  retried := s.retried

variable (script : Script App Request Answer Local)

/-- A step of the work that nothing but the work itself shows. -/
inductive LocalMove : Work App Local → Work App Local → Prop
  | call {state resume : Local} {kind : CallbackKind} {rescue : Option JobError → Local}
      {callback : ℕ} (hnext : script.next state = .callback kind resume rescue) :
      LocalMove (.running state) (.calling callback state)
  | returned {state resume : Local} {kind : CallbackKind} {rescue : Option JobError → Local}
      {callback : ℕ} (hnext : script.next state = .callback kind resume rescue) :
      LocalMove (.calling callback state) (.running resume)
  | thrown {state resume : Local} {kind : CallbackKind} {rescue : Option JobError → Local}
      {callback : ℕ} {error : Option JobError}
      (hnext : script.next state = .callback kind resume rescue) :
      LocalMove (.calling callback state) (.running (rescue error))
  | received {state : Local} {request : Request} {resume : Answer → Local} {answer : Answer}
      (hnext : script.next state = .request request resume) :
      LocalMove (.awaiting state) (.running (resume answer))
  | finished {state : Local} {outcome : ExecutionOutcome App}
      (hnext : script.next state = .finish outcome) :
      LocalMove (.running state) (.done outcome)

/-- What an observer sees of a step. -/
inductive WorkMove (others : List AnalysisJob × App → List AnalysisJob × App → Prop) :
    WorkEvent App Answer → WorkView App Request Local → WorkView App Request Local → Prop
  | idle {event : WorkEvent App Answer} {v : WorkView App Request Local} :
      WorkMove others event v v
  | retry {event : WorkEvent App Answer} {v : WorkView App Request Local}
      {jobId workspaceId : String} :
      WorkMove others event v
        { v with
          analysisJobs := resetRepairs jobId workspaceId v.analysisJobs
          retried := jobId :: v.retried }
  /-- A result is committed: what each of its writes does, the commit does. -/
  | commit {event : WorkEvent App Answer} {v : WorkView App Request Local} {app : App} {pid : ℕ}
      {attempt : Attempt App Local} {result : List (CommitEffect App)}
      (hattempt : v.attempts pid = some attempt) (hwork : attempt.work = .done (.returned result))
      (hwrites : ∀ R : App → App → Prop, (∀ app, R app app) →
        (∀ {app app' app''}, R app app' → R app' app'' → R app app'') →
        (∀ update, CommitEffect.write update ∈ result →
          ∀ db app, update db = some app → R db.app app) → R v.app app) :
      WorkMove others event v { v with app }
  | begin {v : WorkView App Request Local} {pid : ℕ} {delivery : Delivery} {claim : JobClaim}
      {period : ℕ} (hnew : v.attempts pid = none)
      (hperiod : period ≤ v.retried.count delivery.envelope.domainJobId) :
      WorkMove others (.begin pid) v
        { v with
          attempts := update v.attempts pid
            (some ⟨delivery.envelope.domainJobId, period,
              .running (script.start delivery claim)⟩) }
  | goOn {event : WorkEvent App Answer} {v : WorkView App Request Local} {pid : ℕ}
      {attempt : Attempt App Local} {work : Work App Local}
      (hattempt : v.attempts pid = some attempt) (hmove : LocalMove script attempt.work work) :
      WorkMove others event v
        { v with attempts := update v.attempts pid (some { attempt with work }) }
  | statement {v : WorkView App Request Local} {pid : ℕ} {attempt : Attempt App Local}
      {state : Local} {run : Database App → (List AnalysisJob × App) × Local} {db : Database App}
      (hattempt : v.attempts pid = some attempt) (hwork : attempt.work = .running state)
      (hnext : script.next state = .statement run)
      (hcontents : db.contents = (v.analysisJobs, v.app)) :
      WorkMove others (.statement pid) v
        { v with
          analysisJobs := (run db).1.1
          app := (run db).1.2
          attempts := update v.attempts pid
            (some { attempt with work := .running (run db).2 }) }
  | send {v : WorkView App Request Local} {pid : ℕ} {attempt : Attempt App Local} {state : Local}
      {request : Request} {resume : Answer → Local}
      (hattempt : v.attempts pid = some attempt) (hwork : attempt.work = .running state)
      (hnext : script.next state = .request request resume) :
      WorkMove others (.send pid) v
        { v with
          attempts := update v.attempts pid (some { attempt with work := .awaiting state })
          sent := ⟨attempt.jobId, attempt.period, request⟩ :: v.sent }
  | others {v : WorkView App Request Local} {analysisJobs : List AnalysisJob} {app : App}
      (hothers : others (v.analysisJobs, v.app) (analysisJobs, app)) :
      WorkMove others (.others analysisJobs app) v { v with analysisJobs, app }

variable {script} in
/-- What the rest of the application may do, it may do where more is allowed. -/
theorem WorkMove.mono {others others' : List AnalysisJob × App → List AnalysisJob × App → Prop}
    {event : WorkEvent App Answer} {v v' : WorkView App Request Local}
    (h : ∀ before after, others before after → others' before after)
    (hmove : WorkMove script others event v v') : WorkMove script others' event v v' := by
  cases hmove with
  | idle => exact .idle
  | retry => exact .retry
  | commit hattempt hwork hwrites => exact .commit hattempt hwork hwrites
  | begin hnew hperiod => exact .begin hnew hperiod
  | goOn hattempt hmove => exact .goOn hattempt hmove
  | statement hattempt hwork hnext hcontents => exact .statement hattempt hwork hnext hcontents
  | send hattempt hwork hnext => exact .send hattempt hwork hnext
  | others hothers => exact .others (h _ _ hothers)

/-- The script has brought the work to where it stands. -/
def Work.From : Work App Local → Prop
  | .running _ => True
  | .calling _ state => ∃ kind resume rescue, script.next state = .callback kind resume rescue
  | .awaiting state => ∃ request resume, script.next state = .request request resume
  | .done (.returned result) => ∃ state, script.next state = .finish (.returned result)
  | .done _ => True

/-- The script has brought every attempt to where it stands. -/
def WorkView.From (v : WorkView App Request Local) : Prop :=
  ∀ pid attempt, v.attempts pid = some attempt → attempt.work.From script

section Provenance

variable {script} {others : List AnalysisJob × App → List AnalysisJob × App → Prop}
  {v v' : WorkView App Request Local} {event : WorkEvent App Answer}

theorem LocalMove.from {work work' : Work App Local} (h : LocalMove script work work') :
    work'.From script := by
  cases h with
  | call hnext => exact ⟨_, _, _, hnext⟩
  | finished hnext =>
    next outcome =>
    cases outcome with
    | returned result => exact ⟨_, hnext⟩
    | threw | cancelled | abandoned => trivial
  | returned | thrown | received => trivial

theorem WorkView.From.update (h : v.From script) {pid : ℕ} {attempt : Attempt App Local}
    (hattempt : attempt.work.From script) :
    ∀ other held, update v.attempts pid (some attempt) other = some held →
      held.work.From script := by
  intro other held hheld
  by_cases hother : other = pid
  · subst hother
    rw [update_self] at hheld
    cases hheld
    exact hattempt
  · rw [update_of_ne hother] at hheld
    exact h other held hheld

theorem WorkView.From.move (h : v.From script) (hmove : WorkMove script others event v v') :
    v'.From script := by
  cases hmove with
  | idle | retry | commit | others => exact h
  | begin hnew hperiod => exact h.update trivial
  | goOn hattempt hmove => exact h.update hmove.from
  | statement hattempt hwork hnext hcontents => exact h.update trivial
  | send hattempt hwork hnext => exact h.update ⟨_, _, hnext⟩

end Provenance

namespace WorkSystem

variable {environment : Environment App} {script}
  {others : List AnalysisJob × App → List AnalysisJob × App → Prop}
  {s t : WorkSystem App Request Local} {event : WorkEvent App Answer} {system : System App}
  {pid : ℕ} {result : List (CommitEffect App)} {attempt : Attempt App Local}

/-- The invariant: a handler commits what its work has returned, and no attempt is of a
period that has not begun. -/
structure Inv (s : WorkSystem App Request Local) : Prop where
  committing : ∀ {pid delivery claim result},
    s.system.processes pid = .handler ⟨delivery, .committing claim result⟩ →
      ∃ attempt, s.attempts pid = some attempt ∧ attempt.work = .done (.returned result)
  periods : ∀ {pid jobId claim}, (s.system.processes pid).claim? = some (jobId, claim) →
    s.periods pid ≤ s.retried.count jobId

theorem claim?_of_executing {delivery : Delivery} {claim : JobClaim}
    (h : system.executing pid = some (delivery, claim)) :
    (system.processes pid).claim? = some (delivery.envelope.domainJobId, claim) := by
  unfold System.executing at h
  split at h
  · next hprocess =>
    cases h
    rw [hprocess]
    rfl
  · cases h

private theorem not_committing_of_executing {delivery : Delivery}
    {claim : JobClaim} (h : (system.executing pid).isSome) :
    system.processes pid ≠ .handler ⟨delivery, .committing claim result⟩ := by
  intro hprocess
  unfold System.executing at h
  rw [hprocess] at h
  cases h

theorem attemptAt_eq_some :
    s.attemptAt pid = some attempt ↔
      (s.system.executing pid).isSome ∧ s.attempts pid = some attempt := by
  unfold attemptAt
  split
  · next h => simp [h]
  · next h => simp [h]

private theorem returned_of_whenAborted {outcome : ExecutionOutcome App} {aborted : Bool}
    (h : outcome.whenAborted aborted = .returned result) :
    outcome = .returned result := by
  cases outcome with
  | threw failure => cases aborted <;> cases h
  | returned | cancelled | abandoned => exact h

/-- A step of the framework that ends no work but as its attempt has ended keeps the
invariant. -/
theorem Inv.observe (hinv : s.Inv) {step : Event App}
    (hstep : System.Step environment s.system step system)
    (hends : ∀ pid input, step = .advance pid (.handler input) → (s.system.executing pid).isSome =
      true → ∃ attempt outcome, s.attempts pid = some attempt ∧ attempt.work = .done outcome ∧
      input.outcome = outcome.whenAborted input.aborted) :
    (s.observe environment step system).Inv := by
  constructor
  · intro pid delivery claim result hprocess
    rcases hstep.committing hprocess with hbefore | ⟨input, hevent, hbefore, houtcome⟩
    · exact hinv.committing hbefore
    · have hexecuting : (s.system.executing pid).isSome = true := by
        unfold System.executing
        rw [hbefore]
        rfl
      obtain ⟨attempt, outcome, hattempt, hwork, hended⟩ := hends pid input hevent hexecuting
      rw [houtcome] at hended
      exact ⟨attempt, hattempt, hwork.trans (by rw [returned_of_whenAborted hended.symm])⟩
  · intro pid jobId claim hclaim
    have hcount : s.retried.count jobId ≤
        ((s.system.accepts environment step).toList ++ s.retried).count jobId := by
      rw [List.count_append]
      omega
    show s.periodsAfter system pid ≤ _
    unfold periodsAfter
    split
    · next hsame =>
      have hclaim' : (system.processes pid).claim? = some (jobId, claim) := hclaim
      rw [hsame] at hclaim'
      exact (hinv.periods hclaim').trans hcount
    · have hclaim' : (system.processes pid).claim? = some (jobId, claim) := hclaim
      rw [hclaim']
      exact hcount

private theorem Inv.observe_move (hinv : s.Inv) {step : Event App}
    (hstep : System.Step environment s.system step system) (hwrite : step.isWrite = false) :
    WorkMove script others event s.view (s.observe environment step system).view := by
  rcases hstep.contents_cases hwrite with ⟨haccepts, hsame⟩ |
    ⟨jobId, workspaceId, haccepts, happ, hreset⟩ |
    ⟨haccepts, hanalyses, pid, delivery, claim, result, hprocess, hwrites⟩
  · obtain ⟨hanalyses, happ⟩ := Prod.mk.inj hsame
    have hview : (s.observe environment step system).view = s.view := by
      unfold WorkSystem.observe WorkSystem.view
      rw [haccepts, hanalyses, happ]
      rfl
    rw [hview]
    exact .idle
  · have hview : (s.observe environment step system).view =
        { s.view with
          analysisJobs := resetRepairs jobId workspaceId s.view.analysisJobs
          retried := jobId :: s.view.retried } := by
      unfold WorkSystem.observe WorkSystem.view
      rw [haccepts, hreset, happ]
      rfl
    rw [hview]
    exact .retry
  · obtain ⟨attempt, hattempt, hwork⟩ := hinv.committing hprocess
    have hview : (s.observe environment step system).view =
        { s.view with app := system.db.app } := by
      unfold WorkSystem.observe WorkSystem.view
      rw [haccepts, hanalyses]
      rfl
    rw [hview]
    exact .commit hattempt hwork hwrites

/-- The work of a handler at work may go on: nobody else commits anything else. -/
theorem Inv.setWork (hinv : s.Inv) {work : Work App Local}
    (hexecuting : (s.system.executing pid).isSome) : (s.setWork pid attempt work).Inv := by
  constructor
  · intro other delivery claim result hprocess
    have hne : other ≠ pid := by
      rintro rfl
      exact not_committing_of_executing hexecuting hprocess
    obtain ⟨held, hheld, hwork⟩ := hinv.committing hprocess
    refine ⟨held, ?_, hwork⟩
    simp only [WorkSystem.setWork, update_of_ne hne]
    exact hheld
  · exact hinv.periods

theorem Inv.write (hinv : s.Inv) (contents : List AnalysisJob × App) :
    Inv { s with system := s.system.write contents } := ⟨hinv.committing, hinv.periods⟩

private theorem spawned_contents {after : System App} {birth : Birth}
    (hstep : System.Step environment system (.spawn pid birth) after) :
    after.db.contents = system.db.contents := by
  simp only [System.Step, System.step] at hstep
  split at hstep <;> cases hstep
  rfl

private theorem spawned_executing {after : System App} {other : ℕ} {birth : Birth}
    (hstep : System.Step environment system (.spawn other birth) after)
    (hexecuting : (system.executing pid).isSome) :
    (after.executing pid).isSome := by
  simp only [System.Step, System.step] at hstep
  split at hstep
  · next process hunused hstart =>
    cases hstep
    have hne : pid ≠ other := by
      rintro rfl
      unfold System.executing at hexecuting
      rw [hunused] at hexecuting
      cases hexecuting
    unfold System.executing at hexecuting ⊢
    simp only [System.setProcess, update_of_ne hne]
    exact hexecuting
  · cases hstep

/-- **Step lemma.** A step keeps the invariant, and is one of the moves that an observer
may see. -/
theorem Inv.step (hinv : s.Inv) (hstep : Step environment script others s event t) :
    t.Inv ∧ WorkMove script others event s.view t.view := by
  obtain ⟨hothers, hstep⟩ := hstep
  cases event with
  | framework step =>
    simp only [WorkSystem.step] at hstep
    split at hstep
    · next hpermits =>
      obtain ⟨system, hsystem, rfl⟩ := Option.map_eq_some_iff.mp hstep
      have hwrite : step.isWrite = false := by
        cases step with
        | write => cases hpermits
        | command command => cases command <;> first | rfl | cases hpermits
        | _ => rfl
      refine ⟨hinv.observe hsystem ?_, hinv.observe_move hsystem hwrite⟩
      rintro pid input rfl hexecuting
      simp only [permits, Option.isNone_iff_eq_none] at hpermits
      rw [hpermits] at hexecuting
      cases hexecuting
    · cases hstep
  | begin pid =>
    simp only [WorkSystem.step] at hstep
    split at hstep
    · next delivery claim hexecuting hnew =>
      cases hstep
      refine ⟨?_, .begin hnew (hinv.periods (claim?_of_executing hexecuting))⟩
      have hset : (s.setWork pid ⟨delivery.envelope.domainJobId, s.periods pid,
          .running (script.start delivery claim)⟩ (.running (script.start delivery claim))).Inv :=
        hinv.setWork (by rw [hexecuting]; rfl)
      exact hset
    · cases hstep
  | call pid callback calledAt =>
    simp only [WorkSystem.step] at hstep
    split at hstep
    · next jobId period state hattempt =>
      obtain ⟨hexecuting, hheld⟩ := attemptAt_eq_some.mp hattempt
      split at hstep
      · next kind resume rescue hnext =>
        obtain ⟨system, hsystem, rfl⟩ := Option.map_eq_some_iff.mp hstep
        have hspawned := hinv.observe hsystem (by rintro other input ⟨⟩)
        have hsame := spawned_executing hsystem hexecuting
        refine ⟨hspawned.setWork hsame, ?_⟩
        have hview : ((s.observe environment (.spawn callback (.callback pid kind calledAt))
            system).setWork pid ⟨jobId, period, .running state⟩ (.calling callback state)).view =
            (s.setWork pid ⟨jobId, period, .running state⟩ (.calling callback state)).view := by
          obtain ⟨hanalyses, happ⟩ := Prod.mk.inj (spawned_contents hsystem)
          unfold WorkSystem.setWork WorkSystem.observe WorkSystem.view
          rw [hanalyses, happ]
          rfl
        rw [hview]
        exact .goOn hheld (.call hnext)
      · cases hstep
    · cases hstep
  | resume pid =>
    simp only [WorkSystem.step] at hstep
    split at hstep
    · next jobId period callback state hattempt =>
      obtain ⟨hexecuting, hheld⟩ := attemptAt_eq_some.mp hattempt
      split at hstep
      · next hnext hprocess =>
        cases hstep
        exact ⟨hinv.setWork hexecuting, .goOn hheld (.returned hnext)⟩
      · next hnext hprocess =>
        cases hstep
        exact ⟨hinv.setWork hexecuting, .goOn hheld (.thrown hnext)⟩
      · cases hstep
    · cases hstep
  | statement pid =>
    simp only [WorkSystem.step] at hstep
    split at hstep
    · next jobId period state hattempt =>
      obtain ⟨hexecuting, hheld⟩ := attemptAt_eq_some.mp hattempt
      split at hstep
      · next run hnext =>
        cases hstep
        exact ⟨(hinv.write _).setWork hexecuting, .statement hheld rfl hnext rfl⟩
      · cases hstep
    · cases hstep
  | send pid =>
    simp only [WorkSystem.step] at hstep
    split at hstep
    · next jobId period state hattempt =>
      obtain ⟨hexecuting, hheld⟩ := attemptAt_eq_some.mp hattempt
      split at hstep
      · next request resume hnext =>
        cases hstep
        have hsent : Inv { s with sent := ⟨jobId, period, request⟩ :: s.sent } :=
          ⟨hinv.committing, hinv.periods⟩
        exact ⟨hsent.setWork hexecuting, .send hheld rfl hnext⟩
      · cases hstep
    · cases hstep
  | receive pid answer =>
    simp only [WorkSystem.step] at hstep
    split at hstep
    · next jobId period state hattempt =>
      obtain ⟨hexecuting, hheld⟩ := attemptAt_eq_some.mp hattempt
      split at hstep
      · next request resume hnext =>
        cases hstep
        exact ⟨hinv.setWork hexecuting, .goOn hheld (.received hnext)⟩
      · cases hstep
    · cases hstep
  | finish pid input =>
    simp only [WorkSystem.step] at hstep
    split at hstep
    · next jobId period state hattempt =>
      obtain ⟨hexecuting, hheld⟩ := attemptAt_eq_some.mp hattempt
      split at hstep
      · next outcome hnext =>
        cases hstep
        exact ⟨hinv.setWork hexecuting, .goOn hheld (.finished hnext)⟩
      · cases hstep
    · next jobId period outcome hattempt =>
      obtain ⟨hexecuting, hheld⟩ := attemptAt_eq_some.mp hattempt
      obtain ⟨system, hsystem, rfl⟩ := Option.map_eq_some_iff.mp hstep
      refine ⟨hinv.observe hsystem ?_, hinv.observe_move hsystem rfl⟩
      rintro other handlerInput ⟨⟩ -
      exact ⟨_, outcome, hheld, rfl, rfl⟩
    · cases hstep
  | others analysisJobs app =>
    cases hstep
    exact ⟨hinv.write _, .others (hothers _ _ rfl)⟩

theorem inv_initial (clock : ℤ) (internalUsers : List InternalUser) (app : App) :
    (initial clock internalUsers app : WorkSystem App Request Local).Inv := by
  constructor
  · intro pid delivery claim result hprocess
    cases hprocess
  · intro pid jobId claim hclaim
    cases hclaim

variable {allowed : WorkSystem App Request Local → WorkEvent App Answer → Prop}

/-- **The rule of runs.** What the moves of an observer keep, in the states and for the
events that a condition allows, holds along every run whose steps meet the condition. -/
theorem Inv.run {J : WorkView App Request Local → Prop} (hinv : s.Inv)
    (hfrom : s.view.From script) (hinit : J s.view)
    (hmove : ∀ {s : WorkSystem App Request Local} {event v}, allowed s event →
      s.view.From script → J s.view → WorkMove script others event s.view v → J v)
    (hrun : Transition.Reachable
      (Transition.Restricted (Step environment script others) allowed) s t) :
    t.Inv ∧ t.view.From script ∧ J t.view := by
  refine hrun.invariant (I := fun t => t.Inv ∧ t.view.From script ∧ J t.view)
    ⟨hinv, hfrom, hinit⟩ ?_
  rintro t u event ⟨hbefore, hfrom, hJ⟩ ⟨hallowed, hstep⟩
  obtain ⟨hafter, hmoves⟩ := hbefore.step hstep
  exact ⟨hafter, hfrom.move hmoves, hmove hallowed hfrom hJ hmoves⟩

/-- Take the given events one after the other, as long as each is admitted. -/
def replay (environment : Environment App) (script : Script App Request Answer Local)
    (admits : WorkSystem App Request Local → WorkEvent App Answer → Bool)
    (s : WorkSystem App Request Local) :
    List (WorkEvent App Answer) → Option (WorkSystem App Request Local)
  | [] => some s
  | event :: events =>
    if admits s event then
      match s.step environment script event with
      | none => none
      | some t => replay environment script admits t events
    else none

/-- A replay that comes to an end is a run, whose steps meet every condition that admitted
events meet. -/
theorem reachable_of_replay {admits : WorkSystem App Request Local → WorkEvent App Answer → Bool}
    (hadmits : ∀ s event, admits s event → allowed s event ∧
      ∀ analysisJobs app, event = .others analysisJobs app →
        others s.system.db.contents (analysisJobs, app)) {events : List (WorkEvent App Answer)}
    (hrun : Transition.Reachable (Transition.Restricted (Step environment script others) allowed)
      s t) {u : WorkSystem App Request Local}
    (hreplay : t.replay environment script admits events = some u) :
    Transition.Reachable (Transition.Restricted (Step environment script others) allowed) s u := by
  induction events generalizing t with
  | nil =>
    cases hreplay
    exact hrun
  | cons event events ih =>
    unfold replay at hreplay
    split at hreplay
    · next hadmitted =>
      obtain ⟨hallowed, hothers⟩ := hadmits t event hadmitted
      split at hreplay
      · cases hreplay
      · next t' hstep => exact ih (hrun.tail ⟨hallowed, hothers, hstep⟩) hreplay
    · cases hreplay

end WorkSystem

/-! ### A small deployment

The events around one job, for the examples of the modules that follow. -/

namespace WorkSample

def jobId : String := "01900000-0000-7000-8000-000000000001"

def correlationId : String := "01900000-0000-7000-8000-0000000000c0"

def context : WorkspaceContext := ⟨"workspace"⟩

/-- The job is enqueued. -/
def enqueued (queueName : String) : WorkEvent App Answer :=
  .framework (.command (.enqueue context
    { correlationId
      handlerVersion := 1
      idempotencyKey := "key"
      inputVersion := none
      maxAttempts := none
      priority := none
      queueName
      resourceId := none
      resourceType := none } jobId "outbox"))

/-- A handler takes its next step outside its work; a claim uses the identifier as its lease. -/
def handled (pid : ℕ) (now : ℤ) (leaseId : String) : WorkEvent App Answer :=
  .framework (.advance pid
    (.handler ⟨now, leaseId, leaseId ++ "-attempt", none, false, .cancelled⟩))

/-- The job is delivered to a handler, which claims it and begins its work. -/
def begun (queueName : String) (pid : ℕ) (now : ℤ) (leaseId : String) :
    List (WorkEvent App Answer) :=
  .framework (.spawn pid (.deliver
    ⟨context, ⟨correlationId, jobId, 1, queueName, context.workspaceId⟩, none⟩)) ::
    (List.replicate 4 (handled pid now leaseId) ++ [.begin pid])

/-- The work of a handler records its stage through the framework. -/
def announced (pid callback : ℕ) (now : ℤ) : List (WorkEvent App Answer) :=
  [.call pid callback now, .framework (.advance callback .callback),
    .framework (.advance callback .callback), .resume pid]

/-- The work of a handler is over, and its result is committed. -/
def committed (pid : ℕ) (now : ℤ) : List (WorkEvent App Answer) :=
  [.finish pid ⟨now, "unused", "unused", none, false, .cancelled⟩,
    .finish pid ⟨now, "unused", "unused", none, false, .cancelled⟩, handled pid now "unused"]

/-- The lease of a handler has expired, and is recovered. -/
def recovered : List (WorkEvent App Answer) :=
  [.framework (.tick 200000),
    .framework (.command (.recover context jobId 200000 none "audit"))]

end WorkSample

end ContentAutomation
