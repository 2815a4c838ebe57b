import ContentAutomation.Jobs.System

/-!
# The invariant of the system

Every step of the system leaves each job alone or moves it by one action of the
machine. The invariant says that the tables are consistent, that every process
works under a valid ticket, that each job's result was committed at most once,
and that no transaction has failed on a `CHECK` constraint.
-/

namespace ContentAutomation

open Relational Transaction List Function Process

variable {App : Type} {environment : Environment App} {s t : System App} {event : Event App}

variable {k : String} {process : Process App} {pid : ℕ} {intent : Intent App} {claim : JobClaim}
  {input : Input App} {db : Database App}

namespace System

variable {α : Type}

/-- What a call ensures, running it has done: it returned, or it raised and the
database is as before. -/
theorem perform_cases {call : Call App α} {post : α → Database App → Prop}
    {exceptional : JobError → Prop} (h : call.body.Ensures post exceptional s.db) :
    (∃ answer db', post answer db' ∧ s.perform call =
        (.ok answer, { s with db := db', committed := call.commits ++ s.committed })) ∨
      ∃ error, exceptional error ∧
        s.perform call = (.error error, { s with raised := error :: s.raised }) := by
  unfold perform
  rcases h.commit_cases with ⟨answer, db', hcommit, hpost⟩ | ⟨error, hcommit, hexceptional⟩
  · left
    refine ⟨answer, db', hpost, ?_⟩
    rw [hcommit]
  · right
    refine ⟨error, hexceptional, ?_⟩
    rw [hcommit]

private theorem perform_processes (call : Call App α) :
    (s.perform call).2.processes = s.processes := by
  unfold perform
  split <;> rfl

/-- **The invariant of the system.** -/
structure Inv (s : System App) : Prop where
  db : s.db.Inv
  tickets : ∀ pid k claim, (s.processes pid).claim? = some (k, claim) →
    (s.db.view k).Ticket claim.leaseId claim.attemptNumber claim.maxAttempts
  /-- A job whose result was committed has succeeded. -/
  succeeded : ∀ k ∈ s.committed.map Prod.fst,
    ∃ job, (s.db.view k).job = some job ∧ job.state = .succeeded
  once : (s.committed.map Prod.fst).Nodup
  unchecked : ∀ error ∈ s.raised, error.Unchecked

/-- Every job keeps its view or takes a step of the machine. -/
def Evolves (s t : System App) : Prop :=
  ∀ k, t.db.view k = s.db.view k ∨ ∃ action, JobStep action (s.db.view k) (t.db.view k)

theorem Evolves.persists (h : s.Evolves t) {job : BackgroundJob}
    (hjob : s.db.job? k = some job) : ∃ job', t.db.job? k = some job' := by
  have hview := Database.view_job hjob
  rcases h k with hsame | ⟨action, hstep⟩
  · rw [← hsame] at hview
    obtain ⟨job', hjob', -⟩ := Database.job?_of_view hview
    exact ⟨job', hjob'⟩
  · obtain ⟨summary, hsummary⟩ := hstep.persists hview
    obtain ⟨job', hjob', -⟩ := Database.job?_of_view hsummary
    exact ⟨job', hjob'⟩

theorem Evolves.succeeded (h : s.Evolves t)
    (hbefore : ∃ job, (s.db.view k).job = some job ∧ job.state = .succeeded) :
    ∃ job, (t.db.view k).job = some job ∧ job.state = .succeeded := by
  obtain ⟨job, hjob, hstate⟩ := hbefore
  rcases h k with hsame | ⟨action, hstep⟩
  · rw [hsame]
    exact ⟨job, hjob, hstate⟩
  · obtain ⟨job', hjob'⟩ := hstep.persists hjob
    have hfinal := hstep.final hjob hjob' (.inl hstate)
    exact ⟨job', hjob', hfinal.trans hstate⟩

theorem Evolves.ticket (h : s.Evolves t) (hinv : s.db.Inv) {leaseId : String}
    {attemptNumber maxAttempts : ℤ}
    (hticket : (s.db.view k).Ticket leaseId attemptNumber maxAttempts) :
    (t.db.view k).Ticket leaseId attemptNumber maxAttempts := by
  rcases h k with hsame | ⟨action, hstep⟩
  · rw [hsame]
    exact hticket
  · exact hstep.ticket (hinv k) hticket

theorem Evolves.inv (h : s.Evolves t) (hinv : s.db.Inv) : t.db.Inv := by
  intro k
  rcases h k with hsame | ⟨action, hstep⟩
  · rw [hsame]
    exact hinv k
  · exact hstep.inv (hinv k)

/-- A step that takes no transaction keeps the invariant, if no process comes by a
claim that none had. -/
theorem Inv.of_same (hinv : s.Inv) (hdb : s.db.SameViews t.db)
    (hclaims : ∀ pid k claim, (t.processes pid).claim? = some (k, claim) →
      ∃ owner, (s.processes owner).claim? = some (k, claim))
    (hcommitted : t.committed = s.committed) (hraised : t.raised = s.raised) : t.Inv := by
  have hevolves : s.Evolves t := fun k => .inl (hdb k)
  refine ⟨hevolves.inv hinv.db, ?_, ?_, ?_, ?_⟩
  · intro pid k claim hclaim
    obtain ⟨owner, howner⟩ := hclaims pid k claim hclaim
    have hticket := hinv.tickets owner k claim howner
    exact hevolves.ticket hinv.db hticket
  · intro k hk
    rw [hcommitted] at hk
    exact hevolves.succeeded (hinv.succeeded k hk)
  · rw [hcommitted]
    exact hinv.once
  · rw [hraised]
    exact hinv.unchecked

private theorem evolves_of_follows {call : Call App α} (h : call.Follows s.db t.db) :
    s.Evolves t := by
  intro k
  rcases h k with hsame | ⟨action, -, hstep⟩
  · exact .inl hsame
  · exact .inr ⟨action, hstep⟩

/-- **The rule of transactions.** Running a call moves jobs as the call may, logs
a result with the success of its job, and logs no failed check. -/
theorem Inv.perform (hinv : s.Inv) {call : Call App α}
    (henabled : call.isEnabled s.db) (hbudget : call.InBudget s.db) :
    (s.perform call).2.Inv ∧ call.Follows s.db (s.perform call).2.db := by
  have hrule := (call.ensures hinv.db henabled hbudget).and (call.ensures_commits hinv.db henabled)
  have hprocesses : (s.perform call).2.processes = s.processes := perform_processes call
  rcases perform_cases hrule with
    ⟨answer, db', ⟨hfollows, hcommits⟩, hresult⟩ | ⟨error, ⟨herror, -⟩, hresult⟩
  · rw [hresult] at hprocesses ⊢
    have hevolves : s.Evolves { s with db := db', committed := call.commits ++ s.committed } :=
      evolves_of_follows hfollows
    refine ⟨⟨hevolves.inv hinv.db, ?_, ?_, ?_, hinv.unchecked⟩, hfollows⟩
    · intro pid k claim hclaim
      exact hevolves.ticket hinv.db (hinv.tickets pid k claim hclaim)
    · intro k hk
      rw [map_append, mem_append] at hk
      rcases hk with hnew | hold
      · have hsucceed := hcommits k hnew
        exact hsucceed.of_succeed.2
      · exact hevolves.succeeded (hinv.succeeded k hold)
    · rw [map_append]
      apply List.Nodup.append call.nodup_commits hinv.once
      intro k hnew hold
      -- a job that succeeds now was running, so its result was not committed before
      obtain ⟨⟨job, hjob, hrunning, -⟩, -⟩ := (hcommits k hnew).of_succeed
      obtain ⟨job', hjob', hsucceeded⟩ := hinv.succeeded k hold
      obtain rfl := Option.mem_unique hjob hjob'
      rw [hrunning] at hsucceeded
      cases hsucceeded
  · rw [hresult]
    refine ⟨⟨hinv.db, hinv.tickets, hinv.succeeded, hinv.once, ?_⟩, fun k => .inl rfl⟩
    intro other hother
    rcases mem_cons.mp hother with rfl | hold
    · exact herror
    · exact hinv.unchecked other hold

end System

/-! ### The transactions of a process -/

/-- Of all the steps of a handler only its claim brings a claim. -/
theorem HandlerRun.claim?_resume {run : HandlerRun App} {input : HandlerInput App}
    (hphase : ∀ delivery, run ≠ ⟨delivery, .claiming⟩)
    (hintent : run.intent environment input = some intent) {result : Except JobError intent.answer}
    (hclaim : (intent.resume result).claim? = some (k, claim)) :
    (handler run).claim? = some (k, claim) := by
  obtain ⟨delivery, phase⟩ := run
  cases phase with
  | claiming => exact absurd rfl (hphase delivery)
  | stopped outcome => cases hintent
  | loading =>
    cases hintent
    cases result with
    | error error => cases hclaim
    | ok job =>
      cases job with
      | none => cases hclaim
      | some job =>
        simp only [HandlerRun.after, afterLoad] at hclaim
        split at hclaim <;> cases hclaim
  | probing job =>
    cases hintent
    cases result with
    | error error => cases hclaim
    | ok existingResult =>
      simp only [HandlerRun.after, afterProbe] at hclaim
      repeat' split at hclaim
      all_goals cases hclaim
  | releasing =>
    cases hintent
    cases result <;> cases hclaim
  | reloading =>
    cases hintent
    cases result with
    | error error => cases hclaim
    | ok job =>
      cases job with
      | none => cases hclaim
      | some job =>
        simp only [HandlerRun.after, afterReload] at hclaim
        split at hclaim <;> cases hclaim
  | checking own =>
    cases hintent
    cases result with
    | error error =>
      simp only [afterCheck] at hclaim
      split at hclaim
      · cases hclaim
      · exact hclaim
    | ok cancelled =>
      cases cancelled with
      | false => exact hclaim
      | true => cases hclaim
  | executing own =>
    cases hintent
    cases result with
    | error error => cases hclaim
    | ok answer =>
      simp only [HandlerRun.after, afterExecution] at hclaim
      split at hclaim
      · exact hclaim
      · exact hclaim
      · exact hclaim
      · cases hclaim
      · cases hclaim
  | committing own effects =>
    cases hintent
    cases result <;> cases hclaim
  | settling own failure =>
    cases hintent
    cases result <;> cases hclaim

/-- A process goes on as a process of its kind, for the same delivery or with the same
parameters. -/
def Process.Continues (before after : Process App) : Prop :=
  match before, after with
  | .handler run, .handler run' => ∃ phase, run' = { run with phase }
  | .callback run, .callback run' => ∃ phase, run' = { run with phase }
  | .reconciler pass, .reconciler pass' => ∃ phase, pass' = { pass with phase }
  | .dispatcher pass, .dispatcher pass' => ∃ phase, pass' = { pass with phase }
  | _, _ => False

/-! ### What each process may do -/

/-- The action that the next step of a handler may perform on a job. -/
def HandlerRun.Acts (run : HandlerRun App) (k : String) (action : JobAction) : Prop :=
  let jobId := run.delivery.envelope.domainJobId
  match run.phase with
  | .releasing => k = jobId ∧ action = .releaseRetry
  | .claiming => k = jobId ∧ action = .claim
  | .checking _ => k = jobId ∧ action = .settleCancellation
  | .committing _ _ => (k = jobId ∧ action = .succeed) ∨ (k ≠ jobId ∧ action = .enqueue)
  | .settling _ _ => k = jobId ∧ action = .fail
  | _ => False

/-- The action that the next step of a callback may perform on a job. -/
def CallbackRun.Acts (run : CallbackRun) (k : String) (action : JobAction) : Prop :=
  match run.phase with
  | .checking => k = run.delivery.envelope.domainJobId ∧ action = .settleCancellation
  | _ => False

/-- The action that the next step of a reconciler may perform on a job. -/
def ReconcilerPass.Acts (pass : ReconcilerPass) (k : String) (action : JobAction) : Prop :=
  match pass.phase with
  | .visiting .expired (job :: _) =>
    k = job.id ∧ (action = .recover ∨ action = .settleCancellation)
  | .visiting .dueRetries (job :: _) => k = job.id ∧ action = .requeueRetry
  | .visiting .strandedDelivery (job :: _) => k = job.id ∧ action = .requeueStranded
  | .settlingResult job .repair _ => k = job.id ∧ action = .repairCommitted
  | _ => False

/-- The action that the next step of a dispatcher may perform on a job. -/
def DispatcherPass.Acts (pass : DispatcherPass) (db : Database App) (input : DispatcherInput)
    (k : String) (action : JobAction) : Prop :=
  ∃ records record deliveryId, pass.phase = .dispatching records ∧
    records[input.index]? = some (record, .marking deliveryId) ∧ action = .dispatch ∧
      ∃ row ∈ db.jobOutbox.rows, row.id = record.id ∧ row.backgroundJobId = k ∧
        isLeasedRecord record row = true

/-- The action that the next step of a process may perform on a job. -/
def Process.Acts (process : Process App) (db : Database App) (input : Input App) (k : String)
    (action : JobAction) : Prop :=
  match process, input with
  | .handler run, _ => run.Acts k action
  | .callback run, _ => run.Acts k action
  | .reconciler pass, _ => pass.Acts k action
  | .dispatcher pass, .dispatcher input => pass.Acts db input k action
  | _, _ => False

/-- The call resets analysis jobs. -/
def Call.writesAnalyses {α : Type} : Call App α → Bool
  | .retryBackgroundJob .. => true
  | _ => false

/-- The call writes the tables of the application. -/
def Call.writesApp {α : Type} : Call App α → Bool
  | .application _ => true
  | .commitJobSuccess .. => true
  | _ => false

/-- What the transaction of a process may be: it leaves the process what it is, performs what the
process may do, settles no failure unless the process is a handler that does, and writes no
contents unless the process is a handler that commits its result. -/
structure Process.Proposes (process : Process App) (input : Input App) (intent : Intent App) :
    Prop where
  continues : ∀ result, process.Continues (intent.resume result)
  acts : ∀ {db k action}, intent.call.Acts db k action → process.Acts db input k action
  budget : (∀ db, intent.call.InBudget db) ∨
    ∃ delivery claim failure, process = .handler ⟨delivery, .settling claim failure⟩
  analyses : intent.call.writesAnalyses = false
  app : intent.call.writesApp = false ∨
    ∃ delivery claim result, process = .handler ⟨delivery, .committing claim result⟩

/-- **The transactions of processes.** -/
theorem Process.proposes (hintent : process.intent environment input = some intent) :
    process.Proposes input intent := by
  cases process with
  | unused | crashed => cases input <;> cases hintent
  | handler run =>
    cases input with
    | handler input =>
      obtain ⟨delivery, phase⟩ := run
      cases phase with
      | stopped outcome => cases hintent
      | checking own =>
        cases hintent
        exact ⟨fun _ => ⟨_, rfl⟩, id, .inl fun _ => trivial, rfl, .inl rfl⟩
      | releasing | claiming =>
        cases hintent
        exact ⟨fun result => by cases result <;> exact ⟨_, rfl⟩, id, .inl fun _ => trivial, rfl,
          .inl rfl⟩
      | committing own effects =>
        cases hintent
        exact ⟨fun result => by cases result <;> exact ⟨_, rfl⟩, id, .inl fun _ => trivial, rfl,
          .inr ⟨_, _, _, rfl⟩⟩
      | settling own failure =>
        cases hintent
        exact ⟨fun result => by cases result <;> exact ⟨_, rfl⟩, id, .inr ⟨_, _, _, rfl⟩, rfl,
          .inl rfl⟩
      | _ =>
        cases hintent
        exact ⟨fun result => by cases result <;> exact ⟨_, rfl⟩, False.elim,
          .inl fun _ => trivial, rfl, .inl rfl⟩
    | callback | reconciler | dispatcher => cases hintent
  | callback run =>
    cases input with
    | callback =>
      obtain ⟨delivery, own, kind, calledAt, phase⟩ := run
      cases phase with
      | checking =>
        cases hintent
        exact ⟨fun _ => ⟨_, rfl⟩, id, .inl fun _ => trivial, rfl, .inl rfl⟩
      | updating =>
        cases kind <;> cases hintent
        all_goals exact ⟨fun _ => ⟨_, rfl⟩, False.elim, .inl fun _ => trivial, rfl, .inl rfl⟩
      | returned | threw => cases hintent
    | handler | reconciler | dispatcher => cases hintent
  | reconciler pass =>
    cases input with
    | reconciler input =>
      obtain ⟨correlationId, batchSize, now, phase⟩ := pass
      cases phase with
      | scanning scan =>
        cases hintent
        exact ⟨fun _ => ⟨_, rfl⟩, False.elim, .inl fun _ => trivial, rfl, .inl rfl⟩
      | visiting scan pending =>
        cases pending with
        | nil =>
          cases hintent
          exact ⟨fun _ => ⟨_, rfl⟩, False.elim, .inl fun _ => trivial, rfl, .inl rfl⟩
        | cons job pending =>
          cases scan <;> cases hintent <;>
            exact ⟨fun _ => ⟨_, rfl⟩, id, .inl fun _ => trivial, rfl, .inl rfl⟩
      | settlingResult job remedy pending =>
        cases remedy <;> cases hintent <;>
          exact ⟨fun _ => ⟨_, rfl⟩, id, .inl fun _ => trivial, rfl, .inl rfl⟩
      | cleaning pending =>
        cases pending <;> cases hintent <;>
          exact ⟨fun _ => ⟨_, rfl⟩, False.elim, .inl fun _ => trivial, rfl, .inl rfl⟩
      | failed error => cases hintent
    | handler | callback | dispatcher => cases hintent
  | dispatcher pass =>
    cases input with
    | dispatcher input =>
      obtain ⟨batchSize, failureDelayMs, leaseDurationMs, now, phase⟩ := pass
      cases phase with
      | leasing =>
        cases hintent
        exact ⟨fun _ => ⟨_, rfl⟩, False.elim, .inl fun _ => trivial, rfl, .inl rfl⟩
      | dispatching records =>
        simp only [Process.intent, DispatcherPass.intent] at hintent
        split at hintent <;> cases hintent
        · exact ⟨fun _ => ⟨_, rfl⟩, False.elim, .inl fun _ => trivial, rfl, .inl rfl⟩
        · next record deliveryId hrecord =>
          exact ⟨fun _ => ⟨_, rfl⟩, fun hacts => ⟨records, record, deliveryId, rfl, hrecord, hacts⟩,
            .inl fun _ => trivial, rfl, .inl rfl⟩
        · exact ⟨fun _ => ⟨_, rfl⟩, False.elim, .inl fun _ => trivial, rfl, .inl rfl⟩
      | failed error => cases hintent
    | handler | callback | reconciler => cases hintent

theorem Process.handler_of_resume (hintent : process.intent environment input = some intent)
    {result : Except JobError intent.answer} {run' : HandlerRun App}
    (hresume : intent.resume result = .handler run') :
    ∃ run input', process = .handler run ∧ input = .handler input' := by
  have hcontinues := (proposes hintent).continues result
  rw [hresume] at hcontinues
  cases process with
  | handler run =>
    cases input with
    | handler input => exact ⟨run, input, rfl, rfl⟩
    | callback | reconciler | dispatcher => cases hintent
  | _ => cases hcontinues

theorem Process.claim?_resume (hphase : ∀ delivery, process ≠ .handler ⟨delivery, .claiming⟩)
    (hintent : process.intent environment input = some intent)
    {result : Except JobError intent.answer}
    (hclaim : (intent.resume result).claim? = some (k, claim)) :
    process.claim? = some (k, claim) := by
  have hcontinues := (proposes hintent).continues result
  generalize hafter : intent.resume result = after at hcontinues hclaim
  cases process with
  | unused | crashed => cases hcontinues
  | handler run =>
    cases input with
    | handler input =>
      rw [← hafter] at hclaim
      refine HandlerRun.claim?_resume (fun delivery hrun => ?_) hintent hclaim
      exact hphase delivery (congrArg handler hrun)
    | callback | reconciler | dispatcher => cases hintent
  | callback run =>
    cases after with
    | callback run' =>
      obtain ⟨phase, rfl⟩ := hcontinues
      exact hclaim
    | _ => cases hcontinues
  | reconciler | dispatcher =>
    cases after with
    | reconciler | dispatcher => cases hclaim
    | _ => cases hcontinues

private theorem lt_maxAttempts_of_settlementDecision {failure : JobFailure} {now : ℤ}
    {random : Option ℚ}
    (h : (settlementDecision claim failure now random).jobState = .retryScheduled) :
    claim.attemptNumber < claim.maxAttempts := by
  unfold settlementDecision at h
  cases hdecision : decideJobRetry
    { attemptNumber := claim.attemptNumber, failure, jobCreatedAt := claim.jobCreatedAt,
      maxAttempts := claim.maxAttempts, now, random } with
  | retry delayMs nextAttemptAt => exact lt_maxAttempts_of_retry hdecision
  | failedAttention nextAction =>
    rw [hdecision] at h
    cases h

/-- **The rule of budgets.** A process settles failures within the budget of its job. -/
theorem System.Inv.inBudget (hinv : s.Inv)
    (hintent : (s.processes pid).intent environment input = some intent) :
    intent.call.InBudget s.db := by
  have htickets := hinv.tickets pid
  generalize s.processes pid = process at hintent htickets
  rcases (proposes hintent).budget with hbudget | ⟨delivery, claim, failure, rfl⟩
  · exact hbudget s.db
  · cases input with
    | handler input =>
      cases hintent
      intro hretry job hjob hlease
      have hticket := (htickets delivery.envelope.domainJobId claim rfl).2
      obtain ⟨hcount, hmax⟩ := hticket job.summary (Database.view_job hjob) hlease
      have hlt := lt_maxAttempts_of_settlementDecision hretry
      have hcount' : job.attemptCount = claim.attemptNumber := hcount
      have hmax' : job.maxAttempts = claim.maxAttempts := hmax
      omega
    | callback | reconciler | dispatcher => cases hintent

private theorem ticket_of_claim {context : WorkspaceContext} {jobId leaseId attemptId : String}
    {leaseDurationMs : Option ℤ} {now : ℤ} (hinv : s.db.Inv)
    (hclaim : (s.perform (.claimBackgroundJob context jobId leaseDurationMs now leaseId
      attemptId)).1 = .ok (.claimed claim)) :
    ((s.perform (.claimBackgroundJob context jobId leaseDurationMs now leaseId
      attemptId)).2.db.view jobId).Ticket claim.leaseId claim.attemptNumber claim.maxAttempts := by
  have hrule : (.claimBackgroundJob context jobId leaseDurationMs now leaseId attemptId :
      Call App JobClaimResult).body.Ensures _ _ s.db := ensures_claimBackgroundJob hinv
  rcases System.perform_cases hrule with ⟨answer, db', hpost, hresult⟩ | ⟨error, -, hresult⟩
  · rw [hresult] at hclaim ⊢
    obtain rfl : answer = .claimed claim := Except.ok.inj hclaim
    obtain ⟨hlease, -, ⟨job, hjob, -, hcount, hmax⟩, attempt, hattempt, hattemptLease⟩ := hpost
    constructor
    · have hissued := mem_map_of_mem (f := JobAttempt.summary) hattempt
      exact ⟨attempt.summary, hissued, hattemptLease.trans hlease.symm⟩
    · intro summary hsummary _
      obtain rfl : job.summary = summary :=
        Option.some.inj ((Database.view_job hjob).symm.trans hsummary)
      exact ⟨hcount, hmax⟩
  · rw [hresult] at hclaim
    cases hclaim

namespace System

/-- **The step rule of processes.** A transaction of a process keeps the invariant. -/
theorem Inv.runIntent (hinv : s.Inv) {input : Input App} {intent : Intent App}
    (hintent : (s.processes pid).intent environment input = some intent)
    (hrun : s.runIntent pid intent = some t) : t.Inv ∧ intent.call.Follows s.db t.db := by
  unfold System.runIntent at hrun
  split at hrun
  · next henabled =>
    have hbudget := hinv.inBudget hintent
    obtain ⟨hperformed, hfollows⟩ := hinv.perform henabled hbudget
    obtain rfl := Option.some.inj hrun
    refine ⟨⟨hperformed.db, ?_, hperformed.succeeded, hperformed.once, hperformed.unchecked⟩,
      hfollows⟩
    intro other k claim hclaim
    by_cases hother : other = pid
    · subst hother
      simp only [setProcess, update_self] at hclaim
      by_cases hclaiming : ∃ delivery, s.processes other = .handler ⟨delivery, .claiming⟩
      · obtain ⟨delivery, hprocess⟩ := hclaiming
        rw [hprocess] at hintent
        cases input with
        | handler input =>
          cases hintent
          -- the claim that comes is the answer of the transaction
          generalize hresult : (s.perform (.claimBackgroundJob delivery.context
            delivery.envelope.domainJobId delivery.leaseDurationMs input.now input.leaseId
            input.attemptId)).1 = result at hclaim
          cases result with
          | error error => cases hclaim
          | ok answer =>
            cases answer with
            | refused reason => cases hclaim
            | claimed own =>
              simp only [HandlerRun.after, afterClaim] at hclaim
              split at hclaim
              · cases hclaim
                exact ticket_of_claim hinv.db hresult
              · cases hclaim
        | callback | reconciler | dispatcher => cases hintent
      · push Not at hclaiming
        have hbefore := claim?_resume hclaiming hintent hclaim
        rw [← perform_processes intent.call] at hbefore
        exact hperformed.tickets other k claim hbefore
    · simp only [setProcess, update_of_ne hother] at hclaim
      exact hperformed.tickets other k claim hclaim
  · cases hrun

private theorem inBudget_command (command : Command App) :
    (command.call environment).2.InBudget s.db := by
  cases command <;> trivial

theorem claim?_start {birth : Birth} (hstart : s.start birth = some process) {claim : JobClaim}
    (hclaim : process.claim? = some (k, claim)) :
    ∃ owner, (s.processes owner).claim? = some (k, claim) := by
  cases birth with
  | deliver delivery =>
    simp only [start] at hstart
    split at hstart <;> cases hstart <;> cases hclaim
  | callback owner kind calledAt =>
    simp only [start] at hstart
    split at hstart
    · next delivery own hprocess =>
      cases hstart
      refine ⟨owner, ?_⟩
      rw [hprocess]
      exact hclaim
    · cases hstart
  | reconcile correlationId batchSize =>
    simp only [start] at hstart
    split at hstart
    · cases hstart
    · split at hstart <;> cases hstart
      cases hclaim
  | dispatch batchSize failureDelayMs leaseDurationMs =>
    simp only [start] at hstart
    split at hstart <;> cases hstart
    cases hclaim

/-- What an event does: it takes no transaction, runs a command, or runs the next
transaction of a process. -/
inductive Taken (environment : Environment App) (s : System App) : Event App → System App → Prop
  /-- No transaction is taken, and no process comes by a new claim. -/
  | idle {event : Event App} {t : System App} (hevent : ∀ pid input, event ≠ .advance pid input)
      (hdb : s.db.SameViews t.db)
      (hclaims : ∀ pid k claim, (t.processes pid).claim? = some (k, claim) →
        ∃ owner, (s.processes owner).claim? = some (k, claim))
      (hcommitted : t.committed = s.committed) (hraised : t.raised = s.raised) :
      Taken environment s event t
  | command {command : Command App}
      (henabled : (command.call environment).2.isEnabled s.db = true) :
      Taken environment s (.command command) (s.perform (command.call environment).2).2
  | advance {pid : ℕ} {input : Input App} {intent : Intent App} {t : System App}
      (hintent : (s.processes pid).intent environment input = some intent)
      (hrun : s.runIntent pid intent = some t) : Taken environment s (.advance pid input) t

private theorem taken_setProcess
    (hevent : ∀ pid input, event ≠ .advance pid input)
    (hclaim : ∀ k claim, process.claim? = some (k, claim) →
      ∃ owner, (s.processes owner).claim? = some (k, claim)) :
    Taken environment s event (s.setProcess pid process) := by
  refine .idle hevent Database.SameViews.refl ?_ rfl rfl
  intro other k claim hother
  by_cases hsame : other = pid
  · subst hsame
    simp only [setProcess, update_self] at hother
    exact hclaim k claim hother
  · simp only [setProcess, update_of_ne hsame] at hother
    exact ⟨other, hother⟩

/-- **The inversion of steps.** -/
theorem Step.taken (hstep : Step environment s event t) : Taken environment s event t := by
  unfold Step at hstep
  cases event with
  | tick elapsed =>
    cases hstep
    exact .idle (fun _ _ => by simp) (fun _ => rfl) (fun pid k claim h => ⟨pid, h⟩) rfl rfl
  | write internalUsers analysisJobs app =>
    cases hstep
    exact .idle (fun _ _ => by simp) (fun _ => rfl) (fun pid k claim h => ⟨pid, h⟩) rfl rfl
  | command command =>
    simp only [step, run] at hstep
    split at hstep
    · next henabled =>
      cases hstep
      exact .command henabled
    · cases hstep
  | spawn pid birth =>
    simp only [step] at hstep
    split at hstep
    · next process hunused hstart =>
      cases hstep
      exact taken_setProcess (fun _ _ => by simp) fun k claim => claim?_start hstart
    · cases hstep
  | advance pid input =>
    simp only [step] at hstep
    split at hstep
    · cases hstep
    · next intent hintent => exact .advance hintent hstep
  | crash pid =>
    cases hstep
    exact taken_setProcess (fun _ _ => by simp) fun k claim h => by cases h

theorem Step.of_command {command : Command App} (hstep : Step environment s (.command command) t) :
    (command.call environment).2.isEnabled s.db ∧
      t = (s.perform (command.call environment).2).2 := by
  unfold Step at hstep
  simp only [step, run] at hstep
  split at hstep
  · next henabled =>
    cases hstep
    exact ⟨henabled, rfl⟩
  · cases hstep

/-- What becomes of a process in a step: it stays, starts, takes its next
transaction, or crashes. -/
inductive ProcessMoves (environment : Environment App) (s : System App) (pid : ℕ) :
    Event App → System App → Process App → Prop
  | stays {event : Event App} {t : System App} :
      ProcessMoves environment s pid event t (s.processes pid)
  | starts {birth : Birth} {t : System App} {process : Process App}
      (hunused : s.processes pid = .unused) (hstart : s.start birth = some process)
      (ht : t = s.setProcess pid process) :
      ProcessMoves environment s pid (.spawn pid birth) t process
  | advances {input : Input App} {intent : Intent App} {t : System App}
      (hintent : (s.processes pid).intent environment input = some intent)
      (henabled : intent.call.isEnabled s.db = true) (hdb : t.db = (s.perform intent.call).2.db) :
      ProcessMoves environment s pid (.advance pid input) t
        (intent.resume (s.perform intent.call).1)
  | crashes {event : Event App} {t : System App} : ProcessMoves environment s pid event t .crashed

/-- **The inversion of processes.** -/
theorem Step.processMoves (hstep : Step environment s event t) (pid : ℕ) :
    ProcessMoves environment s pid event t (t.processes pid) := by
  unfold Step at hstep
  cases event with
  | tick elapsed | write internalUsers analysisJobs app =>
    cases hstep
    exact .stays
  | command command =>
    simp only [step, run] at hstep
    split at hstep
    · cases hstep
      rw [perform_processes]
      exact .stays
    · cases hstep
  | spawn other birth =>
    simp only [step] at hstep
    split at hstep
    · next process hunused hstart =>
      cases hstep
      by_cases hother : pid = other
      · subst hother
        simp only [setProcess, update_self]
        exact .starts hunused hstart rfl
      · simp only [setProcess, update_of_ne hother]
        exact .stays
    · cases hstep
  | advance other input =>
    simp only [step] at hstep
    split at hstep
    · cases hstep
    · next intent hintent =>
      unfold System.runIntent at hstep
      split at hstep
      · next henabled =>
        cases hstep
        by_cases hother : pid = other
        · subst hother
          simp only [setProcess, update_self]
          exact .advances hintent henabled rfl
        · simp only [setProcess, update_of_ne hother, perform_processes]
          exact .stays
      · cases hstep
  | crash other =>
    cases hstep
    by_cases hother : pid = other
    · subst hother
      simp only [setProcess, update_self]
      exact .crashes
    · simp only [setProcess, update_of_ne hother]
      exact .stays

/-- **Step lemma.** Every step keeps the invariant. -/
theorem Inv.step (hinv : s.Inv) (hstep : Step environment s event t) : t.Inv := by
  cases hstep.taken with
  | idle hevent hdb hclaims hcommitted hraised => exact hinv.of_same hdb hclaims hcommitted hraised
  | @command command henabled => exact (hinv.perform henabled (inBudget_command command)).1
  | advance hintent hrun => exact (hinv.runIntent hintent hrun).1

theorem inv_initial (clock : ℤ) (internalUsers : List InternalUser) (app : App) :
    (initial clock internalUsers app).Inv := by
  refine ⟨fun k => rfl, ?_, ?_, nodup_nil, ?_⟩
  · intro pid k claim hclaim
    cases hclaim
  · intro k hk
    cases hk
  · intro error herror
    cases herror

/-- **Run lemma.** The invariant holds in every reachable state. -/
theorem Reachable.inv (hreach : Reachable environment s) : s.Inv := by
  obtain ⟨clock, internalUsers, app, hrun⟩ := hreach
  exact hrun.invariant (inv_initial clock internalUsers app) fun hinv hstep => hinv.step hstep

theorem Reachable.trans (hreach : Reachable environment s)
    (hrun : Transition.Reachable (Step environment) s t) : Reachable environment t := by
  obtain ⟨clock, internalUsers, app, hbefore⟩ := hreach
  exact ⟨clock, internalUsers, app, hbefore.trans hrun⟩

end System

/-! ### Whose action it is -/

theorem Process.of_acts_succeed (h : process.Acts db input k .succeed) : ∃ delivery claim result,
      process = .handler ⟨delivery, .committing claim result⟩ ∧
        k = delivery.envelope.domainJobId := by
  cases process with
  | handler run =>
    obtain ⟨delivery, phase⟩ := run
    cases phase <;> simp [Acts, HandlerRun.Acts] at h
    exact ⟨_, _, _, rfl, h⟩
  | callback run =>
    obtain ⟨delivery, own, kind, calledAt, phase⟩ := run
    cases phase <;> simp [Acts, CallbackRun.Acts] at h
  | reconciler pass =>
    simp only [Acts, ReconcilerPass.Acts] at h
    split at h <;> simp at h
  | dispatcher pass => cases input <;> simp [Acts, DispatcherPass.Acts] at h
  | unused | crashed => cases h

theorem Process.of_acts_repairCommitted (h : process.Acts db input k .repairCommitted) :
    ∃ pass job pending, process = .reconciler pass ∧ pass.phase = .settlingResult job .repair pending ∧
      k = job.id := by
  cases process with
  | handler run =>
    obtain ⟨delivery, phase⟩ := run
    cases phase <;> simp [Acts, HandlerRun.Acts] at h
  | callback run =>
    obtain ⟨delivery, own, kind, calledAt, phase⟩ := run
    cases phase <;> simp [Acts, CallbackRun.Acts] at h
  | reconciler pass =>
    simp only [Acts, ReconcilerPass.Acts] at h
    split at h
    case h_4 job pending hphase => exact ⟨pass, job, pending, rfl, hphase, h.1⟩
    all_goals simp at h
  | dispatcher pass => cases input <;> simp [Acts, DispatcherPass.Acts] at h
  | unused | crashed => cases h

theorem Process.of_acts_dispatch (h : process.Acts db input k .dispatch) :
    ∃ pass input', process = .dispatcher pass ∧ input = .dispatcher input' ∧
      pass.Acts db input' k .dispatch := by
  cases process with
  | handler run =>
    obtain ⟨delivery, phase⟩ := run
    cases phase <;> simp [Acts, HandlerRun.Acts] at h
  | callback run =>
    obtain ⟨delivery, own, kind, calledAt, phase⟩ := run
    cases phase <;> simp [Acts, CallbackRun.Acts] at h
  | reconciler pass =>
    simp only [Acts, ReconcilerPass.Acts] at h
    split at h <;> simp at h
  | dispatcher pass =>
    cases input with
    | dispatcher input => exact ⟨pass, input, rfl, rfl, h⟩
    | handler | callback | reconciler => cases h
  | unused | crashed => cases h

theorem Process.not_acts_of_operator {action : JobAction}
    (haction : action = .requestCancellation ∨ action = .retryByOperator) :
    ¬ process.Acts db input k action := by
  intro h
  cases process with
  | handler run =>
    obtain ⟨delivery, phase⟩ := run
    cases phase <;> rcases haction with rfl | rfl <;> simp [Acts, HandlerRun.Acts] at h
  | callback run =>
    obtain ⟨delivery, own, kind, calledAt, phase⟩ := run
    cases phase <;> rcases haction with rfl | rfl <;> simp [Acts, CallbackRun.Acts] at h
  | reconciler pass =>
    simp only [Acts, ReconcilerPass.Acts] at h
    rcases haction with rfl | rfl <;> split at h <;> simp at h
  | dispatcher pass =>
    rcases haction with rfl | rfl <;> cases input <;> simp [Acts, DispatcherPass.Acts] at h
  | unused | crashed => cases h

namespace System

/-- The action that an event may perform on a job. -/
def Acts (environment : Environment App) (s : System App) (event : Event App) (k : String)
    (action : JobAction) : Prop :=
  match event with
  | .command command => (command.call environment).2.Acts s.db k action
  | .advance pid input => (s.processes pid).Acts s.db input k action
  | _ => False

/-- **The refinement.** Every step leaves a job alone, or moves it by an action that
its event may perform. -/
theorem Inv.acts (hinv : s.Inv) (hstep : Step environment s event t) (k : String) :
    t.db.view k = s.db.view k ∨
      ∃ action, s.Acts environment event k action ∧ JobStep action (s.db.view k) (t.db.view k) := by
  cases hstep.taken with
  | idle hevent hdb => exact .inl (hdb k)
  | @command command henabled => exact (hinv.perform henabled (inBudget_command command)).2 k
  | @advance pid input intent t hintent hrun =>
    rcases (hinv.runIntent hintent hrun).2 k with hsame | ⟨action, hacts, hmoves⟩
    · exact .inl hsame
    · exact .inr ⟨action, (proposes hintent).acts hacts, hmoves⟩

theorem Inv.evolves (hinv : s.Inv) (hstep : Step environment s event t) : s.Evolves t := by
  intro k
  rcases hinv.acts hstep k with hsame | ⟨action, -, hmoves⟩
  · exact .inl hsame
  · exact .inr ⟨action, hmoves⟩

/-- **The log of results.** What a step adds to the log are jobs that the step makes
successful. -/
theorem Inv.commits (hinv : s.Inv) (hstep : Step environment s event t) :
    ∃ new, t.committed = new ++ s.committed ∧
      ∀ k ∈ new.map Prod.fst, JobStep .succeed (s.db.view k) (t.db.view k) := by
  have hperform : ∀ {α : Type} (call : Call App α), call.isEnabled s.db = true →
      ∃ new, (s.perform call).2.committed = new ++ s.committed ∧
        ∀ k ∈ new.map Prod.fst, JobStep .succeed (s.db.view k) ((s.perform call).2.db.view k) := by
    intro α call henabled
    rcases perform_cases (call.ensures_commits hinv.db henabled) with
      ⟨answer, db', hcommits, hresult⟩ | ⟨error, -, hresult⟩
    · rw [hresult]
      exact ⟨call.commits, rfl, hcommits⟩
    · rw [hresult]
      exact ⟨[], rfl, fun k hk => by cases hk⟩
  cases hstep.taken with
  | idle hevent hdb hclaims hcommitted => exact ⟨[], hcommitted, fun k hk => by cases hk⟩
  | command henabled => exact hperform _ henabled
  | advance hintent hrun =>
    unfold System.runIntent at hrun
    split at hrun
    · next henabled =>
      cases hrun
      exact hperform _ henabled
    · cases hrun

/-- The states that a list of events leads through, and the state it leads to. -/
def replay (environment : Environment App) (s : System App) (events : List (Event App)) :
    Option (List (System App × Event App) × System App) :=
  Transition.replay (step environment) [] s events

theorem run_of_replay {events : List (Event App)} {history : List (System App × Event App)}
    (h : s.replay environment events = some (history, t)) :
    Transition.Run (Step environment) s history t :=
  Transition.Run.replay .refl h

end System

/-! ### A small deployment

One job, whose result the application keeps as a flag, for the examples of the
modules that follow. -/

namespace Sample

def jobId : String := "01900000-0000-7000-8000-000000000001"

def correlationId : String := "01900000-0000-7000-8000-0000000000c0"

/-- The callbacks: the result is there when the flag is set. -/
def callbacks : Environment Bool where
  resultExists _ db := some db.app
  inspectResult _ db := some (if db.app then .present else .absent)
  retryCallbacks := ⟨fun db _ => some db.app, fun _ _ => some ⟨true, none⟩⟩

def operator : InternalUser := ⟨"operator", "workspace", .active, .admin, 1, .active⟩

def principal : SessionPrincipal := ⟨"operator", 1, "workspace"⟩

def initial : System Bool := System.initial 0 [operator] false

def enqueued : Event Bool :=
  .command (.enqueue ⟨"workspace"⟩
    { correlationId
      handlerVersion := 1
      idempotencyKey := "key"
      inputVersion := none
      maxAttempts := none
      priority := none
      queueName := "asset.validate"
      resourceId := none
      resourceType := none } jobId "outbox")

def delivery : Delivery where
  context := ⟨"workspace"⟩
  envelope := ⟨correlationId, jobId, 1, "asset.validate", "workspace"⟩
  leaseDurationMs := none

/-- The job is delivered to a handler. -/
def delivered (pid : ℕ) : Event Bool := .spawn pid (.deliver delivery)

/-- A handler takes its next step; a claim uses the identifier as its lease. -/
def handled (pid : ℕ) (now : ℤ) (leaseId : String) : Event Bool :=
  .advance pid (.handler ⟨now, leaseId, leaseId ++ "-attempt", none, false,
    .returned [.write fun _ => some true]⟩)

/-- A handler takes four steps: it reads the row, probes the result, claims the job
and checks for cancellation. -/
def claimed (pid : ℕ) (now : ℤ) (leaseId : String) : List (Event Bool) :=
  delivered pid :: List.replicate 4 (handled pid now leaseId)

/-- A handler takes its next step; its work throws the failure. -/
def handledFailing (pid : ℕ) (leaseId : String) (failure : JobFailure) : Event Bool :=
  .advance pid (.handler ⟨0, leaseId, leaseId ++ "-attempt", some 0, false, .threw (some failure)⟩)

/-- The job is claimed, and its work throws the failure, which is settled. -/
def claimedFailing (pid : ℕ) (leaseId : String) (failure : JobFailure) : List (Event Bool) :=
  claimed pid 0 leaseId ++ List.replicate 2 (handledFailing pid leaseId failure)

def rejected : JobFailure := ⟨none, .invalidInput, "ASSET_UNSUPPORTED", none⟩

def unanswered : JobFailure := ⟨none, .transient, "PROVIDER_TIMEOUT", none⟩

def retriedByOperator : Event Bool :=
  .command (.retry correlationId principal jobId "OPERATOR_REQUEST" 0 "outbox-1" "audit-1")

/-- A pass of the reconciler takes its next step. -/
def reconciled (pid : ℕ) (chosen : List String) (auditId : String) : Event Bool :=
  .advance pid (.reconciler ⟨chosen, auditId ++ "-outbox", auditId, []⟩)

/-- A pass of the reconciler gets through a number of scans that find nothing. -/
def scanned (pid scans : ℕ) : List (Event Bool) :=
  List.replicate (2 * scans) (reconciled pid [] "unused")

/-- The states that events lead through, and the state they lead to. -/
def run (events : List (Event Bool)) : List (System Bool × Event Bool) × System Bool :=
  (initial.replay callbacks events).getD ([], initial)

/-- The state that events lead to. -/
def after (events : List (Event Bool)) : System Bool := (run events).2

theorem run_run (events : List (Event Bool)) :
    Transition.Run (System.Step callbacks) initial (run events).1 (run events).2 := by
  unfold run
  cases hreplay : initial.replay callbacks events with
  | none => exact .refl
  | some result => exact System.run_of_replay hreplay

theorem reachable_after (events : List (Event Bool)) :
    System.Reachable callbacks (after events) :=
  ⟨0, [operator], false, (run events).1, run_run events⟩

theorem run_concat {events : List (Event Bool)} {event : Event Bool} {u : System Bool}
    (hreplay : (initial.replay callbacks events).isSome)
    (hstep : System.Step callbacks (after events) event u) :
    run (events ++ [event]) = ((after events, event) :: (run events).1, u) := by
  obtain ⟨⟨history, t⟩, hresult⟩ := Option.isSome_iff_exists.mp hreplay
  have hrun : run events = (history, t) := by
    unfold run
    rw [hresult]
    rfl
  have hnext : t.step callbacks event = some u := by
    have hafter : after events = t := by
      unfold after
      rw [hrun]
    rw [← hafter]
    exact hstep
  unfold after
  rw [hrun]
  unfold System.replay at hresult
  unfold run System.replay
  rw [Transition.replay_append, hresult, Option.bind_some, Transition.replay, hnext]
  rfl

end Sample

end ContentAutomation
