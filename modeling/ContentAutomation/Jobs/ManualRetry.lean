import ContentAutomation.Jobs.Frames

/-!
# Manual retries

An operator's retry sends a failed job back to the queue with its maximum raised
to one more than the attempts made, unless it is higher already. How many
attempts follow is read off the numbers that the machine keeps: a job whose
budget was spent gets one more, and a job that failed early keeps the rest of
its budget.
-/

namespace ContentAutomation

open Relational Transaction List

variable {App : Type} {environment : Environment App} {s t u : System App} {event : Event App}
  {k : String} {job : BackgroundJob}

/-! ### The machine after a retry -/

/-- The attempt ended with a report of its handler. -/
def JobAttemptState.isReported : JobAttemptState → Bool
  | .succeeded | .failedAttention | .retryScheduled => true
  | .active | .leaseExpired | .cancelled => false

/-- A job in this state runs no more, unless an operator retries it. -/
def BackgroundJobState.isTerminal : BackgroundJobState → Bool
  | .succeeded | .failedAttention | .cancelled => true
  | .queued | .processing | .retryScheduled => false

/-- The actions that end the work on a job, or an attempt, from outside its handler. -/
def JobAction.isInterruption : JobAction → Bool
  | .cancelWaiting | .requestCancellation | .recover | .repairCommitted => true
  | _ => false

/-- A number of attempts has been made, and a maximum is set. -/
def JobView.Granted (view : JobView) (count maxAttempts : ℤ) : Prop :=
  ∃ job, view.job = some job ∧ job.maxAttempts = maxAttempts ∧ count ≤ job.attemptCount

/-- Only an operator's retry changes the maximum, and no attempt is taken back. -/
theorem JobStep.granted {action : JobAction} {view view' : JobView}
    (hstep : JobStep action view view') (haction : action ≠ .retryByOperator)
    {count maxAttempts : ℤ} (h : view.Granted count maxAttempts) :
    view'.Granted count maxAttempts := by
  obtain ⟨job, hjob, hmax, hcount⟩ := h
  cases hstep with
  | enqueue => cases hjob
  | retryByOperator => exact absurd rfl haction
  | dispatch => exact ⟨job, hjob, hmax, hcount⟩
  | claim =>
    cases hjob
    exact ⟨_, rfl, hmax, hcount.trans (Int.le_add_one le_rfl)⟩
  | _ =>
    cases hjob
    exact ⟨_, rfl, hmax, hcount⟩

/-- The course of a job whose work nobody ends from outside: when it comes to an end, an
attempt beyond a number has reported. -/
structure JobSummary.OnCourse (job : JobSummary) (attempts : List AttemptSummary) (count : ℤ) :
    Prop where
  wanted : job.cancellationRequested = false
  uncancelled : job.state ≠ .cancelled
  beyond : job.state = .processing → count < job.attemptCount
  reported : job.state.isTerminal = true → ∃ attempt ∈ attempts,
    count < attempt.attemptNumber ∧ attempt.state.isReported = true

/-- A job is on its course. -/
def JobView.OnCourse (view : JobView) (count : ℤ) : Prop :=
  ∃ job, view.job = some job ∧ count ≤ job.attemptCount ∧ job.OnCourse view.attempts count

private theorem JobConsistent.mem_closeAttempt {job : JobSummary} {attempts : List AttemptSummary}
    {outbox : OutboxSummary} (h : JobConsistent job attempts outbox) {leaseId : String}
    (hlease : job.leaseId = some leaseId) (state : JobAttemptState) :
    ⟨job.attemptCount, leaseId, state⟩ ∈ closeAttempt leaseId state attempts := by
  obtain ⟨earlier, rfl, -⟩ := h.held leaseId hlease
  refine mem_map.mpr ⟨⟨job.attemptCount, leaseId, .active⟩, by simp, ?_⟩
  rw [if_pos (by simp)]

private theorem JobConsistent.reported {job : JobSummary} {attempts : List AttemptSummary}
    {outbox : OutboxSummary} (h : JobConsistent job attempts outbox) {leaseId : String}
    (hlease : job.leaseId = some leaseId) {count : ℤ} (hcount : count < job.attemptCount)
    {state : JobAttemptState} (hstate : state.isReported) :
    ∃ attempt ∈ closeAttempt leaseId state attempts,
      count < attempt.attemptNumber ∧ attempt.state.isReported :=
  ⟨_, h.mem_closeAttempt hlease state, hcount, hstate⟩

/-- **Step lemma.** A job stays on its course. -/
theorem JobStep.onCourse {action : JobAction} {view view' : JobView}
    (hstep : JobStep action view view') (haction : action ≠ .retryByOperator)
    (hinterruption : action.isInterruption = false) (hinv : view.Inv) {count : ℤ}
    (h : view.OnCourse count) : view'.OnCourse count := by
  obtain ⟨job, hjob, hcount, hcourse⟩ := h
  have hconsistent : ∃ outbox, JobConsistent job view.attempts outbox := by
    obtain ⟨vjob, attempts, outbox⟩ := view
    cases hjob
    obtain ⟨record, rfl, h⟩ := JobView.Inv.present hinv
    exact ⟨record, h⟩
  obtain ⟨record, hconsistent⟩ := hconsistent
  cases hstep with
  | enqueue => cases hjob
  | retryByOperator => exact absurd rfl haction
  | settleCancellation _ _ hrequest =>
    cases hjob
    rw [hcourse.wanted] at hrequest
    cases hrequest
  | dispatch => exact ⟨job, hjob, hcount, hcourse⟩
  | requeueStranded =>
    cases hjob
    exact ⟨_, rfl, hcount, hcourse⟩
  | claim =>
    cases hjob
    exact ⟨_, rfl, hcount.trans (Int.le_add_one le_rfl), hcourse.wanted, by simp,
      fun _ => Int.lt_add_one_of_le hcount, by simp [BackgroundJobState.isTerminal]⟩
  | releaseRetry | requeueRetry =>
    cases hjob
    exact ⟨_, rfl, hcount, hcourse.wanted, by simp, by simp,
      by simp [BackgroundJobState.isTerminal]⟩
  | failRetry hstate =>
    cases hjob
    exact ⟨_, rfl, hcount, hcourse.wanted, by simp, by simp,
      by simp [BackgroundJobState.isTerminal]⟩
  | succeed hstate hlease | failAttention hstate hlease =>
    cases hjob
    have hbeyond := hcourse.beyond hstate
    exact ⟨_, rfl, hcount, hcourse.wanted, by simp, by simp,
      fun _ => hconsistent.reported hlease hbeyond rfl⟩
  | _ => cases hinterruption

private theorem JobStep.requeues {view view' : JobView}
    (hstep : JobStep .retryByOperator view view') :
    ∃ job job', view.job = some job ∧ job.state = .failedAttention ∧
      view'.job = some job' ∧ job'.state = .queued := by
  cases hstep with
  | retryByOperator hstate hmax => exact ⟨_, _, rfl, hstate, rfl, rfl⟩

private theorem JobStep.of_retryByOperator {view view' : JobView}
    (hstep : JobStep .retryByOperator view view') {job : JobSummary} (hjob : view.job = some job) :
    view'.Granted job.attemptCount (max job.maxAttempts (job.attemptCount + 1)) ∧
      view'.OnCourse job.attemptCount := by
  cases hstep with
  | retryByOperator hstate hmax =>
    cases hjob
    exact ⟨⟨_, rfl, rfl, le_rfl⟩, _, rfl, le_rfl, rfl, by simp, by simp,
      by simp [BackgroundJobState.isTerminal]⟩

private theorem countP_attemptNumbers {count total : ℤ} (hcount : 0 ≤ count)
    (htotal : count ≤ total) :
    ((attemptNumbers total).countP fun number => decide (count < number)) =
      (total - count).toNat := by
  induction total, htotal using Int.leInduction with
  | base =>
    have hnone : ((attemptNumbers count).countP fun number => decide (count < number)) = 0 := by
      refine countP_eq_zero.mpr fun number hnumber => ?_
      obtain ⟨i, hi, rfl⟩ := mem_map.mp hnumber
      have hlt := mem_range.mp hi
      simp only [decide_eq_true_eq, not_lt]
      omega
    rw [hnone, sub_self]
    rfl
  | succ total htotal ih =>
    have hbeyond : decide (count < total + 1) = true := by
      simp only [decide_eq_true_eq]
      omega
    rw [attemptNumbers_succ (hcount.trans htotal), countP_append, ih, countP_singleton,
      if_pos hbeyond]
    omega

/-! ### The tables after a retry -/

namespace Database

/-- How many attempts beyond a number a job has been claimed for. -/
def claimsBeyond (db : Database App) (k : String) (count : ℤ) : ℕ :=
  (db.attemptsOf k).countP fun attempt => decide (count < attempt.attemptNumber)

/-- How many attempts beyond a number have reported a result. -/
def reportsBeyond (db : Database App) (k : String) (count : ℤ) : ℕ :=
  (db.attemptsOf k).countP fun attempt =>
    decide (count < attempt.attemptNumber) && attempt.state.isReported

private theorem reportsBeyond_le (db : Database App) (k : String) (count : ℤ) :
    db.reportsBeyond k count ≤ db.claimsBeyond k count := by
  refine countP_mono_left fun attempt _ hreported => ?_
  simp only [Bool.and_eq_true] at hreported
  exact hreported.1

private theorem Inv.claimsBeyond_le {db : Database App} (hinv : db.Inv) {count maxAttempts : ℤ}
    (hcount : 0 ≤ count) (h : (db.view k).Granted count maxAttempts) :
    (db.claimsBeyond k count : ℤ) ≤ maxAttempts - count := by
  obtain ⟨summary, hsummary, hmax, hmade⟩ := h
  obtain ⟨job, hjob, rfl⟩ := job?_of_view hsummary
  obtain ⟨outbox, -, hconsistent⟩ := hinv.consistent hjob
  have hclaims : db.claimsBeyond k count =
      ((attemptNumbers job.attemptCount).countP fun number => decide (count < number)) := by
    have hnumbers := hconsistent.numbers
    rw [map_map] at hnumbers
    rw [show job.attemptCount = job.summary.attemptCount from rfl, ← hnumbers, countP_map]
    rfl
  have hmade' : count ≤ job.attemptCount := hmade
  have hmax' : job.maxAttempts = maxAttempts := hmax
  have hbudget : job.attemptCount ≤ job.maxAttempts := hconsistent.budget.2.1
  rw [hclaims, countP_attemptNumbers hcount hmade']
  omega

private theorem reportsBeyond_pos {db : Database App} {count : ℤ} (h : (db.view k).OnCourse count) :
    ∃ job, db.job? k = some job ∧
      (job.state.isTerminal → 0 < db.reportsBeyond k count) := by
  obtain ⟨summary, hsummary, -, hcourse⟩ := h
  obtain ⟨job, hjob, rfl⟩ := job?_of_view hsummary
  refine ⟨job, hjob, fun hterminal => ?_⟩
  obtain ⟨summary, hmem, hbeyond, hreported⟩ := hcourse.reported hterminal
  obtain ⟨attempt, hattempt, rfl⟩ := mem_map.mp hmem
  refine countP_pos_iff.mpr ⟨attempt, hattempt, ?_⟩
  have hbeyond' : count < attempt.attemptNumber := hbeyond
  have hreported' : attempt.state.isReported = true := hreported
  simp [hbeyond', hreported']

end Database

/-! ### Runs after a retry -/

namespace System

seal ContentAutomation.retryBackgroundJob in
private theorem Inv.of_retry (hinv : s.Inv) {correlationId reasonCode outboxId auditId : String}
    {principal : SessionPrincipal} {now : ℤ} (hstep : Step environment s
      (.command (.retry correlationId principal k reasonCode now outboxId auditId)) t) :
    (s.accepts environment (.command (.retry correlationId principal k reasonCode now outboxId
        auditId)) = some k ∧ s.db.Moves .retryByOperator k t.db) ∨
      s.accepts environment (.command (.retry correlationId principal k reasonCode now outboxId
        auditId)) = none ∧ s.db.SameViews t.db := by
  have hrule : (.retryBackgroundJob environment.retryCallbacks correlationId principal k
    reasonCode now outboxId auditId : Call App JobOperationResult).body.Ensures _ _ s.db :=
      ensures_retryBackgroundJob hinv.db
  obtain ⟨-, rfl⟩ := hstep.of_command
  simp only [Command.call, accepts]
  rcases perform_cases hrule with ⟨result, db', hpost, hresult⟩ | ⟨error, -, hresult⟩
  · rw [hresult]
    cases houtcome : result.outcome <;> rw [houtcome] at hpost <;>
      simp only [acceptedJob, houtcome, reduceCtorEq, if_false, if_true]
    case retryQueued => exact .inl ⟨trivial, hpost⟩
    all_goals exact .inr ⟨trivial, hpost⟩
  · rw [hresult]
    exact .inr ⟨rfl, Database.SameViews.refl⟩

private theorem Inv.moves_of_accepts (hinv : s.Inv) (hstep : Step environment s event t)
    (haccepts : s.accepts environment event = some k) :
    JobStep .retryByOperator (s.db.view k) (t.db.view k) := by
  cases event with
  | command command =>
    cases command with
    | retry correlationId principal jobId reasonCode now outboxId auditId =>
      rcases hinv.of_retry hstep with ⟨haccepts', hmoves⟩ | ⟨hrefused, -⟩
      · obtain rfl := Option.mem_unique haccepts haccepts'
        exact hmoves.1
      · rw [hrefused] at haccepts
        cases haccepts
    | _ => cases haccepts
  | _ => cases haccepts

private theorem Inv.accepts_of_moves (hinv : s.Inv) (hstep : Step environment s event t)
    (hacts : s.Acts environment event k .retryByOperator)
    (hmoves : JobStep .retryByOperator (s.db.view k) (t.db.view k)) :
    s.accepts environment event = some k := by
  cases event with
  | command command =>
    cases command with
    | retry correlationId principal jobId reasonCode now outboxId auditId =>
      obtain ⟨rfl, -⟩ := hacts
      rcases hinv.of_retry hstep with ⟨haccepts, -⟩ | ⟨-, hsame⟩
      · exact haccepts
      · obtain ⟨job, job', hjob, hstate, hjob', hstate'⟩ := hmoves.requeues
        rw [hsame k, hjob] at hjob'
        cases hjob'
        rw [hstate] at hstate'
        cases hstate'
    | _ => simp [Acts, Command.call, Call.Acts] at hacts
  | advance pid input => exact absurd hacts (Process.not_acts_of_operator (.inr rfl))
  | tick | write | spawn | crash => cases hacts

/-- The event ends work on a job from outside its handler: it cancels the job or asks it to
cancel itself, recovers its lease, or repairs its result. -/
def Interrupts (environment : Environment App) (s : System App) (event : Event App) (k : String) :
    Prop :=
  ∃ action t, action.isInterruption = true ∧ Step environment s event t ∧
    JobStep action (s.db.view k) (t.db.view k)

/-- **Step lemma.** Whatever happens but another retry, the maximum stays; and unless the
event ends the work from outside, the job stays on its course. -/
theorem Inv.granted (hinv : s.Inv) (hstep : Step environment s event t)
    (honly : s.accepts environment event ≠ some k) (count maxAttempts : ℤ) :
    ((s.db.view k).Granted count maxAttempts → (t.db.view k).Granted count maxAttempts) ∧
      (¬ s.Interrupts environment event k → (s.db.view k).OnCourse count →
        (t.db.view k).OnCourse count) := by
  rcases hinv.acts hstep k with hsame | ⟨action, hacts, hmoves⟩
  · rw [hsame]
    exact ⟨id, fun _ => id⟩
  · have haction : action ≠ .retryByOperator := by
      rintro rfl
      exact honly (hinv.accepts_of_moves hstep hacts hmoves)
    refine ⟨hmoves.granted haction, fun hnot hcourse => ?_⟩
    have hinterruption : action.isInterruption = false := by
      by_contra hinterrupts
      exact hnot ⟨action, t, by simpa using hinterrupts, hstep, hmoves⟩
    exact hmoves.onCourse haction hinterruption (hinv.db k) hcourse

/-- **Run lemma.** -/
theorem Reachable.granted (hreach : Reachable environment s)
    {history : List (System App × Event App)} (hrun : Transition.Run (Step environment) s history t)
    (honly : ∀ visited ∈ history, visited.1.accepts environment visited.2 ≠ some k)
    (count maxAttempts : ℤ) :
    ((s.db.view k).Granted count maxAttempts → (t.db.view k).Granted count maxAttempts) ∧
      ((∀ visited ∈ history, ¬ visited.1.Interrupts environment visited.2 k) →
        (s.db.view k).OnCourse count → (t.db.view k).OnCourse count) := by
  induction hrun with
  | refl => exact ⟨id, fun _ => id⟩
  | @tail history t u event hrun hlast ih =>
    obtain ⟨hgranted, hcourse⟩ := ih fun visited hmem => honly visited (mem_cons_of_mem _ hmem)
    have hinv : t.Inv := (hreach.trans ⟨history, hrun⟩).inv
    obtain ⟨hgranted', hcourse'⟩ :=
      hinv.granted hlast (honly (t, event) mem_cons_self) count maxAttempts
    refine ⟨fun h => hgranted' (hgranted h), fun hnot h => ?_⟩
    exact hcourse' (hnot (t, event) mem_cons_self)
      (hcourse (fun visited hmem => hnot visited (mem_cons_of_mem _ hmem)) h)

end System

/-- **A manual retry of a spent job buys one attempt.** When the job that an operator's
retry sends back to the queue has used its budget but for one attempt at most, it is
claimed for at most one more attempt in every run without another retry of it; and if
nobody cancels it, recovers its lease or repairs its result, one attempt has reported when
the job comes to an end. -/
theorem manual_retry_buys_one_attempt (hreach : System.Reachable environment s)
    (hstep : System.Step environment s event t)
    (haccepts : s.accepts environment event = some k) (hjob : s.db.job? k = some job)
    (hspent : job.maxAttempts ≤ job.attemptCount + 1)
    {history : List (System App × Event App)}
    (hrun : Transition.Run (System.Step environment) t history u)
    (honly : ∀ visited ∈ history, visited.1.accepts environment visited.2 ≠ some k) :
    u.db.claimsBeyond k job.attemptCount ≤ 1 ∧ u.db.reportsBeyond k job.attemptCount ≤ 1 ∧
      ((∀ visited ∈ history, ¬ visited.1.Interrupts environment visited.2 k) →
        ∃ job', u.db.job? k = some job' ∧
          (job'.state.isTerminal = true → u.db.reportsBeyond k job.attemptCount = 1)) := by
  have hreach' : System.Reachable environment t := hreach.trans ⟨_, .tail .refl hstep⟩
  have hmoves := hreach.inv.moves_of_accepts hstep haccepts
  obtain ⟨hgranted, hcourse⟩ := hmoves.of_retryByOperator (Database.view_job hjob)
  obtain ⟨hgranted', hcourse'⟩ := hreach'.granted hrun honly job.attemptCount
    (max job.maxAttempts (job.attemptCount + 1))
  have hnonneg : 0 ≤ job.attemptCount := by
    obtain ⟨outbox, -, hconsistent⟩ := hreach.inv.db.consistent hjob
    exact hconsistent.budget.1
  have hclaims := (hreach'.trans ⟨history, hrun⟩).inv.db.claimsBeyond_le hnonneg
    (hgranted' hgranted)
  have hle := u.db.reportsBeyond_le k job.attemptCount
  refine ⟨by omega, by omega, fun hnot => ?_⟩
  obtain ⟨job', hjob', hreported⟩ := Database.reportsBeyond_pos (hcourse' hnot hcourse)
  refine ⟨job', hjob', fun hterminal => ?_⟩
  have hpos := hreported hterminal
  omega

namespace Sample

/-- The job is enqueued with a budget of one attempt, and fails. -/
def failedSpent : List (Event Bool) :=
  .command (.enqueue ⟨"workspace"⟩
    { correlationId
      handlerVersion := 1
      idempotencyKey := "key"
      inputVersion := none
      maxAttempts := some 1
      priority := none
      queueName := "asset.validate"
      resourceId := none
      resourceType := none } jobId "outbox") :: claimedFailing 0 "lease-0" rejected

/-- The job is enqueued with the default budget, and fails at the first attempt. -/
def failedEarly : List (Event Bool) := enqueued :: claimedFailing 0 "lease-0" rejected

/-- The job is delivered when its retry is due; it is claimed, and succeeds. -/
def succeededLater (pid : ℕ) (now : ℤ) (leaseId : String) : List (Event Bool) :=
  delivered pid :: List.replicate 8 (handled pid now leaseId)

/-- The retried job that had spent its budget is claimed for one attempt. -/
theorem failedSpent_buys_one_attempt : ∃ t u job history,
    System.Step callbacks (after failedSpent) retriedByOperator t ∧
      t.replay callbacks (claimedFailing 1 "lease-1" unanswered) = some (history, u) ∧
      (after failedSpent).db.job? jobId = some job ∧ u.db.claimsBeyond jobId job.attemptCount ≤ 1 := by
  have hrun : (((after failedSpent).step callbacks retriedByOperator).bind fun t =>
      (t.replay callbacks (claimedFailing 1 "lease-1" unanswered)).map fun result =>
        result.1.all fun visited => visited.1.accepts callbacks visited.2 != some jobId) =
      some true := by
    decide
  have haccepts : (after failedSpent).accepts callbacks retriedByOperator = some jobId := by
    decide
  have hspent : ((after failedSpent).db.job? jobId).map (fun job =>
      decide (job.maxAttempts ≤ job.attemptCount + 1)) = some true := by
    decide
  obtain ⟨t, ht, hreplay⟩ := Option.bind_eq_some_iff.mp hrun
  obtain ⟨⟨history, u⟩, hu, honly⟩ := Option.map_eq_some_iff.mp hreplay
  obtain ⟨job, hjob, hbudget⟩ := Option.map_eq_some_iff.mp hspent
  have hbounds := manual_retry_buys_one_attempt (reachable_after failedSpent) ht haccepts hjob
    (of_decide_eq_true hbudget) (System.run_of_replay hu) fun visited hmem => by
      have hvisited := all_eq_true.mp honly visited hmem
      simpa using hvisited
  exact ⟨t, u, job, history, ht, hu, hjob, hbounds.1⟩

/-- **A retry that buys more.** The job failed at the first of its eight attempts. After the
retry it is claimed for a second attempt, which reports that the provider does not answer,
and for a third one, which succeeds. -/
theorem failedEarly_buys_two_attempts :
    (after failedEarly).accepts callbacks retriedByOperator = some jobId ∧
      ∃ t u job history, System.Step callbacks (after failedEarly) retriedByOperator t ∧
        Transition.Run (System.Step callbacks) t history u ∧
        (∀ visited ∈ history, visited.1.accepts callbacks visited.2 ≠ some jobId) ∧
        (after failedEarly).db.job? jobId = some job ∧
        u.db.reportsBeyond jobId job.attemptCount = 2 := by
  refine ⟨by decide, ?_⟩
  have hrun : (((after failedEarly).step callbacks retriedByOperator).bind fun t =>
      (t.replay callbacks (claimedFailing 1 "lease-1" unanswered ++
        succeededLater 2 1000 "lease-2")).bind fun result =>
          ((after failedEarly).db.job? jobId).map fun job =>
            (result.1.all (fun visited => visited.1.accepts callbacks visited.2 != some jobId),
              result.2.db.reportsBeyond jobId job.attemptCount)) = some (true, 2) := by
    decide +kernel
  obtain ⟨t, ht, hreplay⟩ := Option.bind_eq_some_iff.mp hrun
  obtain ⟨⟨history, u⟩, hu, hjobs⟩ := Option.bind_eq_some_iff.mp hreplay
  obtain ⟨job, hjob, hcounts⟩ := Option.map_eq_some_iff.mp hjobs
  obtain ⟨honly, hreports⟩ := Prod.mk.inj hcounts
  refine ⟨t, u, job, history, ht, System.run_of_replay hu, ?_, hjob, hreports⟩
  intro visited hmem
  have hvisited := all_eq_true.mp honly visited hmem
  simpa using hvisited

end Sample

end ContentAutomation
