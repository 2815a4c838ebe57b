import ContentAutomation.Jobs.SystemRules

/-!
# Invariants of jobs

What holds of every job in every reachable state: how it goes together with its
attempts, that it is never left where nothing selects it, that a job which waits
can be claimed, and that its state changes as declared.
-/

namespace ContentAutomation

open Relational Transaction List

variable {App : Type} {environment : Environment App} {s : System App} {db : Database App}
  {k : String} {job : BackgroundJob}

/-- How a job goes together with its attempts. -/
structure Database.JobShape (db : Database App) (k : String) (job : BackgroundJob) : Prop where
  /-- A job runs when it has one active attempt, under its own lease. -/
  running : job.state = .processing ↔ ∃ attempt,
    ((db.attemptsOf k).filter fun attempt => attempt.state == .active) = [attempt] ∧
      job.leaseId = some attempt.leaseId
  idle : job.state ≠ .processing → job.leaseId = none ∧ job.leaseExpiresAt = none ∧
    ∀ attempt ∈ db.attemptsOf k, attempt.state ≠ .active
  /-- The attempts are numbered from 1, in order and without a gap. -/
  numbers : (db.attemptsOf k).map JobAttempt.attemptNumber = attemptNumbers job.attemptCount
  count : ((db.attemptsOf k).length : ℤ) = job.attemptCount
  budget : job.attemptCount ≤ job.maxAttempts ∧ job.maxAttempts ≤ 100

private theorem Database.filter_active {attempts : List JobAttempt} {earlier : List AttemptSummary}
    {last : AttemptSummary} (hattempts : attempts.map JobAttempt.summary = earlier ++ [last])
    (hearlier : ∀ attempt ∈ earlier, attempt.state ≠ .active) (hlast : last.state = .active) :
    ∃ attempt, (attempts.filter fun attempt => attempt.state == .active) = [attempt] ∧
      attempt.summary = last := by
  obtain ⟨before, after, rfl, hbefore, hafter⟩ := map_eq_append_iff.mp hattempts
  obtain ⟨attempt, rfl, hsummary⟩ := map_eq_singleton_iff.mp hafter
  have hnone : (before.filter fun attempt => attempt.state == .active) = [] := by
    apply filter_eq_nil_iff.mpr
    intro other hother hactive
    have hmem : other.summary ∈ earlier := by
      rw [← hbefore]
      exact mem_map_of_mem hother
    have hactive' : other.state = .active := by simpa using hactive
    exact hearlier other.summary hmem hactive'
  have hactive : attempt.state = .active := by
    rw [← hsummary] at hlast
    exact hlast
  refine ⟨attempt, ?_, hsummary⟩
  rw [filter_append, hnone, nil_append]
  simp [hactive]

private theorem Database.Inv.jobShape (hinv : db.Inv) (hjob : db.job? k = some job) :
    db.JobShape k job := by
  obtain ⟨outbox, -, h⟩ := hinv.consistent hjob
  have haccepted := Database.accepted_of_job? hjob
  have hnumbers : (db.attemptsOf k).map JobAttempt.attemptNumber =
      attemptNumbers job.attemptCount := by
    have hsummaries := h.numbers
    rw [map_map] at hsummaries
    exact hsummaries
  have hidle : job.state ≠ .processing → job.leaseId = none ∧ job.leaseExpiresAt = none ∧
      ∀ attempt ∈ db.attemptsOf k, attempt.state ≠ .active := by
    intro hstate
    obtain ⟨hlease, hexpires⟩ := haccepted.unleased hstate
    rw [Option.isNone_iff_eq_none] at hlease hexpires
    refine ⟨hlease, hexpires, fun attempt hattempt => ?_⟩
    exact h.released hlease attempt.summary (mem_map_of_mem hattempt)
  refine ⟨⟨?_, ?_⟩, hidle, hnumbers, ?_, h.budget.2⟩
  · intro hstate
    obtain ⟨leaseId, hlease⟩ := Option.isSome_iff_exists.mp (haccepted.leased hstate).1
    obtain ⟨earlier, hattempts, hearlier⟩ := h.held leaseId hlease
    obtain ⟨attempt, hfilter, hsummary⟩ := Database.filter_active hattempts hearlier rfl
    have hattemptLease : attempt.leaseId = leaseId := congrArg AttemptSummary.leaseId hsummary
    refine ⟨attempt, hfilter, ?_⟩
    rw [hattemptLease]
    exact hlease
  · rintro ⟨attempt, hfilter, -⟩
    by_contra hstate
    have hmem : attempt ∈ (db.attemptsOf k).filter fun attempt => attempt.state == .active := by
      rw [hfilter]
      exact mem_singleton_self _
    obtain ⟨hattempt, hactive⟩ := mem_filter.mp hmem
    exact (hidle hstate).2.2 attempt hattempt (by simpa using hactive)
  · have hlength := congrArg List.length hnumbers
    rw [length_map, attemptNumbers, length_map, length_range] at hlength
    have hnonneg : 0 ≤ job.attemptCount := h.budget.1
    omega

/-- **The invariant of background jobs.** In every reachable state every job goes
together with its attempts, and no operation has failed on a `CHECK` constraint. -/
theorem job_shape_and_no_check_fails (hreach : System.Reachable environment s) :
    (∀ k job, s.db.job? k = some job → s.db.JobShape k job) ∧
      ∀ error ∈ s.raised, ∀ constraint, error.cause ≠ some (.violation (.check constraint)) := by
  have hinv := hreach.inv
  constructor
  · intro k job hjob
    exact hinv.db.jobShape hjob
  · intro error herror constraint
    exact hinv.unchecked error herror constraint

namespace Sample

def running : List (Event Bool) := enqueued :: claimed 0 0 "lease-0"

/-- The running job has its shape. -/
theorem running_shape : ∃ job, (after running).db.job? jobId = some job ∧
    job.state = .processing ∧ (after running).db.JobShape jobId job := by
  have hfound : ((after running).db.job? jobId).map BackgroundJob.state = some .processing := by
    decide
  obtain ⟨job, hjob, hstate⟩ := Option.map_eq_some_iff.mp hfound
  exact ⟨job, hjob, hstate, (job_shape_and_no_check_fails (reachable_after running)).1 _ _ hjob⟩

end Sample

/-- **The history of attempts is final.** In every run an attempt keeps its number and its lease, and
one that is closed stays as it is. -/
theorem attempts_are_kept {t : System App} (hreach : System.Reachable environment s)
    (hrun : Transition.Reachable (System.Step environment) s t) {attempt : AttemptSummary}
    (hmem : attempt ∈ (s.db.view k).attempts) :
    ∃ attempt' ∈ (t.db.view k).attempts, attempt'.leaseId = attempt.leaseId ∧
      attempt'.attemptNumber = attempt.attemptNumber ∧
        (attempt.state ≠ .active → attempt' = attempt) := by
  refine (hrun.invariant (I := fun t => t.Inv ∧ ∃ attempt' ∈ (t.db.view k).attempts,
    attempt'.leaseId = attempt.leaseId ∧ attempt'.attemptNumber = attempt.attemptNumber ∧
      (attempt.state ≠ .active → attempt' = attempt))
    ⟨hreach.inv, attempt, hmem, rfl, rfl, fun _ => rfl⟩ ?_).2
  rintro t u event ⟨hinv, attempt', hmem', hlease, hnumber, hsame⟩ hstep
  refine ⟨hinv.step hstep, ?_⟩
  rcases hinv.evolves hstep k with hview | ⟨action, hmoves⟩
  · rw [hview]
    exact ⟨attempt', hmem', hlease, hnumber, hsame⟩
  · by_cases hactive : attempt'.state = .active
    · obtain ⟨later, hlater, hlease', hnumber', -⟩ := hmoves.attempt_persists hmem'
      refine ⟨later, hlater, hlease'.trans hlease, hnumber'.trans hnumber, fun hclosed => ?_⟩
      exact absurd (hsame hclosed ▸ hactive) hclosed
    · exact ⟨attempt', hmoves.closed_stays hmem' hactive, hlease, hnumber, hsame⟩

open Sample in
/-- The first attempt stays when its lease is recovered and a second one is made. -/
theorem Sample.recovered_attempt_is_kept : ∃ t : System Bool,
    (t.db.view jobId).attempts.length = 2 ∧
      ∃ attempt ∈ (t.db.view jobId).attempts, attempt.leaseId = "lease-0" := by
  have hreplay : ((after running).replay callbacks
      ([.tick 200000, .command (.recover ⟨"workspace"⟩ jobId 200000 none "audit")] ++
        claimed 1 200000 "lease-1")).map (fun r => (r.2.db.view jobId).attempts.length) =
      some 2 := by decide
  obtain ⟨⟨history, t⟩, ht, hlength⟩ := Option.map_eq_some_iff.mp hreplay
  obtain ⟨attempt, hmem, hlease, -⟩ := attempts_are_kept (reachable_after running) (k := jobId)
    ⟨history, System.run_of_replay ht⟩
    (show ⟨1, "lease-0", .active⟩ ∈ ((after running).db.view jobId).attempts by decide)
  exact ⟨t, hlength, attempt, hmem, hlease⟩

/-- When the dispatcher may pick an outbox row up. -/
def JobOutbox.availableAt (outbox : JobOutbox) : ℤ :=
  max outbox.nextAttemptAt (outbox.leaseExpiresAt.getD outbox.nextAttemptAt)

private theorem isPending_of_availableAt {outbox : JobOutbox}
    (hdispatched : outbox.dispatchedAt = none)
    (hcancelled : outbox.cancelledAt = none) {now : ℤ} (hnow : outbox.availableAt ≤ now) :
    isPending now outbox := by
  unfold JobOutbox.availableAt at hnow
  have hnext : outbox.nextAttemptAt ≤ now := by omega
  cases hlease : outbox.leaseExpiresAt with
  | none => simp [isPending, hdispatched, hcancelled, hnext, hlease]
  | some expiresAt =>
    have hexpires : expiresAt ≤ now := by
      rw [hlease, Option.getD_some] at hnow
      omega
    simp [isPending, isDue, hdispatched, hcancelled, hnext, hlease, hexpires]

/-- Where a job that still has work to do is found again. -/
structure Database.Found (db : Database App) (k : String) (job : BackgroundJob) : Prop where
  /-- A queued job has a live outbox row, which the dispatcher picks up once it is
  available, or the scan for stranded deliveries once its dispatch is old. -/
  queued : job.state = .queued → ∃ outbox, db.outboxOf k = some outbox ∧
    outbox.cancelledAt = none ∧
      ((outbox.dispatchedAt = none ∧ ∀ now, outbox.availableAt ≤ now → isPending now outbox = true) ∨
        ∃ dispatchedAt, outbox.dispatchedAt = some dispatchedAt ∧
          ∀ now, dispatchedAt + queueDeliveryExpirySeconds * 1000 ≤ now →
            ReconciliationScan.strandedDelivery.selects db now job = true)
  /-- A scheduled retry is found once it is due, by the reconciler and by a delivery. -/
  retryScheduled : job.state = .retryScheduled → ∃ nextAttemptAt,
    job.nextAttemptAt = some nextAttemptAt ∧ ∀ now, nextAttemptAt ≤ now →
      ReconciliationScan.dueRetries.selects db now job = true
  /-- A running job is found once its lease has expired. -/
  processing : job.state = .processing → ∃ leaseExpiresAt,
    job.leaseExpiresAt = some leaseExpiresAt ∧ ∀ now, leaseExpiresAt ≤ now →
      ReconciliationScan.expired.selects db now job = true

/-- Under the invariant of the tables, every job is found again. -/
theorem Database.Inv.found (hinv : db.Inv) (hjob : db.job? k = some job) : db.Found k job := by
  obtain ⟨outbox, houtbox, hrelated, h⟩ := hinv.relatedOutbox hjob
  have haccepted := Database.accepted_of_job? hjob
  refine ⟨?_, ?_, ?_⟩
  · intro hstate
    have hcancelled : outbox.cancelledAt = none := by
      by_contra hsome
      have hdelivery := h.delivery (by simpa [JobOutbox.summary, Option.isSome_iff_ne_none])
      simp [BackgroundJob.summary, hstate] at hdelivery
    refine ⟨outbox, houtbox, hcancelled, ?_⟩
    cases hdispatched : outbox.dispatchedAt with
    | none => exact .inl ⟨rfl, fun now hnow => isPending_of_availableAt hdispatched hcancelled hnow⟩
    | some dispatchedAt =>
      refine .inr ⟨dispatchedAt, rfl, fun now hnow => ?_⟩
      have hlease := (haccepted.unleased (by simp [hstate])).1
      have hold : dispatchedAt ≤ strandedBefore now := by
        unfold strandedBefore
        omega
      simp [ReconciliationScan.selects, isDeliveredBy, isDue, hlease, hstate, hrelated, hcancelled,
        hdispatched, hold]
  · intro hstate
    obtain ⟨nextAttemptAt, hnext⟩ := Option.isSome_iff_exists.mp (haccepted.scheduled hstate)
    refine ⟨nextAttemptAt, hnext, fun now hnow => ?_⟩
    simp [ReconciliationScan.selects, isRetryDue, isDue, hnext, hstate, hnow]
  · intro hstate
    obtain ⟨leaseExpiresAt, hexpires⟩ := Option.isSome_iff_exists.mp (haccepted.leased hstate).2
    refine ⟨leaseExpiresAt, hexpires, fun now hnow => ?_⟩
    simp [ReconciliationScan.selects, isLeaseExpired, isDue, hexpires, hstate, hnow]

/-- **No stranded work.** In every reachable state every job that still has work to
do is selected, at a time that its rows name, by the dispatcher or by a scan of
the reconciler. -/
theorem no_job_is_stranded (hreach : System.Reachable environment s) (hjob : s.db.job? k = some job) :
    s.db.Found k job :=
  hreach.inv.db.found hjob

/-- The running job is found once its lease has expired. -/
theorem Sample.running_found : ∃ job, (Sample.after Sample.running).db.job? Sample.jobId = some job ∧
    (Sample.after Sample.running).db.Found Sample.jobId job := by
  have hfound : ((Sample.after Sample.running).db.job? Sample.jobId).isSome = true := by
    decide
  obtain ⟨job, hjob⟩ := Option.isSome_iff_exists.mp hfound
  exact ⟨job, hjob, no_job_is_stranded (Sample.reachable_after Sample.running) hjob⟩

/-- **Waiting jobs can be claimed.** In every reachable state a job that waits has
attempts left, and no claim is answered that its attempts are exhausted. -/
theorem waiting_jobs_have_budget (hreach : System.Reachable environment s) :
    (∀ k job, s.db.job? k = some job → job.state = .queued ∨ job.state = .retryScheduled →
        job.attemptCount < job.maxAttempts) ∧
      ∀ context k leaseDurationMs now leaseId attemptId,
        ((claimBackgroundJob context k leaseDurationMs now leaseId attemptId).commit s.db).1 ≠
          .ok (.refused .attemptsExhausted) := by
  have hinv := hreach.inv.db
  constructor
  · intro k job hjob hwaiting
    obtain ⟨outbox, -, hconsistent⟩ := hinv.consistent hjob
    exact hconsistent.waiting hwaiting
  · intro context k leaseDurationMs now leaseId attemptId hexhausted
    have hrule : (claimBackgroundJob context k leaseDurationMs now leaseId attemptId).Ensures
        _ _ s.db := ensures_claimBackgroundJob hinv
    rcases hrule.commit_cases with ⟨result, db', hcommit, hpost⟩ | ⟨error, hcommit, -⟩
    · rw [hcommit] at hexhausted
      obtain rfl := Except.ok.inj hexhausted
      exact hpost.2 rfl
    · rw [hcommit] at hexhausted
      cases hexhausted

/-- A job has attempts left when its first one has failed, and when an operator has sent it back
after that. -/
theorem Sample.retried_budget :
    (∃ job, (after ([enqueued] ++ claimedFailing 0 "lease-0" unanswered)).db.job? jobId = some job ∧
        job.attemptCount = 1 ∧ job.attemptCount < job.maxAttempts) ∧
      ∃ job, (after ([enqueued] ++ claimedFailing 0 "lease-0" rejected ++
          [retriedByOperator])).db.job? jobId = some job ∧
        job.attemptCount = 1 ∧ job.attemptCount < job.maxAttempts := by
  have hbudget (failed : List (Event Bool))
      (hwaits : ((after failed).db.job? jobId).any fun job =>
        (job.state == .queued || job.state == .retryScheduled) && job.attemptCount == 1) :
      ∃ job, (after failed).db.job? jobId = some job ∧ job.attemptCount = 1 ∧
        job.attemptCount < job.maxAttempts := by
    obtain ⟨job, hjob, hwaits⟩ := (Option.any_eq_true _ _).mp hwaits
    obtain ⟨hstate, hcount⟩ : (job.state = .queued ∨ job.state = .retryScheduled) ∧
        job.attemptCount = 1 := by
      simpa using hwaits
    exact ⟨job, hjob, hcount,
      (waiting_jobs_have_budget (reachable_after failed)).1 _ _ hjob hstate⟩
  exact ⟨hbudget _ (by decide +kernel), hbudget _ (by decide +kernel)⟩

/-- The event is the reconciler's repair of a committed result of the job. -/
def System.RepairsResult (s : System App) (event : Event App) (k : String) : Prop :=
  ∃ pid input pass repaired pending, event = .advance pid input ∧
    s.processes pid = .reconciler pass ∧ pass.phase = .settlingResult repaired .repair pending ∧
      repaired.id = k

theorem System.Acts.repairsResult {event : Event App}
    (hacts : s.Acts environment event k .repairCommitted) : s.RepairsResult event k := by
  cases event with
  | advance pid input =>
    obtain ⟨pass, repaired, pending, hprocess, hphase, hid⟩ :=
      Process.of_acts_repairCommitted hacts
    exact ⟨pid, input, pass, repaired, pending, rfl, hprocess, hphase, hid.symm⟩
  | command command => cases command <;> simp [System.Acts, Command.call, Call.Acts] at hacts
  | tick | write | spawn | crash => cases hacts

/-- **The declared transitions.** Every change of the state of a job is one that the
declared machine allows, except that the reconciler, when it repairs a committed
result, also takes a waiting job to success. -/
theorem state_changes_are_declared {t : System App} {event : Event App}
    (hreach : System.Reachable environment s) (hstep : System.Step environment s event t) :
    ∀ k job, s.db.job? k = some job → ∃ job', t.db.job? k = some job' ∧
      (job'.state = job.state ∨ canTransitionJob job.state job'.state = true ∨
        (s.RepairsResult event k ∧ (job.state = .queued ∨ job.state = .retryScheduled) ∧
          job'.state = .succeeded)) := by
  intro k job hjob
  have hview := Database.view_job hjob
  rcases hreach.inv.acts hstep k with hsame | ⟨action, hacts, hmoves⟩
  · rw [← hsame] at hview
    obtain ⟨job', hjob', hsummary⟩ := Database.job?_of_view hview
    have hstate : job'.state = job.state := congrArg JobSummary.state hsummary
    exact ⟨job', hjob', .inl hstate⟩
  · obtain ⟨summary, hsummary⟩ := hmoves.persists hview
    have hallowed := hmoves.allowed hview hsummary
    obtain ⟨job', hjob', rfl⟩ := Database.job?_of_view hsummary
    refine ⟨job', hjob', ?_⟩
    rcases hallowed with hstate | hdeclared | ⟨rfl, hwaiting, hsucceeded⟩
    · exact .inl hstate
    · exact .inr (.inl hdeclared)
    · exact .inr (.inr ⟨hacts.repairsResult, hwaiting, hsucceeded⟩)

namespace Sample

/-- A handler has probed the result of the enqueued job and is about to claim it. -/
def claiming : List (Event Bool) :=
  [enqueued, delivered 0, handled 0 0 "lease-0", handled 0 0 "lease-0"]

/-- The claim of the job is a declared transition. -/
theorem claiming_declared : ∃ u, System.Step callbacks (after claiming) (handled 0 0 "lease-0") u ∧
    ∀ k job, (after claiming).db.job? k = some job → ∃ job', u.db.job? k = some job' ∧
      (job'.state = job.state ∨ canTransitionJob job.state job'.state = true ∨
        ((after claiming).RepairsResult (handled 0 0 "lease-0") k ∧
          (job.state = .queued ∨ job.state = .retryScheduled) ∧ job'.state = .succeeded)) := by
  have hstep : ((after claiming).step callbacks (handled 0 0 "lease-0")).isSome = true := by
    decide
  obtain ⟨u, hu⟩ := Option.isSome_iff_exists.mp hstep
  exact ⟨u, hu, state_changes_are_declared (reachable_after claiming) hu⟩

/-- The job is enqueued, its result appears, and a pass of the reconciler is about to
repair the job. -/
def repairing : List (Event Bool) :=
  enqueued :: .write [operator] [] true :: .spawn 0 (.reconcile correlationId none) ::
    scanned 0 4 ++ [reconciled 0 [jobId] "scan", reconciled 0 [] "inspect"]

/-- **The undeclared transition.** The repair takes the queued job to success. -/
theorem repairing_undeclared : System.Reachable callbacks (after repairing) ∧
    ∃ u, System.Step callbacks (after repairing) (reconciled 0 [] "repair") u ∧
      ∃ job job', (after repairing).db.job? jobId = some job ∧ u.db.job? jobId = some job' ∧
        job.state = .queued ∧ job'.state = .succeeded ∧
          canTransitionJob job.state job'.state = false := by
  refine ⟨reachable_after repairing, ?_⟩
  have hafter : (((after repairing).step callbacks (reconciled 0 [] "repair")).bind fun u =>
      (u.db.job? jobId).map BackgroundJob.state) = some .succeeded := by
    decide
  obtain ⟨u, hu, hjobs⟩ := Option.bind_eq_some_iff.mp hafter
  obtain ⟨job', hjob', hstate'⟩ := Option.map_eq_some_iff.mp hjobs
  have hbefore : ((after repairing).db.job? jobId).map BackgroundJob.state = some .queued := by
    decide
  obtain ⟨job, hjob, hstate⟩ := Option.map_eq_some_iff.mp hbefore
  refine ⟨u, hu, job, job', hjob, hjob', hstate, hstate', ?_⟩
  rw [hstate, hstate']
  rfl

end Sample

end ContentAutomation
