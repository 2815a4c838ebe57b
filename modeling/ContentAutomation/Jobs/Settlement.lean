import ContentAutomation.Jobs.Enqueue
import ContentAutomation.Jobs.ExecutionRules

/-!
# Settling an attempt

`commitJobSuccess` and `commitJobFailure`. The result of a handler is committed
in the transaction that makes its job successful: its effects are writes to the
application's tables and further jobs.
-/

namespace ContentAutomation

open Relational Transaction

variable {App : Type} {context : WorkspaceContext} {db : Database App}

/-- One effect of `result.commit`. -/
inductive CommitEffect (App : Type)
  /-- A write to the tables of the application, which may throw. -/
  | write (update : Database App → Option App)
  /-- A further job, enqueued in the same transaction. -/
  | enqueue (context : WorkspaceContext) (input : EnqueueBackgroundJobInput)
      (jobId outboxId : String)

/-- Run one effect. -/
def CommitEffect.run : CommitEffect App → JobTransaction App Unit
  | .write update => fun db =>
    match update db with
    | some app => .ok ((), { db with app })
    | none => .error (.fault .callback)
  | .enqueue context input jobId outboxId => do
    let _ ← enqueueBackgroundJobInTransaction context input jobId outboxId
    pure ()

/-- `result.commit(transaction)`. -/
def commitResult : List (CommitEffect App) → JobTransaction App Unit
  | [] => pure ()
  | effect :: effects => do
    effect.run
    commitResult effects

/-- The identifier that an effect creates for an outbox row. -/
def CommitEffect.createdOutboxId : CommitEffect App → Option String
  | .write _ => none
  | .enqueue _ _ _ outboxId => some outboxId

/-- The job as success leaves it. -/
def succeededJob (completedAt : ℤ) (row : BackgroundJob) : BackgroundJob :=
  { row with
    completedAt := some completedAt
    heartbeatAt := some completedAt
    leaseExpiresAt := none
    leaseId := none
    stage := "completed"
    state := .succeeded
    version := row.version + 1 }

/-- The attempt as success leaves it. -/
def succeededAttempt (completedAt : ℤ) (row : JobAttempt) : JobAttempt :=
  { row with
    completedAt := some completedAt
    heartbeatAt := completedAt
    stage := "completed"
    state := .succeeded }

/-- The condition under which a handler may settle its job, beside the identity. -/
def isUncancelledHolder (context : WorkspaceContext) (leaseId : String) (row : BackgroundJob) :
    Bool :=
  row.cancellationRequestedAt.isNone && row.leaseId == some leaseId && row.state == .processing &&
    row.workspaceId == context.workspaceId

/-- `commitJobSuccess`. -/
def commitJobSuccess (context : WorkspaceContext) (jobId leaseId : String)
    (result : List (CommitEffect App)) (completedAt : ℤ) : JobTransaction App Unit := do
  assertJobTransition .processing .succeeded
  rethrow (orDatabaseError "JOB_RESULT_COMMIT_FAILED") do
    let updated ← backgroundJob.updateMany (succeededJob completedAt) fun row =>
      row.id == jobId && isUncancelledHolder context leaseId row
    if updated ≠ 1 then raise jobLeaseLost
    else do
      commitResult result
      let attempt ← jobAttempt.updateMany (succeededAttempt completedAt) fun row =>
        row.leaseId == leaseId && row.state == .active
      if attempt ≠ 1 then raise jobLeaseLost else pure ()

/-- The state of a job after a decision. -/
def JobRetryDecision.jobState : JobRetryDecision → BackgroundJobState
  | .retry _ _ => .retryScheduled
  | .failedAttention _ => .failedAttention

/-- The state of an attempt after a decision. -/
def JobRetryDecision.attemptState : JobRetryDecision → JobAttemptState
  | .retry _ _ => .retryScheduled
  | .failedAttention _ => .failedAttention

/-- The stage of a job and its attempt after a decision. -/
def JobRetryDecision.stage : JobRetryDecision → String
  | .retry _ _ => "retry_scheduled"
  | .failedAttention _ => "failed_attention"

/-- The job as a failure leaves it. -/
def failedJob (failure : JobFailure) (decision : JobRetryDecision) (completedAt : ℤ)
    (row : BackgroundJob) : BackgroundJob :=
  { row with
    completedAt := match decision with
      | .retry _ _ => none
      | .failedAttention _ => some completedAt
    heartbeatAt := some completedAt
    lastErrorClass := some failure.errorClass
    lastErrorCode := some failure.errorCode
    leaseExpiresAt := none
    leaseId := none
    nextAction := some decision.nextAction
    nextAttemptAt := decision.nextAttemptAt
    stage := decision.stage
    state := decision.jobState
    version := row.version + 1 }

/-- The attempt as a failure leaves it. -/
def failedAttempt (failure : JobFailure) (decision : JobRetryDecision) (completedAt : ℤ)
    (row : JobAttempt) : JobAttempt :=
  { row with
    completedAt := some completedAt
    errorClass := some failure.errorClass
    errorCode := some failure.errorCode
    heartbeatAt := completedAt
    nextAction := some decision.nextAction
    nextAttemptAt := decision.nextAttemptAt
    stage := decision.stage
    state := decision.attemptState }

/-- `commitJobFailure`. -/
def commitJobFailure (context : WorkspaceContext) (jobId leaseId : String) (failure : JobFailure)
    (decision : JobRetryDecision) (completedAt : ℤ) : JobTransaction App Unit := do
  assertJobTransition .processing decision.jobState
  rethrow (orDatabaseError "JOB_FAILURE_COMMIT_FAILED") do
    let updated ← backgroundJob.updateMany (failedJob failure decision completedAt) fun row =>
      row.id == jobId && isUncancelledHolder context leaseId row
    if updated ≠ 1 then raise jobLeaseLost
    else do
      let attempt ← jobAttempt.updateMany (failedAttempt failure decision completedAt) fun row =>
        row.leaseId == leaseId && row.state == .active
      if attempt ≠ 1 then raise jobLeaseLost else pure ()

theorem holder_of_isUncancelledHolder {leaseId : String}
    {job : BackgroundJob} (h : isUncancelledHolder context leaseId job) :
    job.state = .processing ∧ job.leaseId = some leaseId ∧
      job.cancellationRequestedAt.isSome = false := by
  simp only [isUncancelledHolder, Bool.and_eq_true, beq_iff_eq] at h
  obtain ⟨⟨⟨hrequest, hlease⟩, hstate⟩, -⟩ := h
  exact ⟨hstate, hlease, by simpa using hrequest⟩

theorem accepted_succeededJob {row : BackgroundJob} (h : row.Accepted)
    (hstate : row.state = .processing) (completedAt : ℤ) :
    (succeededJob completedAt row).Accepted := by
  have hnext := h.unscheduled (by simp [hstate])
  have hversion := h.version
  refine { h with
    version := ?_
    stage := (by decide : isSafeJobStage "completed" = true)
    leaseShape := .inr ⟨by simp [succeededJob], rfl, rfl⟩
    timingShape := .inr (.inl ⟨.inl rfl, hnext, rfl⟩) }
  simp only [succeededJob]
  omega

theorem accepted_succeededAttempt {row : JobAttempt} (h : row.Accepted)
    (hactive : row.state = .active) (completedAt : ℤ) :
    (succeededAttempt completedAt row).Accepted := by
  have hnext := h.unscheduled hactive
  have herror := h.errorless hactive
  exact { h with
    stage := (by decide : isSafeJobStage "completed" = true)
    timingShape := .inr (.inr ⟨.inl rfl, rfl, hnext⟩)
    errorShape := .inl ⟨.inr (.inl rfl), herror⟩ }

private theorem accepted_failedJob {row : BackgroundJob} (h : row.Accepted) (failure : JobFailure)
    (decision : JobRetryDecision) (completedAt : ℤ) :
    (failedJob failure decision completedAt row).Accepted := by
  have hversion : 0 < row.version + 1 := by
    have hold := h.version
    omega
  cases decision with
  | retry delayMs nextAttemptAt =>
    exact { h with
      version := hversion
      stage := (by decide : isSafeJobStage "retry_scheduled" = true)
      leaseShape := .inr ⟨by simp [failedJob, JobRetryDecision.jobState], rfl, rfl⟩
      timingShape := .inl ⟨rfl, rfl, rfl⟩
      errorShape := ⟨rfl, rfl⟩ }
  | failedAttention nextAction =>
    exact { h with
      version := hversion
      stage := (by decide : isSafeJobStage "failed_attention" = true)
      leaseShape := .inr ⟨by simp [failedJob, JobRetryDecision.jobState], rfl, rfl⟩
      timingShape := .inr (.inl ⟨.inr (.inl rfl), rfl, rfl⟩)
      errorShape := ⟨rfl, rfl⟩ }

private theorem accepted_failedAttempt {row : JobAttempt} (h : row.Accepted) (failure : JobFailure)
    (decision : JobRetryDecision) (completedAt : ℤ) :
    (failedAttempt failure decision completedAt row).Accepted := by
  cases decision with
  | retry delayMs nextAttemptAt =>
    exact { h with
      stage := (by decide : isSafeJobStage "retry_scheduled" = true)
      timingShape := .inr (.inl ⟨rfl, rfl, rfl⟩)
      errorShape := .inr ⟨.inl rfl, rfl, rfl, rfl⟩ }
  | failedAttention nextAction =>
    exact { h with
      stage := (by decide : isSafeJobStage "failed_attention" = true)
      timingShape := .inr (.inr ⟨.inr (.inl rfl), rfl, rfl⟩)
      errorShape := .inr ⟨.inr (.inl rfl), rfl, rfl, rfl⟩ }

-- the rule of enqueues is all that is needed of it from here on
seal enqueueBackgroundJobInTransaction

/-- Committing a result adds the jobs it enqueues and changes no other job. -/
theorem ensures_commitResult {effects : List (CommitEffect App)} (hdelivered : db.Delivered)
    (hdistinct : (effects.filterMap CommitEffect.createdOutboxId).Nodup)
    (hfresh : ∀ id ∈ effects.filterMap CommitEffect.createdOutboxId,
      ∀ row ∈ db.jobOutbox.rows, row.id ≠ id) :
    (commitResult effects).Ensures (fun _ db' => db.Grows db') JobError.Unchecked db := by
  induction effects generalizing db with
  | nil => exact Database.Grows.refl
  | cons effect effects ih =>
    unfold commitResult
    rw [ensures_bind]
    cases effect with
    | write update =>
      unfold CommitEffect.run Ensures
      simp only [StateT.run]
      cases hupdate : update db with
      | none =>
        intro constraint h
        cases h
      | some app =>
        have hsame : db.Grows { db with app } := ⟨rfl, fun _ _ h => h, fun _ => .inl rfl⟩
        refine (ih (hsame.delivered hdelivered) hdistinct hfresh).mono
          (fun _ db' hgrows => hsame.trans hgrows) fun _ herror => herror
    | enqueue context input jobId outboxId =>
      have hlist : ((.enqueue context input jobId outboxId : CommitEffect App) ::
          effects).filterMap CommitEffect.createdOutboxId =
            outboxId :: effects.filterMap CommitEffect.createdOutboxId := rfl
      rw [hlist] at hdistinct hfresh
      obtain ⟨hnotin, hdistinct'⟩ := List.nodup_cons.mp hdistinct
      unfold CommitEffect.run
      rw [ensures_bind]
      refine (ensures_enqueueBackgroundJobInTransaction hdelivered
        (hfresh outboxId List.mem_cons_self)).mono (fun _ db' hpost => ?_) fun _ herror => herror
      obtain ⟨hgrows, hrows⟩ := hpost
      rw [ensures_pure]
      refine (ih (hgrows.delivered hdelivered) hdistinct' fun id hid row hrow => ?_).mono
        (fun _ db'' hgrows' => hgrows.trans hgrows') fun _ herror => herror
      rcases hrows row hrow with hold | hnew
      · exact hfresh id (List.mem_cons_of_mem _ hid) row hold
      · rintro rfl
        rw [hnew] at hid
        exact hnotin hid

private theorem Database.Grows.view_of_job {db' : Database App} (h : db.Grows db') {id : String}
    {job : BackgroundJob} (hjob : db.job? id = some job) : db'.view id = db.view id := by
  rcases h.views id with hsame | hstep
  · exact hsame
  · have hview := Database.view_job hjob
    generalize db.view id = view, db'.view id = view' at hstep hview
    cases hstep
    cases hview

/-- **The success rule.** A handler that holds the lease of an uncancelled job
makes it successful, and adds the jobs that its result enqueues. -/
theorem ensures_commitJobSuccess {jobId leaseId : String} {result : List (CommitEffect App)}
    {completedAt : ℤ} (hinv : db.Inv)
    (hdistinct : (result.filterMap CommitEffect.createdOutboxId).Nodup)
    (hfresh : ∀ id ∈ result.filterMap CommitEffect.createdOutboxId, ∀ row ∈ db.jobOutbox.rows,
      row.id ≠ id) :
    (commitJobSuccess context jobId leaseId result completedAt).Ensures
      (fun _ db' => (∃ job, db.job? jobId = some job ∧ job.leaseId = some leaseId) ∧
        JobStep .succeed (db.view jobId) (db'.view jobId) ∧
        ∀ id, id ≠ jobId → db'.view id = db.view id ∨
          JobStep .enqueue (db.view id) (db'.view id))
      JobError.Unchecked db := by
  unfold commitJobSuccess
  rw [ensures_bind]
  refine ensures_assertJobTransition rfl ?_
  refine ensures_orDatabaseError ?_
  rw [ensures_bind]
  refine ensures_backgroundJob_updateMany (.inr unchecked_unique) (fun _ => unchecked_jobLeaseLost)
    fun job hjob hselects => ?_
  obtain ⟨hstate, hlease, hrequest⟩ := holder_of_isUncancelledHolder hselects
  refine ⟨accepted_succeededJob (Database.accepted_of_job? hjob) hstate _, fun t hrows => ?_⟩
  have hjobs := Database.job?_update hjob hselects hrows fun _ => rfl
  have hjobAfter : (db.setBackgroundJobs t).job? jobId = some (succeededJob completedAt job) := by
    rw [hjobs jobId, if_pos rfl]
  -- the job row has moved; its attempt is still active, but every job is delivered
  have hdelivered : (db.setBackgroundJobs t).Delivered := by
    intro id
    have hbefore := hinv.delivered id
    by_cases hid : id = jobId
    · subst hid
      have houtbox : (db.view id).outbox.isSome = true := by
        simpa only [JobView.Delivered, Database.view_job hjob] using hbefore
      simp only [JobView.Delivered, Database.view_job hjobAfter]
      exact houtbox
    · rw [Database.view_update_other hjobs hid]
      exact hbefore
  rw [if_neg (by simp), ensures_bind]
  refine (ensures_commitResult hdelivered hdistinct hfresh).mono (fun _ db₂ hgrows => ?_)
    fun _ herror => herror
  rw [ensures_bind]
  refine ensures_jobAttempt_updateMany (.inr unchecked_unique) (fun _ => unchecked_jobLeaseLost)
    fun attempt hattempt hsame hselected => ?_
  have hactive : attempt.state = .active := by simpa using hselected
  refine ⟨accepted_succeededAttempt (Database.accepted_of_mem_jobAttempts hattempt) hactive _,
    fun ta hta => ?_⟩
  rw [if_neg (by simp), ensures_pure]
  subst hsame
  have hattempts := Database.view_attempts_close hta (fun _ => rfl) (fun _ => rfl) hattempt rfl
    hselected hactive
  have hmem : attempt ∈ db.jobAttempts.rows := by
    rw [hgrows.attempts] at hattempt
    exact hattempt
  have hbelongs := (hinv.attempt_of_lease hjob hmem hlease).1
  refine ⟨⟨job, hjob, hlease⟩, ?_, fun id hid => ?_⟩
  · have hview : (db₂.setJobAttempts ta).view jobId =
        ⟨some { job.summary with state := .succeeded, leaseId := none },
          closeAttempt attempt.leaseId .succeeded (db.view jobId).attempts,
          (db.view jobId).outbox⟩ := by
      have hgrown := hgrows.view_of_job hjobAfter
      refine JobView.ext ?_ ?_ ?_
      · show (db₂.view jobId).job = _
        rw [hgrown, Database.view_job hjobAfter]
        rfl
      · rw [hattempts jobId, hgrown]
        rfl
      · show (db₂.view jobId).outbox = _
        rw [hgrown]
        rfl
    have hbefore : db.view jobId = ⟨some job.summary, (db.view jobId).attempts,
        (db.view jobId).outbox⟩ := JobView.ext (Database.view_job hjob) rfl rfl
    rw [hview, hbefore]
    exact JobStep.succeed hstate hlease hrequest
  · have hother : (db₂.setJobAttempts ta).view id = db₂.view id := by
      refine JobView.ext rfl ?_ rfl
      rw [hattempts id]
      exact Database.closeAttempt_other hattempt (by rw [hbelongs]; exact hid)
    rw [hother, ← Database.view_update_other hjobs hid]
    exact hgrows.views id

/-- **The failure rule.** A handler that holds the lease of an uncancelled job
ends its attempt; a retry within the budget is an action of the machine. -/
theorem ensures_commitJobFailure {jobId leaseId : String} {failure : JobFailure}
    {decision : JobRetryDecision} {completedAt : ℤ} (hinv : db.Inv) :
    (commitJobFailure context jobId leaseId failure decision completedAt).Ensures
      (fun _ db' => ∃ job, db.job? jobId = some job ∧ job.leaseId = some leaseId ∧
        ((decision.jobState = .retryScheduled → job.attemptCount < job.maxAttempts) →
          db.Moves .fail jobId db'))
      JobError.Unchecked db := by
  unfold commitJobFailure
  rw [ensures_bind]
  refine ensures_assertJobTransition ?_ ?_
  · cases decision <;> rfl
  refine ensures_orDatabaseError ?_
  rw [ensures_bind]
  refine ensures_backgroundJob_updateMany (.inr unchecked_unique) (fun _ => unchecked_jobLeaseLost)
    fun job hjob hselects => ?_
  obtain ⟨hstate, hlease, hrequest⟩ := holder_of_isUncancelledHolder hselects
  refine ⟨accepted_failedJob (Database.accepted_of_job? hjob) _ _ _, fun t hrows => ?_⟩
  have hjobs := Database.job?_update hjob hselects hrows fun _ => rfl
  rw [if_neg (by simp), ensures_bind]
  refine ensures_jobAttempt_updateMany (.inr unchecked_unique) (fun _ => unchecked_jobLeaseLost)
    fun attempt hattempt hsame hselected => ?_
  have hactive : attempt.state = .active := by simpa using hselected
  refine ⟨accepted_failedAttempt (Database.accepted_of_mem_jobAttempts hattempt) _ _ _,
    fun ta hta => ?_⟩
  rw [if_neg (by simp), ensures_pure]
  subst hsame
  have hsummary : ∀ row, (failedAttempt failure decision completedAt row).summary =
      { row.summary with state := decision.attemptState } := fun _ => rfl
  have hattempts := Database.view_attempts_close hta (fun _ => rfl) hsummary hattempt rfl hselected
    hactive
  refine ⟨job, hjob, hlease, fun hbudget => ?_⟩
  refine hinv.moves_of_end hjob hlease hattempt hjobs hattempts (fun _ => rfl) ?_
  cases decision with
  | retry delayMs nextAttemptAt =>
    exact JobStep.failRetry hstate hlease hrequest (hbudget rfl)
  | failedAttention nextAction => exact JobStep.failAttention hstate hlease hrequest

end ContentAutomation
