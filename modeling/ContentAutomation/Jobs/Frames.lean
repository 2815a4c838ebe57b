import ContentAutomation.Jobs.SystemRules

/-!
# What the transactions leave alone

A transaction of the job framework writes the tables of the jobs. A part of the
database outside them is left alone by every transaction, unless it is written by
the work that a handler commits, or by the reset of an operator's retry.
-/

namespace ContentAutomation

open Relational Transaction

/-- A part of the database that the tables of the jobs are not in. -/
class OutsideJobs {App τ : Type} (part : Database App → τ) : Prop where
  backgroundJobs : ∀ db t, part (db.setBackgroundJobs t) = part db
  jobAttempts : ∀ db t, part (db.setJobAttempts t) = part db
  jobOutbox : ∀ db t, part (db.setJobOutbox t) = part db
  auditEvents : ∀ db t, part (db.setAuditEvents t) = part db

/-- A part of the database that the analysis jobs are not in. -/
class OutsideAnalyses {App τ : Type} (part : Database App → τ) : Prop where
  analysisJobs : ∀ db rows, part (db.setAnalysisJobs rows) = part db

/-- A part of the database that the tables of the application are not in. -/
class OutsideApp {App τ : Type} (part : Database App → τ) : Prop where
  app : ∀ (db : Database App) (app : App), part { db with app } = part db

/-- What the work of handlers is about: the tables of the application and the analysis
jobs. -/
def Database.contents {App : Type} (db : Database App) : List AnalysisJob × App :=
  (db.analysisJobs, db.app)

/-- What a job was enqueued with: no transaction changes it. -/
structure JobIdentity where
  id : String
  workspaceId : String
  queueName : String
  handlerVersion : ℤ
  idempotencyKey : String
  correlationId : String
  priority : ℤ
  resourceType : Option String
  resourceId : Option String
  inputVersion : Option String

/-- The identity of a job. -/
def BackgroundJob.identity (job : BackgroundJob) : JobIdentity where
  id := job.id
  workspaceId := job.workspaceId
  queueName := job.queueName
  handlerVersion := job.handlerVersion
  idempotencyKey := job.idempotencyKey
  correlationId := job.correlationId
  priority := job.priority
  resourceType := job.resourceType
  resourceId := job.resourceId
  inputVersion := job.inputVersion

/-- A property that the statements on the tables of the jobs keep, as long as no job is lost. -/
class StableUnderJobs {App : Type} (I : Database App → Prop) : Prop where
  backgroundJobs : ∀ db t, (∀ job ∈ db.backgroundJobs.rows, ∃ job' ∈ t.rows,
    job'.identity = job.identity) → I db → I (db.setBackgroundJobs t)
  jobAttempts : ∀ db t, I db → I (db.setJobAttempts t)
  jobOutbox : ∀ db t, I db → I (db.setJobOutbox t)
  auditEvents : ∀ db t, I db → I (db.setAuditEvents t)

/-- A property that writes of the analysis jobs keep. -/
class StableUnderAnalyses {App : Type} (I : Database App → Prop) : Prop where
  analysisJobs : ∀ db rows, I db → I (db.setAnalysisJobs rows)

/-- A property that writes of the application keep. -/
class StableUnderApp {App : Type} (I : Database App → Prop) : Prop where
  app : ∀ (db : Database App) (app : App), I db → I { db with app }

section Parts

variable {App τ : Type} {part : Database App → τ}

instance [OutsideJobs part] (value : τ) : StableUnderJobs fun db => part db = value where
  backgroundJobs db t _ h := (OutsideJobs.backgroundJobs db t).trans h
  jobAttempts db t h := (OutsideJobs.jobAttempts db t).trans h
  jobOutbox db t h := (OutsideJobs.jobOutbox db t).trans h
  auditEvents db t h := (OutsideJobs.auditEvents db t).trans h

instance [OutsideAnalyses part] (value : τ) : StableUnderAnalyses fun db => part db = value :=
  ⟨fun db rows h => (OutsideAnalyses.analysisJobs db rows).trans h⟩

instance [OutsideApp part] (value : τ) : StableUnderApp fun db => part db = value :=
  ⟨fun db app h => (OutsideApp.app db app).trans h⟩

end Parts

instance {App : Type} : OutsideJobs (@Database.clock App) :=
  ⟨fun _ _ => rfl, fun _ _ => rfl, fun _ _ => rfl, fun _ _ => rfl⟩

instance {App : Type} : OutsideAnalyses (@Database.clock App) := ⟨fun _ _ => rfl⟩

instance {App : Type} : OutsideApp (@Database.clock App) := ⟨fun _ _ => rfl⟩

instance {App : Type} : OutsideJobs (@Database.contents App) :=
  ⟨fun _ _ => rfl, fun _ _ => rfl, fun _ _ => rfl, fun _ _ => rfl⟩

instance {App : Type} : OutsideJobs (@Database.analysisJobs App) :=
  ⟨fun _ _ => rfl, fun _ _ => rfl, fun _ _ => rfl, fun _ _ => rfl⟩

instance {App : Type} : OutsideJobs (@Database.app App) :=
  ⟨fun _ _ => rfl, fun _ _ => rfl, fun _ _ => rfl, fun _ _ => rfl⟩

instance {App : Type} : OutsideAnalyses (@Database.app App) := ⟨fun _ _ => rfl⟩

variable {App α τ : Type} {part : Database App → τ} {I : Database App → Prop}

/-! ### Statements -/

private theorem preserves_analysisJob_updateMany [StableUnderAnalyses I]
    {data : AnalysisJob → AnalysisJob} {selects : AnalysisJob → Bool} :
    Preserves I (analysisJob.updateMany data selects : JobTransaction App Unit) := by
  intro db h
  show I (db.setAnalysisJobs _)
  exact StableUnderAnalyses.analysisJobs _ _ h

private theorem preserves_assertJobTransition {source target : BackgroundJobState} :
    Preserves I (assertJobTransition source target : JobTransaction App _) := by
  unfold assertJobTransition
  split
  · exact preserves_pure
  · exact preserves_raise

private theorem preserves_orThrow {value : Option α} :
    Preserves I (orThrow value : JobTransaction App _) := by
  cases value with
  | none => exact preserves_raise
  | some value => exact preserves_pure

variable {action : OperatorAction} {callbacks : ManualRetryCallbacks App} {R : App → App → Prop}
  {effects : List (CommitEffect App)}

section Statements

variable [StableUnderJobs I] {data : BackgroundJob → BackgroundJob}
  {selects : BackgroundJob → Bool}

private theorem preserves_backgroundJob_updateMany
    (hdata : ∀ job, (data job).identity = job.identity) :
    Preserves I (backgroundJob.updateMany data selects : JobTransaction App _) := by
  intro db h
  unfold backgroundJob.updateMany Ensures
  simp only [StateT.run]
  cases hresult : db.backgroundJobs.updateMany data selects with
  | error violation => trivial
  | ok result =>
    refine StableUnderJobs.backgroundJobs _ _ (fun job hjob => ?_) h
    rw [(Table.updateMany_eq_ok.mp hresult).1]
    refine ⟨_, List.mem_map_of_mem hjob, ?_⟩
    split
    · exact hdata job
    · rfl

private theorem keeps_backgroundJob_updateMany {τ : Type} {part : Database App → τ}
    [OutsideJobs part] :
    Keeps part (backgroundJob.updateMany data selects : JobTransaction App _) := by
  intro db
  unfold backgroundJob.updateMany Ensures
  simp only [StateT.run]
  cases db.backgroundJobs.updateMany data selects with
  | error violation => trivial
  | ok result => exact OutsideJobs.backgroundJobs _ _

private theorem preserves_backgroundJob_createMany {row : BackgroundJob} :
    Preserves I (backgroundJob.createMany row : JobTransaction App _) := by
  intro db h
  unfold backgroundJob.createMany Ensures
  simp only [StateT.run]
  cases hresult : db.backgroundJobs.createSkippingDuplicates row with
  | error violation => trivial
  | ok result =>
    refine StableUnderJobs.backgroundJobs _ _ (fun job hjob => ⟨job, ?_, rfl⟩) h
    exact Table.rows_subset_of_createSkippingDuplicates hresult hjob

private theorem preserves_jobAttempt_create {row : JobAttempt} :
    Preserves I (jobAttempt.create row : JobTransaction App _) := by
  intro db h
  unfold jobAttempt.create Ensures
  simp only [StateT.run]
  cases db.jobAttempts.create row with
  | error violation => trivial
  | ok result => exact StableUnderJobs.jobAttempts _ _ h

private theorem preserves_jobAttempt_updateMany {data : JobAttempt → JobAttempt}
    {selects : JobAttempt → Bool} :
    Preserves I (jobAttempt.updateMany data selects : JobTransaction App _) := by
  intro db h
  unfold jobAttempt.updateMany Ensures
  simp only [StateT.run]
  cases db.jobAttempts.updateMany data selects with
  | error violation => trivial
  | ok result => exact StableUnderJobs.jobAttempts _ _ h

private theorem preserves_jobOutbox_updateMany {data : JobOutbox → JobOutbox}
    {selects : JobOutbox → Bool} :
    Preserves I (jobOutbox.updateMany data selects : JobTransaction App _) := by
  intro db h
  unfold jobOutbox.updateMany Ensures
  simp only [StateT.run]
  cases db.jobOutbox.updateMany data selects with
  | error violation => trivial
  | ok result => exact StableUnderJobs.jobOutbox _ _ h

private theorem preserves_jobOutbox_create {row : JobOutbox} :
    Preserves I (jobOutbox.create row : JobTransaction App _) := by
  intro db h
  unfold jobOutbox.create Ensures
  simp only [StateT.run]
  cases db.jobOutbox.create row with
  | error violation => trivial
  | ok result => exact StableUnderJobs.jobOutbox _ _ h

private theorem preserves_jobOutbox_createMany {row : JobOutbox} :
    Preserves I (jobOutbox.createMany row : JobTransaction App _) := by
  intro db h
  unfold jobOutbox.createMany Ensures
  simp only [StateT.run]
  cases db.jobOutbox.createSkippingDuplicates row with
  | error violation => trivial
  | ok result => exact StableUnderJobs.jobOutbox _ _ h

private theorem preserves_auditEvent_create {row : AuditEvent} :
    Preserves I (auditEvent.create row : JobTransaction App _) := by
  intro db h
  unfold auditEvent.create Ensures
  simp only [StateT.run]
  cases db.auditEvents.create row with
  | error violation => trivial
  | ok result => exact StableUnderJobs.auditEvents _ _ h

/-! ### Transactions -/

theorem preserves_enqueueBackgroundJobInTransaction {context : WorkspaceContext}
    {input : EnqueueBackgroundJobInput} {jobId outboxId : String} :
    Preserves I
      (enqueueBackgroundJobInTransaction context input jobId outboxId : JobTransaction App _) := by
  unfold enqueueBackgroundJobInTransaction
  split
  · exact preserves_raise
  · refine .rethrow (.bind preserves_read fun clock => .bind preserves_backgroundJob_createMany
      fun _ => .bind preserves_read fun found => ?_)
    split
    · exact preserves_raise
    · split
      · exact preserves_raise
      · exact .bind preserves_jobOutbox_createMany fun _ => preserves_pure

private theorem preserves_commitResult [StableUnderApp I] (effects : List (CommitEffect App)) :
    Preserves I (commitResult effects) := by
  induction effects with
  | nil => exact preserves_pure
  | cons effect effects ih =>
    refine .bind ?_ fun _ => ih
    cases effect with
    | write update =>
      intro db h
      unfold CommitEffect.run Ensures
      simp only [StateT.run]
      cases update db with
      | none => trivial
      | some app => exact StableUnderApp.app _ _ h
    | enqueue context input jobId outboxId =>
      exact .bind preserves_enqueueBackgroundJobInTransaction fun _ => preserves_pure

private theorem preserves_jobOutbox_upsert {k : String} {create : JobOutbox}
    {update : JobOutbox → JobOutbox} :
    Preserves I (jobOutbox.upsert k create update : JobTransaction App _) := by
  refine .bind preserves_read fun found => ?_
  split
  · exact .bind preserves_jobOutbox_updateMany fun _ => preserves_pure
  · exact preserves_jobOutbox_create

section Transactions

variable {context : WorkspaceContext} {prepared : PreparedOperation} {job : BackgroundJob}
  {jobId workspaceId leaseId correlationId outboxId auditId : String} {now : ℤ}
  {principal : SessionPrincipal}

private theorem preserves_claimBackgroundJob {leaseDurationMs : Option ℤ} {attemptId : String} :
    Preserves I (claimBackgroundJob context jobId leaseDurationMs now leaseId attemptId :
      JobTransaction App _) := by
  unfold claimBackgroundJob
  dsimp only
  split
  · exact preserves_raise
  · refine .rethrow (.bind preserves_read fun found => ?_)
    split
    · exact preserves_pure
    · refine .ite preserves_pure (.ite preserves_pure (.bind preserves_assertJobTransition fun _ =>
        .bind (preserves_backgroundJob_updateMany fun _ => rfl) fun _ => .ite preserves_pure ?_))
      exact .bind preserves_jobAttempt_create fun _ => preserves_pure

private theorem preserves_updateActiveAttempt {data : HolderUpdate}
    (hdata : ∀ job, (data.jobData job).identity = job.identity) :
    Preserves I (updateActiveAttempt context jobId leaseId data :
      JobTransaction App _) :=
  .rethrow (.bind (preserves_backgroundJob_updateMany hdata) fun _ =>
    .bind preserves_jobAttempt_updateMany fun _ => .ite preserves_raise preserves_pure)

private theorem preserves_throwIfBackgroundJobCancellationRequested :
    Preserves I (throwIfBackgroundJobCancellationRequested context jobId leaseId now :
      JobTransaction App _) := by
  refine .rethrow (.bind preserves_read fun found => ?_)
  split
  · exact preserves_raise
  · refine .ite preserves_pure (.bind preserves_assertJobTransition fun _ =>
      .bind (preserves_backgroundJob_updateMany fun _ => rfl) fun _ => .ite preserves_raise
        (.bind preserves_jobAttempt_updateMany fun _ => .ite preserves_raise ?_))
    exact .bind preserves_jobOutbox_updateMany fun _ => preserves_pure

private theorem preserves_recoverExpiredBackgroundJobLease {audit : Option String} :
    Preserves I (recoverExpiredBackgroundJobLease context jobId now audit auditId :
      JobTransaction App _) := by
  have houtbox : ∀ job, Preserves I (recoverOutbox job now : JobTransaction App _) :=
    fun job => .ite (.bind preserves_jobOutbox_updateMany fun _ => preserves_pure)
      (.ite (.bind preserves_jobOutbox_updateMany fun _ => preserves_pure) preserves_pure)
  have haudit : ∀ job correlationId, Preserves I
      (auditRecovery job now correlationId auditId : JobTransaction App _) := by
    intro job correlationId
    unfold auditRecovery
    split
    · exact preserves_pure
    · exact preserves_auditEvent_create
  refine .ite preserves_raise (.rethrow (.bind preserves_read fun found => ?_))
  split
  · exact preserves_pure
  · split
    · exact preserves_pure
    · exact .bind preserves_assertJobTransition fun _ =>
        .bind (preserves_backgroundJob_updateMany fun _ => rfl) fun _ => .ite preserves_pure
          (.bind preserves_jobAttempt_updateMany fun _ => .ite preserves_raise
            (.bind (houtbox _) fun _ => .bind (haudit _ _) fun _ => preserves_pure))

private theorem preserves_commitJobSuccess [StableUnderApp I] {result : List (CommitEffect App)} :
    Preserves I (commitJobSuccess context jobId leaseId result now) :=
  .bind preserves_assertJobTransition fun _ =>
    .rethrow (.bind (preserves_backgroundJob_updateMany fun _ => rfl) fun _ => .ite preserves_raise
      (.bind (preserves_commitResult result) fun _ =>
        .bind preserves_jobAttempt_updateMany fun _ => .ite preserves_raise preserves_pure))

private theorem preserves_commitJobFailure {failure : JobFailure} {decision : JobRetryDecision} :
    Preserves I (commitJobFailure context jobId leaseId failure decision now :
      JobTransaction App _) :=
  .bind preserves_assertJobTransition fun _ =>
    .rethrow (.bind (preserves_backgroundJob_updateMany fun _ => rfl) fun _ => .ite preserves_raise
      (.bind preserves_jobAttempt_updateMany fun _ => .ite preserves_raise preserves_pure))

private theorem preserves_auditAndReturn {actor : InternalUser} {result : JobOperationResult} :
    Preserves I
      (auditAndReturn actor prepared action auditId result : JobTransaction App _) :=
  .bind preserves_auditEvent_create fun _ => preserves_pure

private theorem preserves_authoriseOperation :
    Preserves I (authoriseOperation prepared action now auditId :
      JobTransaction App _) := by
  refine .bind preserves_read fun found => ?_
  split
  · exact preserves_pure
  · exact .ite (.bind preserves_auditAndReturn fun _ => preserves_pure) (.bind preserves_read fun _ =>
      .ite (.bind preserves_auditAndReturn fun _ => preserves_pure) preserves_pure)

private theorem preserves_cancelFoundJob :
    Preserves I (cancelFoundJob prepared job now : JobTransaction App _) := by
  have houtbox : Preserves I (cancelOutbox job.id now : JobTransaction App _) :=
    .bind preserves_jobOutbox_updateMany fun _ => preserves_pure
  exact .ite preserves_pure (.ite
    (.bind preserves_assertJobTransition fun _ => .bind (preserves_backgroundJob_updateMany fun _ => rfl)
      fun _ => .ite preserves_pure (.bind houtbox fun _ => preserves_pure))
    (.ite (.ite preserves_pure (.bind (preserves_backgroundJob_updateMany fun _ => rfl)
      fun _ => .ite preserves_pure (.bind houtbox fun _ => preserves_pure))) preserves_pure))

private theorem preserves_command {answer : BackgroundJob →
    JobTransaction App JobOperationResult} (h : ∀ job, Preserves I (answer job)) :
    Preserves I (do
      match ← authoriseOperation prepared action now auditId with
      | .denied result => pure result
      | .allowed actor => do
        match ← findOperatedJob prepared actor with
        | none => auditAndReturn actor prepared action auditId ⟨.notFound, "JOB_NOT_FOUND"⟩
        | some job => do
          let result ← answer job
          auditAndReturn actor prepared action auditId result : JobTransaction App _) := by
  refine .bind preserves_authoriseOperation fun guard => ?_
  split
  · exact preserves_pure
  · refine .bind (.ite preserves_read preserves_pure) fun found => ?_
    split
    · exact preserves_auditAndReturn
    · exact .bind (h _) fun _ => preserves_auditAndReturn

private theorem preserves_cancelBackgroundJob {reasonCode : String} :
    Preserves I (cancelBackgroundJob correlationId principal jobId reasonCode now auditId :
      JobTransaction App _) := by
  unfold cancelBackgroundJob
  split
  · exact preserves_raise
  · exact preserves_command fun job => preserves_cancelFoundJob

private theorem preserves_retryFoundJob [StableUnderAnalyses I] :
    Preserves I (retryFoundJob callbacks prepared job now outboxId :
      JobTransaction App _) := by
  have hrequeue : Preserves I (requeueFailedJob prepared job now outboxId :
      JobTransaction App _) :=
    .ite preserves_pure (.bind preserves_assertJobTransition fun _ =>
      .bind (preserves_backgroundJob_updateMany fun _ => rfl) fun _ => .ite preserves_pure
        (.bind preserves_analysisJob_updateMany fun _ => .bind preserves_read fun _ =>
          .bind preserves_jobOutbox_upsert fun _ => preserves_pure))
  refine .ite (.bind preserves_read fun found => ?_) (.ite preserves_pure (.ite preserves_pure
    (.bind preserves_read fun _ => .bind preserves_orThrow fun _ => .ite preserves_pure
      (.bind preserves_read fun _ => .bind preserves_orThrow fun _ =>
        .ite (.ite preserves_pure preserves_raise) hrequeue))))
  split
  · exact preserves_pure
  · exact preserves_pure

private theorem preserves_retryBackgroundJob [StableUnderAnalyses I]
    {reasonCode : String} :
    Preserves I (retryBackgroundJob callbacks correlationId principal jobId reasonCode now
      outboxId auditId) := by
  unfold retryBackgroundJob
  split
  · exact preserves_raise
  · exact preserves_command fun job => preserves_retryFoundJob

private theorem preserves_resetOutbox :
    Preserves I (resetOutbox job now outboxId : JobTransaction App _) :=
  .bind preserves_read fun _ => preserves_jobOutbox_upsert

private theorem preserves_requeueDueRetry :
    Preserves I (requeueDueRetry jobId workspaceId correlationId now outboxId auditId :
      JobTransaction App _) := by
  refine .bind preserves_read fun found => ?_
  split
  · exact preserves_pure
  · exact .bind preserves_assertJobTransition fun _ =>
      .bind (preserves_backgroundJob_updateMany fun _ => rfl) fun _ => .ite preserves_pure
        (.bind preserves_resetOutbox fun _ => .bind preserves_auditEvent_create
          fun _ => preserves_pure)

private theorem preserves_requeueStrandedDelivery :
    Preserves I (requeueStrandedDelivery jobId workspaceId correlationId now outboxId
      auditId : JobTransaction App _) := by
  refine .bind preserves_read fun found => ?_
  split
  · exact preserves_pure
  · exact .bind (preserves_backgroundJob_updateMany fun _ => rfl) fun _ => .ite preserves_pure
      (.bind preserves_resetOutbox fun _ => .bind preserves_auditEvent_create
        fun _ => preserves_pure)

private theorem preserves_repairMissingOutbox :
    Preserves I (repairMissingOutbox jobId workspaceId correlationId now outboxId auditId :
      JobTransaction App _) := by
  refine .bind preserves_read fun found => ?_
  split
  · exact preserves_pure
  · exact .bind preserves_read fun _ => .bind preserves_jobOutbox_create fun _ =>
      .bind preserves_auditEvent_create fun _ => preserves_pure

private theorem preserves_repairCommittedResult :
    Preserves I (repairCommittedResult jobId workspaceId correlationId now auditId :
      JobTransaction App _) := by
  have hattempt : ∀ leaseId, Preserves I
      (repairAttempt leaseId workspaceId now : JobTransaction App _) := by
    intro leaseId
    unfold repairAttempt
    split
    · exact preserves_pure
    · exact .bind preserves_jobAttempt_updateMany fun _ => .ite preserves_raise preserves_pure
  refine .bind preserves_read fun found => ?_
  split
  · exact preserves_pure
  · exact .bind (preserves_backgroundJob_updateMany fun _ => rfl) fun _ => .ite preserves_pure
      (.bind (hattempt _) fun _ =>
        .bind (.bind preserves_jobOutbox_updateMany fun _ => preserves_pure) fun _ =>
          .bind preserves_auditEvent_create fun _ => preserves_pure)

end Transactions

end Statements

/-! ### The reset of a retry -/

/-- The analysis jobs of a job that is retried get their repair back. -/
def resetRepairs (jobId workspaceId : String) (rows : List AnalysisJob) : List AnalysisJob :=
  rows.map fun row =>
    if row.backgroundJobId == jobId && row.workspaceId == workspaceId then
      { row with repairAttempted := false }
    else row

/-- What a retry with an answer does to the analysis jobs. -/
def RetryResets (jobId : String) (rows rows' : List AnalysisJob) (result : JobOperationResult) :
    Prop :=
  (result.outcome ≠ .retryQueued ∧ rows' = rows) ∨
    (result.outcome = .retryQueued ∧ ∃ workspaceId, rows' = resetRepairs jobId workspaceId rows)

section Reset

variable {db db' : Database App} {prepared : PreparedOperation} {job : BackgroundJob} {now : ℤ}
  {jobId outboxId auditId : String} {rows : List AnalysisJob} {result : JobOperationResult}

private theorem RetryResets.of_not (hanswer : result.outcome ≠ .retryQueued)
    (hsame : db'.analysisJobs = rows) : RetryResets jobId rows db'.analysisJobs result :=
  .inl ⟨hanswer, hsame⟩

private theorem ensures_bind_of_keeps {β γ : Type} {body : JobTransaction App β}
    {next : β → JobTransaction App γ} {post : γ → Database App → Prop}
    (h : Keeps Database.analysisJobs body) (hrows : db.analysisJobs = rows)
    (hnext : ∀ value db', db'.analysisJobs = rows → (next value).Ensures post (fun _ => True) db') :
    (body >>= next).Ensures post (fun _ => True) db := by
  apply h.ensures_bind
  intro value db' hsame
  exact hnext value db' (hsame.trans hrows)

private theorem ensures_requeueFailedJob_resets (hrows : db.analysisJobs = rows) :
    (requeueFailedJob prepared job now outboxId : JobTransaction App _).Ensures
      (fun result db' => RetryResets job.id rows db'.analysisJobs result) (fun _ => True) db := by
  unfold requeueFailedJob
  dsimp only
  split
  · exact RetryResets.of_not (by simp) hrows
  · apply ensures_bind_of_keeps (keeps_of_preserves fun _ => preserves_assertJobTransition) hrows
    intro _ db₁ hassert
    apply ensures_bind_of_keeps keeps_backgroundJob_updateMany hassert
    intro updated db₂ hupdate
    split
    · exact RetryResets.of_not (by simp) hupdate
    · rw [ensures_bind]
      -- the update of the analysis jobs is the only one on the way to the answer
      show Ensures _ _ _
        (db₂.setAnalysisJobs (resetRepairs job.id job.workspaceId db₂.analysisJobs))
      rw [hupdate]
      apply ensures_bind_of_keeps keeps_read rfl
      intro clock db₃ hread
      apply ensures_bind_of_keeps (keeps_of_preserves fun _ => preserves_jobOutbox_upsert) hread
      intro _ db₄ hupsert
      exact .inr ⟨rfl, job.workspaceId, hupsert⟩

private theorem ensures_retryFoundJob_resets (hrows : db.analysisJobs = rows) :
    (retryFoundJob callbacks prepared job now outboxId).Ensures
      (fun result db' => RetryResets job.id rows db'.analysisJobs result) (fun _ => True) db := by
  unfold retryFoundJob
  split
  · apply ensures_bind_of_keeps keeps_read hrows
    intro found db₁ hread
    cases found with
    | none => exact RetryResets.of_not (by simp) hread
    | some event => exact RetryResets.of_not (by simp) hread
  split
  · exact RetryResets.of_not (by simp) hrows
  split
  · exact RetryResets.of_not (by simp) hrows
  apply ensures_bind_of_keeps keeps_read hrows
  intro resultExists db₁ hread
  apply ensures_bind_of_keeps (keeps_of_preserves fun _ => preserves_orThrow) hread
  intro existing db₂ hexisting
  split
  · exact RetryResets.of_not (by simp) hexisting
  apply ensures_bind_of_keeps keeps_read hexisting
  intro answer db₃ hanswer
  apply ensures_bind_of_keeps (keeps_of_preserves fun _ => preserves_orThrow) hanswer
  intro prerequisite db₄ hprerequisite
  dsimp only
  split
  · split
    · exact RetryResets.of_not (by simp) hprerequisite
    · trivial
  · exact ensures_requeueFailedJob_resets hprerequisite

private theorem ensures_auditAndReturn_resets {actor : InternalUser}
    (h : RetryResets jobId rows db.analysisJobs result) :
    (auditAndReturn actor prepared action auditId result : JobTransaction App _).Ensures
      (fun result db' => RetryResets jobId rows db'.analysisJobs result) (fun _ => True) db := by
  apply ensures_bind_of_keeps (keeps_of_preserves fun _ => preserves_auditEvent_create) rfl
  intro _ db' hsame
  show RetryResets jobId rows db'.analysisJobs result
  rw [hsame]
  exact h

/-- Whoever is denied has retried nothing. -/
theorem ensures_authoriseOperation_resets (hrows : db.analysisJobs = rows) :
    (authoriseOperation prepared action now auditId : JobTransaction App _).Ensures
      (fun guard db' => db'.analysisJobs = rows ∧
        ∀ result, guard = .denied result → result.outcome ≠ .retryQueued) (fun _ => True) db := by
  have hdeny : ∀ actor (result : JobOperationResult) (db : Database App),
      db.analysisJobs = rows → result.outcome ≠ .retryQueued →
      (do let result ← auditAndReturn actor prepared action auditId result
          pure (OperationGuard.denied result) : JobTransaction App _).Ensures
        (fun guard db' => db'.analysisJobs = rows ∧
          ∀ result, guard = .denied result → result.outcome ≠ .retryQueued)
        (fun _ => True) db := by
    intro actor result db hrows houtcome
    unfold auditAndReturn
    rw [ensures_bind]
    apply ensures_bind_of_keeps (keeps_of_preserves fun _ => preserves_auditEvent_create) hrows
    intro _ db' hsame
    refine ⟨hsame, ?_⟩
    rintro other ⟨⟩
    exact houtcome
  unfold authoriseOperation
  apply ensures_bind_of_keeps keeps_read hrows
  intro found db₁ hread
  cases found with
  | none =>
    refine ⟨hread, ?_⟩
    rintro result ⟨⟩
    simp
  | some actor =>
    dsimp only
    split
    · exact hdeny _ _ _ hread (by simp)
    · apply ensures_bind_of_keeps keeps_read hread
      intro recent db₂ hrecent
      split
      · exact hdeny _ _ _ hrecent (by simp)
      · exact ⟨hrecent, by simp⟩

private theorem ensures_findOperatedJob_resets {actor : InternalUser}
    (hrows : db.analysisJobs = rows) :
    (findOperatedJob prepared actor : JobTransaction App _).Ensures
      (fun found db' => db'.analysisJobs = rows ∧
        ∀ job, found = some job → job.id = prepared.jobId) (fun _ => True) db := by
  unfold findOperatedJob
  split
  · refine ⟨hrows, ?_⟩
    intro job hfound
    have hselected := List.find?_some hfound
    simp only [Bool.and_eq_true, beq_iff_eq] at hselected
    exact hselected.1
  · exact ⟨hrows, by simp⟩

/-- **The reset rule.** An operator's retry resets the analysis jobs of its job exactly
when it is accepted. -/
theorem ensures_retryBackgroundJob_resets
    {correlationId reasonCode : String} {principal : SessionPrincipal} :
    (retryBackgroundJob callbacks correlationId principal jobId reasonCode now outboxId
      auditId).Ensures
      (fun result db' => RetryResets jobId db.analysisJobs db'.analysisJobs result)
      (fun _ => True) db := by
  unfold retryBackgroundJob
  split
  · trivial
  · next prepared hprepared =>
    have hjobId : prepared.jobId = jobId := by
      unfold prepareOperation at hprepared
      split at hprepared
      · cases hprepared
      · split at hprepared <;> cases hprepared
        rfl
    rw [ensures_bind]
    refine (ensures_authoriseOperation_resets rfl).mono ?_ fun _ _ => trivial
    rintro guard db₁ ⟨hguard, hdenied⟩
    cases guard with
    | denied result => exact RetryResets.of_not (hdenied result rfl) hguard
    | allowed actor =>
      rw [ensures_bind]
      refine (ensures_findOperatedJob_resets hguard).mono ?_ fun _ _ => trivial
      rintro found db₂ ⟨hfind, hfound⟩
      cases found with
      | none => exact ensures_auditAndReturn_resets (RetryResets.of_not (by simp) hfind)
      | some job =>
        rw [ensures_bind]
        refine (ensures_retryFoundJob_resets hfind).mono ?_ fun _ _ => trivial
        intro result db₃ hresets
        rw [hfound job rfl, hjobId] at hresets
        exact ensures_auditAndReturn_resets hresets

end Reset

/-! ### Calls -/

namespace Call

-- each transaction has its rule; the rule of calls unfolds none of them
seal enqueueBackgroundJobInTransaction ContentAutomation.claimBackgroundJob
  throwIfBackgroundJobCancellationRequested updateActiveAttempt
  recoverExpiredBackgroundJobLease ContentAutomation.commitJobSuccess
  ContentAutomation.commitJobFailure ContentAutomation.cancelBackgroundJob
  ContentAutomation.retryBackgroundJob ContentAutomation.requeueDueRetry
  ContentAutomation.requeueStrandedDelivery ContentAutomation.repairMissingOutbox
  ContentAutomation.repairCommittedResult in
/-- **The frame of the job framework.** A call keeps what is stable under the statements on the
tables of the jobs, and under those that are written by the call. -/
theorem preserves [StableUnderJobs I] (call : Call App α)
    (hanalyses : call.writesAnalyses → StableUnderAnalyses I)
    (happ : call.writesApp → StableUnderApp I) : Preserves I call.body := by
  cases call with
  | skip => exact preserves_pure
  | loadOwnedJob | scan => exact preserves_read
  | resultExists => exact .rethrow (.bind preserves_read fun _ => preserves_orThrow)
  | inspectResult => exact .bind preserves_read fun _ => preserves_orThrow
  | enqueueBackgroundJob => exact .rethrow preserves_enqueueBackgroundJobInTransaction
  | application effects =>
    have := happ rfl
    exact preserves_commitResult effects
  | claimBackgroundJob => exact preserves_claimBackgroundJob
  | throwIfCancellationRequested => exact preserves_throwIfBackgroundJobCancellationRequested
  | heartbeat => exact .ite preserves_raise (preserves_updateActiveAttempt fun _ => rfl)
  | recordStage =>
    rw [body]
    unfold recordBackgroundJobStage
    split
    · exact preserves_updateActiveAttempt fun _ => rfl
    · exact preserves_raise
  | makeRetryDue =>
    exact .bind preserves_assertJobTransition fun _ =>
      .rethrow (.bind (preserves_backgroundJob_updateMany fun _ => rfl) fun _ => preserves_pure)
  | recoverExpiredLease => exact preserves_recoverExpiredBackgroundJobLease
  | commitJobSuccess =>
    have := happ rfl
    exact preserves_commitJobSuccess
  | commitJobFailure => exact preserves_commitJobFailure
  | cancelBackgroundJob => exact preserves_cancelBackgroundJob
  | retryBackgroundJob =>
    have := hanalyses rfl
    exact preserves_retryBackgroundJob
  | requeueDueRetry => exact preserves_requeueDueRetry
  | requeueStrandedDelivery => exact preserves_requeueStrandedDelivery
  | repairMissingOutbox => exact preserves_repairMissingOutbox
  | repairCommittedResult => exact preserves_repairCommittedResult
  | flagAmbiguousJob =>
    exact .bind (preserves_backgroundJob_updateMany fun _ => rfl) fun _ => .ite preserves_pure
      (.bind preserves_auditEvent_create fun _ => preserves_pure)
  | auditServiceOutcome => exact .ite preserves_raise preserves_auditEvent_create
  | leasePendingOutbox =>
    exact .rethrow (.bind preserves_read fun _ => .bind preserves_jobOutbox_updateMany
      fun _ => preserves_read)
  | markOutboxDispatched =>
    exact .rethrow (.bind preserves_jobOutbox_updateMany fun _ =>
      .ite (.bind (preserves_backgroundJob_updateMany fun _ => rfl) fun _ => .ite preserves_raise preserves_pure)
        preserves_pure)
  | releaseOutbox => exact .bind preserves_jobOutbox_updateMany fun _ => preserves_pure

theorem keeps [OutsideJobs part] (call : Call App α)
    (hanalyses : call.writesAnalyses → OutsideAnalyses part)
    (happ : call.writesApp → OutsideApp part) : Keeps part call.body := by
  refine keeps_of_preserves fun value => call.preserves (fun hwrites => ?_) fun hwrites => ?_
  · have := hanalyses hwrites
    infer_instance
  · have := happ hwrites
    infer_instance

end Call

/-! ### Steps -/

/-- **The rule of results.** What every write of a result does to the tables of the
application, the whole result does, and nothing else. -/
theorem ensures_commitResult_rel (hrefl : ∀ app, R app app)
    (htrans : ∀ {app app' app''}, R app app' → R app' app'' → R app app'')
    {db : Database App}
    (hwrites : ∀ update, CommitEffect.write update ∈ effects →
      ∀ db app, update db = some app → R db.app app) :
    (commitResult effects).Ensures
      (fun _ db' => db'.analysisJobs = db.analysisJobs ∧ R db.app db'.app) (fun _ => True) db := by
  induction effects generalizing db with
  | nil => exact ⟨rfl, hrefl _⟩
  | cons effect effects ih =>
    have hrest : ∀ db' : Database App, db'.analysisJobs = db.analysisJobs → R db.app db'.app →
        (commitResult effects).Ensures
          (fun _ db'' => db''.analysisJobs = db.analysisJobs ∧ R db.app db''.app)
          (fun _ => True) db' := by
      intro db' hsame hrel
      refine (ih fun update hmem => hwrites update (List.mem_cons_of_mem _ hmem)).mono ?_
        fun _ _ => trivial
      rintro _ db'' ⟨hsame', hrel'⟩
      exact ⟨hsame'.trans hsame, htrans hrel hrel'⟩
    show (effect.run >>= fun _ => commitResult effects).Ensures _ _ _
    cases effect with
    | write update =>
      rw [ensures_bind]
      unfold CommitEffect.run Ensures
      simp only [StateT.run]
      cases hupdate : update db with
      | none => trivial
      | some app => exact hrest _ rfl (hwrites update List.mem_cons_self db app hupdate)
    | enqueue context input jobId outboxId =>
      have hkeeps : Keeps Database.contents
          (CommitEffect.enqueue context input jobId outboxId : CommitEffect App).run :=
        .bind (keeps_of_preserves fun _ => preserves_enqueueBackgroundJobInTransaction)
            fun _ => keeps_pure
      apply hkeeps.ensures_bind
      intro _ db' hsame
      obtain ⟨hanalyses, happ⟩ := Prod.mk.inj hsame
      apply hrest db' hanalyses
      rw [happ]
      exact hrefl _

/-- **The rule of commits.** -/
theorem ensures_commitJobSuccess_rel (hrefl : ∀ app, R app app)
    (htrans : ∀ {app app' app''}, R app app' → R app' app'' → R app app'')
    {db : Database App} {context : WorkspaceContext}
    {jobId leaseId : String} {now : ℤ}
    (hwrites : ∀ update, CommitEffect.write update ∈ effects →
      ∀ db app, update db = some app → R db.app app) :
    (commitJobSuccess context jobId leaseId effects now).Ensures
      (fun _ db' => db'.analysisJobs = db.analysisJobs ∧ R db.app db'.app) (fun _ => True) db := by
  unfold commitJobSuccess
  apply Keeps.ensures_bind
    (keeps_of_preserves fun _ => preserves_assertJobTransition : Keeps Database.contents _)
  intro _ db₁ hassert
  rw [ensures_rethrow]
  apply Keeps.ensures_bind (keeps_backgroundJob_updateMany : Keeps Database.contents _)
  intro updated db₂ hupdate
  obtain ⟨hanalyses, happ⟩ := Prod.mk.inj (hupdate.trans hassert)
  split
  · trivial
  · rw [ensures_bind]
    refine (ensures_commitResult_rel hrefl htrans hwrites).mono ?_ fun _ _ => trivial
    rintro _ db₃ ⟨hsame, hrel⟩
    rw [hanalyses] at hsame
    rw [happ] at hrel
    apply Keeps.ensures_bind
      (keeps_of_preserves fun _ => preserves_jobAttempt_updateMany : Keeps Database.contents _)
    intro attempt db₄ hattempt
    obtain ⟨hanalyses', happ'⟩ := Prod.mk.inj hattempt
    split
    · trivial
    · refine ⟨hanalyses'.trans hsame, ?_⟩
      show R db.app db₄.app
      rw [happ']
      exact hrel

/-- The event lets the rest of the application write. -/
def Event.isWrite : Event App → Bool
  | .write .. => true
  | .command (.application _) => true
  | _ => false

namespace System

variable {environment : Environment App} {s t : System App} {event : Event App}
  {result : List (CommitEffect App)} {delivery : Delivery} {claim : JobClaim}

/-- The job of a retry, if the answer is that it has been accepted. -/
def acceptedJob (jobId : String) : Except JobError JobOperationResult → Option String
  | .ok result => if result.outcome = .retryQueued then some jobId else none
  | .error _ => none

/-- The job that an operator's retry, accepted by the event, is about. -/
def accepts (environment : Environment App) (s : System App) : Event App → Option String
  | .command (.retry correlationId principal jobId reasonCode now outboxId auditId) =>
    acceptedJob jobId (s.perform (.retryBackgroundJob environment.retryCallbacks correlationId
      principal jobId reasonCode now outboxId auditId)).1
  | _ => none

private theorem contents_perform (call : Call App α) (hanalyses : call.writesAnalyses = false)
    (happ : call.writesApp = false) : (s.perform call).2.db.contents = s.db.contents := by
  have hkeeps : Keeps Database.contents call.body :=
    call.keeps (fun h => absurd h (by simp [hanalyses])) fun h => absurd h (by simp [happ])
  have hcommit := hkeeps.commit s.db
  unfold perform
  generalize call.body.commit s.db = result at hcommit
  obtain ⟨answer, db⟩ := result
  cases answer <;> exact hcommit

private theorem contents_of_resets {jobId : String} {call : Call App JobOperationResult}
    (hrule : call.body.Ensures (fun result db' =>
      RetryResets jobId s.db.analysisJobs db'.analysisJobs result ∧ db'.app = s.db.app)
      (fun _ => True) s.db) :
    (acceptedJob jobId (s.perform call).1 = none ∧
        (s.perform call).2.db.contents = s.db.contents) ∨
      ∃ workspaceId, acceptedJob jobId (s.perform call).1 = some jobId ∧
        (s.perform call).2.db.app = s.db.app ∧
        (s.perform call).2.db.analysisJobs =
          resetRepairs jobId workspaceId s.db.analysisJobs := by
  rcases perform_cases hrule with ⟨result, db', ⟨hresets, happ⟩, hresult⟩ | ⟨error, -, hresult⟩
  · rw [hresult]
    rcases hresets with ⟨hrefused, hsame⟩ | ⟨haccepted, workspaceId, hreset⟩
    · exact .inl ⟨if_neg hrefused, Prod.ext hsame happ⟩
    · exact .inr ⟨workspaceId, if_pos haccepted, happ, hreset⟩
  · rw [hresult]
    exact .inl ⟨rfl, rfl⟩

seal ContentAutomation.retryBackgroundJob in
private theorem ensures_call_retry_resets {db : Database App}
    {correlationId jobId reasonCode outboxId auditId : String} {principal : SessionPrincipal}
    {now : ℤ} :
    (Call.retryBackgroundJob callbacks correlationId principal jobId reasonCode now outboxId
      auditId).body.Ensures (fun result db' =>
        RetryResets jobId db.analysisJobs db'.analysisJobs result ∧ db'.app = db.app)
      (fun _ => True) db :=
  (ensures_retryBackgroundJob_resets.and (keeps_of_preserves (fun _ => preserves_retryBackgroundJob) db)).mono
    (fun _ _ h => h) fun _ _ => trivial

seal ContentAutomation.commitJobSuccess in
/-- What every write of a result does to the tables of the application, its commit does. -/
theorem contents_commit (hrefl : ∀ app, R app app)
    (htrans : ∀ {app app' app''}, R app app' → R app' app'' → R app app'')
    {context : WorkspaceContext} {jobId leaseId : String}
    {now : ℤ}
    (hwrites : ∀ update, CommitEffect.write update ∈ result →
      ∀ db app, update db = some app → R db.app app) :
    (s.perform (.commitJobSuccess context jobId leaseId result now)).2.db.analysisJobs =
        s.db.analysisJobs ∧
      R s.db.app (s.perform (.commitJobSuccess context jobId leaseId result now)).2.db.app := by
  have hrule : (Call.commitJobSuccess context jobId leaseId result now).body.Ensures
      (fun _ db' => db'.analysisJobs = s.db.analysisJobs ∧ R s.db.app db'.app)
      (fun _ => True) s.db := ensures_commitJobSuccess_rel hrefl htrans hwrites
  rcases perform_cases hrule with ⟨answer, db', hpost, hresult⟩ | ⟨error, -, hresult⟩
  · rw [hresult]
    exact hpost
  · rw [hresult]
    exact ⟨rfl, hrefl _⟩

-- what a call makes of the database is known by its rule only
seal System.perform in
/-- **What a step writes of the contents**, unless it lets the rest of the application
write: nothing, the reset of an accepted retry, or the result that a handler commits. -/
theorem Step.contents_cases (hstep : Step environment s event t) (hwrite : event.isWrite = false) :
    (s.accepts environment event = none ∧ t.db.contents = s.db.contents) ∨
      (∃ jobId workspaceId, s.accepts environment event = some jobId ∧ t.db.app = s.db.app ∧
        t.db.analysisJobs = resetRepairs jobId workspaceId s.db.analysisJobs) ∨
      s.accepts environment event = none ∧ t.db.analysisJobs = s.db.analysisJobs ∧
        ∃ pid delivery claim result,
          s.processes pid = .handler ⟨delivery, .committing claim result⟩ ∧
          ∀ R : App → App → Prop, (∀ app, R app app) →
            (∀ {app app' app''}, R app app' → R app' app'' → R app app'') →
            (∀ update, CommitEffect.write update ∈ result →
              ∀ db app, update db = some app → R db.app app) → R s.db.app t.db.app := by
  cases event with
  | write => cases hwrite
  | tick elapsed =>
    cases hstep
    exact .inl ⟨rfl, rfl⟩
  | crash pid =>
    cases hstep
    exact .inl ⟨rfl, rfl⟩
  | spawn pid birth =>
    simp only [Step, step] at hstep
    split at hstep <;> cases hstep
    exact .inl ⟨rfl, rfl⟩
  | command command =>
    obtain ⟨-, rfl⟩ := hstep.of_command
    cases command with
    | application effects => cases hwrite
    | enqueue | recover | cancel => exact .inl ⟨rfl, contents_perform _ rfl rfl⟩
    | retry correlationId principal jobId reasonCode now outboxId auditId =>
      rcases contents_of_resets (ensures_call_retry_resets : (Call.retryBackgroundJob
          environment.retryCallbacks correlationId principal jobId reasonCode now outboxId
          auditId).body.Ensures _ _ s.db) with hsame | ⟨workspaceId, haccepted⟩
      · exact .inl hsame
      · exact .inr (.inl ⟨jobId, workspaceId, haccepted⟩)
  | advance pid input =>
    have hnone : s.accepts environment (.advance pid input) = none := rfl
    rw [hnone]
    simp only [Step, step] at hstep
    split at hstep
    · cases hstep
    · next intent hintent =>
      unfold System.runIntent at hstep
      split at hstep
      · simp only [Option.some.injEq] at hstep
        subst hstep
        rcases (Process.proposes hintent).app with happ | ⟨delivery, claim, result, hprocess⟩
        · refine .inl ⟨rfl, ?_⟩
          show (s.perform intent.call).2.db.contents = s.db.contents
          exact contents_perform _ (Process.proposes hintent).analyses happ
        · refine .inr (.inr ⟨rfl, ?_⟩)
          rw [hprocess] at hintent
          cases input with
          | handler input =>
            cases hintent
            refine ⟨?_, pid, delivery, claim, result, hprocess, ?_⟩
            · exact (contents_commit (R := fun _ _ => True) (fun _ => trivial)
                (fun _ _ => trivial) fun _ _ _ _ _ => trivial).1
            · intro R hrefl htrans hwrites
              exact (contents_commit hrefl htrans hwrites).2
          | callback | reconciler | dispatcher => cases hintent
      · cases hstep

private theorem start_ne_committing {birth : Birth} {process : Process App}
    (hstart : s.start birth = some process) :
    process ≠ .handler ⟨delivery, .committing claim result⟩ := by
  rintro rfl
  cases birth with
  | deliver => simp only [start] at hstart; split at hstart <;> cases hstart
  | callback => simp only [start] at hstart; split at hstart <;> cases hstart
  | reconcile =>
    simp only [start] at hstart
    split at hstart
    · cases hstart
    · split at hstart <;> cases hstart
  | dispatch => simp only [start] at hstart; split at hstart <;> cases hstart

private theorem after_committing {β : Type} {run : HandlerRun App} {next : β → HandlerPhase App}
    {answer : Except JobError β}
    (h : run.after next answer = .handler ⟨delivery, .committing claim result⟩) :
    run.delivery = delivery ∧ ∃ value, next value = .committing claim result := by
  cases answer with
  | error error => cases h
  | ok value =>
    obtain ⟨hdelivery, hphase⟩ := HandlerRun.mk.inj (Process.handler.inj h)
    exact ⟨hdelivery, value, hphase⟩

/-- A transaction after which a handler commits is the end of its work. -/
theorem resume_committing {run : HandlerRun App} {input : HandlerInput App} {intent : Intent App}
    (hintent : run.intent environment input = some intent) {answer : Except JobError intent.answer}
    (hresume : intent.resume answer = .handler ⟨delivery, .committing claim result⟩) :
    run = ⟨delivery, .executing claim⟩ ∧ input.outcome = .returned result := by
  obtain ⟨own, phase⟩ := run
  cases phase with
  | executing held =>
    cases hintent
    obtain ⟨rfl, value, hphase⟩ := after_committing hresume
    cases houtcome : input.outcome with
    | returned other =>
      rw [houtcome] at hphase
      cases hphase
      exact ⟨rfl, rfl⟩
    | threw failure =>
      rw [houtcome] at hphase
      cases failure <;> cases hphase
    | cancelled | abandoned =>
      rw [houtcome] at hphase
      cases hphase
  | loading =>
    cases hintent
    obtain ⟨-, value, hphase⟩ := after_committing hresume
    unfold afterLoad at hphase
    split at hphase
    · cases hphase
    · split at hphase <;> cases hphase
  | probing job =>
    cases hintent
    obtain ⟨-, value, hphase⟩ := after_committing hresume
    unfold afterProbe at hphase
    split_ifs at hphase
  | reloading =>
    cases hintent
    obtain ⟨-, value, hphase⟩ := after_committing hresume
    unfold afterReload at hphase
    split at hphase
    · cases hphase
    · split at hphase <;> cases hphase
  | claiming =>
    cases hintent
    obtain ⟨-, value, hphase⟩ := after_committing hresume
    unfold afterClaim at hphase
    split at hphase
    · cases hphase
    · split at hphase <;> cases hphase
  | checking held =>
    cases hintent
    obtain ⟨-, hphase⟩ := HandlerRun.mk.inj (Process.handler.inj hresume)
    unfold afterCheck at hphase
    split at hphase
    · cases hphase
    · cases hphase
    · split at hphase <;> cases hphase
  | releasing | committing held other | settling held failure =>
    cases hintent
    obtain ⟨-, value, hphase⟩ := after_committing hresume
    cases hphase
  | stopped => cases hintent

/-- A handler comes to its commit only from its work, with what the work has returned. -/
theorem Step.committing (hstep : Step environment s event t) {pid : ℕ}
    (hprocess : t.processes pid = .handler ⟨delivery, .committing claim result⟩) :
    s.processes pid = .handler ⟨delivery, .committing claim result⟩ ∨
      ∃ input, event = .advance pid (.handler input) ∧
        s.processes pid = .handler ⟨delivery, .executing claim⟩ ∧
        input.outcome = .returned result := by
  have hmoves := hstep.processMoves pid
  generalize hafter : t.processes pid = after at hmoves
  rw [hprocess] at hafter
  cases hmoves with
  | stays => exact .inl hafter.symm
  | starts hunused hstart ht => exact absurd hafter.symm (start_ne_committing hstart)
  | crashes => cases hafter
  | @advances input intent _ hintent henabled hdb =>
    obtain ⟨run, handlerInput, hrun, rfl⟩ := Process.handler_of_resume hintent hafter.symm
    rw [hrun] at hintent
    obtain ⟨rfl, houtcome⟩ := resume_committing hintent hafter.symm
    exact .inr ⟨handlerInput, rfl, hrun, houtcome⟩

end System

/-! ### Jobs stay -/

/-- A job of the identity is there. -/
def Database.HasJob (identity : JobIdentity) (db : Database App) : Prop :=
  ∃ job ∈ db.backgroundJobs.rows, job.identity = identity

section Jobs

variable {identity : JobIdentity}

instance : StableUnderJobs fun db : Database App => db.HasJob identity where
  backgroundJobs db t hjobs := by
    rintro ⟨job, hjob, rfl⟩
    exact hjobs job hjob
  jobAttempts _ _ h := h
  jobOutbox _ _ h := h
  auditEvents _ _ h := h

instance : StableUnderAnalyses fun db : Database App => db.HasJob identity := ⟨fun _ _ h => h⟩

instance : StableUnderApp fun db : Database App => db.HasJob identity := ⟨fun _ _ h => h⟩

namespace System

variable {environment : Environment App} {s t : System App} {event : Event App}

private theorem perform_of_preserves {call : Call App α} (hpreserves : Preserves I call.body)
    (h : I s.db) : I (s.perform call).2.db := by
  have hcommit := hpreserves.commit h
  unfold perform
  generalize call.body.commit s.db = result at hcommit
  obtain ⟨answer, db⟩ := result
  cases answer <;> exact hcommit

private theorem hasJob_perform (call : Call App α) (h : s.db.HasJob identity) :
    (s.perform call).2.db.HasJob identity :=
  perform_of_preserves (call.preserves (fun _ => inferInstance) fun _ => inferInstance) h

/-- **No step loses a job**, or changes what it was enqueued with. -/
theorem Step.hasJob (hstep : Step environment s event t) (h : s.db.HasJob identity) :
    t.db.HasJob identity := by
  cases event with
  | tick | write | crash =>
    cases hstep
    exact h
  | command command =>
    obtain ⟨-, rfl⟩ := hstep.of_command
    exact hasJob_perform _ h
  | spawn pid birth =>
    simp only [Step, step] at hstep
    split at hstep <;> cases hstep
    exact h
  | advance pid input =>
    simp only [Step, step, System.runIntent] at hstep
    split at hstep
    · cases hstep
    · split at hstep <;> cases hstep
      exact hasJob_perform _ h

end System

end Jobs

end ContentAutomation
