import ContentAutomation.Jobs.OperationRules

/-!
# Reconciliation

The repairs of `job-reconciliation.ts` and the scans that select the jobs they
are tried on. A scan is one read, and each repair is a later transaction that
checks again, though not always everything that the scan checked.
-/

namespace ContentAutomation

open Relational Transaction Database

variable {App : Type}

/-- `ReconciliationJob`. -/
structure ReconciliationJob where
  cancellationRequestedAt : Option ℤ
  id : String
  state : BackgroundJobState
  workspaceId : String

/-- The columns that a scan selects. -/
def BackgroundJob.toReconciliationJob (job : BackgroundJob) : ReconciliationJob where
  cancellationRequestedAt := job.cancellationRequestedAt
  id := job.id
  state := job.state
  workspaceId := job.workspaceId

/-- `JobResultInspection`. -/
inductive JobResultInspection
  | absent | present | unsupported

/-- The scans of a pass, in their order. -/
inductive ReconciliationScan
  | expired | dueRetries | strandedDelivery | missingOutbox | resultCandidates
  deriving DecidableEq

def defaultReconciliationBatchSize : ℤ := 50

def maximumReconciliationBatchSize : ℤ := 100

/-- The outbox row that a job is related to. -/
def Database.relatedOutbox (db : Database App) (job : BackgroundJob) : Option JobOutbox :=
  db.jobOutbox.findFirst fun outbox =>
    outbox.backgroundJobId == job.id && outbox.workspaceId == job.workspaceId

/-- The instant before which a dispatch counts as stranded. -/
def strandedBefore (now : ℤ) : ℤ := now - queueDeliveryExpirySeconds * 1000

/-- `state: "RETRY_SCHEDULED"` with a next attempt that is due. -/
def isRetryDue (now : ℤ) (job : BackgroundJob) : Bool :=
  isDue job.nextAttemptAt now && job.state == .retryScheduled

/-- A queued job without a lease whose live outbox row was dispatched by an
instant. -/
def isDeliveredBy (db : Database App) (dispatched : Option ℤ → Bool) (job : BackgroundJob) : Bool :=
  job.leaseId.isNone && job.state == .queued &&
    match db.relatedOutbox job with
    | none => false
    | some outbox => outbox.cancelledAt.isNone && dispatched outbox.dispatchedAt

/-- The condition of each scan. -/
def ReconciliationScan.selects (db : Database App) (now : ℤ) :
    ReconciliationScan → BackgroundJob → Bool
  | .expired => isLeaseExpired now
  | .dueRetries => isRetryDue now
  | .strandedDelivery => isDeliveredBy db fun dispatchedAt => isDue dispatchedAt (strandedBefore now)
  | .missingOutbox => fun job => (db.relatedOutbox job).isNone && job.state == .queued
  | .resultCandidates => fun _ => true

/-- A due retry as the reconciler returns it to the queue. -/
def requeuedRetryJob (now : ℤ) (row : BackgroundJob) : BackgroundJob :=
  { row with
    dispatchStatus := .pending
    nextAttemptAt := none
    queuedAt := now
    stage := "queued"
    state := .queued
    version := row.version + 1 }

/-- `resetOutbox`. -/
def resetOutbox (job : BackgroundJob) (now : ℤ) (outboxId : String) : JobTransaction App Unit := do
  let clock ← read clock
  jobOutbox.upsert job.id (newOutbox job outboxId now clock) (resetOutboxRow now)

/-- `createServiceAudit`. -/
def createServiceAudit (correlationId workspaceId resourceType : String)
    (resourceId : Option String) (outcome reasonCode : String) (now : ℤ) (auditId : String) :
    JobTransaction App Unit :=
  auditEvent.create
    (serviceAuditData correlationId workspaceId resourceType resourceId outcome reasonCode now
      auditId)

/-- `requeueDueRetry`. -/
def requeueDueRetry (jobId workspaceId correlationId : String) (now : ℤ)
    (outboxId auditId : String) : JobTransaction App Bool := do
  match ← backgroundJob.findFirst fun row =>
    row.id == jobId && (isRetryDue now row && row.workspaceId == workspaceId) with
  | none => pure false
  | some job => do
    assertJobTransition .retryScheduled .queued
    let updated ← backgroundJob.updateMany (requeuedRetryJob now) fun row =>
      row.id == job.id && (isRetryDue now row && row.version == job.version)
    if updated ≠ 1 then pure false
    else do
      resetOutbox job now outboxId
      createServiceAudit correlationId workspaceId "background_job" (some job.id) "REPAIRED"
        "RETRY_DUE_REQUEUED" now auditId
      pure true

/-- A stranded job as the reconciler leaves it. -/
def strandedJob (row : BackgroundJob) : BackgroundJob :=
  { row with dispatchStatus := .pending, version := row.version + 1 }

/-- `requeueStrandedDelivery`. Unlike the scan, it does not ask how old the
dispatch is. -/
def requeueStrandedDelivery (jobId workspaceId correlationId : String) (now : ℤ)
    (outboxId auditId : String) : JobTransaction App Bool := do
  match ← read fun db => db.backgroundJobs.findFirst fun row =>
    row.id == jobId && (isDeliveredBy db Option.isSome row && row.workspaceId == workspaceId) with
  | none => pure false
  | some job => do
    let claimed ← backgroundJob.updateMany strandedJob fun row =>
      row.id == job.id && (row.version == job.version && row.workspaceId == workspaceId)
    if claimed ≠ 1 then pure false
    else do
      resetOutbox job now outboxId
      createServiceAudit correlationId workspaceId "background_job" (some job.id) "REPAIRED"
        "STRANDED_DELIVERY_REQUEUED" now auditId
      pure true

/-- `repairMissingOutbox`. -/
def repairMissingOutbox (jobId workspaceId correlationId : String) (now : ℤ)
    (outboxId auditId : String) : JobTransaction App Bool := do
  match ← read fun db => db.backgroundJobs.findFirst fun row =>
    row.id == jobId && ((db.relatedOutbox row).isNone && row.state == .queued &&
      row.workspaceId == workspaceId) with
  | none => pure false
  | some job => do
    let clock ← read clock
    jobOutbox.create (newOutbox job outboxId now clock)
    createServiceAudit correlationId workspaceId "background_job" (some job.id) "REPAIRED"
      "MISSING_OUTBOX_RECREATED" now auditId
    pure true

/-- The states that the repair of a committed result starts from. -/
def isRepairable (state : BackgroundJobState) : Bool :=
  state == .queued || state == .processing || state == .retryScheduled

/-- A job as the repair of its committed result leaves it. -/
def repairedJob (now : ℤ) (row : BackgroundJob) : BackgroundJob :=
  { row with
    completedAt := some now
    heartbeatAt := some now
    lastErrorClass := none
    lastErrorCode := none
    leaseExpiresAt := none
    leaseId := none
    nextAction := none
    nextAttemptAt := none
    reconciliationCode := none
    reconciliationRequiredAt := none
    stage := "completed"
    state := .succeeded
    version := row.version + 1 }

/-- The attempt under the lease of a repaired job ends with it. -/
def repairAttempt (leaseId : Option String) (workspaceId : String) (now : ℤ) :
    JobTransaction App Unit :=
  match leaseId with
  | none => pure ()
  | some leaseId => do
    let attempt ← jobAttempt.updateMany (succeededAttempt now) fun row =>
      row.leaseId == leaseId && (row.state == .active && row.workspaceId == workspaceId)
    if attempt ≠ 1 then raise (conflictError "JOB_RECONCILIATION_ATTEMPT_MISSING") else pure ()

/-- `repairCommittedResult`. -/
def repairCommittedResult (jobId workspaceId correlationId : String) (now : ℤ)
    (auditId : String) : JobTransaction App Bool := do
  match ← backgroundJob.findFirst fun row =>
    row.id == jobId && (row.cancellationRequestedAt.isNone && isRepairable row.state &&
      row.workspaceId == workspaceId) with
  | none => pure false
  | some job => do
    let updated ← backgroundJob.updateMany (repairedJob now) fun row =>
      row.id == job.id && (row.state == job.state && row.version == job.version &&
        row.workspaceId == workspaceId)
    if updated ≠ 1 then pure false
    else do
      repairAttempt job.leaseId workspaceId now
      cancelOutbox job.id now
      createServiceAudit correlationId workspaceId "background_job" (some job.id) "REPAIRED"
        "COMMITTED_RESULT_STATE_REPAIRED" now auditId
      pure true

/-- Why a job is flagged for an operator. -/
inductive AmbiguousResult
  | succeededResultMissing | terminalResultConflict

/-- The reason code of a flag. -/
def AmbiguousResult.reasonCode : AmbiguousResult → String
  | .succeededResultMissing => "SUCCEEDED_RESULT_MISSING"
  | .terminalResultConflict => "TERMINAL_RESULT_CONFLICT"

/-- A job that is flagged. -/
def flaggedJob (reasonCode : String) (now : ℤ) (row : BackgroundJob) : BackgroundJob :=
  { row with
    reconciliationCode := some reasonCode
    reconciliationRequiredAt := some now
    version := row.version + 1 }

/-- `flagAmbiguousJob`. -/
def flagAmbiguousJob (jobId workspaceId correlationId : String) (reason : AmbiguousResult) (now : ℤ)
    (auditId : String) : JobTransaction App Bool := do
  let updated ← backgroundJob.updateMany (flaggedJob reason.reasonCode now) fun row =>
    row.id == jobId && (decide (row.reconciliationCode ≠ some reason.reasonCode) &&
      row.workspaceId == workspaceId)
  if updated ≠ 1 then pure false
  else do
    createServiceAudit correlationId workspaceId "background_job" (some jobId) "FLAGGED"
      reason.reasonCode now auditId
    pure true

/-- What the pass does about the result of a job, from the row that its scan
read; `none` stands for nothing. -/
inductive ResultRepair
  | flag (reason : AmbiguousResult)
  | repair

/-- The branches of the loop over the result candidates. -/
def resultRepair (job : ReconciliationJob) : JobResultInspection → Option ResultRepair
  | .unsupported => none
  | .absent => if job.state = .succeeded then some (.flag .succeededResultMissing) else none
  | .present =>
    if job.state = .succeeded then none
    else if job.state = .failedAttention ∨ job.cancellationRequestedAt.isSome then
      some (.flag .terminalResultConflict)
    else some .repair

/-- The outcome of a cleanup. -/
inductive CleanupOutcome
  | flagged | repaired
  deriving DecidableEq

/-- The outcome as the audit log records it. -/
def CleanupOutcome.name : CleanupOutcome → String
  | .flagged => "FLAGGED"
  | .repaired => "REPAIRED"

/-- `CleanupDebtOutcome`. -/
structure CleanupDebtOutcome where
  outcome : CleanupOutcome
  reasonCode : String
  resourceId : Option String
  resourceType : String
  workspaceId : String

/-- `validateCleanupDebtOutcome` accepts the outcome. -/
def CleanupDebtOutcome.isValid (outcome : CleanupDebtOutcome) : Bool :=
  isSafeCode outcome.reasonCode && isSafeResourceType outcome.resourceType &&
    decide (outcome.workspaceId ≠ "")

/-- `auditServiceOutcome` of a validated outcome. -/
def auditServiceOutcome (correlationId : String) (outcome : CleanupDebtOutcome) (now : ℤ)
    (auditId : String) : JobTransaction App Unit :=
  if outcome.isValid = false then raise (validationError "JOB_CLEANUP_HOOK_RESULT_INVALID")
  else auditEvent.create
    (serviceAuditData correlationId outcome.workspaceId outcome.resourceType outcome.resourceId
      outcome.outcome.name outcome.reasonCode now auditId)

/-! ### What the repairs ensure -/

section Rules

variable {db : Database App} {k workspaceId correlationId outboxId auditId : String} {now : ℤ}
  {row : BackgroundJob} {exceptional : JobError → Prop}

theorem accepted_requeuedRetryJob (h : row.Accepted)
    (hstate : row.state = .retryScheduled) : (requeuedRetryJob now row).Accepted :=
  { accepted_retryDueJob h hstate now with }

theorem accepted_strandedJob (h : row.Accepted) :
    (strandedJob row).Accepted := by
  have hversion := h.version
  refine { h with version := ?_ }
  simp only [strandedJob]
  omega

theorem accepted_repairedJob (h : row.Accepted) :
    (repairedJob now row).Accepted := by
  have hversion := h.version
  refine { h with
    version := ?_
    stage := (by decide : isSafeJobStage "completed" = true)
    leaseShape := .inr ⟨by simp [repairedJob], rfl, rfl⟩
    timingShape := .inr (.inl ⟨.inl rfl, rfl, rfl⟩)
    errorShape := ⟨rfl, rfl⟩
    reconciliationShape := rfl
    reconciliationCode := rfl }
  simp only [repairedJob]
  omega

theorem AmbiguousResult.isSafeCode_reasonCode (reason : AmbiguousResult) :
    isSafeCode reason.reasonCode := by
  cases reason <;> decide

theorem CleanupOutcome.isSafeOutcome_name (outcome : CleanupOutcome) :
    isSafeOutcome outcome.name := by
  cases outcome <;> decide

theorem accepted_flaggedJob (h : row.Accepted) (reason : AmbiguousResult) :
    (flaggedJob reason.reasonCode now row).Accepted := by
  have hversion := h.version
  refine { h with
    version := ?_
    reconciliationShape := rfl
    reconciliationCode := reason.isSafeCode_reasonCode }
  simp only [flaggedJob]
  omega

theorem Database.Inv.relatedOutbox (hinv : db.Inv) {job : BackgroundJob}
    (hjob : db.job? k = some job) :
    ∃ outbox, db.outboxOf k = some outbox ∧ db.relatedOutbox job = some outbox ∧
      JobConsistent job.summary ((db.attemptsOf k).map JobAttempt.summary) outbox.summary := by
  obtain ⟨outbox, houtbox, hconsistent⟩ := hinv.consistent hjob
  refine ⟨outbox, houtbox, ?_, hconsistent⟩
  obtain ⟨hmem, hid⟩ := Table.lookup_spec houtbox
  have hrelated : (outbox.backgroundJobId == job.id && outbox.workspaceId == job.workspaceId) =
      true := by
    have hworkspace : outbox.workspaceId = job.workspaceId := hconsistent.workspace
    simp [hid, hworkspace, id_of_job? hjob]
  cases hfind : db.relatedOutbox job with
  | none =>
    have habsurd := List.find?_eq_none.mp hfind outbox hmem
    exact absurd hrelated habsurd
  | some other =>
    have hother := List.find?_some hfind
    simp only [Bool.and_eq_true, beq_iff_eq] at hother
    have hsame : other.backgroundJobId = outbox.backgroundJobId :=
      hother.1.trans ((id_of_job? hjob).trans hid.symm)
    rw [Table.eq_of_key jobOutboxSchema_keyedBy_backgroundJobId
      (List.mem_of_find?_eq_some hfind) hmem hsame]

theorem ensures_read_job {selects : Database App → BackgroundJob → Bool}
    {findPost : Option BackgroundJob → Database App → Prop}
    (hnone : (∀ job, db.job? k = some job → selects db job = false) → findPost none db)
    (hsome : ∀ job, db.job? k = some job → selects db job → findPost (some job) db) :
    (read fun db : Database App => db.backgroundJobs.findFirst fun row =>
      row.id == k && selects db row).Ensures findPost exceptional db := by
  rw [ensures_read]
  cases hfind : db.backgroundJobs.findFirst fun row => row.id == k && selects db row with
  | none =>
    refine hnone fun job hjob => ?_
    obtain ⟨hmem, hid⟩ := Table.lookup_spec hjob
    simpa [hid] using List.find?_eq_none.mp hfind job hmem
  | some job =>
    have hmem := List.mem_of_find?_eq_some hfind
    have hselected := List.find?_some hfind
    simp only [Bool.and_eq_true, beq_iff_eq] at hselected
    exact hsome job ((Table.lookup_eq_some backgroundJobSchema_keyedBy_id).mpr
      ⟨hmem, hselected.1⟩) hselected.2

theorem ensures_resetOutbox {job : BackgroundJob} (houtbox : (db.outboxOf job.id).isSome) :
    (resetOutbox job now outboxId).Ensures
      (fun _ db' => db.OutboxMoves job.id OutboxSummary.reset db') JobError.Unchecked db := by
  unfold resetOutbox
  rw [ensures_bind, ensures_read]
  exact ensures_jobOutbox_upsert houtbox

theorem ensures_createServiceAudit {resourceType outcome reasonCode : String}
    {resourceId : Option String} {post : Unit → Database App → Prop}
    (houtcome : isSafeOutcome outcome) (hreason : isSafeCode reasonCode)
    (hpost : ∀ auditEvents, post () (db.setAuditEvents auditEvents))
    (hcollides : ∀ index, (∃ event ∈ db.auditEvents.rows, event.id = auditId) → exceptional (.fault
      (.violation (.unique index)))) :
    (createServiceAudit correlationId workspaceId resourceType resourceId outcome reasonCode now
      auditId).Ensures post exceptional db :=
  ensures_auditEvent_create (accepted_serviceAuditData houtcome hreason _ _ _ _ _ _) hpost
    hcollides

/-- **The rule of due retries.** -/
theorem ensures_requeueDueRetry (hinv : db.Inv) :
    (requeueDueRetry k workspaceId correlationId now outboxId auditId).Ensures
      (fun _ db' => db' = db ∨ db.Moves .requeueRetry k db') JobError.Unchecked db := by
  unfold requeueDueRetry
  rw [ensures_bind]
  refine ensures_backgroundJob_findFirst (fun _ => .inl rfl) fun job hjob hdue => ?_
  have hid := id_of_job? hjob
  have hstate : job.state = .retryScheduled := by
    simp only [isRetryDue, Bool.and_eq_true, beq_iff_eq] at hdue
    exact hdue.1.2
  obtain ⟨outbox, houtbox, -⟩ := hinv.consistent hjob
  rw [ensures_bind]
  refine ensures_assertJobTransition rfl ?_
  rw [ensures_bind, hid]
  refine ensures_backgroundJob_updateMany (.inr unchecked_unique) (fun _ => .inl rfl) fun row hrow hselects => ?_
  obtain rfl := Option.mem_unique hjob hrow
  refine ⟨accepted_requeuedRetryJob (accepted_of_job? hjob) hstate, fun t hrows => ?_⟩
  have hjobs := job?_update hjob hselects hrows fun _ => rfl
  rw [if_neg (by simp), ensures_bind]
  refine (ensures_resetOutbox ?_).mono (fun _ db' hreset => ?_) fun _ herror => herror
  · show (db.outboxOf job.id).isSome = true
    rw [hid, houtbox]
    rfl
  · rw [ensures_bind]
    refine ensures_createServiceAudit (by decide) (by decide) (fun _ => ?_) fun index _ =>
      unchecked_unique index
    rw [ensures_pure]
    rw [hid] at hreset
    obtain ⟨jobOutbox, rfl, hmoves⟩ := hreset
    exact .inr (moves_of_outbox hjob hjobs (fun _ => rfl) hmoves
      (JobStep.requeueRetry hstate))

/-- **The rule of stranded deliveries.** -/
theorem ensures_requeueStrandedDelivery (hinv : db.Inv) :
    (requeueStrandedDelivery k workspaceId correlationId now outboxId auditId).Ensures
      (fun _ db' => db' = db ∨ db.Moves .requeueStranded k db') JobError.Unchecked db := by
  unfold requeueStrandedDelivery
  rw [ensures_bind]
  refine ensures_read_job (fun _ => .inl rfl) fun job hjob hselected => ?_
  have hid := id_of_job? hjob
  have hstate : job.state = .queued := by
    simp only [isDeliveredBy, Bool.and_eq_true, beq_iff_eq] at hselected
    exact hselected.1.1.2
  obtain ⟨outbox, houtbox, -⟩ := hinv.consistent hjob
  rw [ensures_bind, hid]
  refine ensures_backgroundJob_updateMany (.inr unchecked_unique) (fun _ => .inl rfl) fun row hrow hselects => ?_
  obtain rfl := Option.mem_unique hjob hrow
  refine ⟨accepted_strandedJob (accepted_of_job? hjob), fun t hrows => ?_⟩
  have hjobs := job?_update hjob hselects hrows fun _ => rfl
  rw [if_neg (by simp), ensures_bind]
  refine (ensures_resetOutbox ?_).mono (fun _ db' hreset => ?_) fun _ herror => herror
  · show (db.outboxOf job.id).isSome = true
    rw [hid, houtbox]
    rfl
  · rw [ensures_bind]
    refine ensures_createServiceAudit (by decide) (by decide) (fun _ => ?_) fun index _ =>
      unchecked_unique index
    rw [ensures_pure]
    rw [hid] at hreset
    obtain ⟨jobOutbox, rfl, hmoves⟩ := hreset
    exact .inr (moves_of_outbox hjob hjobs (fun _ => rfl) hmoves
      (JobStep.requeueStranded hstate))

/-- **The rule of missing outbox rows.** No reachable job lacks its outbox row, so
the repair has nothing to do. -/
theorem ensures_repairMissingOutbox (hinv : db.Inv) :
    (repairMissingOutbox k workspaceId correlationId now outboxId auditId).Ensures
      (fun repaired db' => repaired = false ∧ db' = db) JobError.Unchecked db := by
  unfold repairMissingOutbox
  rw [ensures_bind]
  refine ensures_read_job (fun _ => ⟨rfl, rfl⟩) fun job hjob hselected => ?_
  obtain ⟨outbox, -, hrelated, -⟩ := hinv.relatedOutbox hjob
  simp [hrelated] at hselected

private theorem ensures_repairAttempt {leaseId : String} :
    (repairAttempt (some leaseId) workspaceId now).Ensures
      (fun _ db' => ∃ attempt ∈ db.jobAttempts.rows, attempt.leaseId = leaseId ∧
        ∃ jobAttempts, db' = db.setJobAttempts jobAttempts ∧ ∀ id,
          (db'.view id).attempts = closeAttempt leaseId .succeeded (db.view id).attempts)
      JobError.Unchecked db := by
  unfold repairAttempt
  rw [ensures_bind]
  refine ensures_jobAttempt_updateMany (.inr unchecked_unique) (fun _ => unchecked_conflictError _)
    fun attempt hattempt hsame hselected => ?_
  have hactive : attempt.state = .active := by
    simp only [Bool.and_eq_true, beq_iff_eq] at hselected
    exact hselected.1
  refine ⟨accepted_succeededAttempt (accepted_of_mem_jobAttempts hattempt) hactive _,
    fun ta hta => ?_⟩
  rw [if_neg (by simp), ensures_pure]
  exact ⟨attempt, hattempt, hsame, ta, rfl, view_attempts_close hta (fun _ => rfl)
    (fun _ => rfl) hattempt hsame hselected hactive⟩

/-- **The rule of committed results.** -/
theorem ensures_repairCommittedResult (hinv : db.Inv) :
    (repairCommittedResult k workspaceId correlationId now auditId).Ensures
      (fun _ db' => db' = db ∨ db.Moves .repairCommitted k db') JobError.Unchecked db := by
  unfold repairCommittedResult
  rw [ensures_bind]
  refine ensures_backgroundJob_findFirst (fun _ => .inl rfl) fun job hjob hselected => ?_
  have hid := id_of_job? hjob
  have haccepted := accepted_of_job? hjob
  simp only [isRepairable, Bool.and_eq_true, Bool.or_eq_true, beq_iff_eq] at hselected
  obtain ⟨⟨hnone, hstate⟩, -⟩ := hselected
  have hrequest : job.summary.cancellationRequested = false := by
    simpa [BackgroundJob.summary] using hnone
  rw [ensures_bind, hid]
  refine ensures_backgroundJob_updateMany (.inr unchecked_unique) (fun _ => .inl rfl) fun row hrow hselects => ?_
  obtain rfl := Option.mem_unique hjob hrow
  refine ⟨accepted_repairedJob haccepted, fun t hrows => ?_⟩
  have hjobs := job?_update hjob hselects hrows fun _ => rfl
  rw [if_neg (by simp), ensures_bind]
  unfold cancelOutbox
  cases hlease : job.leaseId with
  | none =>
    have hwaiting : job.state = .queued ∨ job.state = .retryScheduled := by
      rcases hstate with (hs | hs) | hs
      · exact .inl hs
      · have hleased := (haccepted.leased hs).1
        simp [hlease] at hleased
      · exact .inr hs
    have hafter : (repairedJob now job).summary = { job.summary with state := .succeeded } := by
      simp [repairedJob, BackgroundJob.summary, hlease]
    unfold repairAttempt
    rw [ensures_pure, ensures_bind, ensures_bind]
    refine ensures_cancelledOutbox.mono (fun _ db' houtbox => ?_) fun _ herror => herror
    rw [ensures_pure, ensures_bind]
    refine ensures_createServiceAudit (by decide) (by decide) (fun _ => ?_) fun index _ =>
      unchecked_unique index
    rw [ensures_pure]
    obtain ⟨jobOutbox, rfl, hmoves⟩ := houtbox
    refine .inr (moves_of_outbox hjob hjobs (fun _ => rfl) hmoves ?_)
    rw [hafter]
    exact JobStep.repairWaiting hrequest hwaiting
  | some leaseId =>
    have hprocessing : job.state = .processing := by
      by_contra hidle
      have hunleased := (haccepted.unleased hidle).1
      simp [hlease] at hunleased
    refine ensures_repairAttempt.mono (fun _ db' hattempt => ?_) fun _ herror => herror
    obtain ⟨attempt, hmem, rfl, jobAttempts, rfl, hattempts⟩ := hattempt
    rw [ensures_bind, ensures_bind]
    refine ensures_cancelledOutbox.mono (fun _ db' houtbox => ?_) fun _ herror => herror
    rw [ensures_pure, ensures_bind]
    refine ensures_createServiceAudit (by decide) (by decide) (fun _ => ?_) fun index _ =>
      unchecked_unique index
    rw [ensures_pure]
    obtain ⟨jobOutbox, rfl, hmoves⟩ := houtbox
    exact .inr (hinv.moves_of_release hjob hlease hmem hjobs hattempts hmoves
      (JobStep.repairHeld hrequest hprocessing hlease))

/-- **The rule of flags.** A flag changes nothing that matters. -/
theorem ensures_flagAmbiguousJob {reason : AmbiguousResult} :
    (flagAmbiguousJob k workspaceId correlationId reason now auditId).Ensures
      (fun _ db' => db.SameViews db') JobError.Unchecked db := by
  unfold flagAmbiguousJob
  rw [ensures_bind]
  refine ensures_backgroundJob_updateMany (.inr unchecked_unique) (fun _ => Database.SameViews.refl) fun job hjob _ => ?_
  refine ⟨accepted_flaggedJob (accepted_of_job? hjob) reason, fun t hrows => ?_⟩
  have hsame := sameViews_jobs hrows (fun _ => rfl) (fun _ => rfl)
  rw [if_neg (by simp), ensures_bind]
  exact ensures_createServiceAudit (by decide) reason.isSafeCode_reasonCode (fun _ => hsame)
    fun index _ => unchecked_unique index

/-- **The rule of cleanups.** The audit of a cleanup changes nothing that
matters. -/
theorem ensures_auditServiceOutcome {outcome : CleanupDebtOutcome} :
    (auditServiceOutcome correlationId outcome now auditId).Ensures
      (fun _ db' => db.SameViews db') JobError.Unchecked db := by
  unfold auditServiceOutcome
  by_cases hvalid : outcome.isValid = false
  · rw [if_pos hvalid]
    exact unchecked_validationError _
  · rw [if_neg hvalid]
    simp only [CleanupDebtOutcome.isValid, Bool.not_eq_false, Bool.and_eq_true] at hvalid
    exact ensures_auditEvent_create
      (accepted_serviceAuditData outcome.outcome.isSafeOutcome_name hvalid.1.1 _ _ _ _ _ _)
      (fun _ _ => rfl) fun index _ => unchecked_unique index

end Rules

end ContentAutomation
