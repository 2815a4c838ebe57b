import ContentAutomation.Jobs.Retry
import ContentAutomation.Library.Table

/-!
# The tables behind background jobs

Rows, `CHECK` constraints and unique indexes of `background_jobs`,
`job_attempts`, `job_outbox` and `audit_events`, under the names the migrations
give them. Identifiers are strings, instants are integers (milliseconds).
Columns that no modelled function reads, such as `updated_at`, are left out.
-/

namespace ContentAutomation

open Relational List

/-- The dispatch status of a job, kept beside its state. -/
inductive JobDispatchStatus
  | pending | dispatched | cancelled
  deriving DecidableEq

/-- Who caused an audited change. -/
inductive AuditActorType
  | user | service | system
  deriving DecidableEq

/-- A row of `background_jobs`. -/
structure BackgroundJob where
  id : String
  workspaceId : String
  queueName : String
  handlerVersion : ℤ
  idempotencyKey : String
  correlationId : String
  dispatchStatus : JobDispatchStatus
  state : BackgroundJobState
  stage : String
  priority : ℤ
  attemptCount : ℤ
  maxAttempts : ℤ
  version : ℤ
  resourceType : Option String
  resourceId : Option String
  inputVersion : Option String
  queuedAt : ℤ
  startedAt : Option ℤ
  heartbeatAt : Option ℤ
  leaseId : Option String
  leaseExpiresAt : Option ℤ
  nextAttemptAt : Option ℤ
  completedAt : Option ℤ
  lastErrorClass : Option JobFailureClass
  lastErrorCode : Option String
  nextAction : Option JobNextAction
  cancellationRequestedAt : Option ℤ
  cancellationReasonCode : Option String
  reconciliationRequiredAt : Option ℤ
  reconciliationCode : Option String
  createdAt : ℤ
  deriving DecidableEq

/-- A row of `job_attempts`. -/
structure JobAttempt where
  id : String
  workspaceId : String
  backgroundJobId : String
  attemptNumber : ℤ
  handlerVersion : ℤ
  state : JobAttemptState
  stage : String
  leaseId : String
  correlationId : String
  startedAt : ℤ
  heartbeatAt : ℤ
  completedAt : Option ℤ
  nextAttemptAt : Option ℤ
  errorClass : Option JobFailureClass
  errorCode : Option String
  nextAction : Option JobNextAction

/-- A row of `job_outbox`. -/
structure JobOutbox where
  id : String
  workspaceId : String
  backgroundJobId : String
  queueName : String
  handlerVersion : ℤ
  correlationId : String
  dispatchAttemptCount : ℤ
  nextAttemptAt : ℤ
  leaseId : Option String
  leaseExpiresAt : Option ℤ
  queueDeliveryId : Option String
  lastErrorCode : Option String
  dispatchedAt : Option ℤ
  cancelledAt : Option ℤ
  createdAt : ℤ

/-- A row of `audit_events`. -/
structure AuditEvent where
  id : String
  workspaceId : String
  actorType : AuditActorType
  actorUserId : Option String
  actorService : Option String
  action : String
  resourceType : String
  resourceId : Option String
  outcome : Option String
  reasonCode : Option String
  correlationId : String
  occurredAt : ℤ
  deriving DecidableEq

/-- The characters of a key or version after the first: `[A-Za-z0-9._:-]`. -/
def isKeyCharacter (c : Char) : Bool :=
  Text.isAlphanumeric c || c == '.' || c == '_' || c == ':' || c == '-'

/-- `safeIdempotencyKeyPattern`. -/
def isSafeIdempotencyKey (key : String) : Bool :=
  Text.leadingThenBounded Text.isAlphanumeric isKeyCharacter 254 key

/-- `safeInputVersionPattern`, also a `CHECK` of `background_jobs`. -/
def isSafeInputVersion (version : String) : Bool :=
  Text.leadingThenBounded Text.isAlphanumeric isKeyCharacter 127 version

/-- `safeResourceTypePattern`, also a `CHECK` of `background_jobs`. -/
def isSafeResourceType (resourceType : String) : Bool := isSafeJobStage resourceType

/-- The pattern of an audit outcome: `^[A-Z][A-Z0-9_]{0,31}$`. -/
def isSafeOutcome (outcome : String) : Bool :=
  Text.leadingThenBounded Text.isUpper isUpperSnakeCharacter 31 outcome

/-- `length(btrim(key)) > 0`: some character of the key is no space. -/
def isNonemptyTrimmed (key : String) : Bool := key.toList.any (· != ' ')

/-- A null value passes a check. -/
def nullOr (accepts : String → Bool) : Option String → Bool
  | none => true
  | some value => accepts value

namespace BackgroundJob

/-- `background_jobs_attempt_count_check`. -/
abbrev AttemptCount (job : BackgroundJob) : Prop :=
  0 ≤ job.attemptCount ∧ (1 ≤ job.maxAttempts ∧ job.maxAttempts ≤ 100) ∧
    job.attemptCount ≤ job.maxAttempts

/-- `background_jobs_lease_shape_check`. -/
abbrev LeaseShape (job : BackgroundJob) : Prop :=
  (job.state = .processing ∧ job.leaseId.isSome ∧ job.leaseExpiresAt.isSome ∧
      job.heartbeatAt.isSome ∧ job.completedAt.isNone) ∨
    (job.state ≠ .processing ∧ job.leaseId.isNone ∧ job.leaseExpiresAt.isNone)

/-- `background_jobs_timing_shape_check`. -/
abbrev TimingShape (job : BackgroundJob) : Prop :=
  (job.state = .retryScheduled ∧ job.nextAttemptAt.isSome ∧ job.completedAt.isNone) ∨
    ((job.state = .succeeded ∨ job.state = .failedAttention ∨ job.state = .cancelled) ∧
      job.nextAttemptAt.isNone ∧ job.completedAt.isSome) ∨
    ((job.state = .queued ∨ job.state = .processing) ∧
      job.nextAttemptAt.isNone ∧ job.completedAt.isNone)

/-- `background_jobs_error_shape_check`: all three columns are null, or none is. -/
abbrev ErrorShape (job : BackgroundJob) : Prop :=
  job.lastErrorClass.isSome = job.lastErrorCode.isSome ∧
    job.lastErrorCode.isSome = job.nextAction.isSome

/-- What the checks of `background_jobs` say about a row. -/
structure Accepted (job : BackgroundJob) : Prop where
  handlerVersion : 0 < job.handlerVersion
  idempotencyKey : isNonemptyTrimmed job.idempotencyKey = true
  queueName : isQueueName job.queueName = true
  priority : -1000 ≤ job.priority ∧ job.priority ≤ 1000
  attemptCount : job.AttemptCount
  version : 0 < job.version
  stage : isSafeJobStage job.stage = true
  resourceType : nullOr isSafeResourceType job.resourceType = true
  resourceShape : job.resourceType.isSome = job.resourceId.isSome
  inputVersion : nullOr isSafeInputVersion job.inputVersion = true
  leaseShape : job.LeaseShape
  timingShape : job.TimingShape
  errorShape : job.ErrorShape
  cancellationShape : job.cancellationRequestedAt.isSome = job.cancellationReasonCode.isSome
  cancellationReason : nullOr isSafeCode job.cancellationReasonCode = true
  reconciliationShape : job.reconciliationRequiredAt.isSome = job.reconciliationCode.isSome
  reconciliationCode : nullOr isSafeCode job.reconciliationCode = true

end BackgroundJob

/-- `background_jobs`. -/
def backgroundJobSchema : Schema BackgroundJob where
  checks :=
    [("background_jobs_handler_version_positive_check", fun job => decide (0 < job.handlerVersion)),
      ("background_jobs_idempotency_key_nonempty_check",
        fun job => isNonemptyTrimmed job.idempotencyKey),
      ("background_jobs_queue_name_check", fun job => isQueueName job.queueName),
      ("background_jobs_priority_range_check",
        fun job => decide (-1000 ≤ job.priority ∧ job.priority ≤ 1000)),
      ("background_jobs_attempt_count_check", fun job => decide job.AttemptCount),
      ("background_jobs_version_positive_check", fun job => decide (0 < job.version)),
      ("background_jobs_stage_safe_check", fun job => isSafeJobStage job.stage),
      ("background_jobs_resource_type_safe_check",
        fun job => nullOr isSafeResourceType job.resourceType),
      ("background_jobs_resource_shape_check",
        fun job => decide (job.resourceType.isSome = job.resourceId.isSome)),
      ("background_jobs_input_version_safe_check",
        fun job => nullOr isSafeInputVersion job.inputVersion),
      ("background_jobs_lease_shape_check", fun job => decide job.LeaseShape),
      ("background_jobs_timing_shape_check", fun job => decide job.TimingShape),
      ("background_jobs_error_shape_check", fun job => decide job.ErrorShape),
      ("background_jobs_cancellation_shape_check", fun job =>
        decide (job.cancellationRequestedAt.isSome = job.cancellationReasonCode.isSome)),
      ("background_jobs_cancellation_reason_safe_check",
        fun job => nullOr isSafeCode job.cancellationReasonCode),
      ("background_jobs_reconciliation_shape_check", fun job =>
        decide (job.reconciliationRequiredAt.isSome = job.reconciliationCode.isSome)),
      ("background_jobs_reconciliation_code_safe_check",
        fun job => nullOr isSafeCode job.reconciliationCode)]
  indexes :=
    [("background_jobs_pkey", fun job other => job.id == other.id),
      ("background_jobs_workspace_id_id_key",
        fun job other => job.workspaceId == other.workspaceId && job.id == other.id),
      ("background_jobs_workspace_id_queue_name_handler_version_ide_key", fun job other =>
        job.workspaceId == other.workspaceId && job.queueName == other.queueName &&
          job.handlerVersion == other.handlerVersion &&
          job.idempotencyKey == other.idempotencyKey)]

namespace JobAttempt

/-- `job_attempts_timing_shape_check`. -/
abbrev TimingShape (attempt : JobAttempt) : Prop :=
  (attempt.state = .active ∧ attempt.completedAt.isNone ∧ attempt.nextAttemptAt.isNone) ∨
    (attempt.state = .retryScheduled ∧ attempt.completedAt.isSome ∧
      attempt.nextAttemptAt.isSome) ∨
    ((attempt.state = .succeeded ∨ attempt.state = .failedAttention ∨
        attempt.state = .leaseExpired ∨ attempt.state = .cancelled) ∧
      attempt.completedAt.isSome ∧ attempt.nextAttemptAt.isNone)

/-- `job_attempts_error_shape_check`. -/
abbrev ErrorShape (attempt : JobAttempt) : Prop :=
  ((attempt.state = .active ∨ attempt.state = .succeeded ∨ attempt.state = .cancelled) ∧
      attempt.errorClass.isNone ∧ attempt.errorCode.isNone ∧ attempt.nextAction.isNone) ∨
    ((attempt.state = .retryScheduled ∨ attempt.state = .failedAttention ∨
        attempt.state = .leaseExpired) ∧
      attempt.errorClass.isSome ∧ attempt.errorCode.isSome ∧ attempt.nextAction.isSome)

/-- What the checks of `job_attempts` say about a row. -/
structure Accepted (attempt : JobAttempt) : Prop where
  attemptNumber : 0 < attempt.attemptNumber
  handlerVersion : 0 < attempt.handlerVersion
  stage : isSafeJobStage attempt.stage = true
  timingShape : attempt.TimingShape
  errorShape : attempt.ErrorShape

end JobAttempt

/-- `job_attempts`. -/
def jobAttemptSchema : Schema JobAttempt where
  checks :=
    [("job_attempts_attempt_number_positive_check",
        fun attempt => decide (0 < attempt.attemptNumber)),
      ("job_attempts_handler_version_positive_check",
        fun attempt => decide (0 < attempt.handlerVersion)),
      ("job_attempts_stage_safe_check", fun attempt => isSafeJobStage attempt.stage),
      ("job_attempts_timing_shape_check", fun attempt => decide attempt.TimingShape),
      ("job_attempts_error_shape_check", fun attempt => decide attempt.ErrorShape)]
  indexes :=
    [("job_attempts_pkey", fun attempt other => attempt.id == other.id),
      ("job_attempts_lease_id_key", fun attempt other => attempt.leaseId == other.leaseId),
      ("job_attempts_background_job_id_attempt_number_key", fun attempt other =>
        attempt.backgroundJobId == other.backgroundJobId &&
          attempt.attemptNumber == other.attemptNumber)]

namespace JobOutbox

/-- `job_outbox_delivery_shape_check`. -/
abbrev DeliveryShape (outbox : JobOutbox) : Prop :=
  (outbox.dispatchedAt.isNone ∧ outbox.queueDeliveryId.isNone) ∨
    (outbox.dispatchedAt.isSome ∧ outbox.queueDeliveryId.isSome ∧ outbox.leaseId.isNone ∧
      outbox.leaseExpiresAt.isNone)

/-- `job_outbox_cancelled_lease_check`. -/
abbrev CancelledLease (outbox : JobOutbox) : Prop :=
  outbox.cancelledAt.isNone ∨ (outbox.leaseId.isNone ∧ outbox.leaseExpiresAt.isNone)

/-- What the checks of `job_outbox` say about a row. -/
structure Accepted (outbox : JobOutbox) : Prop where
  handlerVersion : 0 < outbox.handlerVersion
  dispatchAttemptCount : 0 ≤ outbox.dispatchAttemptCount
  leaseShape : outbox.leaseId.isSome = outbox.leaseExpiresAt.isSome
  deliveryShape : outbox.DeliveryShape
  cancelledLease : outbox.CancelledLease
  queueName : isQueueName outbox.queueName = true

end JobOutbox

/-- `job_outbox`. -/
def jobOutboxSchema : Schema JobOutbox where
  checks :=
    [("job_outbox_handler_version_positive_check",
        fun outbox => decide (0 < outbox.handlerVersion)),
      ("job_outbox_attempt_count_nonnegative_check",
        fun outbox => decide (0 ≤ outbox.dispatchAttemptCount)),
      ("job_outbox_lease_shape_check",
        fun outbox => decide (outbox.leaseId.isSome = outbox.leaseExpiresAt.isSome)),
      ("job_outbox_delivery_shape_check", fun outbox => decide outbox.DeliveryShape),
      ("job_outbox_cancelled_lease_check", fun outbox => decide outbox.CancelledLease),
      ("job_outbox_queue_name_check", fun outbox => isQueueName outbox.queueName)]
  indexes :=
    [("job_outbox_pkey", fun outbox other => outbox.id == other.id),
      ("job_outbox_background_job_id_key",
        fun outbox other => outbox.backgroundJobId == other.backgroundJobId),
      ("job_outbox_workspace_id_background_job_id_key", fun outbox other =>
        outbox.workspaceId == other.workspaceId &&
          outbox.backgroundJobId == other.backgroundJobId)]

namespace AuditEvent

/-- `audit_events_actor_shape_check`. -/
abbrev ActorShape (event : AuditEvent) : Prop :=
  (event.actorType = .user ∧ event.actorUserId.isSome ∧ event.actorService.isNone) ∨
    (event.actorType = .service ∧ event.actorUserId.isNone ∧ event.actorService.isSome) ∨
    (event.actorType = .system ∧ event.actorUserId.isNone ∧ event.actorService.isNone)

/-- What the checks of `audit_events` say about a row. -/
structure Accepted (event : AuditEvent) : Prop where
  actorShape : event.ActorShape
  outcome : nullOr isSafeOutcome event.outcome = true
  reasonCode : nullOr isSafeCode event.reasonCode = true

end AuditEvent

/-- `audit_events`. -/
def auditEventSchema : Schema AuditEvent where
  checks :=
    [("audit_events_actor_shape_check", fun event => decide event.ActorShape),
      ("audit_events_outcome_safe_check", fun event => nullOr isSafeOutcome event.outcome),
      ("audit_events_reason_code_safe_check", fun event => nullOr isSafeCode event.reasonCode)]
  indexes := [("audit_events_pkey", fun event other => event.id == other.id)]

theorem backgroundJobSchema_failedCheck {job : BackgroundJob} :
    backgroundJobSchema.failedCheck job = none ↔ job.Accepted := by
  rw [Schema.failedCheck_eq_none]
  simp only [backgroundJobSchema, forall_mem_cons, not_mem_nil, false_imp_iff,
    implies_true, and_true, decide_eq_true_eq]
  constructor
  · rintro ⟨h1, h2, h3, h4, h5, h6, h7, h8, h9, h10, h11, h12, h13, h14, h15, h16, h17⟩
    exact ⟨h1, h2, h3, h4, h5, h6, h7, h8, h9, h10, h11, h12, h13, h14, h15, h16, h17⟩
  · rintro ⟨h1, h2, h3, h4, h5, h6, h7, h8, h9, h10, h11, h12, h13, h14, h15, h16, h17⟩
    exact ⟨h1, h2, h3, h4, h5, h6, h7, h8, h9, h10, h11, h12, h13, h14, h15, h16, h17⟩

theorem jobAttemptSchema_failedCheck {attempt : JobAttempt} :
    jobAttemptSchema.failedCheck attempt = none ↔ attempt.Accepted := by
  rw [Schema.failedCheck_eq_none]
  simp only [jobAttemptSchema, forall_mem_cons, not_mem_nil, false_imp_iff,
    implies_true, and_true, decide_eq_true_eq]
  exact ⟨fun ⟨h1, h2, h3, h4, h5⟩ => ⟨h1, h2, h3, h4, h5⟩,
    fun ⟨h1, h2, h3, h4, h5⟩ => ⟨h1, h2, h3, h4, h5⟩⟩

theorem jobOutboxSchema_failedCheck {outbox : JobOutbox} :
    jobOutboxSchema.failedCheck outbox = none ↔ outbox.Accepted := by
  rw [Schema.failedCheck_eq_none]
  simp only [jobOutboxSchema, forall_mem_cons, not_mem_nil, false_imp_iff,
    implies_true, and_true, decide_eq_true_eq]
  exact ⟨fun ⟨h1, h2, h3, h4, h5, h6⟩ => ⟨h1, h2, h3, h4, h5, h6⟩,
    fun ⟨h1, h2, h3, h4, h5, h6⟩ => ⟨h1, h2, h3, h4, h5, h6⟩⟩

theorem auditEventSchema_failedCheck {event : AuditEvent} :
    auditEventSchema.failedCheck event = none ↔ event.Accepted := by
  rw [Schema.failedCheck_eq_none]
  simp only [auditEventSchema, forall_mem_cons, not_mem_nil, false_imp_iff,
    implies_true, and_true, decide_eq_true_eq]
  exact ⟨fun ⟨h1, h2, h3⟩ => ⟨h1, h2, h3⟩, fun ⟨h1, h2, h3⟩ => ⟨h1, h2, h3⟩⟩

namespace BackgroundJob.Accepted

variable {job : BackgroundJob}

theorem unleased (h : job.Accepted) (hstate : job.state ≠ .processing) :
    job.leaseId.isNone ∧ job.leaseExpiresAt.isNone := by
  rcases h.leaseShape with ⟨habsurd, -⟩ | ⟨-, hnone⟩
  · exact absurd habsurd hstate
  · exact hnone

theorem leased (h : job.Accepted) (hstate : job.state = .processing) :
    job.leaseId.isSome ∧ job.leaseExpiresAt.isSome := by
  rcases h.leaseShape with ⟨-, hlease, hexpires, -⟩ | ⟨habsurd, -⟩
  · exact ⟨hlease, hexpires⟩
  · exact absurd hstate habsurd

theorem unscheduled (h : job.Accepted) (hstate : job.state ≠ .retryScheduled) :
    job.nextAttemptAt.isNone := by
  rcases h.timingShape with ⟨habsurd, -⟩ | ⟨-, hnone, -⟩ | ⟨-, hnone, -⟩
  · exact absurd habsurd hstate
  · exact hnone
  · exact hnone

theorem scheduled (h : job.Accepted) (hstate : job.state = .retryScheduled) :
    job.nextAttemptAt.isSome := by
  rcases h.timingShape with ⟨-, hsome, -⟩ | ⟨hs | hs | hs, -⟩ | ⟨hs | hs, -⟩
  · exact hsome
  all_goals
    rw [hstate] at hs
    cases hs

theorem unfinished (h : job.Accepted)
    (hstate : job.state = .queued ∨ job.state = .processing ∨ job.state = .retryScheduled) :
    job.completedAt.isNone := by
  rcases h.timingShape with ⟨-, -, hnone⟩ | ⟨hfinal, -⟩ | ⟨-, -, hnone⟩
  · exact hnone
  · rcases hstate with hs | hs | hs <;> simp [hs] at hfinal
  · exact hnone

end BackgroundJob.Accepted

namespace JobAttempt.Accepted

variable {attempt : JobAttempt}

theorem unscheduled (h : attempt.Accepted) (hactive : attempt.state = .active) :
    attempt.nextAttemptAt.isNone := by
  rcases h.timingShape with ⟨-, -, hnone⟩ | ⟨habsurd, -⟩ | ⟨-, -, hnone⟩
  · exact hnone
  · rw [hactive] at habsurd
    cases habsurd
  · exact hnone

theorem errorless (h : attempt.Accepted) (hactive : attempt.state = .active) :
    attempt.errorClass.isNone ∧ attempt.errorCode.isNone ∧
      attempt.nextAction.isNone := by
  rcases h.errorShape with ⟨-, hnone⟩ | ⟨hfailed, -⟩
  · exact hnone
  · rw [hactive] at hfailed
    rcases hfailed with hs | hs | hs <;> cases hs

end JobAttempt.Accepted

end ContentAutomation
