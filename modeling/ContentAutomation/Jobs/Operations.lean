import ContentAutomation.Jobs.Settlement

/-!
# Operator commands

`cancelBackgroundJob` and `retryBackgroundJob`. Both authorise the operator,
limit how often a command may be given, and leave an audit event for every
answer. A job that waits is cancelled at once; a job that runs in an early stage
is asked to cancel itself.
-/

namespace ContentAutomation

open Relational Transaction

variable {App : Type}

/-- The session of the operator. -/
structure SessionPrincipal where
  internalUserId : String
  sessionVersion : ℤ
  workspaceId : String
  deriving DecidableEq

/-- The outcomes of an operator command. -/
inductive JobOperationOutcome
  | alreadyApplied | cancellationRequested | cancelled | notFound | rateLimited | refused
  | retryQueued
  deriving DecidableEq

/-- The outcome as the audit log records it. -/
def JobOperationOutcome.name : JobOperationOutcome → String
  | .alreadyApplied => "ALREADY_APPLIED"
  | .cancellationRequested => "CANCELLATION_REQUESTED"
  | .cancelled => "CANCELLED"
  | .notFound => "NOT_FOUND"
  | .rateLimited => "RATE_LIMITED"
  | .refused => "REFUSED"
  | .retryQueued => "RETRY_QUEUED"

/-- `JobOperationResult`. -/
structure JobOperationResult where
  outcome : JobOperationOutcome
  reasonCode : String
  deriving DecidableEq

/-- `ManualRetryPrerequisiteResult`. -/
structure ManualRetryPrerequisiteResult where
  eligible : Bool
  reasonCode : Option String

/-- `ManualRetryJob`. -/
structure ManualRetryJob where
  attemptCount : ℤ
  handlerVersion : ℤ
  id : String
  idempotencyKey : String
  inputVersion : Option String
  maxAttempts : ℤ
  queueName : String
  reconciliationCode : Option String
  resourceId : Option String
  resourceType : Option String
  workspaceId : String

/-- `toManualRetryJob`. -/
def toManualRetryJob (job : BackgroundJob) : ManualRetryJob where
  attemptCount := job.attemptCount
  handlerVersion := job.handlerVersion
  id := job.id
  idempotencyKey := job.idempotencyKey
  inputVersion := job.inputVersion
  maxAttempts := job.maxAttempts
  queueName := job.queueName
  reconciliationCode := job.reconciliationCode
  resourceId := job.resourceId
  resourceType := job.resourceType
  workspaceId := job.workspaceId

/-- The commands and how often each may be given in a window. -/
inductive OperatorAction
  | cancel | retry
  deriving DecidableEq

/-- The action as the audit log records it. -/
def OperatorAction.name : OperatorAction → String
  | .cancel => "job.cancel"
  | .retry => "job.retry"

/-- `operationLimits`. -/
def operationLimits : OperatorAction → ℕ
  | .cancel => 10
  | .retry => 5

/-- `operationWindowMs`. -/
def operationWindowMs : ℤ := 60000

/-- `safeProcessingCancellationStages`. -/
def safeProcessingCancellationStages : List String :=
  ["starting", "loading_inputs", "validating_inputs"]

/-- `isSafeProcessingCancellationStage`. -/
def isSafeProcessingCancellationStage (stage : String) : Bool :=
  safeProcessingCancellationStages.contains stage

/-- `PreparedOperation`. The reason code has been checked. -/
structure PreparedOperation where
  correlationId : String
  jobId : String
  operationAt : ℤ
  principal : SessionPrincipal
  reasonCode : String
  validJobId : Bool
  safeReasonCode : isSafeCode reasonCode = true

/-- `prepareOperation`. -/
def prepareOperation (correlationId : String) (principal : SessionPrincipal)
    (jobId reasonCode : String) (operationAt : ℤ) : Except JobError PreparedOperation :=
  match parseCorrelationId correlationId with
  | none => .error (validationError "JOB_OPERATION_CORRELATION_INVALID")
  | some correlationId =>
    if safeReasonCode : isSafeCode reasonCode = true then
      .ok { correlationId, jobId, operationAt, principal, reasonCode,
            validJobId := isUuidV7 jobId, safeReasonCode }
    else .error (validationError "JOB_OPERATION_REASON_INVALID")

/-- The audit event of an answer. -/
def operationAuditData (actor : InternalUser) (prepared : PreparedOperation)
    (action : OperatorAction) (result : JobOperationResult) (auditId : String) : AuditEvent where
  id := auditId
  workspaceId := actor.workspaceId
  actorType := .user
  actorUserId := some actor.id
  actorService := none
  action := action.name
  resourceType := "background_job"
  resourceId := if prepared.validJobId then some prepared.jobId else none
  outcome := some result.outcome.name
  reasonCode := some result.reasonCode
  correlationId := prepared.correlationId
  occurredAt := prepared.operationAt

/-- `auditAndReturn`. -/
def auditAndReturn (actor : InternalUser) (prepared : PreparedOperation) (action : OperatorAction)
    (auditId : String) (result : JobOperationResult) : JobTransaction App JobOperationResult := do
  auditEvent.create (operationAuditData actor prepared action result auditId)
  pure result

/-- `OperationGuard`. -/
inductive OperationGuard
  | allowed (actor : InternalUser)
  | denied (result : JobOperationResult)

/-- `authoriseOperation`. -/
def authoriseOperation (prepared : PreparedOperation) (action : OperatorAction) (now : ℤ)
    (auditId : String) : JobTransaction App OperationGuard := do
  match ← internalUser.findFirst fun user =>
    user.id == prepared.principal.internalUserId &&
      user.sessionVersion == prepared.principal.sessionVersion && user.status == .active &&
      user.workspaceStatus == .active && user.workspaceId == prepared.principal.workspaceId with
  | none => pure (.denied ⟨.refused, "OPERATOR_NOT_AUTHORISED"⟩)
  | some actor =>
    if actor.role ≠ .admin then do
      let result ← auditAndReturn actor prepared action auditId ⟨.refused, "ADMIN_REQUIRED"⟩
      pure (.denied result)
    else do
      let recent ← auditEvent.count fun event =>
        event.action == action.name && event.actorUserId == some actor.id &&
          decide (now - operationWindowMs ≤ event.occurredAt) &&
          event.workspaceId == actor.workspaceId
      if operationLimits action ≤ recent then do
        let result ← auditAndReturn actor prepared action auditId
          ⟨.rateLimited, "OPERATOR_RATE_LIMITED"⟩
        pure (.denied result)
      else pure (.allowed actor)

/-- The job that the operator's command is about. -/
def findOperatedJob (prepared : PreparedOperation) (actor : InternalUser) :
    JobTransaction App (Option BackgroundJob) :=
  if prepared.validJobId then
    backgroundJob.findFirst fun row =>
      row.id == prepared.jobId && row.workspaceId == actor.workspaceId
  else pure none

/-- A waiting job as the operator's cancellation leaves it. -/
def operatorCancelledJob (reasonCode : String) (now : ℤ) (row : BackgroundJob) : BackgroundJob :=
  { row with
    cancellationReasonCode := some reasonCode
    cancellationRequestedAt := some now
    completedAt := some now
    dispatchStatus := .cancelled
    lastErrorClass := none
    lastErrorCode := none
    nextAction := none
    nextAttemptAt := none
    reconciliationCode := none
    reconciliationRequiredAt := none
    stage := "cancelled"
    state := .cancelled
    version := row.version + 1 }

/-- A running job that is asked to cancel itself. -/
def cancellationRequestedJob (reasonCode : String) (now : ℤ) (row : BackgroundJob) :
    BackgroundJob :=
  { row with
    cancellationReasonCode := some reasonCode
    cancellationRequestedAt := some now
    dispatchStatus := .cancelled
    version := row.version + 1 }

/-- `cancelOutbox`. -/
def cancelOutbox (backgroundJobId : String) (cancelledAt : ℤ) : JobTransaction App Unit := do
  let _ ← jobOutbox.updateMany (cancelledOutbox cancelledAt) fun row =>
    row.backgroundJobId == backgroundJobId && true
  pure ()

/-- The answer to a cancellation of a job that is found. -/
def cancelFoundJob (prepared : PreparedOperation) (job : BackgroundJob) (now : ℤ) :
    JobTransaction App JobOperationResult :=
  if job.state = .cancelled ∨ job.cancellationRequestedAt.isSome then
    pure ⟨.alreadyApplied, "CANCELLATION_ALREADY_APPLIED"⟩
  else if job.state = .queued ∨ job.state = .retryScheduled then do
    assertJobTransition job.state .cancelled
    let updated ← backgroundJob.updateMany (operatorCancelledJob prepared.reasonCode now)
      fun row => row.id == job.id && (row.state == job.state && row.version == job.version)
    if updated ≠ 1 then pure ⟨.refused, "JOB_STATE_CHANGED"⟩
    else do
      cancelOutbox job.id now
      pure ⟨.cancelled, prepared.reasonCode⟩
  else if job.state = .processing then
    if isSafeProcessingCancellationStage job.stage = false then
      pure ⟨.refused, "PROCESSING_STAGE_NOT_CANCELLABLE"⟩
    else do
      let updated ← backgroundJob.updateMany (cancellationRequestedJob prepared.reasonCode now)
        fun row => row.id == job.id && (row.cancellationRequestedAt.isNone &&
          row.leaseId == job.leaseId && row.stage == job.stage && row.state == .processing &&
          row.version == job.version)
      if updated ≠ 1 then pure ⟨.refused, "JOB_STATE_CHANGED"⟩
      else do
        cancelOutbox job.id now
        pure ⟨.cancellationRequested, prepared.reasonCode⟩
  else pure ⟨.refused, "JOB_TERMINAL"⟩

/-- `cancelBackgroundJob`. -/
def cancelBackgroundJob (correlationId : String) (principal : SessionPrincipal)
    (jobId reasonCode : String) (now : ℤ) (auditId : String) :
    JobTransaction App JobOperationResult :=
  match prepareOperation correlationId principal jobId reasonCode now with
  | .error error => raise error
  | .ok prepared => do
    match ← authoriseOperation prepared .cancel now auditId with
    | .denied result => pure result
    | .allowed actor => do
      match ← findOperatedJob prepared actor with
      | none => auditAndReturn actor prepared .cancel auditId ⟨.notFound, "JOB_NOT_FOUND"⟩
      | some job => do
        let result ← cancelFoundJob prepared job now
        auditAndReturn actor prepared .cancel auditId result

/-- A job that an operator sends back to the queue. -/
def operatorRetriedJob (maxAttempts now : ℤ) (row : BackgroundJob) : BackgroundJob :=
  { row with
    cancellationReasonCode := none
    cancellationRequestedAt := none
    completedAt := none
    dispatchStatus := .pending
    lastErrorClass := none
    lastErrorCode := none
    maxAttempts
    nextAction := none
    queuedAt := now
    reconciliationCode := none
    reconciliationRequiredAt := none
    stage := "queued"
    state := .queued
    version := row.version + 1 }

/-- The outbox row of a job that is sent back to the queue. -/
def resetOutboxRow (now : ℤ) (row : JobOutbox) : JobOutbox :=
  { row with
    cancelledAt := none
    dispatchedAt := none
    lastErrorCode := none
    leaseExpiresAt := none
    leaseId := none
    nextAttemptAt := now
    queueDeliveryId := none }

/-- The callbacks of a manual retry; `none` stands for one that throws. -/
structure ManualRetryCallbacks (App : Type) where
  resultExists : Database App → ManualRetryJob → Option Bool
  checkPrerequisites : Database App → ManualRetryJob → Option ManualRetryPrerequisiteResult

/-- The value of a callback, or the exception it throws. -/
def orThrow {α : Type} : Option α → JobTransaction App α
  | some value => pure value
  | none => raise (.fault .callback)

/-- A failed job goes back to the queue, with budget for one more attempt. -/
def requeueFailedJob (prepared : PreparedOperation) (job : BackgroundJob) (now : ℤ)
    (outboxId : String) : JobTransaction App JobOperationResult :=
  let maxAttempts := max job.maxAttempts (job.attemptCount + 1)
  if 100 < maxAttempts then pure ⟨.refused, "JOB_ATTEMPT_LIMIT_REACHED"⟩
  else do
    assertJobTransition .failedAttention .queued
    let updated ← backgroundJob.updateMany (operatorRetriedJob maxAttempts now)
      fun row => row.id == job.id && (row.state == .failedAttention && row.version == job.version)
    if updated ≠ 1 then pure ⟨.refused, "JOB_STATE_CHANGED"⟩
    else do
      -- the retry grants one bounded attempt, and the repair is part of it
      analysisJob.updateMany (fun row => { row with repairAttempted := false })
        fun row => row.backgroundJobId == job.id && row.workspaceId == job.workspaceId
      let clock ← read Database.clock
      jobOutbox.upsert job.id (newOutbox job outboxId clock clock) (resetOutboxRow now)
      pure ⟨.retryQueued, prepared.reasonCode⟩

/-- The answer to a retry of a job that is found. -/
def retryFoundJob (callbacks : ManualRetryCallbacks App) (prepared : PreparedOperation)
    (job : BackgroundJob) (now : ℤ) (outboxId : String) : JobTransaction App JobOperationResult :=
  if job.state = .queued then do
    match ← auditEvent.findFirst fun event =>
      event.action == "job.retry" && event.outcome == some "RETRY_QUEUED" &&
        event.resourceId == some job.id && event.workspaceId == job.workspaceId with
    | some _ => pure ⟨.alreadyApplied, "RETRY_ALREADY_QUEUED"⟩
    | none => pure ⟨.refused, "JOB_NOT_FAILED_ATTENTION"⟩
  else if job.state ≠ .failedAttention then pure ⟨.refused, "JOB_NOT_FAILED_ATTENTION"⟩
  else if job.reconciliationRequiredAt.isSome ∨ job.reconciliationCode.isSome then
    pure ⟨.refused, "JOB_RECONCILIATION_REQUIRED"⟩
  else do
    let resultExists ← read fun db => callbacks.resultExists db (toManualRetryJob job)
    if ← orThrow resultExists then pure ⟨.refused, "JOB_RESULT_ALREADY_EXISTS"⟩
    else do
      let answer ← read fun db => callbacks.checkPrerequisites db (toManualRetryJob job)
      let prerequisite ← orThrow answer
      let prerequisiteReason := prerequisite.reasonCode.getD "JOB_PREREQUISITE_MISSING"
      if prerequisite.eligible = false then
        if isSafeCode prerequisiteReason then pure ⟨.refused, prerequisiteReason⟩
        else raise (validationError "JOB_OPERATION_REASON_INVALID")
      else requeueFailedJob prepared job now outboxId

/-- `retryBackgroundJob`. -/
def retryBackgroundJob (callbacks : ManualRetryCallbacks App) (correlationId : String)
    (principal : SessionPrincipal) (jobId reasonCode : String) (now : ℤ)
    (outboxId auditId : String) : JobTransaction App JobOperationResult :=
  match prepareOperation correlationId principal jobId reasonCode now with
  | .error error => raise error
  | .ok prepared => do
    match ← authoriseOperation prepared .retry now auditId with
    | .denied result => pure result
    | .allowed actor => do
      match ← findOperatedJob prepared actor with
      | none => auditAndReturn actor prepared .retry auditId ⟨.notFound, "JOB_NOT_FOUND"⟩
      | some job => do
        let result ← retryFoundJob callbacks prepared job now outboxId
        auditAndReturn actor prepared .retry auditId result

end ContentAutomation
