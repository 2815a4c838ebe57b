import ContentAutomation.Jobs.View

/-!
# Claims, leases and recovery

The transactions of `job-execution.ts` that take a job, keep its lease alive and
give it up: claiming, heartbeats and stages, releasing a due retry, recovering
an expired lease, and settling a cancellation that was asked for. Each operation
comes with what it ensures: the action of the machine it performs, or that it
changed nothing.
-/

namespace ContentAutomation

open Relational Transaction

variable {App : Type}

/-- `parseCorrelationId`: a UUID of version 1 to 8, trimmed and in lower case. -/
def parseCorrelationId (value : String) : Option String :=
  let candidate := Text.trim value
  if Text.isUuid (fun c => '1' ≤ c && c ≤ '8') candidate then
    some (String.ofList (candidate.toList.map Char.toLower))
  else none

private theorem isSteady_version : Text.IsSteady fun c => '1' ≤ c && c ≤ '8' := by
  intro c hc
  have hmem : "12345678".toList.contains c = true := by
    simp only [Bool.and_eq_true, decide_eq_true_eq, Char.le_def, UInt32.le_iff_toNat_le] at hc
    have hnat : c.toNat = c.val.toNat := rfl
    obtain ⟨hlow, hhigh⟩ := hc
    simp only [← hnat] at hlow hhigh
    rw [← Char.ofNat_toNat c]
    generalize c.toNat = n at hlow hhigh ⊢
    simp at hlow hhigh
    interval_cases n <;> decide
  have hsteady : ("12345678".toList.all fun d => decide
      (('1' ≤ d.toLower && d.toLower ≤ '8') = true ∧ Text.isTrimmed d.toLower = false ∧
        d.toLower.toLower = d.toLower)) = true := by decide
  exact of_decide_eq_true (List.all_eq_true.mp hsteady c (by simpa using hmem))

theorem parseCorrelationId_parsed {value correlationId : String}
    (h : parseCorrelationId value = some correlationId) :
    parseCorrelationId correlationId = some correlationId := by
  unfold parseCorrelationId at h
  dsimp only at h
  split at h
  · next huuid =>
    have hlist : correlationId.toList = (Text.trim value).toList.map Char.toLower := by
      rw [← Option.some.inj h]
      exact String.toList_ofList
    obtain ⟨hlower, htrim, hstays⟩ := Text.isUuid_toLower isSteady_version huuid hlist
    unfold parseCorrelationId
    dsimp only
    rw [htrim, if_pos hlower, hstays, String.ofList_toList]
  · cases h

/-- `validatePositiveInteger` accepts the value. -/
def isPositiveInteger (value : ℤ) : Bool := isSafeInteger value && decide (1 ≤ value)

/-- How long a claim or a heartbeat holds the lease unless told otherwise. -/
def defaultLeaseDurationMs : ℤ := 120000

/-- Why a claim is refused. -/
inductive JobClaimRefusal
  | attemptsExhausted | missing | state (state : BackgroundJobState) | versionConflict

/-- What a successful claim returns. -/
structure JobClaim where
  attemptNumber : ℤ
  correlationId : String
  handlerVersion : ℤ
  jobCreatedAt : ℤ
  leaseExpiresAt : ℤ
  leaseId : String
  maxAttempts : ℤ
  queueName : String
  version : ℤ
  workspaceId : String
  deriving DecidableEq

/-- `JobClaimResult`. -/
inductive JobClaimResult
  | refused (reason : JobClaimRefusal)
  | claimed (claim : JobClaim)

/-- The job as a claim leaves it; `startedAt` is the start of the first attempt. -/
def claimedJob (startedAt : Option ℤ) (now leaseExpiresAt : ℤ) (leaseId : String)
    (row : BackgroundJob) : BackgroundJob :=
  { row with
    attemptCount := row.attemptCount + 1
    heartbeatAt := some now
    lastErrorClass := none
    lastErrorCode := none
    leaseExpiresAt := some leaseExpiresAt
    leaseId := some leaseId
    nextAction := none
    stage := "starting"
    startedAt := some (startedAt.getD now)
    state := .processing
    version := row.version + 1 }

/-- The attempt that a claim inserts. -/
def claimedAttempt (job : BackgroundJob) (now : ℤ) (leaseId attemptId : String) : JobAttempt where
  id := attemptId
  workspaceId := job.workspaceId
  backgroundJobId := job.id
  attemptNumber := job.attemptCount + 1
  handlerVersion := job.handlerVersion
  state := .active
  stage := "starting"
  leaseId := leaseId
  correlationId := job.correlationId
  startedAt := now
  heartbeatAt := now
  completedAt := none
  nextAttemptAt := none
  errorClass := none
  errorCode := none
  nextAction := none

/-- `claimBackgroundJob`. -/
def claimBackgroundJob (context : WorkspaceContext) (jobId : String) (leaseDurationMs : Option ℤ)
    (now : ℤ) (leaseId attemptId : String) : JobTransaction App JobClaimResult :=
  let leaseDurationMs := leaseDurationMs.getD defaultLeaseDurationMs
  if isPositiveInteger leaseDurationMs = false then
    raise (validationError "JOB_LEASE_DURATION_INVALID")
  else rethrow (orDatabaseError "JOB_CLAIM_FAILED") do
    match ← backgroundJob.findFirst fun row =>
      row.id == jobId && row.workspaceId == context.workspaceId with
    | none => pure (.refused .missing)
    | some job =>
      if job.state ≠ .queued then pure (.refused (.state job.state))
      else if job.maxAttempts ≤ job.attemptCount then pure (.refused .attemptsExhausted)
      else do
        assertJobTransition .queued .processing
        let leaseExpiresAt := now + leaseDurationMs
        let updated ← backgroundJob.updateMany (claimedJob job.startedAt now leaseExpiresAt leaseId)
          fun row => row.id == job.id && (decide (row.attemptCount < job.maxAttempts) &&
            row.state == .queued && row.version == job.version &&
            row.workspaceId == context.workspaceId)
        if updated ≠ 1 then pure (.refused .versionConflict)
        else do
          jobAttempt.create (claimedAttempt job now leaseId attemptId)
          pure (.claimed
            { attemptNumber := job.attemptCount + 1
              correlationId := job.correlationId
              handlerVersion := job.handlerVersion
              jobCreatedAt := job.createdAt
              leaseExpiresAt
              leaseId
              maxAttempts := job.maxAttempts
              queueName := job.queueName
              version := job.version + 1
              workspaceId := job.workspaceId })

/-- The data of an update that a running handler makes: what changes in its job
and in its attempt. Neither what matters to the machine nor an identity does. -/
structure HolderUpdate where
  jobData : BackgroundJob → BackgroundJob
  attemptData : JobAttempt → JobAttempt
  id_jobData : ∀ row, (jobData row).id = row.id
  summary_jobData : ∀ row, (jobData row).summary = row.summary
  accepted_jobData : ∀ row, row.Accepted → row.state = .processing → (jobData row).Accepted
  backgroundJobId_attemptData : ∀ row, (attemptData row).backgroundJobId = row.backgroundJobId
  summary_attemptData : ∀ row, (attemptData row).summary = row.summary
  accepted_attemptData : ∀ row, row.Accepted → (attemptData row).Accepted

/-- `updateActiveAttempt`. -/
def updateActiveAttempt (context : WorkspaceContext) (jobId leaseId : String)
    (data : HolderUpdate) : JobTransaction App Unit :=
  rethrow (orDatabaseError "JOB_HEARTBEAT_FAILED") do
    let job ← backgroundJob.updateMany data.jobData fun row =>
      row.id == jobId && (row.leaseId == some leaseId && row.state == .processing &&
        row.workspaceId == context.workspaceId)
    let attempt ← jobAttempt.updateMany data.attemptData fun row =>
      row.leaseId == leaseId && (row.state == .active && row.workspaceId == context.workspaceId)
    if job ≠ 1 ∨ attempt ≠ 1 then raise jobLeaseLost else pure ()

/-- What a heartbeat writes. -/
def heartbeatUpdate (at' leaseDurationMs : ℤ) : HolderUpdate where
  jobData row := { row with
    heartbeatAt := some at', leaseExpiresAt := some (at' + leaseDurationMs),
    version := row.version + 1 }
  attemptData row := { row with heartbeatAt := at' }
  id_jobData _ := rfl
  summary_jobData _ := rfl
  accepted_jobData row h hstate := by
    refine { h with version := ?_, leaseShape := ?_ }
    · have hversion := h.version
      simp only
      omega
    · rcases h.leaseShape with ⟨-, hlease, -, -, hcompleted⟩ | ⟨hnot, -⟩
      · exact .inl ⟨hstate, hlease, rfl, rfl, hcompleted⟩
      · exact absurd hstate hnot
  backgroundJobId_attemptData _ := rfl
  summary_attemptData _ := rfl
  accepted_attemptData row h := { h with }

/-- `heartbeatBackgroundJob`. -/
def heartbeatBackgroundJob (context : WorkspaceContext) (jobId leaseId : String) (at' : ℤ)
    (leaseDurationMs : Option ℤ) : JobTransaction App Unit :=
  let leaseDurationMs := leaseDurationMs.getD defaultLeaseDurationMs
  if isPositiveInteger leaseDurationMs = false then
    raise (validationError "JOB_LEASE_DURATION_INVALID")
  else updateActiveAttempt context jobId leaseId (heartbeatUpdate at' leaseDurationMs)

/-- What recording a stage writes. -/
def stageUpdate (stage : String) (hstage : isSafeJobStage stage = true) (at' : ℤ) :
    HolderUpdate where
  jobData row := { row with heartbeatAt := some at', stage, version := row.version + 1 }
  attemptData row := { row with heartbeatAt := at', stage }
  id_jobData _ := rfl
  summary_jobData _ := rfl
  accepted_jobData row h hstate := by
    refine { h with version := ?_, stage := hstage, leaseShape := ?_ }
    · have hversion := h.version
      simp only
      omega
    · rcases h.leaseShape with ⟨-, hlease, hexpires, -, hcompleted⟩ | ⟨hnot, -⟩
      · exact .inl ⟨hstate, hlease, hexpires, rfl, hcompleted⟩
      · exact absurd hstate hnot
  backgroundJobId_attemptData _ := rfl
  summary_attemptData _ := rfl
  accepted_attemptData row h := { h with stage := hstage }

/-- `recordBackgroundJobStage`. -/
def recordBackgroundJobStage (context : WorkspaceContext) (jobId leaseId stage : String) (at' : ℤ) :
    JobTransaction App Unit :=
  if hstage : isSafeJobStage stage = true then
    updateActiveAttempt context jobId leaseId (stageUpdate stage hstage at')
  else raise (validationError "JOB_STAGE_INVALID")

/-- A job whose retry is released. -/
def retryDueJob (now : ℤ) (row : BackgroundJob) : BackgroundJob :=
  { row with
    nextAttemptAt := none
    queuedAt := now
    stage := "queued"
    state := .queued
    version := row.version + 1 }

/-- `nextAttemptAt: { lte: now }` and `leaseExpiresAt: { lte: now }`. -/
def isDue (instant : Option ℤ) (now : ℤ) : Bool :=
  match instant with
  | some instant => decide (instant ≤ now)
  | none => false

/-- `makeBackgroundJobRetryDue`. -/
def makeBackgroundJobRetryDue (context : WorkspaceContext) (jobId : String) (now : ℤ) :
    JobTransaction App Bool := do
  assertJobTransition .retryScheduled .queued
  rethrow (fun error => databaseError "JOB_RETRY_RELEASE_FAILED" error.cause) do
    let count ← backgroundJob.updateMany (retryDueJob now) fun row =>
      row.id == jobId && (isDue row.nextAttemptAt now && row.state == .retryScheduled &&
        row.workspaceId == context.workspaceId)
    pure (count == 1)

/-- What recovery does with a job whose lease has expired. -/
def recoveredState (job : BackgroundJob) : BackgroundJobState :=
  if job.cancellationRequestedAt.isSome then .cancelled
  else if job.maxAttempts ≤ job.attemptCount then .failedAttention
  else .queued

/-- The next action that recovery records, in the job and in its attempt. -/
def recoveredNextAction (job : BackgroundJob) : Option JobNextAction :=
  if job.cancellationRequestedAt.isSome then none
  else if job.maxAttempts ≤ job.attemptCount then some .contactSupport
  else some .retryAutomatic

/-- The job as recovery leaves it. A job that goes back to the queue needs
delivering again, so its dispatch status returns to pending. -/
def recoveredJob (job : BackgroundJob) (now : ℤ) (row : BackgroundJob) : BackgroundJob :=
  let cancellationRequested := job.cancellationRequestedAt.isSome
  let exhausted := decide (job.maxAttempts ≤ job.attemptCount)
  { row with
    completedAt := if exhausted || cancellationRequested then some now else none
    dispatchStatus :=
      if cancellationRequested then .cancelled
      else if recoveredState job = .queued then .pending
      else job.dispatchStatus
    lastErrorClass := if cancellationRequested then none else some .transient
    lastErrorCode := if cancellationRequested then none else some "JOB_LEASE_EXPIRED"
    leaseExpiresAt := none
    leaseId := none
    nextAction := recoveredNextAction job
    queuedAt := if exhausted || cancellationRequested then job.queuedAt else now
    stage :=
      if cancellationRequested then "cancelled"
      else if exhausted then "failed_attention" else "queued"
    state := recoveredState job
    version := row.version + 1 }

/-- The attempt as recovery leaves it. -/
def recoveredAttempt (job : BackgroundJob) (now : ℤ) (row : JobAttempt) : JobAttempt :=
  if job.cancellationRequestedAt.isSome then
    { row with completedAt := some now, state := .cancelled }
  else
    { row with
      completedAt := some now
      errorClass := some .transient
      errorCode := some "JOB_LEASE_EXPIRED"
      nextAction := recoveredNextAction job
      state := .leaseExpired }

/-- `{ cancelledAt, leaseExpiresAt: null, leaseId: null }`. -/
def cancelledOutbox (cancelledAt : ℤ) (row : JobOutbox) : JobOutbox :=
  { row with cancelledAt := some cancelledAt, leaseExpiresAt := none, leaseId := none }

/-- The outbox row of a job that is to be delivered again. -/
def redeliveredOutbox (now : ℤ) (row : JobOutbox) : JobOutbox :=
  { row with
    dispatchedAt := none
    leaseExpiresAt := none
    leaseId := none
    nextAttemptAt := now
    queueDeliveryId := none }

/-- The audit event of a reconciliation outcome (`serviceAuditData`). -/
def serviceAuditData (correlationId workspaceId resourceType : String) (resourceId : Option String)
    (outcome reasonCode : String) (now : ℤ) (id : String) : AuditEvent where
  id := id
  workspaceId := workspaceId
  actorType := .service
  actorUserId := none
  actorService := some "job-reconciler"
  action := "job.reconcile"
  resourceType := resourceType
  resourceId := resourceId
  outcome := some outcome
  reasonCode := some reasonCode
  correlationId := correlationId
  occurredAt := now

/-- The condition under which recovery finds a job, beside its identity. -/
def isLeaseExpired (now : ℤ) (job : BackgroundJob) : Bool :=
  isDue job.leaseExpiresAt now && job.state == .processing

/-- What recovery does with the outbox row: it goes with a cancelled job, and is
delivered again with a job that goes back to the queue. -/
def recoverOutbox (job : BackgroundJob) (now : ℤ) : JobTransaction App Unit :=
  if job.cancellationRequestedAt.isSome then do
    let _ ← jobOutbox.updateMany (cancelledOutbox now) fun row =>
      row.backgroundJobId == job.id && true
    pure ()
  else if recoveredState job = .queued then do
    let _ ← jobOutbox.updateMany (redeliveredOutbox now) fun row =>
      row.backgroundJobId == job.id && row.cancelledAt.isNone
    pure ()
  else pure ()

/-- The audit event of a recovery that is audited. -/
def auditRecovery (job : BackgroundJob) (now : ℤ) (auditCorrelationId : Option String)
    (auditId : String) : JobTransaction App Unit :=
  match auditCorrelationId with
  | none => pure ()
  | some correlationId =>
    auditEvent.create (serviceAuditData correlationId job.workspaceId "background_job" (some job.id)
      "REPAIRED" (if job.cancellationRequestedAt.isSome then "CANCELLATION_REQUEST_RECOVERED"
        else "EXPIRED_LEASE_RECOVERED") now auditId)

/-- `recoverExpiredBackgroundJobLease`; `audit` is the correlation identifier of
an audited recovery. -/
def recoverExpiredBackgroundJobLease (context : WorkspaceContext) (jobId : String) (now : ℤ)
    (audit : Option String) (auditId : String) : JobTransaction App Bool :=
  let auditCorrelationId := audit.bind parseCorrelationId
  if audit.isSome && auditCorrelationId.isNone then
    raise (validationError "JOB_RECONCILIATION_CORRELATION_INVALID")
  else rethrow (orDatabaseError "JOB_LEASE_RECOVERY_FAILED") do
    match ← backgroundJob.findFirst fun row =>
      row.id == jobId && (isLeaseExpired now row && row.workspaceId == context.workspaceId) with
    | none => pure false
    | some job =>
      match job.leaseId with
      | none => pure false
      | some leaseId => do
        assertJobTransition .processing (recoveredState job)
        let updated ← backgroundJob.updateMany (recoveredJob job now) fun row =>
          row.id == job.id && (isLeaseExpired now row && row.leaseId == some leaseId &&
            row.version == job.version && row.workspaceId == context.workspaceId)
        if updated ≠ 1 then pure false
        else do
          let attempt ← jobAttempt.updateMany (recoveredAttempt job now) fun row =>
            row.leaseId == leaseId && row.state == .active
          if attempt ≠ 1 then raise jobLeaseLost
          else do
            recoverOutbox job now
            auditRecovery job now auditCorrelationId auditId
            pure true

/-- The job as a settled cancellation leaves it. -/
def cancelledJob (cancelledAt : ℤ) (row : BackgroundJob) : BackgroundJob :=
  { row with
    completedAt := some cancelledAt
    dispatchStatus := .cancelled
    heartbeatAt := some cancelledAt
    lastErrorClass := none
    lastErrorCode := none
    leaseExpiresAt := none
    leaseId := none
    nextAction := none
    nextAttemptAt := none
    reconciliationCode := none
    reconciliationRequiredAt := none
    stage := "cancelled"
    state := .cancelled
    version := row.version + 1 }

/-- The attempt as a settled cancellation leaves it. -/
def cancelledAttempt (cancelledAt : ℤ) (row : JobAttempt) : JobAttempt :=
  { row with
    completedAt := some cancelledAt
    heartbeatAt := cancelledAt
    stage := "cancelled"
    state := .cancelled }

/-- `throwIfBackgroundJobCancellationRequested`. The result says whether the job
was cancelled, in which case the caller throws. -/
def throwIfBackgroundJobCancellationRequested (context : WorkspaceContext)
    (jobId leaseId : String) (cancelledAt : ℤ) : JobTransaction App Bool :=
  rethrow (orDatabaseError "JOB_CANCELLATION_CHECK_FAILED") do
    match ← backgroundJob.findFirst fun row =>
      row.id == jobId && (row.leaseId == some leaseId && row.state == .processing &&
        row.workspaceId == context.workspaceId) with
    | none => raise jobLeaseLost
    | some job =>
      if job.cancellationRequestedAt.isNone then pure false
      else do
        assertJobTransition .processing .cancelled
        let updated ← backgroundJob.updateMany (cancelledJob cancelledAt) fun row =>
          row.id == job.id && (row.cancellationRequestedAt.isSome && row.leaseId == some leaseId &&
            row.state == .processing && row.version == job.version &&
            row.workspaceId == context.workspaceId)
        if updated ≠ 1 then raise jobLeaseLost
        else do
          let attempt ← jobAttempt.updateMany (cancelledAttempt cancelledAt) fun row =>
            row.leaseId == leaseId && (row.state == .active &&
              row.workspaceId == context.workspaceId)
          if attempt ≠ 1 then raise jobLeaseLost
          else do
            let _ ← jobOutbox.updateMany (cancelledOutbox cancelledAt) fun row =>
              row.backgroundJobId == job.id && true
            pure true

/-! ### What the operations ensure -/

section Accepted

variable {row : BackgroundJob}

theorem accepted_claimedJob (h : row.Accepted) (hstate : row.state = .queued)
    (hbudget : row.attemptCount < row.maxAttempts) (startedAt : Option ℤ)
    (now leaseExpiresAt : ℤ) (leaseId : String) :
    (claimedJob startedAt now leaseExpiresAt leaseId row).Accepted := by
  have hidle : row.nextAttemptAt.isNone = true ∧ row.completedAt.isNone = true :=
    ⟨h.unscheduled (by simp [hstate]), h.unfinished (.inl hstate)⟩
  refine { h with
    attemptCount := ?_
    version := ?_
    stage := (by decide : isSafeJobStage "starting" = true)
    leaseShape := .inl ⟨rfl, rfl, rfl, rfl, hidle.2⟩
    timingShape := .inr (.inr ⟨.inr rfl, hidle⟩)
    errorShape := ⟨rfl, rfl⟩ }
  · have hcount := h.attemptCount
    simp only [BackgroundJob.AttemptCount, claimedJob] at hcount ⊢
    omega
  · have hversion := h.version
    simp only [claimedJob]
    omega

theorem accepted_claimedAttempt (h : row.Accepted) (now : ℤ) (leaseId attemptId : String) :
    (claimedAttempt row now leaseId attemptId).Accepted where
  attemptNumber := by
    have hcount := h.attemptCount.1
    simp only [claimedAttempt]
    omega
  handlerVersion := h.handlerVersion
  stage := (by decide : isSafeJobStage "starting" = true)
  timingShape := .inl ⟨rfl, rfl, rfl⟩
  errorShape := .inl ⟨.inl rfl, rfl, rfl, rfl⟩

theorem accepted_retryDueJob (h : row.Accepted) (hstate : row.state = .retryScheduled) (now : ℤ) :
    (retryDueJob now row).Accepted := by
  have hidle := h.unleased (by simp [hstate])
  have hopen := h.unfinished (.inr (.inr hstate))
  refine { h with
    version := ?_
    stage := (by decide : isSafeJobStage "queued" = true)
    leaseShape := .inr ⟨by simp [retryDueJob], hidle⟩
    timingShape := .inr (.inr ⟨.inl rfl, rfl, hopen⟩) }
  have hversion := h.version
  simp only [retryDueJob]
  omega

theorem accepted_recoveredJob (h : row.Accepted) (hstate : row.state = .processing) (now : ℤ) :
    (recoveredJob row now row).Accepted := by
  have hnext := h.unscheduled (by simp [hstate])
  have hversion : 0 < row.version + 1 := by
    have hold := h.version
    omega
  by_cases hcancelled : row.cancellationRequestedAt.isSome = true
  · refine { h with
      version := hversion, stage := ?_, leaseShape := .inr ⟨?_, rfl, rfl⟩
      timingShape := .inr (.inl ⟨?_, hnext, ?_⟩), errorShape := ?_ }
    all_goals
      simp [recoveredJob, recoveredState, recoveredNextAction, hcancelled,
        BackgroundJob.ErrorShape]
    decide
  · by_cases hexhausted : row.maxAttempts ≤ row.attemptCount
    · refine { h with
        version := hversion, stage := ?_, leaseShape := .inr ⟨?_, rfl, rfl⟩
        timingShape := .inr (.inl ⟨?_, hnext, ?_⟩), errorShape := ?_ }
      all_goals
        simp [recoveredJob, recoveredState, recoveredNextAction, hcancelled, hexhausted,
          BackgroundJob.ErrorShape]
      decide
    · refine { h with
        version := hversion, stage := ?_, leaseShape := .inr ⟨?_, rfl, rfl⟩
        timingShape := .inr (.inr ⟨?_, hnext, ?_⟩), errorShape := ?_ }
      all_goals
        simp [recoveredJob, recoveredState, recoveredNextAction, hcancelled, hexhausted,
          BackgroundJob.ErrorShape]
      decide

theorem accepted_cancelledJob (h : row.Accepted) (cancelledAt : ℤ) :
    (cancelledJob cancelledAt row).Accepted := by
  refine { h with
    version := ?_
    stage := (by decide : isSafeJobStage "cancelled" = true)
    leaseShape := .inr ⟨by simp [cancelledJob], rfl, rfl⟩
    timingShape := .inr (.inl ⟨.inr (.inr rfl), rfl, rfl⟩)
    errorShape := ⟨rfl, rfl⟩
    reconciliationShape := rfl
    reconciliationCode := rfl }
  have hversion := h.version
  simp only [cancelledJob]
  omega

theorem accepted_recoveredAttempt {attempt : JobAttempt} (h : attempt.Accepted)
    (hactive : attempt.state = .active) (job : BackgroundJob) (now : ℤ) :
    (recoveredAttempt job now attempt).Accepted := by
  have hnext := h.unscheduled hactive
  have herror := h.errorless hactive
  unfold recoveredAttempt
  split
  · exact { h with
      timingShape := .inr (.inr ⟨by simp, rfl, hnext⟩)
      errorShape := .inl ⟨by simp, herror⟩ }
  · next hnot =>
    refine { h with
      timingShape := .inr (.inr ⟨by simp, rfl, hnext⟩)
      errorShape := .inr ⟨by simp, rfl, rfl, ?_⟩ }
    by_cases hexhausted : job.maxAttempts ≤ job.attemptCount <;>
      simp [recoveredNextAction, hnot, hexhausted]

theorem accepted_cancelledAttempt {attempt : JobAttempt} (h : attempt.Accepted)
    (hactive : attempt.state = .active) (cancelledAt : ℤ) :
    (cancelledAttempt cancelledAt attempt).Accepted := by
  have hnext := h.unscheduled hactive
  have herror := h.errorless hactive
  exact { h with
    stage := (by decide : isSafeJobStage "cancelled" = true)
    timingShape := .inr (.inr ⟨by simp [cancelledAttempt], rfl, hnext⟩)
    errorShape := .inl ⟨by simp [cancelledAttempt], herror⟩ }

theorem accepted_cancelledOutbox {outbox : JobOutbox} (h : outbox.Accepted) (cancelledAt : ℤ) :
    (cancelledOutbox cancelledAt outbox).Accepted := by
  refine { h with leaseShape := rfl, deliveryShape := ?_, cancelledLease := .inr ⟨rfl, rfl⟩ }
  rcases h.deliveryShape with hpending | ⟨hdispatched, hdelivery, -⟩
  · exact .inl hpending
  · exact .inr ⟨hdispatched, hdelivery, rfl, rfl⟩

theorem accepted_redeliveredOutbox {outbox : JobOutbox} (h : outbox.Accepted) (now : ℤ) :
    (redeliveredOutbox now outbox).Accepted :=
  { h with
    leaseShape := rfl
    deliveryShape := .inl ⟨rfl, rfl⟩
    cancelledLease := .inr ⟨rfl, rfl⟩ }

theorem accepted_serviceAuditData {outcome reasonCode : String}
    (houtcome : isSafeOutcome outcome) (hreason : isSafeCode reasonCode)
    (correlationId workspaceId resourceType : String) (resourceId : Option String) (now : ℤ)
    (id : String) :
    (serviceAuditData correlationId workspaceId resourceType resourceId outcome reasonCode now
      id).Accepted where
  actorShape := .inr (.inl ⟨rfl, rfl, rfl⟩)
  outcome := houtcome
  reasonCode := hreason

end Accepted

end ContentAutomation
