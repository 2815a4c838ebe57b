import ContentAutomation.Jobs.Calls
import ContentAutomation.Library.Transition

/-!
# The processes of the job framework

Handlers and the callbacks they pass to their work, reconciler passes and
dispatcher passes run side by side on one database. A process is a program
counter with what it has read so far; between two transactions anything may
happen. `System.step` lets one process run its next transaction, starts a
process, crashes one, or lets the rest of the application act.
-/

namespace ContentAutomation

open Relational Transaction

variable {App : Type}

/-- `QueueJobEnvelope`. -/
structure QueueJobEnvelope where
  correlationId : String
  domainJobId : String
  handlerVersion : ℤ
  queueName : String
  workspaceId : String
  deriving DecidableEq

/-- The options of `runIdempotentJobHandler` that are data. -/
structure Delivery where
  context : WorkspaceContext
  envelope : QueueJobEnvelope
  leaseDurationMs : Option ℤ
  deriving DecidableEq

/-- Why a delivery is ignored. -/
inductive IgnoredReason
  | attemptsExhausted | cancelled | failedAttention | leased | missing | notDue

/-- `JobHandlerRunResult`. -/
inductive JobHandlerRunResult
  | alreadySucceeded | succeeded | cancelled | leaseAbandoned
  | retryScheduled (nextAttemptAt : ℤ)
  | failedAttention (nextAction : JobNextAction)
  | ignored (reason : IgnoredReason)

/-- The callbacks that the processes are given. -/
structure Environment (App : Type) where
  /-- The probe of a handler for the result of its job; `none` if it throws. -/
  resultExists : String → Database App → Option Bool
  /-- The probe of the reconciler; `none` if it throws. -/
  inspectResult : ReconciliationJob → Database App → Option JobResultInspection
  retryCallbacks : ManualRetryCallbacks App

/-! ### Handlers -/

/-- Where a run of `runIdempotentJobHandler` stands. -/
inductive HandlerPhase (App : Type)
  | loading
  /-- The row has been read; the result is yet to be probed. -/
  | probing (job : BackgroundJob)
  | releasing
  | reloading
  | claiming
  /-- The claim is made; the request for cancellation is yet to be checked. -/
  | checking (claim : JobClaim)
  | executing (claim : JobClaim)
  | committing (claim : JobClaim) (result : List (CommitEffect App))
  | settling (claim : JobClaim) (failure : JobFailure)
  | stopped (result : Except JobError JobHandlerRunResult)

/-- A run of `runIdempotentJobHandler`. -/
structure HandlerRun (App : Type) where
  delivery : Delivery
  phase : HandlerPhase App

/-- What the work of a handler comes to. -/
inductive ExecutionOutcome (App : Type)
  | returned (result : List (CommitEffect App))
  /-- The work threw: a `JobHandlerFailure`, or anything else. -/
  | threw (failure : Option JobFailure)
  /-- The cancellation error of a callback came through. -/
  | cancelled
  /-- The work threw after the delivery was aborted. -/
  | abandoned

/-- What a handler's next step takes from outside: the time, identifiers, the
jitter, whether the delivery is aborted, and the outcome of the work. -/
structure HandlerInput (App : Type) where
  now : ℤ
  leaseId : String
  attemptId : String
  random : Option ℚ
  aborted : Bool
  outcome : ExecutionOutcome App

/-- `validateDeliveryJob` accepts the row. -/
def isDeliveryJob (job : BackgroundJob) (envelope : QueueJobEnvelope) : Bool :=
  job.correlationId == envelope.correlationId && job.handlerVersion == envelope.handlerVersion &&
    job.queueName == envelope.queueName && job.workspaceId == envelope.workspaceId

/-- `claimToIgnored`. -/
def claimToIgnored : JobClaimRefusal → IgnoredReason
  | .attemptsExhausted => .attemptsExhausted
  | .missing => .missing
  | .state _ => .leased
  | .versionConflict => .leased

/-- The handler after it has read its row for the first time. -/
def afterLoad (envelope : QueueJobEnvelope) : Option BackgroundJob → HandlerPhase App
  | none => .stopped (.ok (.ignored .missing))
  | some job =>
    if isDeliveryJob job envelope then .probing job
    else .stopped (.error (validationError "JOB_DELIVERY_MISMATCH"))

/-- The handler after it has probed the result of the row it read. -/
def afterProbe (job : BackgroundJob) (now : ℤ) (existingResult : Bool) : HandlerPhase App :=
  if job.state = .succeeded then
    if existingResult then .stopped (.ok .alreadySucceeded)
    else .stopped (.error (databaseError "JOB_RESULT_INCONSISTENT" none))
  else if job.state = .cancelled then .stopped (.ok (.ignored .cancelled))
  else if job.state = .failedAttention then .stopped (.ok (.ignored .failedAttention))
  else if existingResult then
    .stopped (.error (databaseError "JOB_RESULT_STATE_INCONSISTENT" none))
  else if job.state = .retryScheduled then
    if isDue job.nextAttemptAt now then .releasing else .stopped (.ok (.ignored .notDue))
  else if job.state = .processing then .stopped (.ok (.ignored .leased))
  else .claiming

/-- The handler after it has read its row again. -/
def afterReload : Option BackgroundJob → HandlerPhase App
  | none => .stopped (.ok (.ignored .missing))
  | some job =>
    if job.state = .processing then .stopped (.ok (.ignored .leased)) else .claiming

/-- The handler after its claim. -/
def afterClaim : JobClaimResult → HandlerPhase App
  | .refused reason => .stopped (.ok (.ignored (claimToIgnored reason)))
  | .claimed claim =>
    if (parseCorrelationId claim.correlationId).isSome then .checking claim
    else .stopped (.error (databaseError "JOB_CORRELATION_INVALID" none))

/-- The handler after its first check for a request for cancellation. -/
def afterCheck (claim : JobClaim) (aborted : Bool) : Except JobError Bool → HandlerPhase App
  | .ok false => .executing claim
  | .ok true => .stopped (.ok .cancelled)
  | .error _ => if aborted then .stopped (.ok .leaseAbandoned) else .settling claim unclassifiedFailure

/-- The handler after its work. -/
def afterExecution (claim : JobClaim) : ExecutionOutcome App → HandlerPhase App
  | .returned result => .committing claim result
  | .threw (some failure) => .settling claim (jobHandlerFailure failure)
  | .threw none => .settling claim unclassifiedFailure
  | .cancelled => .stopped (.ok .cancelled)
  | .abandoned => .stopped (.ok .leaseAbandoned)

/-- The decision of `settleHandlerFailure`. -/
def settlementDecision (claim : JobClaim) (failure : JobFailure) (now : ℤ) (random : Option ℚ) :
    JobRetryDecision :=
  decideJobRetry
    { attemptNumber := claim.attemptNumber
      failure
      jobCreatedAt := claim.jobCreatedAt
      maxAttempts := claim.maxAttempts
      now
      random }

/-- The result of a handler whose failure has been settled. -/
def JobRetryDecision.runResult : JobRetryDecision → JobHandlerRunResult
  | .retry _ nextAttemptAt => .retryScheduled nextAttemptAt
  | .failedAttention nextAction => .failedAttention nextAction

/-- The claim that a handler works under. -/
def HandlerPhase.claim? : HandlerPhase App → Option JobClaim
  | .checking claim => some claim
  | .executing claim => some claim
  | .committing claim _ => some claim
  | .settling claim _ => some claim
  | _ => none

/-! ### Callbacks -/

/-- The callbacks that a handler passes to its work. -/
inductive CallbackKind
  | heartbeat
  | recordStage (stage : String)
  | throwIfCancellationRequested
  deriving DecidableEq

/-- Where a callback stands. -/
inductive CallbackPhase
  | checking
  | updating
  | returned
  /-- It threw; `none` is the cancellation error. -/
  | threw (error : Option JobError)
  deriving DecidableEq

/-- A callback under way. -/
structure CallbackRun where
  delivery : Delivery
  claim : JobClaim
  kind : CallbackKind
  calledAt : ℤ
  phase : CallbackPhase
  deriving DecidableEq

/-- The callback after its check. -/
def CallbackKind.afterCheck : CallbackKind → Except JobError Bool → CallbackPhase
  | .throwIfCancellationRequested, .ok false => .returned
  | _, .ok false => .updating
  | _, .ok true => .threw none
  | _, .error error => .threw (some error)

/-- The callback after its update. -/
def afterUpdate : Except JobError Unit → CallbackPhase
  | .ok () => .returned
  | .error error => .threw (some error)

/-! ### Reconciler passes -/

/-- Where a pass of `reconcileBackgroundJobs` stands. -/
inductive ReconcilerPhase
  | scanning (scan : ReconciliationScan)
  | visiting (scan : ReconciliationScan) (pending : List ReconciliationJob)
  /-- A result has been inspected; the repair is yet to be made. -/
  | settlingResult (job : ReconciliationJob) (remedy : ResultRepair)
      (pending : List ReconciliationJob)
  | cleaning (pending : List CleanupDebtOutcome)
  | failed (error : JobError)

/-- A pass of `reconcileBackgroundJobs`. -/
structure ReconcilerPass where
  correlationId : String
  batchSize : ℕ
  /-- The clock at the start of the pass. -/
  now : ℤ
  phase : ReconcilerPhase

/-- What a reconciler's next step takes from outside. -/
structure ReconcilerInput where
  /-- The rows that a scan returns. -/
  chosen : List String
  outboxId : String
  auditId : String
  /-- The outcomes of the next cleanup hook. -/
  outcomes : List CleanupDebtOutcome

/-- What follows a scan whose rows have all been visited. -/
def ReconciliationScan.next : ReconciliationScan → ReconcilerPhase
  | .expired => .scanning .dueRetries
  | .dueRetries => .scanning .strandedDelivery
  | .strandedDelivery => .scanning .missingOutbox
  | .missingOutbox => .scanning .resultCandidates
  | .resultCandidates => .cleaning []

/-- The pass after a repair of its first pending row. -/
def afterRepair {α : Type} (scan : ReconciliationScan) (pending : List ReconciliationJob) :
    Except JobError α → ReconcilerPhase
  | .ok _ => .visiting scan pending
  | .error error => .failed error

/-- The pass after the inspection of a result. -/
def afterInspection (job : ReconciliationJob) (pending : List ReconciliationJob) :
    Except JobError JobResultInspection → ReconcilerPhase
  | .error error => .failed error
  | .ok result =>
    match resultRepair job result with
    | none => .visiting .resultCandidates pending
    | some remedy => .settlingResult job remedy pending

/-- Two outcomes have the same key. -/
def CleanupDebtOutcome.isDuplicate (outcome other : CleanupDebtOutcome) : Bool :=
  outcome.workspaceId == other.workspaceId && outcome.resourceType == other.resourceType &&
    outcome.resourceId.getD "" == other.resourceId.getD "" &&
    outcome.reasonCode == other.reasonCode && outcome.outcome == other.outcome

/-- The outcomes of a hook, each key once. -/
def distinctOutcomes : List CleanupDebtOutcome → List CleanupDebtOutcome
  | [] => []
  | outcome :: outcomes =>
    outcome :: (distinctOutcomes outcomes).filter fun other => !outcome.isDuplicate other

/-- The pass after a cleanup hook has returned its outcomes. -/
def afterHook (batchSize : ℕ) (outcomes : List CleanupDebtOutcome) : ReconcilerPhase :=
  if batchSize < outcomes.length then
    .failed (validationError "JOB_CLEANUP_HOOK_LIMIT_EXCEEDED")
  else .cleaning (distinctOutcomes outcomes)

/-- The pass after the audit of a cleanup. -/
def afterAudit (pending : List CleanupDebtOutcome) : Except JobError Unit → ReconcilerPhase
  | .ok () => .cleaning pending
  | .error error => .failed error

/-! ### Dispatcher passes -/

/-- Where the dispatch of one leased row stands. -/
inductive DispatchPhase
  | publishing
  | marking (deliveryId : String)
  | releasing (errorCode : String)
  | settled
  | rejected

/-- Where a pass of `reconcileJobOutbox` stands. -/
inductive DispatcherPhase
  | leasing
  | dispatching (records : List (LeasedOutboxRecord × DispatchPhase))
  | failed (error : JobError)

/-- A pass of `reconcileJobOutbox`. -/
structure DispatcherPass where
  batchSize : ℕ
  failureDelayMs : ℤ
  leaseDurationMs : ℤ
  /-- The clock at the start of the pass. -/
  now : ℤ
  phase : DispatcherPhase

/-- What a dispatcher's next step takes from outside. -/
structure DispatcherInput where
  /-- The outbox rows that other transactions have locked. -/
  locked : List String
  leaseId : String
  /-- Which of the leased rows goes on. -/
  index : ℕ
  /-- The answer of the publisher: a delivery, or the code of its error. -/
  publication : Except String String

/-- The dispatch of a row after the publisher has answered. -/
def afterPublication (record : LeasedOutboxRecord) : Except String String → DispatchPhase
  | .ok deliveryId =>
    if (parseCorrelationId record.correlationId).isSome then .marking deliveryId else .rejected
  | .error errorCode =>
    if (parseCorrelationId record.correlationId).isSome then .releasing errorCode else .rejected

/-- The dispatch of a row after its mark. -/
def afterMark : Except JobError Unit → DispatchPhase
  | .ok () => .settled
  | .error _ => .releasing "JOB_DISPATCH_MARK_FAILED"

/-! ### The system -/

/-- A process. -/
inductive Process (App : Type)
  | unused
  | handler (run : HandlerRun App)
  | callback (run : CallbackRun)
  | reconciler (pass : ReconcilerPass)
  | dispatcher (pass : DispatcherPass)
  | crashed

/-- The input of a process. -/
inductive Input (App : Type)
  | handler (input : HandlerInput App)
  | callback
  | reconciler (input : ReconcilerInput)
  | dispatcher (input : DispatcherInput)

/-- The next transaction of a process, and what becomes of the process. -/
structure Intent (App : Type) where
  answer : Type
  call : Call App answer
  resume : Except JobError answer → Process App

/-- The handler goes on in a phase, or stops with an exception. -/
def HandlerRun.after {α : Type} (run : HandlerRun App) (next : α → HandlerPhase App) :
    Except JobError α → Process App
  | .ok answer => .handler { run with phase := next answer }
  | .error error => .handler { run with phase := .stopped (.error error) }

/-- The next transaction of a handler. -/
def HandlerRun.intent (environment : Environment App) (run : HandlerRun App)
    (input : HandlerInput App) : Option (Intent App) :=
  let context := run.delivery.context
  let jobId := run.delivery.envelope.domainJobId
  match run.phase with
  | .loading =>
    some ⟨_, .loadOwnedJob context jobId, run.after (afterLoad run.delivery.envelope)⟩
  | .probing job =>
    some ⟨_, .resultExists (environment.resultExists jobId), run.after (afterProbe job input.now)⟩
  | .releasing => some ⟨_, .makeRetryDue context jobId input.now, run.after fun _ => .reloading⟩
  | .reloading => some ⟨_, .loadOwnedJob context jobId, run.after afterReload⟩
  | .claiming =>
    some ⟨_, .claimBackgroundJob context jobId run.delivery.leaseDurationMs input.now input.leaseId
      input.attemptId, run.after afterClaim⟩
  | .checking claim =>
    some ⟨_, .throwIfCancellationRequested context jobId claim.leaseId input.now,
      fun result => .handler { run with phase := afterCheck claim input.aborted result }⟩
  | .executing claim =>
    some ⟨_, .skip, run.after fun _ => afterExecution claim input.outcome⟩
  | .committing claim result =>
    some ⟨_, .commitJobSuccess context jobId claim.leaseId result input.now,
      run.after fun _ => .stopped (.ok .succeeded)⟩
  | .settling claim failure =>
    let decision := settlementDecision claim failure input.now input.random
    some ⟨_, .commitJobFailure context jobId claim.leaseId failure decision input.now,
      run.after fun _ => .stopped (.ok decision.runResult)⟩
  | .stopped _ => none

/-- The next transaction of a callback. -/
def CallbackRun.intent (run : CallbackRun) : Option (Intent App) :=
  let context := run.delivery.context
  let jobId := run.delivery.envelope.domainJobId
  match run.phase with
  | .checking =>
    some ⟨_, .throwIfCancellationRequested context jobId run.claim.leaseId run.calledAt,
      fun result => .callback { run with phase := run.kind.afterCheck result }⟩
  | .updating =>
    match run.kind with
    | .heartbeat =>
      some ⟨_, .heartbeat context jobId run.claim.leaseId run.calledAt
        run.delivery.leaseDurationMs,
        fun result => .callback { run with phase := afterUpdate result }⟩
    | .recordStage stage =>
      some ⟨_, .recordStage context jobId run.claim.leaseId stage run.calledAt,
        fun result => .callback { run with phase := afterUpdate result }⟩
    | .throwIfCancellationRequested => none
  | _ => none

/-- The next transaction of a pass of the reconciler. -/
def ReconcilerPass.intent (environment : Environment App) (pass : ReconcilerPass)
    (input : ReconcilerInput) : Option (Intent App) :=
  let goOn (phase : ReconcilerPhase) : Process App := .reconciler { pass with phase }
  match pass.phase with
  | .scanning scan =>
    some ⟨_, .scan scan pass.now pass.batchSize input.chosen, fun result =>
      goOn (match result with
        | .ok pending => .visiting scan pending
        | .error error => .failed error)⟩
  | .visiting scan [] => some ⟨_, .skip, fun _ => goOn scan.next⟩
  | .visiting scan (job :: pending) =>
    match scan with
    | .expired =>
      some ⟨_, .recoverExpiredLease ⟨job.workspaceId⟩ job.id pass.now (some pass.correlationId)
        input.auditId, fun result => goOn (afterRepair scan pending result)⟩
    | .dueRetries =>
      some ⟨_, .requeueDueRetry job.id job.workspaceId pass.correlationId pass.now input.outboxId
        input.auditId, fun result => goOn (afterRepair scan pending result)⟩
    | .strandedDelivery =>
      some ⟨_, .requeueStrandedDelivery job.id job.workspaceId pass.correlationId pass.now
        input.outboxId input.auditId, fun result => goOn (afterRepair scan pending result)⟩
    | .missingOutbox =>
      some ⟨_, .repairMissingOutbox job.id job.workspaceId pass.correlationId pass.now
        input.outboxId input.auditId, fun result => goOn (afterRepair scan pending result)⟩
    | .resultCandidates =>
      some ⟨_, .inspectResult (environment.inspectResult job),
        fun result => goOn (afterInspection job pending result)⟩
  | .settlingResult job (.flag reason) pending =>
    some ⟨_, .flagAmbiguousJob job.id job.workspaceId pass.correlationId reason pass.now
      input.auditId, fun result => goOn (afterRepair .resultCandidates pending result)⟩
  | .settlingResult job .repair pending =>
    some ⟨_, .repairCommittedResult job.id job.workspaceId pass.correlationId pass.now
      input.auditId, fun result => goOn (afterRepair .resultCandidates pending result)⟩
  | .cleaning [] => some ⟨_, .skip, fun _ => goOn (afterHook pass.batchSize input.outcomes)⟩
  | .cleaning (outcome :: pending) =>
    some ⟨_, .auditServiceOutcome pass.correlationId outcome pass.now input.auditId,
      fun result => goOn (afterAudit pending result)⟩
  | .failed _ => none

/-- The next transaction of a pass of the dispatcher. -/
def DispatcherPass.intent (pass : DispatcherPass) (input : DispatcherInput) :
    Option (Intent App) :=
  let goOn (phase : DispatcherPhase) : Process App := .dispatcher { pass with phase }
  match pass.phase with
  | .leasing =>
    some ⟨_, .leasePendingOutbox pass.now pass.leaseDurationMs pass.batchSize input.locked
      input.leaseId, fun result =>
        goOn (match result with
          | .ok records => .dispatching (records.map fun record => (record, .publishing))
          | .error error => .failed error)⟩
  | .dispatching records =>
    let goOnWith (record : LeasedOutboxRecord) (phase : DispatchPhase) : Process App :=
      goOn (.dispatching (records.set input.index (record, phase)))
    match records[input.index]? with
    | some (record, .publishing) =>
      some ⟨_, .skip, fun _ => goOnWith record (afterPublication record input.publication)⟩
    | some (record, .marking deliveryId) =>
      some ⟨_, .markOutboxDispatched record deliveryId pass.now,
        fun result => goOnWith record (afterMark result)⟩
    | some (record, .releasing errorCode) =>
      some ⟨_, .releaseOutbox record errorCode (pass.now + pass.failureDelayMs),
        fun _ => goOnWith record .settled⟩
    | _ => none
  | .failed _ => none

/-- The next transaction of a process. -/
def Process.intent (environment : Environment App) (process : Process App) (input : Input App) :
    Option (Intent App) :=
  match process, input with
  | .handler run, .handler input => run.intent environment input
  | .callback run, .callback => run.intent
  | .reconciler pass, .reconciler input => pass.intent environment input
  | .dispatcher pass, .dispatcher input => pass.intent input
  | _, _ => none

/-- The job and the claim that a process works under. -/
def Process.claim? : Process App → Option (String × JobClaim)
  | .handler run => run.phase.claim?.map fun claim => (run.delivery.envelope.domainJobId, claim)
  | .callback run => some (run.delivery.envelope.domainJobId, run.claim)
  | _ => none

/-- The callback that a process is. -/
def Process.callback? : Process App → Option CallbackRun
  | .callback run => some run
  | _ => none

/-- The system: its database, its processes, the log of the results that were
committed, by job and lease, and the log of the exceptions that were raised. -/
structure System (App : Type) where
  db : Database App
  processes : ℕ → Process App
  committed : List (String × String)
  raised : List JobError

/-- The transactions that are run from outside the processes. -/
inductive Command (App : Type)
  | application (effects : List (CommitEffect App))
  | enqueue (context : WorkspaceContext) (input : EnqueueBackgroundJobInput)
      (jobId outboxId : String)
  | recover (context : WorkspaceContext) (jobId : String) (now : ℤ) (audit : Option String)
      (auditId : String)
  | cancel (correlationId : String) (principal : SessionPrincipal) (jobId reasonCode : String)
      (now : ℤ) (auditId : String)
  | retry (correlationId : String) (principal : SessionPrincipal) (jobId reasonCode : String)
      (now : ℤ) (outboxId auditId : String)

/-- How a process starts. -/
inductive Birth
  | deliver (delivery : Delivery)
  /-- The work of a handler calls one of its callbacks. -/
  | callback (owner : ℕ) (kind : CallbackKind) (calledAt : ℤ)
  | reconcile (correlationId : String) (batchSize : Option ℤ)
  | dispatch (batchSize failureDelayMs leaseDurationMs : Option ℤ)

/-- What may happen to the system. -/
inductive Event (App : Type)
  | tick (elapsed : ℕ)
  /-- The application writes tables that are not those of the jobs. -/
  | write (internalUsers : List InternalUser) (analysisJobs : List AnalysisJob) (app : App)
  | command (command : Command App)
  | spawn (pid : ℕ) (birth : Birth)
  | advance (pid : ℕ) (input : Input App)
  | crash (pid : ℕ)

/-- The transaction of a command. -/
def Command.call (environment : Environment App) : Command App → (α : Type) × Call App α
  | .application effects => ⟨_, .application effects⟩
  | .enqueue context input jobId outboxId =>
    ⟨_, .enqueueBackgroundJob context input jobId outboxId⟩
  | .recover context jobId now audit auditId =>
    ⟨_, .recoverExpiredLease context jobId now audit auditId⟩
  | .cancel correlationId principal jobId reasonCode now auditId =>
    ⟨_, .cancelBackgroundJob correlationId principal jobId reasonCode now auditId⟩
  | .retry correlationId principal jobId reasonCode now outboxId auditId =>
    ⟨_, .retryBackgroundJob environment.retryCallbacks correlationId principal jobId reasonCode now
      outboxId auditId⟩

namespace System

/-- The system after a transaction has been run, with its answer. -/
def perform {α : Type} (s : System App) (call : Call App α) : Except JobError α × System App :=
  match call.body.commit s.db with
  | (.ok answer, db) =>
    (.ok answer, { s with db, committed := call.commits ++ s.committed })
  | (.error error, db) => (.error error, { s with db, raised := error :: s.raised })

/-- The system with another process. -/
def setProcess (s : System App) (pid : ℕ) (process : Process App) : System App :=
  { s with processes := Function.update s.processes pid process }

/-- Run an enabled transaction for its effect. -/
def run {α : Type} (s : System App) (call : Call App α) : Option (System App) :=
  if call.isEnabled s.db then some (s.perform call).2 else none

/-- Run the next transaction of a process. -/
def runIntent (s : System App) (pid : ℕ) (intent : Intent App) : Option (System App) :=
  if intent.call.isEnabled s.db then
    let result := s.perform intent.call
    some (result.2.setProcess pid (intent.resume result.1))
  else none

/-- The process that a birth starts, if it starts one. -/
def start (s : System App) : Birth → Option (Process App)
  | .deliver delivery =>
    if delivery.context.workspaceId = delivery.envelope.workspaceId then
      some (.handler ⟨delivery, .loading⟩)
    else
      some (.handler ⟨delivery, .stopped
        (.error (.operational ⟨"JOB_DELIVERY_NOT_FOUND", .notFound, false, 404⟩ none))⟩)
  | .callback owner kind calledAt =>
    match s.processes owner with
    | .handler ⟨delivery, .executing claim⟩ =>
      some (.callback ⟨delivery, claim, kind, calledAt, .checking⟩)
    | _ => none
  | .reconcile correlationId batchSize =>
    let batchSize := batchSize.getD defaultReconciliationBatchSize
    match parseCorrelationId correlationId with
    | none => none
    | some correlationId =>
      if isPositiveInteger batchSize ∧ batchSize ≤ maximumReconciliationBatchSize then
        some (.reconciler ⟨correlationId, batchSize.toNat, s.db.clock, .scanning .expired⟩)
      else none
  | .dispatch batchSize failureDelayMs leaseDurationMs =>
    let batchSize := batchSize.getD defaultDispatchBatchSize
    let failureDelayMs := failureDelayMs.getD defaultFailureDelayMs
    let leaseDurationMs := leaseDurationMs.getD defaultDispatchLeaseDurationMs
    if isPositiveInteger batchSize ∧ isPositiveInteger failureDelayMs ∧
        isPositiveInteger leaseDurationMs then
      some (.dispatcher ⟨batchSize.toNat, failureDelayMs, leaseDurationMs, s.db.clock, .leasing⟩)
    else none

/-- One step of the system, if the event can happen. -/
def step (environment : Environment App) (s : System App) : Event App → Option (System App)
  | .tick elapsed => some { s with db := { s.db with clock := s.db.clock + elapsed } }
  | .write internalUsers analysisJobs app =>
    some { s with db := { s.db with internalUsers, analysisJobs, app } }
  | .command command => s.run (command.call environment).2
  | .spawn pid birth =>
    match s.processes pid, s.start birth with
    | .unused, some process => some (s.setProcess pid process)
    | _, _ => none
  | .advance pid input =>
    match (s.processes pid).intent environment input with
    | none => none
    | some intent => s.runIntent pid intent
  | .crash pid => some (s.setProcess pid .crashed)

/-- The system takes a step. -/
def Step (environment : Environment App) (s : System App) (event : Event App) (t : System App) :
    Prop := s.step environment event = some t

/-- A system without jobs and without processes. -/
def initial (clock : ℤ) (internalUsers : List InternalUser) (app : App) : System App where
  db :=
    { clock
      backgroundJobs := Table.empty _
      jobAttempts := Table.empty _
      jobOutbox := Table.empty _
      auditEvents := Table.empty _
      internalUsers
      analysisJobs := []
      app }
  processes _ := .unused
  committed := []
  raised := []

/-- A state that the system can come to. -/
def Reachable (environment : Environment App) (s : System App) : Prop :=
  ∃ clock internalUsers app,
    Transition.Reachable (Step environment) (initial clock internalUsers app) s

end System

end ContentAutomation
