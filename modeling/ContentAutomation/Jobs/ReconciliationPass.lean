import ContentAutomation.Jobs.System
import ContentAutomation.Library.Session

/-!
# A whole pass of the reconciler

`reconcileBackgroundJobs` from its first scan to its last cleanup hook, with no
other operation in between. Each scan and each repair is a transaction of its
own, so a pass that throws keeps the repairs that it has made.
-/

namespace ContentAutomation

open Relational Session

variable {App : Type}

/-- `JobCleanupDebtHook`: a program of the application, given a limit and the
instant of the pass. -/
abbrev JobCleanupDebtHook (App : Type) :=
  ℕ → ℤ → Session (Database App) JobError (List CleanupDebtOutcome)

/-- `ReconcileBackgroundJobsOptions`. -/
structure ReconcileBackgroundJobsOptions (App : Type) where
  batchSize : Option ℤ
  cleanupDebtHooks : List (JobCleanupDebtHook App)
  correlationId : String
  /-- `none` stands for an inspection that throws. -/
  inspectResult : ReconciliationJob → Database App → Option JobResultInspection
  now : ℤ

/-- What a pass takes from outside. -/
structure ReconcilerSupply (App : Type) where
  /-- The order in which a scan finds the rows that it selects. -/
  order : List BackgroundJob → List BackgroundJob
  /-- The identifiers of the rows that the next transaction creates. -/
  outboxId : Database App → String
  auditId : Database App → String

/-- `ReconcileBackgroundJobsResult`. -/
@[ext] structure ReconcileBackgroundJobsResult where
  flagged : ℕ
  inspected : ℕ
  repaired : ℕ
  deriving DecidableEq

namespace ReconcileBackgroundJobsResult

instance : Zero ReconcileBackgroundJobsResult := ⟨⟨0, 0, 0⟩⟩

instance : Add ReconcileBackgroundJobsResult where
  add result other :=
    ⟨result.flagged + other.flagged, result.inspected + other.inspected,
      result.repaired + other.repaired⟩

/-- Results of the parts of a pass add up. -/
instance : AddMonoid ReconcileBackgroundJobsResult where
  add_assoc _ _ _ := ReconcileBackgroundJobsResult.ext (Nat.add_assoc _ _ _)
    (Nat.add_assoc _ _ _) (Nat.add_assoc _ _ _)
  zero_add _ := ReconcileBackgroundJobsResult.ext (Nat.zero_add _) (Nat.zero_add _)
    (Nat.zero_add _)
  add_zero _ := ReconcileBackgroundJobsResult.ext (Nat.add_zero _) (Nat.add_zero _)
    (Nat.add_zero _)
  nsmul := nsmulRec

/-- A repair that was made counts as one. -/
def repairedIf (repaired : Bool) : ReconcileBackgroundJobsResult :=
  ⟨0, 0, if repaired then 1 else 0⟩

/-- A flag that was set counts as one. -/
def flaggedIf (flagged : Bool) : ReconcileBackgroundJobsResult := ⟨if flagged then 1 else 0, 0, 0⟩

/-- The rows of a scan count as inspected. -/
def inspectedRows (count : ℕ) : ReconcileBackgroundJobsResult := ⟨0, count, 0⟩

/-- The outcome of a cleanup counts as inspected, and as what it is. -/
def ofOutcome (outcome : CleanupDebtOutcome) : ReconcileBackgroundJobsResult :=
  match outcome.outcome with
  | .flagged => ⟨1, 1, 0⟩
  | .repaired => ⟨0, 1, 1⟩

end ReconcileBackgroundJobsResult

open ReconcileBackgroundJobsResult

/-- The pass with its correlation identifier parsed and its batch size checked. -/
structure PreparedPass (App : Type) where
  batchSize : ℕ
  cleanupDebtHooks : List (JobCleanupDebtHook App)
  correlationId : String
  correlationId_parsed : parseCorrelationId correlationId = some correlationId
  inspectResult : ReconciliationJob → Database App → Option JobResultInspection
  now : ℤ
  supply : ReconcilerSupply App

/-- The validation at the start of `reconcileBackgroundJobs`. -/
def preparePass (options : ReconcileBackgroundJobsOptions App) (supply : ReconcilerSupply App) :
    Except JobError (PreparedPass App) :=
  match hparse : parseCorrelationId options.correlationId with
  | none => .error (validationError "JOB_RECONCILIATION_CORRELATION_INVALID")
  | some correlationId =>
    let batchSize := options.batchSize.getD defaultReconciliationBatchSize
    if isPositiveInteger batchSize ∧ batchSize ≤ maximumReconciliationBatchSize then
      .ok
        { batchSize := batchSize.toNat
          cleanupDebtHooks := options.cleanupDebtHooks
          correlationId
          correlationId_parsed := parseCorrelationId_parsed hparse
          inspectResult := options.inspectResult
          now := options.now
          supply }
    else .error (validationError "JOB_RECONCILIATION_BATCH_INVALID")

namespace PreparedPass

/-- `backgroundJob.findMany` of a scan. -/
def findJobs (pass : PreparedPass App) (scan : ReconciliationScan) :
    Session (Database App) JobError (List ReconciliationJob) :=
  commit fun _ => Transaction.read fun db =>
    ((pass.supply.order (db.backgroundJobs.rows.filter (scan.selects db pass.now))).take
      pass.batchSize).map BackgroundJob.toReconciliationJob

/-- A transaction whose answer is counted. -/
def counting {α : Type} (count : α → ReconcileBackgroundJobsResult)
    (body : Database App → JobTransaction App α) :
    Session (Database App) JobError ReconcileBackgroundJobsResult := do
  let answer ← commit body
  Pure.pure (count answer)

/-- What follows the inspection of a result. -/
def settleResult (pass : PreparedPass App) (job : ReconciliationJob) :
    Option ResultRepair → Session (Database App) JobError ReconcileBackgroundJobsResult
  | none => Pure.pure 0
  | some (.flag reason) => counting flaggedIf fun db =>
    flagAmbiguousJob job.id job.workspaceId pass.correlationId reason pass.now
      (pass.supply.auditId db)
  | some .repair => counting repairedIf fun db =>
    repairCommittedResult job.id job.workspaceId pass.correlationId pass.now
      (pass.supply.auditId db)

/-- `options.inspectResult`. -/
def inspect (pass : PreparedPass App) (job : ReconciliationJob) :
    Session (Database App) JobError JobResultInspection :=
  commit fun db =>
    match pass.inspectResult job db with
    | none => Transaction.raise (.fault .callback)
    | some inspection => Pure.pure inspection

/-- What a scan does with one of its rows. -/
def visit (pass : PreparedPass App) (scan : ReconciliationScan) (job : ReconciliationJob) :
    Session (Database App) JobError ReconcileBackgroundJobsResult :=
  match scan with
  | .expired => counting repairedIf fun db =>
    recoverExpiredBackgroundJobLease ⟨job.workspaceId⟩ job.id pass.now (some pass.correlationId)
      (pass.supply.auditId db)
  | .dueRetries => counting repairedIf fun db =>
    requeueDueRetry job.id job.workspaceId pass.correlationId pass.now (pass.supply.outboxId db)
      (pass.supply.auditId db)
  | .strandedDelivery => counting repairedIf fun db =>
    requeueStrandedDelivery job.id job.workspaceId pass.correlationId pass.now
      (pass.supply.outboxId db) (pass.supply.auditId db)
  | .missingOutbox => counting repairedIf fun db =>
    repairMissingOutbox job.id job.workspaceId pass.correlationId pass.now
      (pass.supply.outboxId db) (pass.supply.auditId db)
  | .resultCandidates => do
    let inspection ← pass.inspect job
    pass.settleResult job (resultRepair job inspection)

/-- A scan and the visits to its rows. -/
def runScan (pass : PreparedPass App) (scan : ReconciliationScan) :
    Session (Database App) JobError ReconcileBackgroundJobsResult := do
  let jobs ← pass.findJobs scan
  let visited ← sweep (pass.visit scan) jobs
  Pure.pure (inspectedRows jobs.length + visited)

/-- One outcome of a cleanup hook is counted and audited. -/
def auditOutcome (pass : PreparedPass App) (outcome : CleanupDebtOutcome) :
    Session (Database App) JobError ReconcileBackgroundJobsResult :=
  counting (fun _ => ofOutcome outcome) fun db =>
    auditServiceOutcome pass.correlationId outcome pass.now (pass.supply.auditId db)

/-- One cleanup hook, which may return no more outcomes than it was asked for. -/
def runHook (pass : PreparedPass App) (hook : JobCleanupDebtHook App) :
    Session (Database App) JobError ReconcileBackgroundJobsResult := do
  let outcomes ← hook pass.batchSize pass.now
  if pass.batchSize < outcomes.length then
    raise (validationError "JOB_CLEANUP_HOOK_LIMIT_EXCEEDED")
  else sweep pass.auditOutcome (distinctOutcomes outcomes)

/-- The scans of a pass. -/
def runScans (pass : PreparedPass App) :
    Session (Database App) JobError ReconcileBackgroundJobsResult :=
  sweep pass.runScan [.expired, .dueRetries, .strandedDelivery, .missingOutbox, .resultCandidates]

/-- The cleanup hooks of a pass. -/
def runHooks (pass : PreparedPass App) :
    Session (Database App) JobError ReconcileBackgroundJobsResult :=
  sweep pass.runHook pass.cleanupDebtHooks

end PreparedPass

/-- `reconcileBackgroundJobs`. -/
def reconcileBackgroundJobs (options : ReconcileBackgroundJobsOptions App)
    (supply : ReconcilerSupply App) :
    Session (Database App) JobError ReconcileBackgroundJobsResult :=
  match preparePass options supply with
  | .error error => raise error
  | .ok pass => do
    let scanned ← pass.runScans
    let cleaned ← pass.runHooks
    Pure.pure (scanned + cleaned)

end ContentAutomation
