import ContentAutomation.Jobs.Execution
import Mathlib.Data.List.Sort

/-!
# Dispatch

The statements of `reconcileJobOutbox`: a batch of pending outbox rows is leased
in one statement, each leased row is published, and then marked as dispatched or
given back for a later attempt.
-/

namespace ContentAutomation

open Relational Transaction

variable {App : Type}

/-- How many outbox rows are leased at once unless told otherwise. -/
def defaultDispatchBatchSize : ℤ := 20

def defaultFailureDelayMs : ℤ := 5000

/-- How long outbox rows are leased unless told otherwise. -/
def defaultDispatchLeaseDurationMs : ℤ := 30000

/-- `LeasedOutboxRecord`. -/
structure LeasedOutboxRecord where
  id : String
  workspaceId : String
  backgroundJobId : String
  queueName : String
  handlerVersion : ℤ
  correlationId : String
  dispatchAttemptCount : ℤ
  leaseId : Option String

/-- The columns that the leasing statement returns. -/
def JobOutbox.toRecord (outbox : JobOutbox) : LeasedOutboxRecord where
  id := outbox.id
  workspaceId := outbox.workspaceId
  backgroundJobId := outbox.backgroundJobId
  queueName := outbox.queueName
  handlerVersion := outbox.handlerVersion
  correlationId := outbox.correlationId
  dispatchAttemptCount := outbox.dispatchAttemptCount
  leaseId := outbox.leaseId

/-- The condition under which the dispatcher picks an outbox row up. -/
def isPending (now : ℤ) (outbox : JobOutbox) : Bool :=
  outbox.dispatchedAt.isNone && outbox.cancelledAt.isNone &&
    decide (outbox.nextAttemptAt ≤ now) &&
    (outbox.leaseExpiresAt.isNone || isDue outbox.leaseExpiresAt now)

/-- `ORDER BY "created_at", "id"`. -/
def isDispatchedBefore (outbox other : JobOutbox) : Prop :=
  outbox.createdAt < other.createdAt ∨ (outbox.createdAt = other.createdAt ∧ outbox.id ≤ other.id)

instance : DecidableRel isDispatchedBefore := fun outbox other =>
  inferInstanceAs (Decidable (outbox.createdAt < other.createdAt ∨
    (outbox.createdAt = other.createdAt ∧ outbox.id ≤ other.id)))

/-- The rows to lease: the first pending ones, less those that another
transaction has locked. -/
def dispatchCandidates (db : Database App) (now : ℤ) (batchSize : ℕ) (locked : List String) :
    List String :=
  (((db.jobOutbox.rows.filter fun row => isPending now row && !locked.contains row.id).insertionSort
    isDispatchedBefore).take batchSize).map JobOutbox.id

/-- An outbox row as the dispatcher leases it. -/
def leasedOutbox (leaseId : String) (leaseExpiresAt : ℤ) (row : JobOutbox) : JobOutbox :=
  { row with
    leaseId := some leaseId
    leaseExpiresAt := some leaseExpiresAt
    dispatchAttemptCount := row.dispatchAttemptCount + 1 }

/-- `leasePendingOutbox`. -/
def leasePendingOutbox (now leaseDurationMs : ℤ) (batchSize : ℕ) (locked : List String)
    (leaseId : String) : JobTransaction App (List LeasedOutboxRecord) :=
  rethrow (fun error => databaseError "JOB_OUTBOX_LEASE_FAILED" error.cause) do
    let candidates ← read fun db => dispatchCandidates db now batchSize locked
    let _ ← jobOutbox.updateMany (leasedOutbox leaseId (now + leaseDurationMs)) fun row =>
      candidates.contains row.id
    read fun db => (db.jobOutbox.rows.filter fun row => candidates.contains row.id).map
      JobOutbox.toRecord

/-- The condition under which a dispatcher still holds an outbox row. -/
def isLeasedRecord (record : LeasedOutboxRecord) (row : JobOutbox) : Bool :=
  row.dispatchedAt.isNone && row.cancelledAt.isNone && row.leaseId == record.leaseId

/-- An outbox row that has been dispatched. -/
def dispatchedOutbox (dispatchedAt : ℤ) (deliveryId : String) (row : JobOutbox) : JobOutbox :=
  { row with
    dispatchedAt := some dispatchedAt
    lastErrorCode := none
    leaseExpiresAt := none
    leaseId := none
    queueDeliveryId := some deliveryId }

/-- `transaction.backgroundJob.update` under `where: { id }`. -/
def backgroundJob.update (data : BackgroundJob → BackgroundJob) (id : String) :
    JobTransaction App Unit := do
  let updated ← backgroundJob.updateMany data fun row => row.id == id && true
  if updated = 0 then raise (.fault .recordNotFound) else pure ()

/-- `markOutboxDispatched`. -/
def markOutboxDispatched (record : LeasedOutboxRecord) (deliveryId : String) (dispatchedAt : ℤ) :
    JobTransaction App Unit :=
  rethrow (fun error => databaseError "JOB_DISPATCH_MARK_FAILED" error.cause) do
    let marked ← jobOutbox.updateMany (dispatchedOutbox dispatchedAt deliveryId) fun row =>
      row.id == record.id && isLeasedRecord record row
    if marked = 1 then
      backgroundJob.update (fun row => { row with dispatchStatus := .dispatched })
        record.backgroundJobId
    else pure ()

/-- The code that `toDispatchError` keeps of a failure. -/
def dispatchErrorCode (errorCode : String) : String :=
  if errorCode = "UNEXPECTED_ERROR" then "QUEUE_PUBLISH_FAILED" else errorCode

/-- An outbox row that is given back after a failure. -/
def releasedOutbox (errorCode : String) (nextAttemptAt : ℤ) (row : JobOutbox) : JobOutbox :=
  { row with
    lastErrorCode := some errorCode
    leaseExpiresAt := none
    leaseId := none
    nextAttemptAt }

/-- The release of a row whose dispatch failed. -/
def releaseOutbox (record : LeasedOutboxRecord) (errorCode : String) (nextAttemptAt : ℤ) :
    JobTransaction App Unit := do
  let _ ← jobOutbox.updateMany (releasedOutbox (dispatchErrorCode errorCode) nextAttemptAt)
    fun row => row.id == record.id && isLeasedRecord record row
  pure ()

/-! ### What the statements ensure -/

section Rules

variable {db : Database App} {now : ℤ} {row : JobOutbox} {record : LeasedOutboxRecord}

private theorem accepted_leasedOutbox (h : row.Accepted) (hpending : isPending now row)
    (leaseId : String) (leaseExpiresAt : ℤ) : (leasedOutbox leaseId leaseExpiresAt row).Accepted := by
  simp only [isPending, Bool.and_eq_true] at hpending
  obtain ⟨⟨⟨hdispatched, hopen⟩, -⟩, -⟩ := hpending
  have hcount := h.dispatchAttemptCount
  refine { h with
    dispatchAttemptCount := ?_
    leaseShape := rfl
    deliveryShape := ?_
    cancelledLease := .inl hopen }
  · simp only [leasedOutbox]
    omega
  · rcases h.deliveryShape with hpending | ⟨hsome, -⟩
    · exact .inl hpending
    · simp only [Option.isNone_iff_eq_none] at hdispatched
      simp [hdispatched] at hsome

private theorem accepted_dispatchedOutbox (h : row.Accepted) (dispatchedAt : ℤ)
    (deliveryId : String) : (dispatchedOutbox dispatchedAt deliveryId row).Accepted :=
  { h with
    leaseShape := rfl
    deliveryShape := .inr ⟨rfl, rfl, rfl, rfl⟩
    cancelledLease := .inr ⟨rfl, rfl⟩ }

private theorem accepted_releasedOutbox (h : row.Accepted) (errorCode : String)
    (nextAttemptAt : ℤ) : (releasedOutbox errorCode nextAttemptAt row).Accepted := by
  refine { h with leaseShape := rfl, deliveryShape := ?_, cancelledLease := .inr ⟨rfl, rfl⟩ }
  rcases h.deliveryShape with hpending | ⟨hsome, hdelivery, -⟩
  · exact .inl hpending
  · exact .inr ⟨hsome, hdelivery, rfl, rfl⟩

private theorem isPending_of_mem_dispatchCandidates {batchSize : ℕ} {locked : List String}
    (hrow : row ∈ db.jobOutbox.rows) (hmem : row.id ∈ dispatchCandidates db now batchSize locked) :
    isPending now row := by
  obtain ⟨other, htaken, hid⟩ := List.mem_map.mp hmem
  have hsorted := List.mem_of_mem_take htaken
  have hfiltered := (List.mem_insertionSort isDispatchedBefore).mp hsorted
  obtain ⟨hother, hselected⟩ := List.mem_filter.mp hfiltered
  obtain rfl : other = row := Table.eq_of_key jobOutboxSchema_keyedBy_id hother hrow hid
  simp only [Bool.and_eq_true] at hselected
  exact hselected.1

/-- **The leasing rule.** Leasing outbox rows changes nothing that matters. -/
theorem ensures_leasePendingOutbox {leaseDurationMs : ℤ} {batchSize : ℕ} {locked : List String}
    {leaseId : String} :
    (leasePendingOutbox now leaseDurationMs batchSize locked leaseId).Ensures
      (fun _ db' => db.SameViews db') JobError.Unchecked db := by
  unfold leasePendingOutbox
  rw [ensures_rethrow]
  refine Ensures.mono ?_ (fun _ _ h => h) (fun error (h : error.Unchecked) => h)
  rw [ensures_bind, ensures_read, ensures_bind]
  unfold jobOutbox.updateMany Ensures
  simp only [StateT.run]
  rcases db.jobOutbox.updateMany_cases (leasedOutbox leaseId (now + leaseDurationMs))
    (fun row => (dispatchCandidates db now batchSize locked).contains row.id) with
    ⟨t, hrows, hok⟩ | ⟨row, hrow, hselected, hfailed⟩ | ⟨index, herror⟩
  · rw [hok]
    have hsame := Database.sameViews_outbox hrows (fun _ => rfl) (fun _ => rfl)
    exact hsame
  · have hpending := isPending_of_mem_dispatchCandidates hrow (by simpa using hselected)
    have haccepted := accepted_leasedOutbox (Database.accepted_of_mem_jobOutbox hrow) hpending
      leaseId (now + leaseDurationMs)
    exact absurd (jobOutboxSchema_failedCheck.mpr haccepted) hfailed
  · rw [herror]
    exact unchecked_unique index

/-- **The release rule.** Giving an outbox row back changes nothing that
matters. -/
theorem ensures_releaseOutbox {errorCode : String}
    {nextAttemptAt : ℤ} :
    (releaseOutbox record errorCode nextAttemptAt).Ensures (fun _ db' => db.SameViews db')
      JobError.Unchecked db := by
  unfold releaseOutbox
  rw [ensures_bind]
  refine ensures_jobOutbox_updateMany_id Database.SameViews.refl fun row hrow _ _ => ?_
  refine ⟨accepted_releasedOutbox (Database.accepted_of_mem_jobOutbox hrow) _ _,
    fun t hrows => ?_⟩
  rw [ensures_pure]
  exact Database.sameViews_outbox hrows (fun _ => rfl) (fun _ => rfl)

private theorem ensures_backgroundJob_update {k : String} {dispatchStatus : JobDispatchStatus} :
    (backgroundJob.update (fun row => { row with dispatchStatus }) k).Ensures
      (fun _ db' => ∃ backgroundJobs, db' = db.setBackgroundJobs backgroundJobs ∧
        db.SameViews db') JobError.Unchecked db := by
  unfold backgroundJob.update
  rw [ensures_bind]
  refine ensures_backgroundJob_updateMany (.inr unchecked_unique) (fun _ => ?_) fun job hjob _ => ?_
  · exact unchecked_recordNotFound
  · have haccepted := Database.accepted_of_job? hjob
    refine ⟨{ haccepted with }, fun t hrows => ?_⟩
    exact ⟨t, rfl, Database.sameViews_jobs hrows (fun _ => rfl) (fun _ => rfl)⟩

/-- **The dispatch rule.** A row that the dispatcher still holds is marked as
dispatched, at the given instant. -/
theorem ensures_markOutboxDispatched {deliveryId : String}
    {dispatchedAt : ℤ} :
    (markOutboxDispatched record deliveryId dispatchedAt).Ensures
      (fun _ db' => db' = db ∨ ∃ k, db.Moves .dispatch k db' ∧
        ∃ row ∈ db.jobOutbox.rows, row.id = record.id ∧ row.backgroundJobId = k ∧
          isLeasedRecord record row)
      JobError.Unchecked db := by
  unfold markOutboxDispatched
  rw [ensures_rethrow]
  refine Ensures.mono ?_ (fun _ _ h => h) (fun error (h : error.Unchecked) => h)
  rw [ensures_bind]
  refine ensures_jobOutbox_updateMany_id (.inl rfl) fun row hrow hid hselected => ?_
  refine ⟨accepted_dispatchedOutbox (Database.accepted_of_mem_jobOutbox hrow) _ _,
    fun t hrows => ?_⟩
  rw [if_pos rfl]
  refine ensures_backgroundJob_update.mono (fun _ db' hupdate => ?_) fun _ herror => herror
  obtain ⟨backgroundJobs, -, hsame⟩ := hupdate
  have hleased := hselected
  simp only [isLeasedRecord, Bool.and_eq_true, Option.isNone_iff_eq_none] at hselected
  refine .inr ⟨row.backgroundJobId, Database.Moves.trans_same ?_ hsame, row, hrow, hid, rfl, hleased⟩
  have hfound : db.outboxOf row.backgroundJobId = some row :=
    (Table.lookup_eq_some jobOutboxSchema_keyedBy_backgroundJobId).mpr ⟨hrow, rfl⟩
  have hupdate := Database.outboxOf_update hrows (fun _ => rfl)
  have hselectedRow : (row.id == record.id && isLeasedRecord record row) = true := by
    simp [isLeasedRecord, hid, hselected]
  constructor
  · have hbefore : db.view row.backgroundJobId = ⟨(db.view row.backgroundJobId).job,
        (db.view row.backgroundJobId).attempts, some row.summary⟩ := by
      refine JobView.ext rfl rfl ?_
      show Option.map _ (db.outboxOf _) = _
      rw [hfound]
      rfl
    have hafter : (db.setJobOutbox t).view row.backgroundJobId =
        ⟨(db.view row.backgroundJobId).job, (db.view row.backgroundJobId).attempts,
          some { row.summary with dispatchedAt := some dispatchedAt }⟩ := by
      refine JobView.ext rfl rfl ?_
      show Option.map _ (Database.outboxOf _ _) = _
      rw [hupdate, hfound, Option.map_some, if_pos hselectedRow]
      rfl
    rw [hbefore, hafter]
    refine JobStep.dispatch ?_ hselected.1.1
    simp [JobOutbox.summary, hselected.1.2]
  · intro other hother
    refine JobView.ext rfl rfl ?_
    show Option.map _ (Database.outboxOf _ other) = Option.map _ (db.outboxOf other)
    rw [hupdate other]
    cases hotherRow : db.outboxOf other with
    | none => rfl
    | some otherRow =>
      obtain ⟨hmem, hjobId⟩ := Table.lookup_spec hotherRow
      have hne : (otherRow.id == record.id && isLeasedRecord record otherRow) = false := by
        rw [Bool.and_eq_false_iff]
        left
        rw [beq_eq_false_iff_ne]
        intro hsameId
        have hsameRow : otherRow = row := Table.eq_of_key jobOutboxSchema_keyedBy_id hmem hrow
          (hsameId.trans hid.symm)
        rw [hsameRow] at hjobId
        exact hother hjobId.symm
      rw [Option.map_some, if_neg (by simp [hne])]

end Rules

end ContentAutomation
