import ContentAutomation.Jobs.Execution

/-!
# Enqueueing

`enqueueBackgroundJobInTransaction` and its validation. One idempotency key
stands for one job: a second caller gets the job that the first one created,
with the one outbox row that delivers it.
-/

namespace ContentAutomation

open Relational Transaction List

variable {App : Type} {context : WorkspaceContext}

/-- `EnqueueBackgroundJobInput`. -/
structure EnqueueBackgroundJobInput where
  correlationId : String
  handlerVersion : ℤ
  idempotencyKey : String
  inputVersion : Option String
  maxAttempts : Option ℤ
  priority : Option ℤ
  queueName : String
  resourceId : Option String
  resourceType : Option String

/-- `EnqueueBackgroundJobResult`. -/
structure EnqueueBackgroundJobResult where
  created : Bool
  correlationId : String
  handlerVersion : ℤ
  id : String
  queueName : String
  workspaceId : String
  deriving DecidableEq

/-- `isUuidV7`. -/
def isUuidV7 (value : String) : Bool := Text.isUuid (· == '7') value

/-- How a column of identifiers gives back an identifier that it takes: in lower case. -/
def uuidText (value : String) : String := String.ofList (value.toList.map Char.toLower)

namespace EnqueueBackgroundJobInput

/-- The trimmed idempotency key. -/
def key (input : EnqueueBackgroundJobInput) : String := Text.trim input.idempotencyKey

/-- The budget of the job, 8 attempts unless told otherwise. -/
def budget (input : EnqueueBackgroundJobInput) : ℤ := input.maxAttempts.getD 8

/-- The priority of the job, 0 unless told otherwise. -/
def rank (input : EnqueueBackgroundJobInput) : ℤ := input.priority.getD 0

/-- The trimmed resource type. -/
def resource (input : EnqueueBackgroundJobInput) : Option String := input.resourceType.map Text.trim

/-- The trimmed input version. -/
def revision (input : EnqueueBackgroundJobInput) : Option String := input.inputVersion.map Text.trim

/-- The code of the first validation that the input fails. -/
def refusal (input : EnqueueBackgroundJobInput) : Option String :=
  if isSafeIdempotencyKey input.key = false then some "JOB_IDEMPOTENCY_KEY_INVALID"
  else if isSafeInteger input.handlerVersion = false ∨ input.handlerVersion < 1 then
    some "JOB_HANDLER_VERSION_INVALID"
  else if isQueueName input.queueName = false then some "JOB_QUEUE_INVALID"
  else if (parseCorrelationId input.correlationId).isNone then some "JOB_CORRELATION_INVALID"
  else if isSafeInteger input.budget = false ∨ input.budget < 1 ∨ 100 < input.budget then
    some "JOB_MAX_ATTEMPTS_INVALID"
  else if isSafeInteger input.rank = false ∨ input.rank < -1000 ∨ 1000 < input.rank then
    some "JOB_PRIORITY_INVALID"
  else if input.resource.isNone ≠ input.resourceId.isNone then some "JOB_RESOURCE_INVALID"
  else if nullOr isSafeResourceType input.resource = false then some "JOB_RESOURCE_INVALID"
  else if nullOr isUuidV7 input.resourceId = false then some "JOB_RESOURCE_INVALID"
  else if nullOr isSafeInputVersion input.revision = false then some "JOB_INPUT_VERSION_INVALID"
  else none

end EnqueueBackgroundJobInput

/-- The job that an input asks for. -/
def enqueuedJob (context : WorkspaceContext) (input : EnqueueBackgroundJobInput) (jobId : String)
    (clock : ℤ) : BackgroundJob where
  id := jobId
  workspaceId := context.workspaceId
  queueName := input.queueName
  handlerVersion := input.handlerVersion
  idempotencyKey := input.key
  correlationId := uuidText input.correlationId
  dispatchStatus := .pending
  state := .queued
  stage := "queued"
  priority := input.rank
  attemptCount := 0
  maxAttempts := input.budget
  version := 1
  resourceType := input.resource
  resourceId := input.resourceId.map uuidText
  inputVersion := input.revision
  queuedAt := clock
  startedAt := none
  heartbeatAt := none
  leaseId := none
  leaseExpiresAt := none
  nextAttemptAt := none
  completedAt := none
  lastErrorClass := none
  lastErrorCode := none
  nextAction := none
  cancellationRequestedAt := none
  cancellationReasonCode := none
  reconciliationRequiredAt := none
  reconciliationCode := none
  createdAt := clock

/-- A new outbox row of a job, due at `nextAttemptAt`. -/
def newOutbox (job : BackgroundJob) (outboxId : String) (nextAttemptAt clock : ℤ) : JobOutbox where
  id := outboxId
  workspaceId := job.workspaceId
  backgroundJobId := job.id
  queueName := job.queueName
  handlerVersion := job.handlerVersion
  correlationId := job.correlationId
  dispatchAttemptCount := 0
  nextAttemptAt := nextAttemptAt
  leaseId := none
  leaseExpiresAt := none
  queueDeliveryId := none
  lastErrorCode := none
  dispatchedAt := none
  cancelledAt := none
  createdAt := clock

/-- The key that stands for one piece of work. -/
def BackgroundJob.idempotency (job : BackgroundJob) : String × String × ℤ × String :=
  (job.workspaceId, job.queueName, job.handlerVersion, job.idempotencyKey)

/-- One key resolved to a job that describes other work. The budget is not
compared: an operator may have raised it. -/
def isIdempotencyConflict (input : EnqueueBackgroundJobInput) (jobId : String)
    (job : BackgroundJob) : Bool :=
  decide (job.id ≠ jobId) && (decide (job.inputVersion ≠ input.revision) ||
    decide (job.priority ≠ input.rank) || decide (job.resourceId ≠ input.resourceId) ||
    decide (job.resourceType ≠ input.resource))

/-- `enqueueBackgroundJobInTransaction`. -/
def enqueueBackgroundJobInTransaction (context : WorkspaceContext)
    (input : EnqueueBackgroundJobInput) (jobId outboxId : String) :
    JobTransaction App EnqueueBackgroundJobResult :=
  match input.refusal with
  | some code => raise (validationError code)
  | none => rethrow (orDatabaseError "JOB_ENQUEUE_FAILED") do
    let clock ← read Database.clock
    backgroundJob.createMany (enqueuedJob context input jobId clock)
    match ← read fun db => db.backgroundJobs.lookup BackgroundJob.idempotency
      (context.workspaceId, input.queueName, input.handlerVersion, input.key) with
    | none => raise (.fault .recordNotFound)
    | some job =>
      if isIdempotencyConflict input jobId job then
        raise (conflictError "JOB_IDEMPOTENCY_CONFLICT")
      else do
        jobOutbox.createMany (newOutbox job outboxId clock clock)
        pure
          { created := job.id == jobId
            correlationId := job.correlationId
            handlerVersion := job.handlerVersion
            id := job.id
            queueName := job.queueName
            workspaceId := job.workspaceId }

/-- `enqueueBackgroundJob`. -/
def enqueueBackgroundJob (context : WorkspaceContext) (input : EnqueueBackgroundJobInput)
    (jobId outboxId : String) : JobTransaction App EnqueueBackgroundJobResult :=
  rethrow (orDatabaseError "JOB_ENQUEUE_FAILED")
    (enqueueBackgroundJobInTransaction context input jobId outboxId)

theorem backgroundJobSchema_keyedBy_idempotency :
    backgroundJobSchema.KeyedBy BackgroundJob.idempotency := by
  refine ⟨_, mem_cons_of_mem _ (mem_cons_of_mem _ mem_cons_self), ?_⟩
  intro job other h
  simpa [BackgroundJob.idempotency, and_assoc] using h

private theorem isNonemptyTrimmed_of_safe {key : String} (h : isSafeIdempotencyKey key) :
    isNonemptyTrimmed key := by
  unfold isSafeIdempotencyKey Text.leadingThenBounded at h
  unfold isNonemptyTrimmed
  cases hkey : key.toList with
  | nil => simp [hkey] at h
  | cons head tail =>
    rw [hkey] at h
    simp only [Bool.and_eq_true] at h
    have hhead : Text.isAlphanumeric head = true := h.1.1
    have hspace : head ≠ ' ' := by
      rintro rfl
      exact absurd hhead (by decide)
    simp [hspace]

private theorem ite_some_eq_none {refuses : Prop} [Decidable refuses] {code : String}
    {rest : Option String} :
    (if refuses then some code else rest) = none ↔ ¬ refuses ∧ rest = none := by
  by_cases h : refuses <;> simp [h]

variable {input : EnqueueBackgroundJobInput}

private theorem budget_of_valid (hvalid : input.refusal = none) :
    1 ≤ input.budget ∧ input.budget ≤ 100 := by
  unfold EnqueueBackgroundJobInput.refusal at hvalid
  simp only [ite_some_eq_none] at hvalid
  obtain ⟨-, -, -, -, hbudget, -⟩ := hvalid
  push Not at hbudget
  omega

theorem accepted_enqueuedJob {jobId : String} {clock : ℤ} (hvalid : input.refusal = none) :
    (enqueuedJob context input jobId clock).Accepted := by
  have hbudget := budget_of_valid hvalid
  unfold EnqueueBackgroundJobInput.refusal at hvalid
  simp only [ite_some_eq_none, Bool.not_eq_false, not_or, not_lt] at hvalid
  obtain ⟨hkey, ⟨-, hversion⟩, hqueue, -, -, ⟨-, hmin, hmax⟩, hshape, htype, -, hrevision, -⟩ :=
    hvalid
  exact
    { handlerVersion := by
        simp only [enqueuedJob]
        omega
      idempotencyKey := isNonemptyTrimmed_of_safe hkey
      queueName := hqueue
      priority := ⟨hmin, hmax⟩
      attemptCount := by
        simp only [BackgroundJob.AttemptCount, enqueuedJob]
        omega
      version := Int.one_pos
      stage := (by decide : isSafeJobStage "queued" = true)
      resourceType := htype
      resourceShape := by
        have hshape' : input.resource.isNone = input.resourceId.isNone := not_not.mp hshape
        simp only [enqueuedJob]
        cases hresource : input.resource <;> cases hid : input.resourceId <;>
          simp [hresource, hid] at hshape' ⊢
      inputVersion := hrevision
      leaseShape := .inr ⟨by simp [enqueuedJob], rfl, rfl⟩
      timingShape := .inr (.inr ⟨.inl rfl, rfl, rfl⟩)
      errorShape := ⟨rfl, rfl⟩
      cancellationShape := rfl
      cancellationReason := rfl
      reconciliationShape := rfl
      reconciliationCode := rfl }

theorem accepted_newOutbox {job : BackgroundJob} (h : job.Accepted) (outboxId : String)
    (nextAttemptAt clock : ℤ) : (newOutbox job outboxId nextAttemptAt clock).Accepted where
  handlerVersion := h.handlerVersion
  dispatchAttemptCount := Int.le_refl 0
  leaseShape := rfl
  deliveryShape := .inl ⟨rfl, rfl⟩
  cancelledLease := .inl rfl
  queueName := h.queueName

/-- Every job has an outbox row, and nothing exists without a job. -/
def JobView.Delivered (view : JobView) : Prop :=
  match view.job with
  | some _ => view.outbox.isSome = true
  | none => view.attempts = [] ∧ view.outbox = none

theorem JobView.Inv.delivered {view : JobView} (h : view.Inv) : view.Delivered := by
  obtain ⟨job, attempts, outbox⟩ := view
  cases job with
  | some job =>
    cases outbox with
    | some outbox => rfl
    | none => exact h.elim
  | none =>
    cases outbox with
    | some outbox => exact h.elim
    | none => exact ⟨h, rfl⟩

namespace Database

variable {db db' db'' : Database App}

/-- Every job of the database has an outbox row. -/
def Delivered (db : Database App) : Prop := ∀ id, (db.view id).Delivered

/-- Jobs have been added, and what was there is unchanged. -/
structure Grows (db db' : Database App) : Prop where
  attempts : db'.jobAttempts = db.jobAttempts
  jobs : ∀ id job, db.job? id = some job → db'.job? id = some job
  views : ∀ id, db'.view id = db.view id ∨ JobStep .enqueue (db.view id) (db'.view id)

theorem Inv.delivered (h : db.Inv) : db.Delivered := fun id => (h id).delivered

theorem Grows.refl : db.Grows db := ⟨rfl, fun _ _ h => h, fun _ => .inl rfl⟩

theorem Grows.delivered (h : db.Grows db') (hdelivered : db.Delivered) : db'.Delivered := by
  intro id
  rcases h.views id with hsame | hstep
  · rw [hsame]
    exact hdelivered id
  · generalize db.view id = view, db'.view id = view' at hstep
    cases hstep
    rfl

theorem Grows.trans (h : db.Grows db') (h' : db'.Grows db'') : db.Grows db'' := by
  refine ⟨h'.attempts.trans h.attempts, fun id job hjob => h'.jobs id job (h.jobs id job hjob),
    fun id => ?_⟩
  rcases h.views id with hsame | hstep
  · rcases h'.views id with hsame' | hstep'
    · exact .inl (hsame'.trans hsame)
    · exact .inr (hsame ▸ hstep')
  · rcases h'.views id with hsame' | hstep'
    · exact .inr (hsame'.symm ▸ hstep)
    · generalize db.view id = view, db'.view id = view', db''.view id = view'' at hstep hstep'
      cases hstep
      cases hstep'

end Database

theorem collision_newOutbox {job : BackgroundJob} {outboxId : String} {nextAttemptAt clock : ℤ}
    {other : JobOutbox}
    (h : jobOutboxSchema.collision other (newOutbox job outboxId nextAttemptAt clock) ≠ none) :
    other.id = outboxId ∨ other.backgroundJobId = job.id := by
  by_contra hneither
  push Not at hneither
  refine h (Schema.collision_eq_none.mpr ?_)
  simp [jobOutboxSchema, newOutbox, hneither.1, hneither.2]

/-- A job and its outbox row, inserted together, are an enqueue. -/
theorem Database.Delivered.grows {db : Database App} (hdelivered : db.Delivered)
    {jobId outboxId : String}
    {clock : ℤ} (hvalid : input.refusal = none) {backgroundJobs : Table backgroundJobSchema}
    (hjobs : backgroundJobs.rows = db.backgroundJobs.rows ++
      [enqueuedJob context input jobId clock])
    {jobOutbox : Table jobOutboxSchema}
    (houtbox : jobOutbox.rows = db.jobOutbox.rows ++
      [newOutbox (enqueuedJob context input jobId clock) outboxId clock clock]) :
    db.Grows ((db.setBackgroundJobs backgroundJobs).setJobOutbox jobOutbox) := by
  have hnew : db.job? jobId = none :=
    Table.lookup_eq_none_of_append backgroundJobSchema_keyedBy_id hjobs
  have hjob? : ∀ id, ((db.setBackgroundJobs backgroundJobs).setJobOutbox jobOutbox).job? id =
      (db.job? id).or (if jobId = id then some (enqueuedJob context input jobId clock)
        else none) := fun _ => Table.lookup_append hjobs
  have houtboxOf : ∀ id, ((db.setBackgroundJobs backgroundJobs).setJobOutbox jobOutbox).outboxOf
      id = (db.outboxOf id).or (if jobId = id then
        some (newOutbox (enqueuedJob context input jobId clock) outboxId clock clock)
          else none) := fun _ => Table.lookup_append houtbox
  refine ⟨rfl, fun id job hjob => ?_, fun id => ?_⟩
  · rw [hjob? id, hjob]
    rfl
  · by_cases hid : jobId = id
    · subst hid
      right
      obtain ⟨hattempts, hnone⟩ : (db.view jobId).attempts = [] ∧ (db.view jobId).outbox = none := by
        have hview := hdelivered jobId
        have hjobNone : (db.view jobId).job = none := by simp [Database.view, hnew]
        simpa [JobView.Delivered, hjobNone] using hview
      have hbefore : db.view jobId = ⟨none, [], none⟩ :=
        JobView.ext (by simp [Database.view, hnew]) hattempts hnone
      have hafter : ((db.setBackgroundJobs backgroundJobs).setJobOutbox jobOutbox).view jobId =
          ⟨some ⟨context.workspaceId, .queued, none, 0, input.budget, false⟩, [],
            some ⟨context.workspaceId, false, none⟩⟩ := by
        refine JobView.ext ?_ hattempts ?_
        · show Option.map _ (Database.job? _ jobId) = _
          rw [hjob? jobId, hnew, if_pos rfl]
          rfl
        · show Option.map _ (Database.outboxOf _ jobId) = _
          rw [houtboxOf jobId, Option.map_eq_none_iff.mp hnone, if_pos rfl]
          rfl
      have hbudget := budget_of_valid hvalid
      rw [hbefore, hafter]
      exact JobStep.enqueue hbudget.1 hbudget.2
    · left
      refine JobView.ext ?_ rfl ?_
      · show Option.map _ (Database.job? _ id) = Option.map _ (Database.job? _ id)
        rw [hjob? id, if_neg hid, Option.or_none]
      · show Option.map _ (Database.outboxOf _ id) = Option.map _ (Database.outboxOf _ id)
        rw [houtboxOf id, if_neg hid, Option.or_none]

/-- **The enqueue rule.** An enqueue adds one job with its outbox row, or finds
the job that its key stands for and adds nothing. -/
theorem ensures_enqueueBackgroundJobInTransaction {db : Database App} {jobId outboxId : String}
    (hdelivered : db.Delivered) (hfresh : ∀ row ∈ db.jobOutbox.rows, row.id ≠ outboxId) :
    (enqueueBackgroundJobInTransaction context input jobId outboxId).Ensures
      (fun _ db' => db.Grows db' ∧
        ∀ row ∈ db'.jobOutbox.rows, row ∈ db.jobOutbox.rows ∨ row.id = outboxId)
      JobError.Unchecked db := by
  unfold enqueueBackgroundJobInTransaction
  cases hvalid : input.refusal with
  | some code => exact unchecked_validationError code
  | none =>
    dsimp only
    refine ensures_orDatabaseError ?_
    rw [ensures_bind, ensures_read, ensures_bind]
    refine ensures_backgroundJob_createMany (accepted_enqueuedJob hvalid) ?_ fun t hrows => ?_
    · -- the key, or the identifier, was there before: nothing is inserted
      rw [ensures_bind, ensures_read]
      cases hfound : db.backgroundJobs.lookup BackgroundJob.idempotency
        (context.workspaceId, input.queueName, input.handlerVersion, input.key) with
      | none => exact unchecked_recordNotFound
      | some job =>
        have hmem := (Table.lookup_spec hfound).1
        have hjob : db.job? job.id = some job :=
          (Table.lookup_eq_some backgroundJobSchema_keyedBy_id).mpr ⟨hmem, rfl⟩
        dsimp only
        by_cases hconflict : isIdempotencyConflict input jobId job = true
        · rw [if_pos hconflict]
          exact unchecked_conflictError _
        rw [if_neg hconflict, ensures_bind]
        refine ensures_jobOutbox_createMany (accepted_newOutbox (Database.accepted_of_job? hjob) _ _ _)
          (fun _ => ⟨Database.Grows.refl, fun row hrow => .inl hrow⟩) fun records hrecords => ?_
        -- the job already has an outbox row, so no second one fits
        have hnone : db.outboxOf job.id = none :=
          Table.lookup_eq_none_of_append jobOutboxSchema_keyedBy_backgroundJobId hrecords
        have hsome := hdelivered job.id
        simp [JobView.Delivered, Database.view, hjob, hnone] at hsome
    · rw [ensures_bind, ensures_read]
      cases hfound : t.lookup BackgroundJob.idempotency
        (context.workspaceId, input.queueName, input.handlerVersion, input.key) with
      | none =>
        simp only [Database.setBackgroundJobs, hfound]
        exact unchecked_recordNotFound
      | some job =>
        obtain ⟨hmem, hkey⟩ := Table.lookup_spec hfound
        have hnewMem : enqueuedJob context input jobId db.clock ∈ t.rows := by
          rw [hrows]
          exact mem_append_right _ (mem_singleton_self _)
        obtain rfl : job = enqueuedJob context input jobId db.clock :=
          Table.eq_of_key backgroundJobSchema_keyedBy_idempotency hmem hnewMem hkey
        simp only [Database.setBackgroundJobs, hfound]
        by_cases hconflict : isIdempotencyConflict input jobId
            (enqueuedJob context input jobId db.clock) = true
        · rw [if_pos hconflict]
          exact unchecked_conflictError _
        rw [if_neg hconflict, ensures_bind]
        refine ensures_jobOutbox_createMany (accepted_newOutbox (accepted_enqueuedJob hvalid) _ _ _)
          (fun hcollides => ?_) fun records hrecords => ?_
        · -- neither the new identifier nor the new job has an outbox row
          obtain ⟨other, hother, hcollision⟩ := hcollides
          have hnew : db.job? jobId = none :=
            Table.lookup_eq_none_of_append backgroundJobSchema_keyedBy_id hrows
          have hview := hdelivered jobId
          simp only [JobView.Delivered, Database.view, hnew, Option.map_none,
            Option.map_eq_none_iff] at hview
          rcases collision_newOutbox hcollision with hid | hjobId
          · exact absurd hid (hfresh other hother)
          · exact absurd hjobId (Table.lookup_eq_none.mp hview.2 other hother)
        · refine ⟨hdelivered.grows hvalid hrows hrecords, fun row hrow => ?_⟩
          have hrow' : row ∈ records.rows := hrow
          rw [hrecords] at hrow'
          rcases mem_append.mp hrow' with hold | hnew
          · exact .inl hold
          · exact .inr (by rw [mem_singleton.mp hnew]; rfl)

/-- An enqueue writes to the tables of the jobs only. -/
theorem keepsApp_enqueueBackgroundJobInTransaction (context : WorkspaceContext)
    (input : EnqueueBackgroundJobInput) (jobId outboxId : String) :
    Keeps (fun db : Database App => db.app)
      (enqueueBackgroundJobInTransaction context input jobId outboxId) := by
  unfold enqueueBackgroundJobInTransaction
  cases input.refusal with
  | some code => exact keeps_raise
  | none =>
    refine Keeps.rethrow (Keeps.bind keeps_read fun clock => ?_)
    refine Keeps.bind (fun db => ?_) fun _ => Keeps.bind keeps_read fun found => ?_
    · unfold Ensures backgroundJob.createMany
      simp only [StateT.run]
      cases db.backgroundJobs.createSkippingDuplicates _ with
      | ok backgroundJobs => rfl
      | error violation => trivial
    · cases found with
      | none => exact keeps_raise
      | some job =>
        refine Keeps.ite keeps_raise (Keeps.bind (fun db => ?_) fun _ => keeps_pure)
        unfold Ensures jobOutbox.createMany
        simp only [StateT.run]
        cases db.jobOutbox.createSkippingDuplicates _ with
        | ok jobOutbox => rfl
        | error violation => trivial

theorem keepsApp_enqueueBackgroundJob (context : WorkspaceContext)
    (input : EnqueueBackgroundJobInput) (jobId outboxId : String) :
    Keeps (fun db : Database App => db.app) (enqueueBackgroundJob context input jobId outboxId) :=
  (keepsApp_enqueueBackgroundJobInTransaction context input jobId outboxId).rethrow

/-! ### The job of a key -/

section Keys

variable {db : Database App} {jobId outboxId : String}

/-- A job stands for the key. -/
def Database.HoldsKey (db : Database App) (key : String × String × ℤ × String) : Prop :=
  ∃ job ∈ db.backgroundJobs.rows, job.idempotency = key

/-- The key under which an input is enqueued. -/
def EnqueueBackgroundJobInput.idempotency (context : WorkspaceContext)
    (input : EnqueueBackgroundJobInput) : String × String × ℤ × String :=
  (context.workspaceId, input.queueName, input.handlerVersion, input.key)

private theorem backgroundJobSchema_hasRoom {t : Table backgroundJobSchema} {job : BackgroundJob}
    (haccepted : job.Accepted) (hid : ∀ other ∈ t.rows, other.id ≠ job.id)
    (hkey : ∀ other ∈ t.rows, other.idempotency ≠ job.idempotency) : t.HasRoom job := by
  refine ⟨backgroundJobSchema_failedCheck.mpr haccepted, fun other hother => ?_⟩
  have hid' := hid other hother
  have hkey' := hkey other hother
  rw [Schema.collision_eq_none]
  simp only [BackgroundJob.idempotency, ne_eq, Prod.mk.injEq, not_and] at hkey'
  simp only [backgroundJobSchema, forall_mem_cons, not_mem_nil, false_imp_iff,
    implies_true, and_true, Bool.and_eq_false_iff, beq_eq_false_iff_ne, ne_eq]
  refine ⟨hid', .inr hid', ?_⟩
  tauto

private theorem ensures_jobOutbox_createMany_jobs {row : JobOutbox} (haccepted : row.Accepted) :
    (jobOutbox.createMany row).Ensures
      (fun _ db' => db'.backgroundJobs = db.backgroundJobs) (fun _ => False) db := by
  unfold Transaction.Ensures jobOutbox.createMany
  simp only [StateT.run]
  by_cases hroom : db.jobOutbox.HasRoom row
  · obtain ⟨t, -, hok⟩ := Table.createSkippingDuplicates_of_hasRoom hroom
    rw [hok]
    rfl
  · have hchecked := jobOutboxSchema_failedCheck.mpr haccepted
    obtain ⟨other, hother, hcollides⟩ : ∃ other ∈ db.jobOutbox.rows,
        jobOutboxSchema.collision other row ≠ none := by
      by_contra hnone
      push Not at hnone
      exact hroom ⟨hchecked, hnone⟩
    rw [Table.createSkippingDuplicates_eq_skip hchecked hother hcollides]
    rfl

theorem ensures_enqueueBackgroundJob_new (hvalid : input.refusal = none)
    (hnew : ¬ db.HoldsKey (input.idempotency context))
    (hfresh : ∀ job ∈ db.backgroundJobs.rows, job.id ≠ jobId) :
    (enqueueBackgroundJob context input jobId outboxId).Ensures
      (fun _ db' => db'.backgroundJobs.rows =
        db.backgroundJobs.rows ++ [enqueuedJob context input jobId db.clock])
      (fun _ => False) db := by
  have haccepted : (enqueuedJob context input jobId db.clock).Accepted :=
    accepted_enqueuedJob hvalid
  have hroom : db.backgroundJobs.HasRoom (enqueuedJob context input jobId db.clock) :=
    backgroundJobSchema_hasRoom haccepted hfresh fun other hother hkey =>
      hnew ⟨other, hother, hkey⟩
  obtain ⟨t, hrows, hok⟩ := Table.createSkippingDuplicates_of_hasRoom hroom
  have hmem : enqueuedJob context input jobId db.clock ∈ t.rows := by
    rw [hrows]
    exact mem_append_right _ (mem_singleton_self _)
  have hfound : t.lookup BackgroundJob.idempotency (context.workspaceId, input.queueName,
      input.handlerVersion, input.key) = some (enqueuedJob context input jobId db.clock) :=
    (Table.lookup_eq_some backgroundJobSchema_keyedBy_idempotency).mpr ⟨hmem, rfl⟩
  unfold enqueueBackgroundJob
  rw [ensures_rethrow]
  unfold enqueueBackgroundJobInTransaction
  rw [hvalid]
  rw [ensures_rethrow, ensures_bind, ensures_read, ensures_bind]
  unfold Ensures backgroundJob.createMany
  simp only [StateT.run, hok]
  show Ensures _ _ _ _
  rw [ensures_bind, ensures_read]
  simp only [Database.setBackgroundJobs, hfound]
  have hsame : isIdempotencyConflict input jobId (enqueuedJob context input jobId db.clock) =
      false := by
    simp [isIdempotencyConflict, enqueuedJob]
  rw [hsame, if_neg Bool.false_ne_true, ensures_bind]
  refine (ensures_jobOutbox_createMany_jobs (accepted_newOutbox haccepted _ _ _)).mono
    (fun _ db' hjobs => ?_) fun _ hfalse => hfalse
  rw [ensures_pure, hjobs]
  exact hrows

/-- A refused input, or one whose key stands for a job already, changes no job. -/
theorem ensures_enqueueBackgroundJob_old
    (hold : input.refusal ≠ none ∨ db.HoldsKey (input.idempotency context)) :
    (enqueueBackgroundJob context input jobId outboxId).Ensures
      (fun _ db' => db'.backgroundJobs = db.backgroundJobs) (fun _ => True) db := by
  unfold enqueueBackgroundJob
  rw [ensures_rethrow]
  unfold enqueueBackgroundJobInTransaction
  cases hrefusal : input.refusal with
  | some code => exact trivial
  | none =>
    obtain ⟨holder, hholder, hkey⟩ := hold.resolve_left fun hne => hne hrefusal
    have haccepted : (enqueuedJob context input jobId db.clock).Accepted :=
      accepted_enqueuedJob hrefusal
    have hcollides : backgroundJobSchema.collision holder
        (enqueuedJob context input jobId db.clock) ≠ none := by
      rw [ne_eq, Schema.collision_eq_none]
      intro hnone
      obtain ⟨index, hindex, hsame⟩ := backgroundJobSchema_keyedBy_idempotency
      have htrue : index.2 holder (enqueuedJob context input jobId db.clock) = true :=
        hsame holder (enqueuedJob context input jobId db.clock) hkey
      rw [hnone index hindex] at htrue
      exact Bool.false_ne_true htrue
    have hskip := Table.createSkippingDuplicates_eq_skip
      (backgroundJobSchema_failedCheck.mpr haccepted) hholder hcollides
    have hfound : db.backgroundJobs.lookup BackgroundJob.idempotency (context.workspaceId,
        input.queueName, input.handlerVersion, input.key) = some holder :=
      (Table.lookup_eq_some backgroundJobSchema_keyedBy_idempotency).mpr ⟨hholder, hkey⟩
    rw [ensures_rethrow, ensures_bind, ensures_read, ensures_bind]
    unfold Ensures backgroundJob.createMany
    simp only [StateT.run, hskip]
    show Ensures _ _ _ _
    rw [ensures_bind, ensures_read]
    simp only [Database.setBackgroundJobs, hfound]
    by_cases hconflict : isIdempotencyConflict input jobId holder = true
    · rw [if_pos hconflict]
      exact trivial
    · rw [if_neg hconflict, ensures_bind]
      have hrow : holder.Accepted :=
        backgroundJobSchema_failedCheck.mp (db.backgroundJobs.checked hholder)
      refine (ensures_jobOutbox_createMany_jobs (accepted_newOutbox hrow _ _ _)).mono
        (fun _ db' hjobs => ?_) fun _ hfalse => hfalse.elim
      rw [ensures_pure]
      exact hjobs

end Keys

end ContentAutomation
