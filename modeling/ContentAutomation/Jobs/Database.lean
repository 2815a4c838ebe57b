import ContentAutomation.Jobs.Schema
import ContentAutomation.Library.Transaction

/-!
# Statements on the job tables

The database that the job operations share, the exceptions they raise, and the
statements they are made of, under the names of the client that runs them.
Tables of the application around the jobs are a parameter `App`; the two that an
operator's commands read and write are kept as lists of rows.
-/

namespace ContentAutomation

open Relational List Transaction

/-- `operationalErrorClasses`. -/
inductive OperationalErrorClass
  | validation | authorisation | notFound | conflict | rateLimit | dependency | internal
  deriving DecidableEq

/-- An `OperationalError`. -/
structure OperationalError where
  code : String
  errorClass : OperationalErrorClass
  retryable : Bool
  statusCode : ℤ
  deriving DecidableEq

/-- What can go wrong inside a transaction, other than an operational error. -/
inductive JobFault
  /-- The database refused a statement. -/
  | violation (violation : Violation)
  /-- A row that must exist does not. -/
  | recordNotFound
  /-- `assertJobTransition` refused a transition. -/
  | invalidTransition
  /-- A callback of the caller threw. -/
  | callback
  deriving DecidableEq

/-- An exception. An operational error thrown in place of a fault remembers the
fault, so that the proofs can see through every `catch`. -/
inductive JobError
  | fault (fault : JobFault)
  | operational (error : OperationalError) (cause : Option JobFault)
  deriving DecidableEq

/-- The fault behind an exception. -/
def JobError.cause : JobError → Option JobFault
  | .fault reason => some reason
  | .operational _ reason => reason

/-- The exception does not go back to a failed `CHECK` constraint. -/
def JobError.Unchecked (error : JobError) : Prop :=
  ∀ constraint, error.cause ≠ some (.violation (.check constraint))

/-- `validationError`. -/
def validationError (code : String) : JobError :=
  .operational ⟨code, .validation, false, 400⟩ none

/-- `jobDatabaseError` and `queueDatabaseError`. -/
def databaseError (code : String) (cause : Option JobFault) : JobError :=
  .operational ⟨code, .dependency, true, 503⟩ cause

/-- A conflict, such as `JobLeaseLostError` and `reconciliationError`. -/
def conflictError (code : String) : JobError := .operational ⟨code, .conflict, false, 409⟩ none

/-- `JobLeaseLostError`. -/
def jobLeaseLost : JobError := conflictError "JOB_LEASE_LOST"

/-- `if (error instanceof OperationalError) throw error; throw jobDatabaseError(code);` -/
def orDatabaseError (code : String) : JobError → JobError
  | .fault fault => databaseError code (some fault)
  | .operational error cause => .operational error cause

/-- The tenant a caller works in. -/
structure WorkspaceContext where
  workspaceId : String
  deriving DecidableEq

/-- `ACTIVE` or `DISABLED`, of a user or a workspace. -/
inductive AccountStatus
  | active | disabled
  deriving DecidableEq

/-- The role of an internal user. -/
inductive InternalUserRole
  | member | admin
  deriving DecidableEq

/-- A row of `internal_users`, with the status of its workspace. -/
structure InternalUser where
  id : String
  workspaceId : String
  status : AccountStatus
  role : InternalUserRole
  sessionVersion : ℤ
  workspaceStatus : AccountStatus

/-- A row of `analysis_jobs`. -/
structure AnalysisJob where
  id : String
  backgroundJobId : String
  workspaceId : String
  repairAttempted : Bool
  deriving DecidableEq

/-- The database: its clock, the job tables and the tables around them. -/
structure Database (App : Type) where
  /-- The time that column defaults read. -/
  clock : ℤ
  backgroundJobs : Table backgroundJobSchema
  jobAttempts : Table jobAttemptSchema
  jobOutbox : Table jobOutboxSchema
  auditEvents : Table auditEventSchema
  internalUsers : List InternalUser
  analysisJobs : List AnalysisJob
  app : App

namespace Database

variable {App : Type}

/-- The database with another table of jobs. -/
def setBackgroundJobs (db : Database App) (backgroundJobs : Table backgroundJobSchema) :
    Database App := { db with backgroundJobs }

/-- The database with another table of attempts. -/
def setJobAttempts (db : Database App) (jobAttempts : Table jobAttemptSchema) : Database App :=
  { db with jobAttempts }

/-- The database with another outbox. -/
def setJobOutbox (db : Database App) (jobOutbox : Table jobOutboxSchema) : Database App :=
  { db with jobOutbox }

/-- The database with another audit log. -/
def setAuditEvents (db : Database App) (auditEvents : Table auditEventSchema) : Database App :=
  { db with auditEvents }

/-- The database with other analysis jobs. -/
def setAnalysisJobs (db : Database App) (analysisJobs : List AnalysisJob) : Database App :=
  { db with analysisJobs }

end Database

/-- A transaction on the database. -/
abbrev JobTransaction (App α : Type) := Transaction (Database App) JobError α

variable {App α : Type}

/-- Raise what the database raises. -/
def refuse (violation : Violation) : JobTransaction App α :=
  raise (.fault (.violation violation))

/-- `assertJobTransition`. -/
def assertJobTransition (source target : BackgroundJobState) : JobTransaction App Unit :=
  if canTransitionJob source target then pure () else raise (.fault .invalidTransition)

/-- `transaction.backgroundJob.findFirst`. -/
def backgroundJob.findFirst (selects : BackgroundJob → Bool) :
    JobTransaction App (Option BackgroundJob) :=
  read fun db => db.backgroundJobs.findFirst selects

/-- `transaction.backgroundJob.updateMany`. -/
def backgroundJob.updateMany (data : BackgroundJob → BackgroundJob)
    (selects : BackgroundJob → Bool) : JobTransaction App ℕ := fun db =>
  match db.backgroundJobs.updateMany data selects with
  | .ok (backgroundJobs, count) => .ok (count, db.setBackgroundJobs backgroundJobs)
  | .error violation => refuse violation db

/-- `transaction.backgroundJob.createMany` with `skipDuplicates`. -/
def backgroundJob.createMany (row : BackgroundJob) : JobTransaction App Unit := fun db =>
  match db.backgroundJobs.createSkippingDuplicates row with
  | .ok backgroundJobs => .ok ((), db.setBackgroundJobs backgroundJobs)
  | .error violation => refuse violation db

/-- `transaction.jobAttempt.create`. -/
def jobAttempt.create (row : JobAttempt) : JobTransaction App Unit := fun db =>
  match db.jobAttempts.create row with
  | .ok jobAttempts => .ok ((), db.setJobAttempts jobAttempts)
  | .error violation => refuse violation db

/-- `transaction.jobAttempt.updateMany`. -/
def jobAttempt.updateMany (data : JobAttempt → JobAttempt) (selects : JobAttempt → Bool) :
    JobTransaction App ℕ := fun db =>
  match db.jobAttempts.updateMany data selects with
  | .ok (jobAttempts, count) => .ok (count, db.setJobAttempts jobAttempts)
  | .error violation => refuse violation db

/-- `transaction.jobOutbox.findFirst`. -/
def jobOutbox.findFirst (selects : JobOutbox → Bool) : JobTransaction App (Option JobOutbox) :=
  read fun db => db.jobOutbox.findFirst selects

/-- `transaction.jobOutbox.updateMany`. -/
def jobOutbox.updateMany (data : JobOutbox → JobOutbox) (selects : JobOutbox → Bool) :
    JobTransaction App ℕ := fun db =>
  match db.jobOutbox.updateMany data selects with
  | .ok (jobOutbox, count) => .ok (count, db.setJobOutbox jobOutbox)
  | .error violation => refuse violation db

/-- `transaction.jobOutbox.create`. -/
def jobOutbox.create (row : JobOutbox) : JobTransaction App Unit := fun db =>
  match db.jobOutbox.create row with
  | .ok jobOutbox => .ok ((), db.setJobOutbox jobOutbox)
  | .error violation => refuse violation db

/-- `transaction.jobOutbox.createMany` with `skipDuplicates`. -/
def jobOutbox.createMany (row : JobOutbox) : JobTransaction App Unit := fun db =>
  match db.jobOutbox.createSkippingDuplicates row with
  | .ok jobOutbox => .ok ((), db.setJobOutbox jobOutbox)
  | .error violation => refuse violation db

/-- `transaction.jobOutbox.upsert` under `where: { backgroundJobId }`. -/
def jobOutbox.upsert (backgroundJobId : String) (create : JobOutbox)
    (update : JobOutbox → JobOutbox) : JobTransaction App Unit := do
  match ← jobOutbox.findFirst fun outbox => outbox.backgroundJobId == backgroundJobId with
  | some _ =>
    let _ ← jobOutbox.updateMany update fun outbox =>
      outbox.backgroundJobId == backgroundJobId && true
    pure ()
  | none => jobOutbox.create create

/-- `transaction.auditEvent.create`. -/
def auditEvent.create (row : AuditEvent) : JobTransaction App Unit := fun db =>
  match db.auditEvents.create row with
  | .ok auditEvents => .ok ((), db.setAuditEvents auditEvents)
  | .error violation => refuse violation db

/-- `transaction.auditEvent.findFirst`. -/
def auditEvent.findFirst (selects : AuditEvent → Bool) : JobTransaction App (Option AuditEvent) :=
  read fun db => db.auditEvents.findFirst selects

/-- `transaction.auditEvent.count`. -/
def auditEvent.count (selects : AuditEvent → Bool) : JobTransaction App ℕ :=
  read fun db => db.auditEvents.rows.countP selects

/-- `transaction.internalUser.findFirst`. -/
def internalUser.findFirst (selects : InternalUser → Bool) :
    JobTransaction App (Option InternalUser) :=
  read fun db => db.internalUsers.find? selects

/-- `executor.analysisJob.findFirst`. -/
def analysisJob.findFirst (selects : AnalysisJob → Bool) :
    JobTransaction App (Option AnalysisJob) :=
  read fun db => db.analysisJobs.find? selects

/-- `transaction.analysisJob.updateMany`. -/
def analysisJob.updateMany (data : AnalysisJob → AnalysisJob) (selects : AnalysisJob → Bool) :
    JobTransaction App Unit := fun db =>
  .ok ((), db.setAnalysisJobs
    (db.analysisJobs.map fun row => if selects row then data row else row))

namespace Database

/-- The job with an identifier. -/
def job? (db : Database App) (id : String) : Option BackgroundJob :=
  db.backgroundJobs.lookup BackgroundJob.id id

/-- The attempts at a job, in the order they were made. -/
def attemptsOf (db : Database App) (id : String) : List JobAttempt :=
  db.jobAttempts.rows.filter fun attempt => attempt.backgroundJobId == id

/-- The outbox row of a job. -/
def outboxOf (db : Database App) (id : String) : Option JobOutbox :=
  db.jobOutbox.lookup JobOutbox.backgroundJobId id

end Database

theorem backgroundJobSchema_keyedBy_id : backgroundJobSchema.KeyedBy BackgroundJob.id :=
  ⟨_, mem_cons_self, fun _ _ h => by simpa using h⟩

theorem jobAttemptSchema_keyedBy_leaseId : jobAttemptSchema.KeyedBy JobAttempt.leaseId :=
  ⟨_, mem_cons_of_mem _ mem_cons_self, fun _ _ h => by simpa using h⟩

theorem jobOutboxSchema_keyedBy_id : jobOutboxSchema.KeyedBy JobOutbox.id :=
  ⟨_, mem_cons_self, fun _ _ h => by simpa using h⟩

theorem jobOutboxSchema_keyedBy_backgroundJobId :
    jobOutboxSchema.KeyedBy JobOutbox.backgroundJobId :=
  ⟨_, mem_cons_of_mem _ mem_cons_self, fun _ _ h => by simpa using h⟩

namespace Database

variable {db : Database App} {k : String}

theorem id_of_job? {job : BackgroundJob} (h : db.job? k = some job) : job.id = k :=
  (Table.lookup_spec h).2

theorem accepted_of_job? {job : BackgroundJob} (h : db.job? k = some job) : job.Accepted :=
  backgroundJobSchema_failedCheck.mp (db.backgroundJobs.checked (Table.lookup_spec h).1)

theorem accepted_of_mem_jobAttempts {attempt : JobAttempt} (h : attempt ∈ db.jobAttempts.rows) :
    attempt.Accepted :=
  jobAttemptSchema_failedCheck.mp (db.jobAttempts.checked h)

theorem accepted_of_mem_jobOutbox {outbox : JobOutbox} (h : outbox ∈ db.jobOutbox.rows) :
    outbox.Accepted :=
  jobOutboxSchema_failedCheck.mp (db.jobOutbox.checked h)

end Database

/-! ### What each statement ensures -/

section Statements

variable {db : Database App} {k : String} {countPost : ℕ → Database App → Prop}
  {unitPost : Unit → Database App → Prop} {exceptional : JobError → Prop}
  {selects : BackgroundJob → Bool} {data : JobOutbox → JobOutbox}

theorem unchecked_unique (index : String) :
    (JobError.fault (.violation (.unique index))).Unchecked := by
  intro constraint h
  cases h

theorem unchecked_recordNotFound : (JobError.fault .recordNotFound).Unchecked := by
  intro constraint h
  cases h

theorem unchecked_validationError (code : String) : (validationError code).Unchecked := by
  intro constraint h
  cases h

theorem unchecked_conflictError (code : String) : (conflictError code).Unchecked := by
  intro constraint h
  cases h

theorem unchecked_jobLeaseLost : jobLeaseLost.Unchecked := unchecked_conflictError _

private theorem unchecked_orDatabaseError {code : String} {error : JobError} (h : error.Unchecked) :
    (orDatabaseError code error).Unchecked := by
  cases error with
  | fault reason => exact h
  | operational error reason => exact h

theorem ensures_orDatabaseError {code : String} {body : JobTransaction App α}
    {post : α → Database App → Prop} (h : body.Ensures post JobError.Unchecked db) :
    (rethrow (orDatabaseError code) body).Ensures post JobError.Unchecked db := by
  rw [ensures_rethrow]
  exact h.mono (fun _ _ hpost => hpost) fun _ herror => unchecked_orDatabaseError herror

theorem ensures_backgroundJob_findFirst {findPost : Option BackgroundJob → Database App → Prop}
    (hnone : (∀ job, db.job? k = some job → selects job = false) → findPost none db)
    (hsome : ∀ job, db.job? k = some job → selects job → findPost (some job) db) :
    (backgroundJob.findFirst fun row => row.id == k && selects row).Ensures
      findPost exceptional db := by
  unfold backgroundJob.findFirst
  rw [ensures_read]
  cases hfind : db.backgroundJobs.findFirst fun row => row.id == k && selects row with
  | none =>
    refine hnone fun job hjob => ?_
    obtain ⟨hmem, hid⟩ := Table.lookup_spec hjob
    simpa [hid] using List.find?_eq_none.mp hfind job hmem
  | some job =>
    have hmem := mem_of_find?_eq_some hfind
    have hselected := List.find?_some hfind
    simp only [Bool.and_eq_true, beq_iff_eq] at hselected
    exact hsome job ((Table.lookup_eq_some backgroundJobSchema_keyedBy_id).mpr
      ⟨hmem, hselected.1⟩) hselected.2

theorem ensures_assertJobTransition {source target : BackgroundJobState}
    (hallowed : canTransitionJob source target) (hpost : unitPost () db) :
    (assertJobTransition source target).Ensures unitPost exceptional db := by
  unfold assertJobTransition
  rw [if_pos hallowed]
  exact hpost

/-- An update that keeps the keys is not refused by an index. -/
theorem ensures_backgroundJob_updateMany {data : BackgroundJob → BackgroundJob}
    (hunique : backgroundJobSchema.KeepsKeys data ∨
      ∀ index, exceptional (.fault (.violation (.unique index))))
    (hnone : (∀ job, db.job? k = some job → selects job = false) → countPost 0 db)
    (hsome : ∀ job, db.job? k = some job → selects job →
      (data job).Accepted ∧ ∀ backgroundJobs : Table backgroundJobSchema,
        (backgroundJobs.rows = db.backgroundJobs.rows.map fun row =>
          if row.id == k && selects row then data row else row) →
        countPost 1 (db.setBackgroundJobs backgroundJobs)) :
    (backgroundJob.updateMany data fun row => row.id == k && selects row).Ensures
      countPost exceptional db := by
  unfold Ensures backgroundJob.updateMany
  simp only [StateT.run]
  rcases db.backgroundJobs.updateMany_key_cases backgroundJobSchema_keyedBy_id k data selects with
    ⟨habsent, hok⟩ | ⟨job, hjob, hselects, ⟨t, hrows, hok⟩ | hfailed | ⟨index, herror⟩⟩
  · rw [hok]
    exact hnone habsent
  · rw [hok]
    exact (hsome job hjob hselects).2 t hrows
  · exact absurd (backgroundJobSchema_failedCheck.mpr (hsome job hjob hselects).1) hfailed
  · rw [herror]
    exact hunique.elim (fun hkeys => absurd herror (Table.updateMany_ne_unique _ hkeys _ index))
      fun hmeets => hmeets index

theorem ensures_jobAttempt_updateMany {data : JobAttempt → JobAttempt}
    {selects : JobAttempt → Bool}
    (hunique : jobAttemptSchema.KeepsKeys data ∨
      ∀ index, exceptional (.fault (.violation (.unique index))))
    (hnone : (∀ attempt ∈ db.jobAttempts.rows, attempt.leaseId = k → selects attempt = false) →
      countPost 0 db)
    (hsome : ∀ attempt ∈ db.jobAttempts.rows, attempt.leaseId = k → selects attempt →
      (data attempt).Accepted ∧ ∀ jobAttempts : Table jobAttemptSchema,
        (jobAttempts.rows = db.jobAttempts.rows.map fun row =>
          if row.leaseId == k && selects row then data row else row) →
        countPost 1 (db.setJobAttempts jobAttempts)) :
    (jobAttempt.updateMany data fun row => row.leaseId == k && selects row).Ensures
      countPost exceptional db := by
  unfold Ensures jobAttempt.updateMany
  simp only [StateT.run]
  rcases db.jobAttempts.updateMany_key_cases jobAttemptSchema_keyedBy_leaseId k data selects with
    ⟨habsent, hok⟩ | ⟨attempt, hattempt, hselects, ⟨t, hrows, hok⟩ | hfailed | ⟨index, herror⟩⟩
  · rw [hok]
    refine hnone fun attempt hmem hlease => ?_
    exact habsent attempt ((Table.lookup_eq_some jobAttemptSchema_keyedBy_leaseId).mpr
      ⟨hmem, hlease⟩)
  · obtain ⟨hmem, hlease⟩ := Table.lookup_spec hattempt
    rw [hok]
    exact (hsome attempt hmem hlease hselects).2 t hrows
  · obtain ⟨hmem, hlease⟩ := Table.lookup_spec hattempt
    exact absurd (jobAttemptSchema_failedCheck.mpr (hsome attempt hmem hlease hselects).1) hfailed
  · rw [herror]
    exact hunique.elim (fun hkeys => absurd herror (Table.updateMany_ne_unique _ hkeys _ index))
      fun hmeets => hmeets index

theorem ensures_jobOutbox_updateMany {selects : JobOutbox → Bool}
    (hunique : jobOutboxSchema.KeepsKeys data ∨
      ∀ index, exceptional (.fault (.violation (.unique index))))
    (hnone : (∀ outbox, db.outboxOf k = some outbox → selects outbox = false) → countPost 0 db)
    (hsome : ∀ outbox, db.outboxOf k = some outbox → selects outbox →
      (data outbox).Accepted ∧ ∀ jobOutbox : Table jobOutboxSchema,
        (jobOutbox.rows = db.jobOutbox.rows.map fun row =>
          if row.backgroundJobId == k && selects row then data row else row) →
        countPost 1 (db.setJobOutbox jobOutbox)) :
    (jobOutbox.updateMany data fun row => row.backgroundJobId == k && selects row).Ensures
      countPost exceptional db := by
  unfold Ensures jobOutbox.updateMany
  simp only [StateT.run]
  rcases db.jobOutbox.updateMany_key_cases jobOutboxSchema_keyedBy_backgroundJobId k data selects
    with ⟨habsent, hok⟩ | ⟨outbox, houtbox, hselects, ⟨t, hrows, hok⟩ | hfailed | ⟨index, herror⟩⟩
  · rw [hok]
    exact hnone habsent
  · rw [hok]
    exact (hsome outbox houtbox hselects).2 t hrows
  · exact absurd (jobOutboxSchema_failedCheck.mpr (hsome outbox houtbox hselects).1) hfailed
  · rw [herror]
    exact hunique.elim (fun hkeys => absurd herror (Table.updateMany_ne_unique _ hkeys _ index))
      fun hmeets => hmeets index

theorem ensures_jobOutbox_updateMany_id {selects : JobOutbox → Bool} (hnone : countPost 0 db)
    (hsome : ∀ outbox ∈ db.jobOutbox.rows, outbox.id = k → selects outbox →
      (data outbox).Accepted ∧ ∀ jobOutbox : Table jobOutboxSchema,
        (jobOutbox.rows = db.jobOutbox.rows.map fun row =>
          if row.id == k && selects row then data row else row) →
        countPost 1 (db.setJobOutbox jobOutbox)) :
    (jobOutbox.updateMany data fun row => row.id == k && selects row).Ensures
      countPost JobError.Unchecked db := by
  unfold Ensures jobOutbox.updateMany
  simp only [StateT.run]
  rcases db.jobOutbox.updateMany_key_cases jobOutboxSchema_keyedBy_id k data selects with
    ⟨-, hok⟩ | ⟨outbox, houtbox, hselects, ⟨t, hrows, hok⟩ | hfailed | ⟨index, herror⟩⟩
  · rw [hok]
    exact hnone
  · obtain ⟨hmem, hid⟩ := Table.lookup_spec houtbox
    rw [hok]
    exact (hsome outbox hmem hid hselects).2 t hrows
  · obtain ⟨hmem, hid⟩ := Table.lookup_spec houtbox
    exact absurd (jobOutboxSchema_failedCheck.mpr (hsome outbox hmem hid hselects).1) hfailed
  · rw [herror]
    exact unchecked_unique index

theorem ensures_jobAttempt_create {row : JobAttempt} (haccepted : row.Accepted)
    (hpost : ∀ jobAttempts : Table jobAttemptSchema,
      jobAttempts.rows = db.jobAttempts.rows ++ [row] → unitPost () (db.setJobAttempts jobAttempts)) :
    (jobAttempt.create row).Ensures unitPost JobError.Unchecked db := by
  unfold Ensures jobAttempt.create
  simp only [StateT.run]
  rcases db.jobAttempts.create_cases row with ⟨t, hrows, hok⟩ | hfailed | ⟨index, herror⟩
  · rw [hok]
    exact hpost t hrows
  · exact absurd (jobAttemptSchema_failedCheck.mpr haccepted) hfailed
  · rw [herror]
    exact unchecked_unique index

theorem ensures_jobOutbox_create {row : JobOutbox} (haccepted : row.Accepted)
    (hpost : ∀ jobOutbox : Table jobOutboxSchema,
      jobOutbox.rows = db.jobOutbox.rows ++ [row] → unitPost () (db.setJobOutbox jobOutbox))
    (hcollides : ∀ index, (∃ other ∈ db.jobOutbox.rows, jobOutboxSchema.collision other row ≠ none) →
      exceptional (.fault (.violation (.unique index)))) :
    (jobOutbox.create row).Ensures unitPost exceptional db := by
  unfold Ensures jobOutbox.create
  simp only [StateT.run]
  rcases db.jobOutbox.create_cases row with ⟨t, hrows, hok⟩ | hfailed | ⟨index, herror⟩
  · rw [hok]
    exact hpost t hrows
  · exact absurd (jobOutboxSchema_failedCheck.mpr haccepted) hfailed
  · rw [herror]
    exact hcollides index (Table.exists_collision_of_create herror)

theorem ensures_auditEvent_create {row : AuditEvent} (haccepted : row.Accepted)
    (hpost : ∀ auditEvents : Table auditEventSchema, unitPost () (db.setAuditEvents auditEvents))
    (hcollides : ∀ index, (∃ event ∈ db.auditEvents.rows, event.id = row.id) →
      exceptional (.fault (.violation (.unique index)))) :
    (auditEvent.create row).Ensures unitPost exceptional db := by
  unfold Ensures auditEvent.create
  simp only [StateT.run]
  rcases db.auditEvents.create_cases row with ⟨t, hrows, hok⟩ | hfailed | ⟨index, herror⟩
  · rw [hok]
    exact hpost t
  · exact absurd (auditEventSchema_failedCheck.mpr haccepted) hfailed
  · rw [herror]
    obtain ⟨event, hevent, hcollision⟩ := Table.exists_collision_of_create herror
    refine hcollides index ⟨event, hevent, ?_⟩
    by_contra hne
    refine hcollision (Schema.collision_eq_none.mpr ?_)
    simpa [auditEventSchema] using hne

theorem ensures_analysisJob_updateMany {data : AnalysisJob → AnalysisJob}
    {selects : AnalysisJob → Bool}
    (hpost : ∀ analysisJobs, unitPost () (db.setAnalysisJobs analysisJobs)) :
    (analysisJob.updateMany data selects).Ensures unitPost JobError.Unchecked db := hpost _

theorem ensures_analysisJob_updated {data : AnalysisJob → AnalysisJob}
    {selects : AnalysisJob → Bool} {refused : JobError → Prop} :
    (analysisJob.updateMany data selects).Ensures unitPost refused db ↔
      unitPost () (db.setAnalysisJobs
        (db.analysisJobs.map fun row => if selects row then data row else row)) := Iff.rfl

theorem ensures_backgroundJob_createMany {row : BackgroundJob} (haccepted : row.Accepted)
    (hskip : unitPost () db)
    (hpost : ∀ backgroundJobs : Table backgroundJobSchema,
      backgroundJobs.rows = db.backgroundJobs.rows ++ [row] →
        unitPost () (db.setBackgroundJobs backgroundJobs)) :
    (backgroundJob.createMany row).Ensures unitPost JobError.Unchecked db := by
  unfold Ensures backgroundJob.createMany
  simp only [StateT.run]
  rcases db.backgroundJobs.createSkippingDuplicates_cases row with
    ⟨-, hok⟩ | ⟨t, hrows, hok⟩ | hfailed | ⟨index, herror⟩
  · rw [hok]
    exact hskip
  · rw [hok]
    exact hpost t hrows
  · exact absurd (backgroundJobSchema_failedCheck.mpr haccepted) hfailed
  · rw [herror]
    exact unchecked_unique index

theorem ensures_jobOutbox_createMany {row : JobOutbox} (haccepted : row.Accepted)
    (hskip : (∃ other ∈ db.jobOutbox.rows, jobOutboxSchema.collision other row ≠ none) →
      unitPost () db)
    (hpost : ∀ jobOutbox : Table jobOutboxSchema,
      jobOutbox.rows = db.jobOutbox.rows ++ [row] → unitPost () (db.setJobOutbox jobOutbox)) :
    (jobOutbox.createMany row).Ensures unitPost JobError.Unchecked db := by
  unfold Ensures jobOutbox.createMany
  simp only [StateT.run]
  rcases db.jobOutbox.createSkippingDuplicates_cases row with
    ⟨hcollides, hok⟩ | ⟨t, hrows, hok⟩ | hfailed | ⟨index, herror⟩
  · rw [hok]
    exact hskip hcollides
  · rw [hok]
    exact hpost t hrows
  · exact absurd (jobOutboxSchema_failedCheck.mpr haccepted) hfailed
  · rw [herror]
    exact unchecked_unique index

end Statements

end ContentAutomation
