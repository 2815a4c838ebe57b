import ContentAutomation.Jobs.ReconciliationPass

/-!
# What a repair leaves behind

The rows that each repair of the reconciler writes, from any database. A repair
concerns one job and its outbox row. It throws only where the tables break their
invariant, or where an identifier that was to be new is in use.
-/

namespace ContentAutomation

open Relational Transaction List Database

variable {App : Type} {db db' : Database App} {k workspaceId correlationId outboxId auditId : String}
  {now : ℤ}

/-! ### What a repair writes -/

/-- The job that an attempt belongs to, as its foreign key names it. -/
def JobAttempt.owner (attempt : JobAttempt) : String × String :=
  (attempt.workspaceId, attempt.backgroundJobId)

/-- Attempts are in the workspace of the job they belong to
(`job_attempts_workspace_id_background_job_id_fkey`). -/
def Database.OwnsAttempts (db : Database App) : Prop :=
  ∀ attempt ∈ db.jobAttempts.rows, ∀ job, db.job? attempt.backgroundJobId = some job →
    attempt.workspaceId = job.workspaceId

/-- The same jobs are there, and nothing but job tables and the audit log differs. -/
structure Database.SameSurroundings (db db' : Database App) : Prop where
  ids : db'.backgroundJobs.rows.map BackgroundJob.id = db.backgroundJobs.rows.map BackgroundJob.id
  owners : db'.jobAttempts.rows.map JobAttempt.owner = db.jobAttempts.rows.map JobAttempt.owner
  clock : db'.clock = db.clock
  internalUsers : db'.internalUsers = db.internalUsers
  analysisJobs : db'.analysisJobs = db.analysisJobs
  app : db'.app = db.app

/-- A repair writes one job and its outbox row, and audits it. -/
structure Database.Rewrites (db : Database App) (k : String)
    (effect : BackgroundJob → Option JobOutbox → Prop) (db' : Database App) : Prop where
  self : ∃ job, db'.job? k = some job ∧ effect job (db'.outboxOf k)
  others : ∀ id, id ≠ k → db'.job? id = db.job? id ∧ db'.outboxOf id = db.outboxOf id
  surroundings : db.SameSurroundings db'

/-- The invariant of the tables holds, and the identifiers are new. -/
structure Database.Sound (db : Database App) (outboxId auditId : String) : Prop where
  inv : db.Inv
  owns : db.OwnsAttempts
  outboxId : ∀ outbox ∈ db.jobOutbox.rows, outbox.id ≠ outboxId
  auditId : ∀ event ∈ db.auditEvents.rows, event.id ≠ auditId

private theorem Database.Sound.not_used (h : db.Sound outboxId auditId) :
    ¬ ∃ event ∈ db.auditEvents.rows, event.id = auditId := by
  rintro ⟨event, hevent, hid⟩
  exact h.auditId event hevent hid

/-- What every repair before the last scan leaves of a job. -/
structure BackgroundJob.Carries (job job' : BackgroundJob) : Prop where
  workspaceId : job'.workspaceId = job.workspaceId
  cancellationRequestedAt : job'.cancellationRequestedAt = job.cancellationRequestedAt
  reconciliationCode : job'.reconciliationCode = job.reconciliationCode

/-- A job waits with an outbox row that the dispatcher will find. -/
def AwaitsDispatch (job : BackgroundJob) (outbox : Option JobOutbox) : Prop :=
  job.state = .queued ∧
    ∃ row, outbox = some row ∧ row.workspaceId = job.workspaceId ∧ row.dispatchedAt = none

section Rewrites

variable {effect : BackgroundJob → Option JobOutbox → Prop} {job : BackgroundJob}

theorem Database.SameSurroundings.refl (db : Database App) : db.SameSurroundings db :=
  ⟨rfl, rfl, rfl, rfl, rfl, rfl⟩

theorem Database.Rewrites.of_unchanged (hjob : db.job? k = some job) (heffect : effect job (db.outboxOf k)) :
    db.Rewrites k effect db :=
  ⟨⟨job, hjob, heffect⟩, fun _ _ => ⟨rfl, rfl⟩, Database.SameSurroundings.refl db⟩

private theorem map_id_of_update {t t' : Table backgroundJobSchema}
    {data : BackgroundJob → BackgroundJob}
    {selects : BackgroundJob → Bool} (hkeep : ∀ row, (data row).id = row.id)
    (hrows : t'.rows = t.rows.map fun row => if selects row then data row else row) :
    t'.rows.map BackgroundJob.id = t.rows.map BackgroundJob.id := by
  rw [hrows, map_map]
  refine map_congr_left fun row _ => ?_
  simp only [Function.comp_apply]
  split
  · exact hkeep row
  · rfl

end Rewrites

/-! ### What each repair writes -/

private theorem keepsKeys_backgroundJob {data : BackgroundJob → BackgroundJob}
    (hid : ∀ row, (data row).id = row.id) (hkey : ∀ row, (data row).idempotency = row.idempotency) :
    backgroundJobSchema.KeepsKeys data := by
  intro index hindex row other
  have hsame := hkey row
  simp only [BackgroundJob.idempotency, Prod.mk.injEq] at hsame
  simp only [backgroundJobSchema, mem_cons, not_mem_nil, or_false] at hindex
  rcases hindex with rfl | rfl | rfl <;> simp [hid row, hsame]

private theorem keepsKeys_jobAttempt {data : JobAttempt → JobAttempt}
    (hsame : ∀ row, (data row).id = row.id ∧ (data row).leaseId = row.leaseId ∧
      (data row).backgroundJobId = row.backgroundJobId ∧
      (data row).attemptNumber = row.attemptNumber) : jobAttemptSchema.KeepsKeys data := by
  intro index hindex row other
  simp only [jobAttemptSchema, mem_cons, not_mem_nil, or_false] at hindex
  rcases hindex with rfl | rfl | rfl <;> simp [hsame row]

private theorem keepsKeys_jobOutbox {data : JobOutbox → JobOutbox}
    (hsame : ∀ row, (data row).id = row.id ∧ (data row).backgroundJobId = row.backgroundJobId ∧
      (data row).workspaceId = row.workspaceId) : jobOutboxSchema.KeepsKeys data := by
  intro index hindex row other
  simp only [jobOutboxSchema, mem_cons, not_mem_nil, or_false] at hindex
  rcases hindex with rfl | rfl | rfl <;> simp [hsame row]

section Repairs

variable {job : BackgroundJob} {effect : BackgroundJob → Option JobOutbox → Prop}
  {backgroundJobs : Table backgroundJobSchema} {data : BackgroundJob → BackgroundJob}
  {selects : BackgroundJob → Bool}

private theorem Database.rewrites_of_job (hjob : db.job? k = some job) (hselects : selects job)
    (hrows : backgroundJobs.rows = db.backgroundJobs.rows.map fun row =>
      if row.id == k && selects row then data row else row)
    (hkeep : ∀ row, (data row).id = row.id) (heffect : effect (data job) (db.outboxOf k)) :
    db.Rewrites k effect (db.setBackgroundJobs backgroundJobs) := by
  have hjobs := job?_update hjob hselects hrows hkeep
  refine ⟨⟨data job, by rw [hjobs, if_pos rfl], heffect⟩, fun id hid => ⟨?_, rfl⟩,
    ⟨map_id_of_update hkeep hrows, rfl, rfl, rfl, rfl, rfl⟩⟩
  rw [hjobs, if_neg hid]

theorem Database.Rewrites.setJobAttempts (h : db.Rewrites k effect db')
    {jobAttempts : Table jobAttemptSchema} {dataAttempt : JobAttempt → JobAttempt}
    {selectsAttempt : JobAttempt → Bool}
    (hrows : jobAttempts.rows = db'.jobAttempts.rows.map fun row =>
      if selectsAttempt row then dataAttempt row else row)
    (hkeep : ∀ row, (dataAttempt row).owner = row.owner) :
    db.Rewrites k effect (db'.setJobAttempts jobAttempts) := by
  refine ⟨h.self, h.others, ⟨h.surroundings.ids, ?_, h.surroundings.clock,
    h.surroundings.internalUsers, h.surroundings.analysisJobs, h.surroundings.app⟩⟩
  show jobAttempts.rows.map JobAttempt.owner = _
  rw [← h.surroundings.owners, hrows, map_map]
  refine map_congr_left fun row _ => ?_
  simp only [Function.comp_apply]
  split
  · exact hkeep row
  · rfl

theorem Database.Rewrites.setAuditEvents (h : db.Rewrites k effect db')
    (auditEvents : Table auditEventSchema) :
    db.Rewrites k effect (db'.setAuditEvents auditEvents) :=
  ⟨h.self, h.others, ⟨h.surroundings.ids, h.surroundings.owners, h.surroundings.clock,
    h.surroundings.internalUsers, h.surroundings.analysisJobs, h.surroundings.app⟩⟩

variable {effect' : BackgroundJob → Option JobOutbox → Prop} {exceptional : JobError → Prop}
  {t : Database App}

theorem Database.Rewrites.setJobOutbox
    (h : db.Rewrites k effect db') {jobOutbox : Table jobOutboxSchema} {outbox : Option JobOutbox}
    (houtbox : ∀ id, (db'.setJobOutbox jobOutbox).outboxOf id =
      if id = k then outbox else db'.outboxOf id)
    (heffect : ∀ job', effect job' (db'.outboxOf k) → effect' job' outbox) :
    db.Rewrites k effect' (db'.setJobOutbox jobOutbox) := by
  obtain ⟨job', hjob', hbefore⟩ := h.self
  refine ⟨⟨job', hjob', ?_⟩, fun id hid => ⟨(h.others id hid).1, ?_⟩,
    ⟨h.surroundings.ids, h.surroundings.owners, h.surroundings.clock,
      h.surroundings.internalUsers, h.surroundings.analysisJobs, h.surroundings.app⟩⟩
  · rw [houtbox, if_pos rfl]
    exact heffect job' hbefore
  · rw [houtbox, if_neg hid]
    exact (h.others id hid).2

/-- **What a flag writes.** -/
theorem rewrites_flagAmbiguousJob {reason : AmbiguousResult} (hjob : db.job? k = some job)
    (hworkspace : job.workspaceId = workspaceId) :
    (flagAmbiguousJob k workspaceId correlationId reason now auditId).Ensures
      (fun _ db' => db.Rewrites k (fun job' outbox => outbox = db.outboxOf k ∧
        (job' = job ∨ job' = flaggedJob reason.reasonCode now job) ∧
        job'.reconciliationCode = some reason.reasonCode) db')
      (fun _ => ¬ db.Sound outboxId auditId) db := by
  unfold flagAmbiguousJob
  rw [ensures_bind]
  refine ensures_backgroundJob_updateMany
    (.inl (keepsKeys_backgroundJob (fun _ => rfl) fun _ => rfl)) (fun hnone => ?_) fun row hrow hselects => ?_
  · rw [if_pos (by decide), ensures_pure]
    have hcode := hnone job hjob
    simp only [hworkspace, beq_self_eq_true, Bool.and_true, decide_eq_false_iff_not,
      not_not] at hcode
    exact Database.Rewrites.of_unchanged hjob ⟨rfl, .inl rfl, hcode⟩
  · obtain rfl := Option.mem_unique hjob hrow
    refine ⟨accepted_flaggedJob (accepted_of_job? hjob) reason, fun t hrows => ?_⟩
    rw [if_neg (by simp), ensures_bind]
    refine ensures_createServiceAudit (by decide) reason.isSafeCode_reasonCode
      (fun auditEvents => ?_) fun _ hused hsound => hsound.not_used hused
    rw [ensures_pure]
    exact (rewrites_of_job hjob hselects hrows (fun _ => rfl)
      ⟨rfl, .inr rfl, rfl⟩).setAuditEvents auditEvents

theorem ensures_flagAmbiguousJob_idle {reason : AmbiguousResult} (hjob : db.job? k = some job)
    (hcode : job.reconciliationCode = some reason.reasonCode) :
    (flagAmbiguousJob k workspaceId correlationId reason now auditId).Ensures
      (fun flagged db' => flagged = false ∧ db' = db) exceptional db := by
  unfold flagAmbiguousJob
  rw [ensures_bind]
  refine ensures_backgroundJob_updateMany
    (.inl (keepsKeys_backgroundJob (fun _ => rfl) fun _ => rfl)) (fun _ => ⟨rfl, rfl⟩) fun row hrow hselects => ?_
  obtain rfl := Option.mem_unique hjob hrow
  simp [hcode] at hselects

private theorem Database.Rewrites.ensures_updateOutbox {dataOutbox : JobOutbox → JobOutbox}
    {selectsOutbox : JobOutbox → Bool}
    (h : db.Rewrites k effect t)
    (hsame : ∀ row, (dataOutbox row).id = row.id ∧
      (dataOutbox row).backgroundJobId = row.backgroundJobId ∧
      (dataOutbox row).workspaceId = row.workspaceId)
    (haccepted : ∀ row, row.Accepted → (dataOutbox row).Accepted)
    (heffect : ∀ job' outbox, effect job' outbox → effect' job' (outbox.map fun row =>
      if selectsOutbox row then dataOutbox row else row)) :
    (jobOutbox.updateMany dataOutbox fun row =>
      row.backgroundJobId == k && selectsOutbox row).Ensures
      (fun _ db' => db.Rewrites k effect' db' ∧ ∃ jobOutbox, db' = t.setJobOutbox jobOutbox)
      exceptional t := by
  refine ensures_jobOutbox_updateMany (.inl (keepsKeys_jobOutbox hsame)) (fun hnone => ?_)
    fun outbox houtbox hselects => ?_
  · have hsameRows : ∀ id, (t.setJobOutbox t.jobOutbox).outboxOf id =
        if id = k then t.outboxOf k else t.outboxOf id := by
      intro id
      show t.outboxOf id = _
      split
      · next hid => rw [hid]
      · rfl
    refine ⟨h.setJobOutbox hsameRows fun job' hbefore => ?_, t.jobOutbox, rfl⟩
    · have hafter := heffect job' _ hbefore
      cases houtbox : t.outboxOf k with
      | none => rwa [houtbox] at hafter
      | some outbox =>
        rw [houtbox, Option.map_some, hnone outbox houtbox] at hafter
        exact hafter
  · have hmem := (Table.lookup_spec houtbox).1
    refine ⟨haccepted _ (accepted_of_mem_jobOutbox hmem), fun table hrows => ?_⟩
    refine ⟨h.setJobOutbox (outboxOf_update_self houtbox hselects hrows
      fun row => (hsame row).2.1) fun job' hbefore => ?_, table, rfl⟩
    have hafter := heffect job' _ hbefore
    rwa [houtbox, Option.map_some, if_pos hselects] at hafter

/-- **What recovery writes.** -/
theorem rewrites_recoverExpiredBackgroundJobLease (hjob : db.job? k = some job)
    (hexpired : isLeaseExpired now job) (hworkspace : job.workspaceId = workspaceId)
    (hparsed : parseCorrelationId correlationId = some correlationId) :
    (recoverExpiredBackgroundJobLease ⟨workspaceId⟩ k now (some correlationId) auditId).Ensures
      (fun _ db' => db.Rewrites k (fun job' _ => job.Carries job' ∧
        job'.state = recoveredState job) db')
      (fun _ => ¬ db.Sound outboxId auditId) db := by
  have hid := id_of_job? hjob
  have hstate : job.state = .processing := by
    simp only [isLeaseExpired, Bool.and_eq_true, beq_iff_eq] at hexpired
    exact hexpired.2
  obtain ⟨leaseId, hlease⟩ := Option.isSome_iff_exists.mp
    ((accepted_of_job? hjob).leased hstate).1
  unfold recoverExpiredBackgroundJobLease
  simp only [Option.isSome_some, Option.bind_some, hparsed, Option.isNone_some, Bool.and_false,
    Bool.false_eq_true, if_false]
  rw [ensures_rethrow, ensures_bind]
  refine ensures_backgroundJob_findFirst (fun hnone => ?_) fun row hrow hselects => ?_
  · have hfalse := hnone job hjob
    simp [hexpired, hworkspace] at hfalse
  obtain rfl := Option.mem_unique hjob hrow
  dsimp only
  rw [hlease, ensures_bind]
  refine ensures_assertJobTransition ?_ ?_
  · unfold recoveredState
    split
    · rfl
    · split <;> rfl
  rw [ensures_bind, hid]
  refine ensures_backgroundJob_updateMany
    (.inl (keepsKeys_backgroundJob (fun _ => rfl) fun _ => rfl)) (fun hnone => ?_) fun row hrow hselects => ?_
  · have hfalse := hnone job hjob
    simp [hexpired, hworkspace, hlease] at hfalse
  obtain rfl := Option.mem_unique hjob hrow
  refine ⟨accepted_recoveredJob (accepted_of_job? hjob) hstate now, fun t hrows => ?_⟩
  rw [if_neg (by simp), ensures_bind]
  have hwritten : db.Rewrites k (fun job' _ => job.Carries job' ∧
      job'.state = recoveredState job) (db.setBackgroundJobs t) :=
    rewrites_of_job hjob hselects hrows (fun _ => rfl) ⟨⟨rfl, rfl, rfl⟩, rfl⟩
  refine ensures_jobAttempt_updateMany (.inl (keepsKeys_jobAttempt fun row => ?_)) (fun hnone => ?_)
    fun attempt hattempt hsame hactive => ?_
  · unfold recoveredAttempt
    split <;> exact ⟨rfl, rfl, rfl, rfl⟩
  · rw [if_pos (by decide)]
    intro hsound
    obtain ⟨holder, hholder, hheld, hactive, -⟩ := hsound.inv.holder hjob hlease
    have hfalse := hnone holder hholder hheld
    simp [hactive] at hfalse
  have hactive' : attempt.state = .active := by simpa using hactive
  refine ⟨accepted_recoveredAttempt (accepted_of_mem_jobAttempts hattempt) hactive' _ _,
    fun ta hta => ?_⟩
  rw [if_neg (by simp), ensures_bind]
  have hclosed := hwritten.setJobAttempts hta fun row => by
    unfold recoveredAttempt
    split <;> rfl
  have houtbox : (recoverOutbox job now).Ensures (fun _ db' => db.Rewrites k (fun job' _ =>
      job.Carries job' ∧ job'.state = recoveredState job) db' ∧ ∃ jobOutbox,
        db' = ((db.setBackgroundJobs t).setJobAttempts ta).setJobOutbox jobOutbox)
      (fun _ => ¬ db.Sound outboxId auditId)
      ((db.setBackgroundJobs t).setJobAttempts ta) := by
    unfold recoverOutbox
    rw [hid]
    split
    · rw [ensures_bind]
      exact hclosed.ensures_updateOutbox (fun _ => ⟨rfl, rfl, rfl⟩)
        (fun _ h => accepted_cancelledOutbox h _) fun _ _ h => h
    · split
      · rw [ensures_bind]
        exact hclosed.ensures_updateOutbox (fun _ => ⟨rfl, rfl, rfl⟩)
          (fun _ h => accepted_redeliveredOutbox h _) fun _ _ h => h
      · rw [ensures_pure]
        exact ⟨hclosed, _, rfl⟩
  refine houtbox.mono (fun _ db' hafter => ?_) fun _ herror => herror
  obtain ⟨hrewrites, jobOutbox, rfl⟩ := hafter
  rw [ensures_bind]
  unfold auditRecovery
  refine ensures_auditEvent_create (accepted_serviceAuditData (by decide) ?_ _ _ _ _ _ _)
    (fun auditEvents => hrewrites.setAuditEvents auditEvents)
    fun _ hused hsound => hsound.not_used hused
  split <;> decide

private theorem Database.outboxOf_insert {table : Table jobOutboxSchema}
    {row : JobOutbox} (hrows : table.rows = t.jobOutbox.rows ++ [row])
    (hid : row.backgroundJobId = k) (habsent : t.outboxOf k = none) (id : String) :
    (t.setJobOutbox table).outboxOf id = if id = k then some row else t.outboxOf id := by
  show table.lookup JobOutbox.backgroundJobId id = _
  rw [Table.lookup_append hrows, hid]
  by_cases hk : id = k
  · have hlookup : t.jobOutbox.lookup JobOutbox.backgroundJobId k = none := habsent
    rw [if_pos hk, hk, hlookup, if_pos rfl, Option.none_or]
  · rw [if_neg hk, if_neg (Ne.symm hk), Option.or_none]
    rfl

private theorem not_collision_jobOutbox {row other : JobOutbox}
    (hcollides : jobOutboxSchema.collision other row ≠ none) :
    other.id = row.id ∨ other.backgroundJobId = row.backgroundJobId := by
  by_contra hnone
  push Not at hnone
  refine hcollides (Schema.collision_eq_none.mpr fun index hindex => ?_)
  simp only [jobOutboxSchema, mem_cons, not_mem_nil, or_false] at hindex
  rcases hindex with rfl | rfl | rfl <;> simp [hnone]

/-- The outbox row of the job that was written is sent again, or made. -/
theorem Database.Rewrites.ensures_resetOutbox (h : db.Rewrites k effect t)
    (hid : job.id = k) (haccepted : job.Accepted) (hsame : t.jobOutbox = db.jobOutbox)
    (heffect : ∀ job' outbox row, effect job' outbox → row.dispatchedAt = none →
      (∀ before, outbox = some before → row.workspaceId = before.workspaceId) →
      (outbox = none → row.workspaceId = job.workspaceId) → effect' job' (some row)) :
    (resetOutbox job now outboxId).Ensures
      (fun _ db' => db.Rewrites k effect' db' ∧ ∃ jobOutbox, db' = t.setJobOutbox jobOutbox)
      (fun _ => ¬ db.Sound outboxId auditId) t := by
  obtain ⟨job', hjob', hbefore⟩ := h.self
  unfold resetOutbox jobOutbox.upsert jobOutbox.findFirst
  rw [ensures_bind, ensures_read, hid, ensures_bind, ensures_read]
  cases houtbox : t.outboxOf k with
  | some outbox =>
    have hread : t.jobOutbox.findFirst (fun row => row.backgroundJobId == k) = some outbox :=
      houtbox
    rw [hread]
    rw [ensures_bind]
    have hfound : db.Rewrites k (fun job' before => effect job' before ∧ before = some outbox) t :=
      ⟨⟨job', hjob', hbefore, houtbox⟩, h.others, h.surroundings⟩
    refine hfound.ensures_updateOutbox (fun _ => ⟨rfl, rfl, rfl⟩)
      (fun _ hrow => accepted_resetOutboxRow hrow now) fun job'' before hpost => ?_
    obtain ⟨heffect', rfl⟩ := hpost
    exact heffect job'' _ _ heffect' rfl
      (fun before hsome => by rw [← Option.some.inj hsome]; rfl) fun habsurd => by cases habsurd
  | none =>
    have hread : t.jobOutbox.findFirst (fun row => row.backgroundJobId == k) = none := houtbox
    rw [hread]
    refine ensures_jobOutbox_create (accepted_newOutbox haccepted _ _ _) (fun table hrows => ?_)
      fun _ hcollides hsound => ?_
    · have hinsert : ∀ id, (t.setJobOutbox table).outboxOf id =
          if id = k then some (newOutbox job outboxId now t.clock) else t.outboxOf id :=
        outboxOf_insert hrows hid houtbox
      refine ⟨h.setJobOutbox hinsert fun job'' hbefore' => ?_, table, rfl⟩
      · rw [houtbox] at hbefore'
        exact heffect job'' none _ hbefore' rfl (fun _ habsurd => by cases habsurd) fun _ => rfl
    · obtain ⟨other, hother, hcollides⟩ := hcollides
      rw [hsame] at hother
      rcases not_collision_jobOutbox hcollides with hused | hrelated
      · exact hsound.outboxId other hother hused
      · rw [← hsame] at hother
        exact Table.lookup_eq_none.mp houtbox other hother (hrelated.trans hid)

/-- **What the requeueing of a due retry writes.** -/
theorem rewrites_requeueDueRetry (hjob : db.job? k = some job) (hdue : isRetryDue now job)
    (hworkspace : job.workspaceId = workspaceId) :
    (requeueDueRetry k workspaceId correlationId now outboxId auditId).Ensures
      (fun _ db' => db.Rewrites k (fun job' _ => job.Carries job' ∧ job'.state = .queued) db')
      (fun _ => ¬ db.Sound outboxId auditId) db := by
  have hid := id_of_job? hjob
  have haccepted := accepted_of_job? hjob
  have hstate : job.state = .retryScheduled := by
    simp only [isRetryDue, Bool.and_eq_true, beq_iff_eq] at hdue
    exact hdue.2
  unfold requeueDueRetry
  rw [ensures_bind]
  refine ensures_backgroundJob_findFirst (fun hnone => ?_) fun row hrow _ => ?_
  · have hfalse := hnone job hjob
    simp [hdue, hworkspace] at hfalse
  obtain rfl := Option.mem_unique hjob hrow
  rw [ensures_bind]
  refine ensures_assertJobTransition rfl ?_
  rw [ensures_bind, hid]
  refine ensures_backgroundJob_updateMany
    (.inl (keepsKeys_backgroundJob (fun _ => rfl) fun _ => rfl)) (fun hnone => ?_) fun row hrow hselects => ?_
  · have hfalse := hnone job hjob
    simp [hdue] at hfalse
  obtain rfl := Option.mem_unique hjob hrow
  refine ⟨accepted_requeuedRetryJob haccepted hstate, fun t hrows => ?_⟩
  rw [if_neg (by simp), ensures_bind]
  have hwritten : db.Rewrites k (fun job' _ => job.Carries job' ∧ job'.state = .queued)
      (db.setBackgroundJobs t) :=
    rewrites_of_job hjob hselects hrows (fun _ => rfl) ⟨⟨rfl, rfl, rfl⟩, rfl⟩
  have hreset : (resetOutbox job now outboxId).Ensures (fun _ db' =>
      db.Rewrites k (fun job' _ => job.Carries job' ∧ job'.state = .queued) db' ∧
        ∃ jobOutbox, db' = (db.setBackgroundJobs t).setJobOutbox jobOutbox)
      (fun _ => ¬ db.Sound outboxId auditId) (db.setBackgroundJobs t) :=
    hwritten.ensures_resetOutbox hid haccepted rfl fun _ _ _ h _ _ _ => h
  refine hreset.mono (fun _ db' hafter => ?_) fun _ herror => herror
  obtain ⟨hrewrites, jobOutbox, rfl⟩ := hafter
  rw [ensures_bind]
  refine ensures_createServiceAudit (by decide) (by decide) (fun auditEvents => ?_)
    fun _ hused hsound => hsound.not_used hused
  rw [ensures_pure]
  exact hrewrites.setAuditEvents auditEvents

/-- **What the requeueing of a stranded delivery writes.** -/
theorem rewrites_requeueStrandedDelivery (hjob : db.job? k = some job)
    (hstranded : isDeliveredBy db Option.isSome job)
    (hworkspace : job.workspaceId = workspaceId) :
    (requeueStrandedDelivery k workspaceId correlationId now outboxId auditId).Ensures
      (fun _ db' => db.Rewrites k (fun job' outbox => job.Carries job' ∧
        AwaitsDispatch job' outbox) db')
      (fun _ => ¬ db.Sound outboxId auditId) db := by
  have hid := id_of_job? hjob
  have haccepted := accepted_of_job? hjob
  unfold requeueStrandedDelivery
  rw [ensures_bind]
  refine ensures_read_job (fun hnone => ?_) fun row hrow _ => ?_
  · have hfalse := hnone job hjob
    simp [hstranded, hworkspace] at hfalse
  obtain rfl := Option.mem_unique hjob hrow
  rw [ensures_bind, hid]
  refine ensures_backgroundJob_updateMany
    (.inl (keepsKeys_backgroundJob (fun _ => rfl) fun _ => rfl)) (fun hnone => ?_) fun row hrow hselects => ?_
  · have hfalse := hnone job hjob
    simp [hworkspace] at hfalse
  obtain rfl := Option.mem_unique hjob hrow
  refine ⟨accepted_strandedJob haccepted, fun t hrows => ?_⟩
  rw [if_neg (by simp), ensures_bind]
  simp only [isDeliveredBy, Bool.and_eq_true, beq_iff_eq] at hstranded
  obtain ⟨⟨-, hstate⟩, hdelivered⟩ := hstranded
  -- the row that the scan has seen is the row that is reset
  have hrelated : ∃ outbox, db.outboxOf k = some outbox ∧
      outbox.workspaceId = job.workspaceId := by
    cases hfind : db.relatedOutbox job with
    | none => simp [hfind] at hdelivered
    | some outbox =>
      have hfound := List.find?_some hfind
      simp only [Bool.and_eq_true, beq_iff_eq, hid] at hfound
      exact ⟨outbox, (Table.lookup_eq_some jobOutboxSchema_keyedBy_backgroundJobId).mpr
        ⟨mem_of_find?_eq_some hfind, hfound.1⟩, hfound.2⟩
  obtain ⟨outbox, houtbox, hsameWorkspace⟩ := hrelated
  have hwritten : db.Rewrites k (fun job' outbox' => job.Carries job' ∧ job'.state = .queued ∧
      outbox' = some outbox) (db.setBackgroundJobs t) :=
    rewrites_of_job hjob hselects hrows (fun _ => rfl) ⟨⟨rfl, rfl, rfl⟩, hstate, houtbox⟩
  have hreset : (resetOutbox job now outboxId).Ensures (fun _ db' =>
      db.Rewrites k (fun job' outbox => job.Carries job' ∧ AwaitsDispatch job' outbox) db' ∧
        ∃ jobOutbox, db' = (db.setBackgroundJobs t).setJobOutbox jobOutbox)
      (fun _ => ¬ db.Sound outboxId auditId) (db.setBackgroundJobs t) := by
    refine hwritten.ensures_resetOutbox hid haccepted rfl
      fun job' _ row hbefore hopen hkeep _ => ?_
    obtain ⟨hcarries, hqueued, hsome⟩ := hbefore
    refine ⟨hcarries, hqueued, row, rfl, ?_, hopen⟩
    rw [hkeep outbox hsome, hsameWorkspace, hcarries.workspaceId]
  refine hreset.mono (fun _ db' hafter => ?_) fun _ herror => herror
  obtain ⟨hrewrites, jobOutbox, rfl⟩ := hafter
  rw [ensures_bind]
  refine ensures_createServiceAudit (by decide) (by decide) (fun auditEvents => ?_)
    fun _ hused hsound => hsound.not_used hused
  rw [ensures_pure]
  exact hrewrites.setAuditEvents auditEvents

/-- **What the repair of a missing outbox row writes.** -/
theorem rewrites_repairMissingOutbox (hjob : db.job? k = some job) (hstate : job.state = .queued)
    (hmissing : (db.relatedOutbox job).isNone) (hworkspace : job.workspaceId = workspaceId) :
    (repairMissingOutbox k workspaceId correlationId now outboxId auditId).Ensures
      (fun _ db' => db.Rewrites k (fun job' outbox => job.Carries job' ∧
        AwaitsDispatch job' outbox) db')
      (fun _ => ¬ db.Sound outboxId auditId) db := by
  have hid := id_of_job? hjob
  unfold repairMissingOutbox
  rw [ensures_bind]
  refine ensures_read_job (fun hnone => ?_) fun row hrow _ => ?_
  · have hfalse := hnone job hjob
    simp [hmissing, hworkspace, hstate] at hfalse
  obtain rfl := Option.mem_unique hjob hrow
  have hunsound : ¬ db.Sound outboxId auditId := by
    intro hsound
    obtain ⟨outbox, -, hrelated, -⟩ := hsound.inv.relatedOutbox hjob
    simp [hrelated] at hmissing
  rw [ensures_bind, ensures_read, ensures_bind]
  refine ensures_jobOutbox_create (accepted_newOutbox (accepted_of_job? hjob) _ _ _)
    (fun table hrows => ?_) fun _ _ => hunsound
  rw [ensures_bind]
  refine ensures_createServiceAudit (by decide) (by decide) (fun auditEvents => ?_)
    fun _ _ => hunsound
  rw [ensures_pure]
  have habsent : db.outboxOf k = none := by
    have hnone := Table.lookup_eq_none_of_append jobOutboxSchema_keyedBy_backgroundJobId hrows
    rw [← hid]
    exact hnone
  have hbefore : db.Rewrites k (fun job' _ => job' = job) db :=
    Database.Rewrites.of_unchanged hjob rfl
  have hinserted : db.Rewrites k (fun job' outbox => job.Carries job' ∧
      AwaitsDispatch job' outbox) (db.setJobOutbox table) := by
    refine hbefore.setJobOutbox (outboxOf_insert hrows hid habsent) fun job' hsame => ?_
    rw [hsame]
    exact ⟨⟨rfl, rfl, rfl⟩, hstate, _, rfl, rfl, rfl⟩
  exact hinserted.setAuditEvents auditEvents

/-- **What the repair of a committed result writes.** -/
theorem rewrites_repairCommittedResult (hjob : db.job? k = some job)
    (hrequest : job.cancellationRequestedAt = none) (hworkspace : job.workspaceId = workspaceId) :
    (repairCommittedResult k workspaceId correlationId now auditId).Ensures
      (fun _ db' => db.Rewrites k (fun job' outbox =>
        (job' = job ∧ outbox = db.outboxOf k ∧ isRepairable job.state = false) ∨
          (job' = repairedJob now job ∧ isRepairable job.state)) db')
      (fun _ => ¬ db.Sound outboxId auditId) db := by
  have hid := id_of_job? hjob
  have haccepted := accepted_of_job? hjob
  unfold repairCommittedResult
  rw [ensures_bind]
  refine ensures_backgroundJob_findFirst (fun hnone => ?_) fun row hrow hselects => ?_
  · have hfalse := hnone job hjob
    simp only [hrequest, hworkspace, Option.isNone_none, Bool.true_and, beq_self_eq_true,
      Bool.and_true] at hfalse
    exact Database.Rewrites.of_unchanged hjob (.inl ⟨rfl, rfl, hfalse⟩)
  obtain rfl := Option.mem_unique hjob hrow
  have hrepairable : isRepairable job.state = true := by
    simp only [Bool.and_eq_true] at hselects
    exact hselects.1.2
  rw [ensures_bind, hid]
  refine ensures_backgroundJob_updateMany
    (.inl (keepsKeys_backgroundJob (fun _ => rfl) fun _ => rfl)) (fun hnone => ?_) fun row hrow hselects => ?_
  · have hfalse := hnone job hjob
    simp [hworkspace] at hfalse
  obtain rfl := Option.mem_unique hjob hrow
  refine ⟨accepted_repairedJob haccepted, fun t hrows => ?_⟩
  have hwritten : db.Rewrites k (fun job' _ => job' = repairedJob now job)
      (db.setBackgroundJobs t) :=
    rewrites_of_job hjob hselects hrows (fun _ => rfl) rfl
  rw [if_neg (by simp), ensures_bind]
  have hattempt : (repairAttempt job.leaseId workspaceId now).Ensures (fun _ db' =>
      db.Rewrites k (fun job' _ => job' = repairedJob now job) db' ∧
        ∃ jobAttempts, db' = (db.setBackgroundJobs t).setJobAttempts jobAttempts)
      (fun _ => ¬ db.Sound outboxId auditId) (db.setBackgroundJobs t) := by
    unfold repairAttempt
    cases hlease : job.leaseId with
    | none => exact ⟨hwritten, db.jobAttempts, rfl⟩
    | some leaseId =>
      rw [ensures_bind]
      refine ensures_jobAttempt_updateMany (.inl (keepsKeys_jobAttempt fun _ => ⟨rfl, rfl, rfl, rfl⟩))
        (fun hnone => ?_) fun attempt hattempt _ hselected => ?_
      · rw [if_pos (by decide)]
        intro hsound
        obtain ⟨holder, hholder, hheld, hactive, hbelongs⟩ := hsound.inv.holder hjob hlease
        have hfalse := hnone holder hholder hheld
        have howner := hsound.owns holder hholder job (by rw [hbelongs]; exact hjob)
        simp [hactive, howner, hworkspace] at hfalse
      · have hactive : attempt.state = .active := by
          simp only [Bool.and_eq_true, beq_iff_eq] at hselected
          exact hselected.1
        refine ⟨accepted_succeededAttempt (accepted_of_mem_jobAttempts hattempt)
          hactive _, fun ta hta => ?_⟩
        rw [if_neg (by simp), ensures_pure]
        exact ⟨hwritten.setJobAttempts hta fun _ => rfl, ta, rfl⟩
  refine hattempt.mono (fun _ db' hclosed => ?_) fun _ herror => herror
  obtain ⟨hrewritten, jobAttempts, rfl⟩ := hclosed
  unfold cancelOutbox
  rw [ensures_bind, ensures_bind]
  have hcancelled : (jobOutbox.updateMany (cancelledOutbox now) fun row =>
      row.backgroundJobId == k && true).Ensures (fun _ db' =>
        db.Rewrites k (fun job' _ => job' = repairedJob now job) db' ∧ ∃ jobOutbox,
          db' = ((db.setBackgroundJobs t).setJobAttempts jobAttempts).setJobOutbox jobOutbox)
      (fun _ => ¬ db.Sound outboxId auditId)
      ((db.setBackgroundJobs t).setJobAttempts jobAttempts) :=
    hrewritten.ensures_updateOutbox (fun _ => ⟨rfl, rfl, rfl⟩)
      (fun _ h => accepted_cancelledOutbox h _) fun _ _ h => h
  refine hcancelled.mono (fun _ db' hafter => ?_) fun _ herror => herror
  obtain ⟨hrewrites, jobOutbox, rfl⟩ := hafter
  rw [ensures_pure, ensures_bind]
  refine ensures_createServiceAudit (by decide) (by decide) (fun auditEvents => ?_)
    fun _ hused hsound => hsound.not_used hused
  rw [ensures_pure]
  refine Database.Rewrites.setAuditEvents ⟨?_, hrewrites.others, hrewrites.surroundings⟩ auditEvents
  obtain ⟨job', hjob', hafter⟩ := hrewrites.self
  exact ⟨job', hjob', .inr ⟨hafter, hrepairable⟩⟩

theorem ensures_repairCommittedResult_idle
    (hjob : db.job? k = some job) (hended : isRepairable job.state = false) :
    (repairCommittedResult k workspaceId correlationId now auditId).Ensures
      (fun repaired db' => repaired = false ∧ db' = db) exceptional db := by
  unfold repairCommittedResult
  rw [ensures_bind]
  refine ensures_backgroundJob_findFirst (fun _ => ⟨rfl, rfl⟩) fun row hrow hselects => ?_
  obtain rfl := Option.mem_unique hjob hrow
  simp [hended] at hselects

end Repairs

end ContentAutomation
