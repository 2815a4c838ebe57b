import ContentAutomation.Jobs.RepairRules

/-!
# Passes that find nothing more to do

What each scan of a pass leaves behind, and that no scan finds it again. A pass
whose scans see every row that they select therefore leaves a database on which
a second pass at the same instant does nothing.
-/

namespace ContentAutomation

open Relational Session List ReconciliationScan

variable {App : Type} {db db' t : Database App} {pass : PreparedPass App}
  {scan : ReconciliationScan} {k : String} {job job' : BackgroundJob}
  {outbox outbox' : Option JobOutbox} {now : ℤ} {exceptional : JobError → Prop}
  {answer : JobResultInspection}

/-! ### What the scans see -/

/-- The outbox row that counts as the row of a job. -/
def BackgroundJob.related (job : BackgroundJob) (outbox : Option JobOutbox) : Option JobOutbox :=
  outbox.filter fun row => row.workspaceId == job.workspaceId

/-- The condition of a scan, on a job and its outbox row. -/
def ReconciliationScan.sees (now : ℤ) (job : BackgroundJob) (outbox : Option JobOutbox) :
    ReconciliationScan → Bool
  | .expired => isLeaseExpired now job
  | .dueRetries => isRetryDue now job
  | .strandedDelivery => job.leaseId.isNone && job.state == .queued &&
      match job.related outbox with
      | none => false
      | some row => row.cancelledAt.isNone && isDue row.dispatchedAt (strandedBefore now)
  | .missingOutbox => (job.related outbox).isNone && job.state == .queued
  | .resultCandidates => true

private theorem Database.relatedOutbox_eq (db : Database App) (job : BackgroundJob) :
    db.relatedOutbox job = job.related (db.outboxOf job.id) := by
  unfold BackgroundJob.related
  cases houtbox : db.outboxOf job.id with
  | none =>
    have habsent := Table.lookup_eq_none.mp houtbox
    refine List.find?_eq_none.mpr fun row hrow => ?_
    simp [habsent row hrow]
  | some row =>
    obtain ⟨hmem, hid⟩ := Table.lookup_spec houtbox
    cases hfind : db.relatedOutbox job with
    | none =>
      have hunrelated := List.find?_eq_none.mp hfind row hmem
      simp only [hid, beq_self_eq_true, Bool.true_and] at hunrelated
      rw [Option.filter_some, if_neg hunrelated]
    | some other =>
      have hrelated := List.find?_some hfind
      simp only [Bool.and_eq_true, beq_iff_eq] at hrelated
      obtain rfl : other = row := Table.eq_of_key jobOutboxSchema_keyedBy_backgroundJobId
        (mem_of_find?_eq_some hfind) hmem (hrelated.1.trans hid.symm)
      rw [Option.filter_some, if_pos (by simpa using hrelated.2)]

theorem ReconciliationScan.selects_eq_sees (db : Database App) (now : ℤ) (job : BackgroundJob) :
    scan.selects db now job = scan.sees now job (db.outboxOf job.id) := by
  cases scan with
  | expired => rfl
  | dueRetries => rfl
  | strandedDelivery =>
    have hrelated := db.relatedOutbox_eq job
    cases hrow : job.related (db.outboxOf job.id) <;> rw [hrow] at hrelated <;>
      simp only [selects, sees, isDeliveredBy, hrelated, hrow]
  | missingOutbox =>
    simp only [selects, sees]
    rw [db.relatedOutbox_eq job]
  | resultCandidates => rfl

/-! ### What a visit leaves -/

/-- What the inspection of a result leaves of a job and its outbox row. -/
def ResultLeaves (now : ℤ) (job : BackgroundJob) (outbox : Option JobOutbox)
    (job' : BackgroundJob) (outbox' : Option JobOutbox) : Option ResultRepair → Prop
  | none => job' = job ∧ outbox' = outbox
  | some (.flag reason) => outbox' = outbox ∧
      (job' = job ∨ job' = flaggedJob reason.reasonCode now job) ∧
      job'.reconciliationCode = some reason.reasonCode
  | some .repair => (job' = job ∧ outbox' = outbox ∧ isRepairable job.state = false) ∨
      (job' = repairedJob now job ∧ isRepairable job.state = true)

/-- What the visit of a scan leaves of a job that the scan has seen. -/
def ReconciliationScan.Leaves (now : ℤ) (inspection : Option JobResultInspection)
    (job : BackgroundJob) (outbox : Option JobOutbox) (job' : BackgroundJob)
    (outbox' : Option JobOutbox) : ReconciliationScan → Prop
  | .expired => job.Carries job' ∧ job'.state = recoveredState job
  | .dueRetries => job.Carries job' ∧ job'.state = .queued
  | .strandedDelivery => job.Carries job' ∧ AwaitsDispatch job' outbox'
  | .missingOutbox => job.Carries job' ∧ AwaitsDispatch job' outbox'
  | .resultCandidates => ∃ answer, inspection = some answer ∧
      ResultLeaves now job outbox job' outbox' (resultRepair job.toReconciliationJob answer)

/-- The new identifiers are new, and every result can be inspected. -/
structure PreparedPass.Dependable (pass : PreparedPass App) : Prop where
  outboxId : ∀ db : Database App, ∀ outbox ∈ db.jobOutbox.rows,
    outbox.id ≠ pass.supply.outboxId db
  auditId : ∀ db : Database App, ∀ event ∈ db.auditEvents.rows,
    event.id ≠ pass.supply.auditId db
  inspectResult : ∀ job db, (pass.inspectResult job db).isSome = true

/-- The tables are as the database keeps them, and the pass is dependable. -/
structure PreparedPass.Sound (pass : PreparedPass App) (db : Database App) : Prop where
  dependable : pass.Dependable
  inv : db.Inv
  owns : db.OwnsAttempts

theorem PreparedPass.Sound.transaction (h : pass.Sound db) :
    db.Sound (pass.supply.outboxId db) (pass.supply.auditId db) :=
  ⟨h.inv, h.owns, h.dependable.outboxId db, h.dependable.auditId db⟩

/-- What the visit to a job does to the database. -/
structure PreparedPass.Visited (pass : PreparedPass App) (scan : ReconciliationScan) (k : String)
    (job : BackgroundJob) (db db' : Database App) : Prop where
  rewrites : db.Rewrites k (fun job' outbox' => scan.Leaves pass.now
    (pass.inspectResult job.toReconciliationJob db) job (db.outboxOf k) job' outbox') db'
  inv : db.Inv → db'.Inv

private theorem ensures_visited {α : Type} {body : JobTransaction App α}
    {effect : BackgroundJob → Option JobOutbox → Prop}
    (hrewrites : body.Ensures (fun _ db' => db.Rewrites k effect db') exceptional db)
    (hleaves : ∀ job' outbox', effect job' outbox' → scan.Leaves pass.now (pass.inspectResult
      job.toReconciliationJob db) job (db.outboxOf k) job' outbox')
    (hinv : db.Inv → body.Ensures (fun _ db' => db'.Inv) JobError.Unchecked db) :
    body.Ensures (fun _ db' => pass.Visited scan k job db db') exceptional db := by
  have hkeep : ∀ db', db.Rewrites k effect db' → (db.Inv → db'.Inv) →
      pass.Visited scan k job db db' := by
    intro db' h hafter
    obtain ⟨job', hjob', heffect⟩ := h.self
    exact ⟨⟨⟨job', hjob', hleaves job' _ heffect⟩, h.others, h.surroundings⟩, hafter⟩
  by_cases hbefore : db.Inv
  · exact (hrewrites.and (hinv hbefore)).mono
      (fun _ db' hboth => hkeep db' hboth.1 fun _ => hboth.2) fun _ herror => herror.1
  · exact hrewrites.mono (fun _ db' h => hkeep db' h fun habsurd => absurd habsurd hbefore)
      fun _ herror => herror

private theorem ensures_counting {α : Type} {body : Database App → JobTransaction App α}
    {count : α → ReconcileBackgroundJobsResult} {post : Database App → Prop}
    {raised : Prop}
    (h : (body db).Ensures (fun _ db' => post db') exceptional db)
    (hraised : ∀ error, exceptional error → raised) :
    (PreparedPass.counting count body).Ensures (fun _ db' => post db') (fun _ _ => raised) db := by
  unfold PreparedPass.counting
  rw [ensures_bind]
  exact ensures_commit h hraised

private theorem ensures_inspect {item : ReconciliationJob}
    {post : JobResultInspection → Database App → Prop}
    {exceptional : JobError → Database App → Prop}
    (hsome : ∀ answer, pass.inspectResult item db = some answer → post answer db)
    (hnone : pass.inspectResult item db = none → ∀ error, exceptional error db) :
    (pass.inspect item).Ensures post exceptional db := by
  unfold Session.Ensures PreparedPass.inspect Session.commit Transaction.commit
  dsimp only
  cases hanswer : pass.inspectResult item db with
  | none => exact hnone hanswer _
  | some answer => exact hsome answer hanswer

/-- A result is repaired only where it is committed and no cancellation was asked
for. -/
theorem resultRepair_eq_repair {item : ReconciliationJob}
    (h : resultRepair item answer = some .repair) :
    answer = .present ∧ item.state ≠ .succeeded ∧ item.state ≠ .failedAttention ∧
      item.cancellationRequestedAt = none := by
  cases answer with
  | unsupported => cases h
  | absent =>
    simp only [resultRepair] at h
    split at h <;> cases h
  | present =>
    simp only [resultRepair] at h
    split at h
    · cases h
    · next hsucceeded =>
      split at h
      · cases h
      · next hconflict =>
        rw [not_or] at hconflict
        refine ⟨rfl, hsucceeded, hconflict.1, ?_⟩
        simpa using hconflict.2

seal recoverExpiredBackgroundJobLease requeueDueRetry requeueStrandedDelivery repairMissingOutbox
  flagAmbiguousJob repairCommittedResult parseCorrelationId in
/-- **The visit rule.** A visit to a job that its scan has seen writes that job
only, and leaves what the scan is to leave. -/
theorem ensures_visit (hjob : db.job? k = some job)
    (hsees : scan.sees pass.now job (db.outboxOf k)) :
    (pass.visit scan job.toReconciliationJob).Ensures
      (fun _ db' => pass.Visited scan k job db db') (fun _ _ => ¬ pass.Sound db) db := by
  have hid := Database.id_of_job? hjob
  have hitem : job.toReconciliationJob.id = k := hid
  have hworkspace : job.workspaceId = job.toReconciliationJob.workspaceId := rfl
  have hunsound : ∀ error : JobError,
      ¬ db.Sound (pass.supply.outboxId db) (pass.supply.auditId db) → ¬ pass.Sound db :=
    fun _ h hsound => h hsound.transaction
  have hselects : scan.selects db pass.now job = true := by
    rw [scan.selects_eq_sees, hid]
    exact hsees
  unfold PreparedPass.visit
  rw [hitem]
  cases scan with
  | expired =>
    refine ensures_counting ?_ hunsound
    have hexpired : isLeaseExpired pass.now job = true := hsees
    refine ensures_visited (rewrites_recoverExpiredBackgroundJobLease hjob hexpired hworkspace
      pass.correlationId_parsed) (fun _ _ h => h) fun hinv => ?_
    refine (ensures_recoverExpiredBackgroundJobLease hinv).mono (fun _ db' hpost => ?_)
      fun _ herror => herror
    rcases hpost with rfl | hmoves | hmoves
    · exact hinv
    · exact hmoves.inv hinv
    · exact hmoves.inv hinv
  | dueRetries =>
    refine ensures_counting ?_ hunsound
    refine ensures_visited (rewrites_requeueDueRetry hjob hsees hworkspace) (fun _ _ h => h)
      fun hinv => ?_
    refine (ensures_requeueDueRetry hinv).mono (fun _ db' hpost => ?_) fun _ herror => herror
    rcases hpost with rfl | hmoves
    · exact hinv
    · exact hmoves.inv hinv
  | strandedDelivery =>
    have hdelivered : isDeliveredBy db Option.isSome job = true := by
      simp only [selects, isDeliveredBy, Bool.and_eq_true] at hselects ⊢
      obtain ⟨hwaiting, hstranded⟩ := hselects
      refine ⟨hwaiting, ?_⟩
      cases hrow : db.relatedOutbox job with
      | none => simp [hrow] at hstranded
      | some row =>
        simp only [hrow, Bool.and_eq_true] at hstranded ⊢
        refine ⟨hstranded.1, ?_⟩
        cases hdispatched : row.dispatchedAt with
        | none => simp [isDue, hdispatched] at hstranded
        | some dispatchedAt => rfl
    refine ensures_counting ?_ hunsound
    refine ensures_visited (rewrites_requeueStrandedDelivery hjob hdelivered hworkspace)
      (fun _ _ h => h) fun hinv => ?_
    refine (ensures_requeueStrandedDelivery hinv).mono (fun _ db' hpost => ?_)
      fun _ herror => herror
    rcases hpost with rfl | hmoves
    · exact hinv
    · exact hmoves.inv hinv
  | missingOutbox =>
    simp only [selects, Bool.and_eq_true, beq_iff_eq] at hselects
    refine ensures_counting ?_ hunsound
    refine ensures_visited (rewrites_repairMissingOutbox hjob hselects.2 hselects.1
      hworkspace)
      (fun _ _ h => h) fun hinv => ?_
    exact (ensures_repairMissingOutbox hinv).mono (fun _ db' hpost => hpost.2 ▸ hinv)
      fun _ herror => herror
  | resultCandidates =>
    rw [ensures_bind]
    refine ensures_inspect (fun answer hanswer => ?_) fun hnone _ hsound => ?_
    · cases hrepair : resultRepair job.toReconciliationJob answer with
      | none =>
        refine ⟨Database.Rewrites.of_unchanged hjob ⟨answer, hanswer, ?_⟩, fun h => h⟩
        rw [hrepair]
        exact ⟨rfl, rfl⟩
      | some remedy =>
        unfold PreparedPass.settleResult
        rw [hitem]
        cases remedy with
        | flag reason =>
          refine ensures_counting ?_ hunsound
          refine ensures_visited (rewrites_flagAmbiguousJob hjob hworkspace)
            (fun job' outbox' h => ⟨answer, hanswer, ?_⟩) fun hinv => ?_
          · rw [hrepair]
            exact h
          · exact ensures_flagAmbiguousJob.mono (fun _ _ hsame => hsame.inv hinv)
              fun _ herror => herror
        | repair =>
          refine ensures_counting ?_ hunsound
          refine ensures_visited (rewrites_repairCommittedResult hjob
            (resultRepair_eq_repair hrepair).2.2.2 hworkspace)
            (fun job' outbox' h => ⟨answer, hanswer, ?_⟩) fun hinv => ?_
          · rw [hrepair]
            exact h
          · refine (ensures_repairCommittedResult hinv).mono (fun _ db' hpost => ?_)
              fun _ herror => herror
            rcases hpost with rfl | hmoves
            · exact hinv
            · exact hmoves.inv hinv
    · have habsurd := hsound.dependable.inspectResult job.toReconciliationJob db
      simp [hnone] at habsurd

/-! ### What a scan leaves -/

/-- An inspector of results answers alike for one job as long as nothing but jobs
and audit events is written. -/
def StableInspector (inspectResult : ReconciliationJob → Database App → Option JobResultInspection) :
    Prop :=
  ∀ (db db' : Database App) (item item' : ReconciliationJob), item'.id = item.id →
    item'.workspaceId = item.workspaceId → db.SameSurroundings db' →
    inspectResult item' db' = inspectResult item db

/-- What a pass keeps up while it repairs jobs. -/
structure PreparedPass.Keeps (pass : PreparedPass App) (db db' : Database App) : Prop where
  ids : db'.backgroundJobs.rows.map BackgroundJob.id = db.backgroundJobs.rows.map BackgroundJob.id
  answers : ∀ item item' : ReconciliationJob, item'.id = item.id →
    item'.workspaceId = item.workspaceId →
    pass.inspectResult item' db' = pass.inspectResult item db
  workspaces : ∀ k job job', db.job? k = some job → db'.job? k = some job' →
    job'.workspaceId = job.workspaceId
  sound : pass.Sound db → pass.Sound db'

theorem PreparedPass.Keeps.refl (hstable : StableInspector pass.inspectResult)
    (db : Database App) : pass.Keeps db db := by
  refine ⟨rfl, fun item item' hid hworkspace => ?_, fun k job job' hjob hjob' => ?_, fun h => h⟩
  · exact hstable db db item item' hid hworkspace (Database.SameSurroundings.refl db)
  · rw [Option.some.inj (hjob.symm.trans hjob')]

theorem Database.exists_job? (db : Database App) (k : String) :
    (∃ job, db.job? k = some job) ↔ k ∈ db.backgroundJobs.rows.map BackgroundJob.id := by
  constructor
  · rintro ⟨job, hjob⟩
    obtain ⟨hmem, hid⟩ := Table.lookup_spec hjob
    exact mem_map.mpr ⟨job, hmem, hid⟩
  · intro hk
    obtain ⟨job, hmem, hid⟩ := mem_map.mp hk
    exact ⟨job, (Table.lookup_eq_some backgroundJobSchema_keyedBy_id).mpr ⟨hmem, hid⟩⟩

theorem PreparedPass.Keeps.trans {db'' : Database App} (h : pass.Keeps db db')
    (h' : pass.Keeps db' db'') : pass.Keeps db db'' := by
  refine ⟨h'.ids.trans h.ids, fun item item' hid hworkspace => ?_, fun k job job'' hjob hjob'' => ?_,
    fun hsound => h'.sound (h.sound hsound)⟩
  · rw [h'.answers item item' hid hworkspace, h.answers item item rfl rfl]
  · obtain ⟨job', hjob'⟩ : ∃ job', db'.job? k = some job' := by
      rw [db'.exists_job?, h.ids, ← db.exists_job?]
      exact ⟨job, hjob⟩
    rw [h'.workspaces k job' job'' hjob' hjob'', h.workspaces k job job' hjob hjob']

variable {inspection : Option JobResultInspection} {earlier : ReconciliationScan}

theorem ReconciliationScan.Leaves.workspaceId
    (h : scan.Leaves now inspection job outbox job' outbox') :
    job'.workspaceId = job.workspaceId := by
  cases scan with
  | expired => exact h.1.workspaceId
  | dueRetries => exact h.1.workspaceId
  | strandedDelivery => exact h.1.workspaceId
  | missingOutbox => exact h.1.workspaceId
  | resultCandidates =>
    obtain ⟨answer, -, hleaves⟩ := h
    cases hrepair : resultRepair job.toReconciliationJob answer with
    | none =>
      rw [hrepair] at hleaves
      rw [hleaves.1]
    | some remedy =>
      rw [hrepair] at hleaves
      cases remedy with
      | flag reason => rcases hleaves with ⟨-, rfl | rfl, -⟩ <;> rfl
      | repair => rcases hleaves with ⟨rfl, -⟩ | ⟨rfl, -⟩ <;> rfl

theorem PreparedPass.Visited.keeps (hstable : StableInspector pass.inspectResult)
    (hjob : db.job? k = some job) (h : pass.Visited scan k job db db') : pass.Keeps db db' := by
  obtain ⟨written, hwritten, hleaves⟩ := h.rewrites.self
  have hworkspaces : ∀ id before after, db.job? id = some before → db'.job? id = some after →
      after.workspaceId = before.workspaceId := by
    intro id before after hbefore hafter
    by_cases hid : id = k
    · subst hid
      obtain rfl := Option.mem_unique hjob hbefore
      obtain rfl := Option.mem_unique hwritten hafter
      exact hleaves.workspaceId
    · rw [(h.rewrites.others id hid).1, hbefore] at hafter
      rw [Option.some.inj hafter]
  refine ⟨h.rewrites.surroundings.ids, fun item item' hid hworkspace => ?_, hworkspaces,
    fun hsound => ⟨hsound.dependable, h.inv hsound.inv, fun attempt hattempt after hafter => ?_⟩⟩
  · exact hstable db db' item item' hid hworkspace h.rewrites.surroundings
  · -- the attempt was there before, under the job it still belongs to
    have howner : attempt.owner ∈ db.jobAttempts.rows.map JobAttempt.owner := by
      rw [← h.rewrites.surroundings.owners]
      exact mem_map_of_mem hattempt
    obtain ⟨earlier, hearlier, hsame⟩ := mem_map.mp howner
    simp only [JobAttempt.owner, Prod.mk.injEq] at hsame
    obtain ⟨before, hbefore⟩ : ∃ before, db.job? attempt.backgroundJobId = some before := by
      rw [db.exists_job?, ← h.rewrites.surroundings.ids, ← db'.exists_job?]
      exact ⟨after, hafter⟩
    rw [hworkspaces _ _ _ hbefore hafter, ← hsame.1]
    exact hsound.owns earlier hearlier before (by rw [hsame.2]; exact hbefore)

/-- The rows that a scan returns. -/
def PreparedPass.found (pass : PreparedPass App) (scan : ReconciliationScan) (db : Database App) :
    List BackgroundJob :=
  (pass.supply.order (db.backgroundJobs.rows.filter (scan.selects db pass.now))).take
    pass.batchSize

/-- A supply whose orders only rearrange rows. -/
def ReconcilerSupply.Rearranges (supply : ReconcilerSupply App) : Prop :=
  ∀ rows, (supply.order rows).Perm rows

theorem sees_of_mem_found (horder : pass.supply.Rearranges) (hfound : job ∈ pass.found scan db) :
    db.job? job.id = some job ∧ scan.sees pass.now job (db.outboxOf job.id) := by
  have hmem := (horder _).subset (mem_of_mem_take hfound)
  obtain ⟨hrow, hselects⟩ := mem_filter.mp hmem
  refine ⟨(Table.lookup_eq_some backgroundJobSchema_keyedBy_id).mpr ⟨hrow, rfl⟩, ?_⟩
  rw [← scan.selects_eq_sees]
  exact hselects

private theorem nodup_found (horder : pass.supply.Rearranges) :
    ((pass.found scan db).map BackgroundJob.id).Nodup := by
  have hrows : (db.backgroundJobs.rows.map BackgroundJob.id).Nodup :=
    pairwise_map.mpr (db.backgroundJobs.pairwise_key backgroundJobSchema_keyedBy_id)
  have hfiltered := hrows.sublist
    ((filter_sublist (p := scan.selects db pass.now)).map BackgroundJob.id)
  have hordered := ((horder (db.backgroundJobs.rows.filter (scan.selects db pass.now))).map
    BackgroundJob.id).nodup_iff.mpr hfiltered
  exact hordered.sublist ((take_sublist _ _).map _)

/-- What a scan and its visits do to the database. -/
structure PreparedPass.Scanned (pass : PreparedPass App) (scan : ReconciliationScan)
    (db db' : Database App) : Prop where
  visited : ∀ job ∈ pass.found scan db, ∃ job', db'.job? job.id = some job' ∧
    scan.Leaves pass.now (pass.inspectResult job.toReconciliationJob db) job (db.outboxOf job.id)
      job' (db'.outboxOf job.id)
  others : ∀ k, k ∉ (pass.found scan db).map BackgroundJob.id →
    db'.job? k = db.job? k ∧ db'.outboxOf k = db.outboxOf k
  keeps : pass.Keeps db db'

/-- What a pass sees of a job: its row and its outbox row. -/
def Database.sight (db : Database App) (k : String) : Option BackgroundJob × Option JobOutbox :=
  (db.job? k, db.outboxOf k)

/-- A row that a scan has returned is as the scan has seen it. -/
def PreparedPass.Ready (pass : PreparedPass App) (scan : ReconciliationScan)
    (item : ReconciliationJob) (sight : Option BackgroundJob × Option JobOutbox) : Prop :=
  ∃ job, sight.1 = some job ∧ job.toReconciliationJob = item ∧
    scan.sees pass.now job sight.2 = true

/-- A row has been visited, with the answer that its inspection gets in `db`. -/
def PreparedPass.Treated (pass : PreparedPass App) (scan : ReconciliationScan) (db : Database App)
    (item : ReconciliationJob) (before after : Option BackgroundJob × Option JobOutbox) : Prop :=
  ∀ job, before.1 = some job → ∃ job', after.1 = some job' ∧
    scan.Leaves pass.now (pass.inspectResult item db) job before.2 job' after.2

/-- **The scan rule.** A scan visits the rows it returns, and writes no other job. -/
theorem ensures_runScan (horder : pass.supply.Rearranges)
    (hstable : StableInspector pass.inspectResult) :
    (pass.runScan scan).Ensures (fun _ db' => pass.Scanned scan db db')
      (fun _ _ => ¬ pass.Sound db) db := by
  have hkeys : ((pass.found scan db).map BackgroundJob.toReconciliationJob).map
      ReconciliationJob.id = (pass.found scan db).map BackgroundJob.id := by
    rw [map_map]
    rfl
  have hsweep : (sweep (pass.visit scan) ((pass.found scan db).map
      BackgroundJob.toReconciliationJob)).Ensures _ (fun _ _ => ¬ pass.Sound db) db :=
    ensures_sweep ReconciliationJob.id Database.sight (pass.Ready scan) (pass.Treated scan db)
      (PreparedPass.Keeps.refl hstable) (fun hkept hkept' => PreparedPass.Keeps.trans hkept hkept')
      (fun item _ t hkept hready => ?_) ?_ ?_
  · unfold PreparedPass.runScan PreparedPass.findJobs
    rw [ensures_bind]
    refine ensures_commit ?_ fun (exception : JobError) (habsurd : False) => absurd habsurd id
    rw [Transaction.ensures_read, ensures_bind]
    refine hsweep.mono (fun _ db' hpost => ?_) fun _ _ herror => herror
    obtain ⟨hvisited, hothers, hkeeps⟩ := hpost
    rw [hkeys] at hothers
    refine ⟨fun job hfound => ?_, fun k hk => ?_, hkeeps⟩
    · exact hvisited _ (mem_map_of_mem hfound) job (sees_of_mem_found horder hfound).1
    · exact Prod.mk.inj (hothers k hk)
  · obtain ⟨job, hjob, hitem, hsees⟩ := hready
    subst hitem
    have hid := Database.id_of_job? hjob
    refine (ensures_visit hjob hsees).mono (fun _ t' hvisited => ?_)
      fun _ _ hunsound hsound => hunsound (hkept.sound hsound)
    obtain ⟨job', hjob', hleaves⟩ := hvisited.rewrites.self
    refine ⟨fun before hbefore => ?_, fun k hk => ?_, hvisited.keeps hstable hjob⟩
    · obtain rfl := Option.mem_unique hjob hbefore
      rw [hkept.answers _ _ rfl rfl] at hleaves
      exact ⟨job', hjob', hleaves⟩
    · obtain ⟨hsame, hsame'⟩ := hvisited.rewrites.others k hk
      exact Prod.ext hsame hsame'
  · rw [hkeys]
    exact nodup_found horder
  · intro item hitem
    obtain ⟨job, hfound, rfl⟩ := mem_map.mp hitem
    obtain ⟨hjob, hsees⟩ := sees_of_mem_found horder hfound
    exact ⟨job, hjob, rfl, hsees⟩

/-! ### What no scan finds again -/

/-- The order of the scans in a pass. -/
def ReconciliationScan.position : ReconciliationScan → ℕ
  | .expired => 0
  | .dueRetries => 1
  | .strandedDelivery => 2
  | .missingOutbox => 3
  | .resultCandidates => 4

private theorem ReconciliationScan.position_injective
    (h : earlier.position = scan.position) : earlier = scan := by
  cases earlier <;> cases scan <;> first | rfl | cases h

theorem AwaitsDispatch.unseen (h : AwaitsDispatch job outbox) (hscan : scan ≠ .resultCandidates) :
    scan.sees now job outbox = false := by
  obtain ⟨hstate, row, rfl, hworkspace, hopen⟩ := h
  have hrelated : job.related (some row) = some row := by
    simp [BackgroundJob.related, hworkspace]
  cases scan with
  | expired => simp [sees, isLeaseExpired, hstate]
  | dueRetries => simp [sees, isRetryDue, hstate]
  | strandedDelivery => simp [sees, hrelated, hopen, isDue]
  | missingOutbox => simp [sees, hrelated]
  | resultCandidates => exact absurd rfl hscan

private theorem recoveredState_ne_processing (job : BackgroundJob) :
    recoveredState job ≠ .processing := by
  unfold recoveredState
  split
  · decide
  · split <;> decide

/-- What a scan has visited, neither it nor an earlier scan sees again. -/
theorem ReconciliationScan.Leaves.unseen
    (h : scan.Leaves now inspection job outbox job' outbox') (hscan : scan ≠ .resultCandidates) (hearlier : earlier.position ≤ scan.position) :
    earlier.sees now job' outbox' = false := by
  have hresult : earlier ≠ .resultCandidates := by
    rintro rfl
    cases scan <;> simp [position] at hearlier hscan
  cases scan with
  | expired =>
    obtain rfl : earlier = .expired := position_injective (by simpa [position] using hearlier)
    have hstate := h.2
    simp [sees, isLeaseExpired, hstate, recoveredState_ne_processing]
  | dueRetries =>
    have hstate := h.2
    cases earlier with
    | expired => simp [sees, isLeaseExpired, hstate]
    | dueRetries => simp [sees, isRetryDue, hstate]
    | _ => simp [position] at hearlier
  | strandedDelivery => exact h.2.unseen hresult
  | missingOutbox => exact h.2.unseen hresult
  | resultCandidates => exact absurd rfl hscan

/-- The repair of a result shows no job to an earlier scan. -/
theorem ReconciliationScan.Leaves.still_unseen
    (h : Leaves now inspection job outbox job' outbox' .resultCandidates)
    (hscan : scan ≠ .resultCandidates) (hunseen : scan.sees now job outbox = false) :
    scan.sees now job' outbox' = false := by
  have hflagged : ∀ code, scan.sees now (flaggedJob code now job) outbox = false := by
    intro code
    cases scan <;> exact hunseen
  have hrepaired : ∀ row, scan.sees now (repairedJob now job) row = false := by
    intro row
    cases scan with
    | resultCandidates => exact absurd rfl hscan
    | _ => simp [sees, isLeaseExpired, isRetryDue, repairedJob]
  obtain ⟨answer, -, hleaves⟩ := h
  cases hrepair : resultRepair job.toReconciliationJob answer with
  | none =>
    rw [hrepair] at hleaves
    obtain ⟨rfl, rfl⟩ := hleaves
    exact hunseen
  | some remedy =>
    rw [hrepair] at hleaves
    cases remedy with
    | flag reason =>
      obtain ⟨rfl, rfl | rfl, -⟩ := hleaves
      · exact hunseen
      · exact hflagged _
    | repair =>
      rcases hleaves with ⟨rfl, rfl, -⟩ | ⟨rfl, -⟩
      · exact hunseen
      · exact hrepaired _

/-- What the inspection of a result leads to has been done. -/
def ResultIdle (job : BackgroundJob) : Option ResultRepair → Prop
  | none => True
  | some (.flag reason) => job.reconciliationCode = some reason.reasonCode
  | some .repair => isRepairable job.state = false

private theorem resultIdle_of_leaves
    (h : ResultLeaves now job outbox job' outbox' (resultRepair job.toReconciliationJob answer)) :
    ResultIdle job' (resultRepair job'.toReconciliationJob answer) := by
  cases hrepair : resultRepair job.toReconciliationJob answer with
  | none =>
    rw [hrepair] at h
    obtain ⟨rfl, -⟩ := h
    rw [hrepair]
    trivial
  | some remedy =>
    rw [hrepair] at h
    cases remedy with
    | flag reason =>
      obtain ⟨-, hjob', hcode⟩ := h
      have hsame : job'.toReconciliationJob = job.toReconciliationJob := by
        rcases hjob' with rfl | rfl <;> rfl
      rw [hsame, hrepair]
      exact hcode
    | repair =>
      rcases h with ⟨rfl, -, hended⟩ | ⟨rfl, -⟩
      · rw [hrepair]
        exact hended
      · obtain ⟨rfl, -⟩ := resultRepair_eq_repair hrepair
        trivial

/-- A scan sees no job. -/
def PreparedPass.Quiet (pass : PreparedPass App) (scan : ReconciliationScan) (db : Database App) :
    Prop :=
  ∀ k job, db.job? k = some job → scan.sees pass.now job (db.outboxOf k) = false

/-- Every result has been looked at. -/
def PreparedPass.Settled (pass : PreparedPass App) (db : Database App) : Prop :=
  ∀ k job, db.job? k = some job → ∃ answer,
    pass.inspectResult job.toReconciliationJob db = some answer ∧
      ResultIdle job (resultRepair job.toReconciliationJob answer)

/-- A scan that is not cut off by the batch size returns every job that it sees. -/
theorem mem_found_of_sees (horder : pass.supply.Rearranges)
    (hbatch : (db.backgroundJobs.rows.filter (scan.selects db pass.now)).length ≤ pass.batchSize)
    (hjob : db.job? k = some job) (hsees : scan.sees pass.now job (db.outboxOf k)) :
    job ∈ pass.found scan db := by
  obtain ⟨hmem, rfl⟩ := Table.lookup_spec hjob
  unfold PreparedPass.found
  rw [take_of_length_le (by rw [(horder _).length_eq]; exact hbatch)]
  refine (horder _).symm.subset (mem_filter.mpr ⟨hmem, ?_⟩)
  rw [scan.selects_eq_sees]
  exact hsees

/-- After a scan that was not cut off, neither it nor an earlier scan sees a job. -/
theorem PreparedPass.Scanned.quiet (h : pass.Scanned scan db db')
    (horder : pass.supply.Rearranges) (hscan : scan ≠ .resultCandidates)
    (hbatch : (db.backgroundJobs.rows.filter (scan.selects db pass.now)).length ≤ pass.batchSize)
    (hquiet : ∀ earlier : ReconciliationScan, earlier.position < scan.position →
      pass.Quiet earlier db) (hearlier : earlier.position ≤ scan.position) :
    pass.Quiet earlier db' := by
  intro k job' hjob'
  obtain ⟨job, hjob⟩ : ∃ job, db.job? k = some job := by
    rw [db.exists_job?, ← h.keeps.ids, ← db'.exists_job?]
    exact ⟨job', hjob'⟩
  have hid := Database.id_of_job? hjob
  by_cases hk : k ∈ (pass.found scan db).map BackgroundJob.id
  · obtain ⟨row, hfound, rfl⟩ := mem_map.mp hk
    obtain ⟨after, hafter, hleaves⟩ := h.visited row hfound
    obtain rfl := Option.mem_unique hjob' hafter
    exact hleaves.unseen hscan hearlier
  · obtain ⟨hsame, hsameOutbox⟩ := h.others k hk
    rw [hsame] at hjob'
    rw [hsameOutbox]
    rcases Nat.lt_or_eq_of_le hearlier with hlt | heq
    · exact hquiet earlier hlt k job' hjob'
    · obtain rfl := position_injective heq
      by_contra hseen
      rw [Bool.not_eq_false] at hseen
      have hfound := mem_found_of_sees horder hbatch hjob' hseen
      obtain rfl := Option.mem_unique hjob' hjob
      exact hk (mem_map.mpr ⟨job', hfound, hid⟩)

/-- After the last scan, if it was not cut off, every result has been looked at and
no scan sees a job again. -/
theorem PreparedPass.Scanned.settled (h : pass.Scanned .resultCandidates db db')
    (horder : pass.supply.Rearranges) (hbatch : db.backgroundJobs.rows.length ≤ pass.batchSize)
    (hquiet : ∀ earlier : ReconciliationScan, earlier ≠ .resultCandidates → pass.Quiet earlier db) :
    (∀ earlier : ReconciliationScan, earlier ≠ .resultCandidates → pass.Quiet earlier db') ∧
      pass.Settled db' := by
  have hleaves : ∀ k job', db'.job? k = some job' → ∃ job, db.job? k = some job ∧
      Leaves pass.now (pass.inspectResult job.toReconciliationJob db) job
        (db.outboxOf k) job' (db'.outboxOf k) .resultCandidates := by
    intro k job' hjob'
    obtain ⟨job, hjob⟩ : ∃ job, db.job? k = some job := by
      rw [db.exists_job?, ← h.keeps.ids, ← db'.exists_job?]
      exact ⟨job', hjob'⟩
    have hid := Database.id_of_job? hjob
    have hfound : job ∈ pass.found .resultCandidates db :=
      mem_found_of_sees horder ((length_filter_le _ _).trans hbatch) hjob rfl
    obtain ⟨after, hafter, hleaves⟩ := h.visited job hfound
    rw [hid] at hafter hleaves
    obtain rfl := Option.mem_unique hjob' hafter
    exact ⟨job, hjob, hleaves⟩
  constructor
  · intro earlier hearlier k job' hjob'
    obtain ⟨job, hjob, hafter⟩ := hleaves k job' hjob'
    exact hafter.still_unseen hearlier (hquiet earlier hearlier k job hjob)
  · intro k job' hjob'
    obtain ⟨job, hjob, answer, hanswer, hafter⟩ := hleaves k job' hjob'
    refine ⟨answer, ?_, resultIdle_of_leaves hafter⟩
    have hsame : job'.toReconciliationJob.id = job.toReconciliationJob.id :=
      (Database.id_of_job? hjob').trans (Database.id_of_job? hjob).symm
    rw [h.keeps.answers _ _ hsame (h.keeps.workspaces k job job' hjob hjob')]
    exact hanswer

end ContentAutomation
