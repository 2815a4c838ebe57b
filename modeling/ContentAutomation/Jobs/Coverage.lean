import ContentAutomation.Jobs.Idempotence

/-!
# Which results repeated passes reach

The scan for results has a bound and no cursor, and no row that it has returned
leaves it: every pass returns the first rows of the same order again. A committed
result beyond them is never looked at, however often the reconciler runs.
-/

namespace ContentAutomation

open Relational Session List BackgroundJob Database

variable {App : Type} {db db' t : Database App} {pass : PreparedPass App}
  {scan : ReconciliationScan} {k : String} {job job' : BackgroundJob}
  {outbox outbox' : Option JobOutbox} {now : ℤ} {db'' : Database App}

/-- A job that a committed result makes overdue: neither has it succeeded nor has it
been flagged for the conflict. -/
def BackgroundJob.IsOverdue (job : BackgroundJob) : Prop :=
  job.state ≠ .succeeded ∧
    job.reconciliationCode ≠ some AmbiguousResult.terminalResultConflict.reasonCode

/-- A cancelled job for which no cancellation was asked. -/
def BackgroundJob.IsStuck (job : BackgroundJob) : Prop :=
  job.state = .cancelled ∧ job.cancellationRequestedAt = none

/-! ### One pass -/

/-- What the first four scans see is neither at an end nor stuck, and what they
leave is not either. -/
theorem ReconciliationScan.Leaves.carries {inspection : Option JobResultInspection}
    (h : scan.Leaves now inspection job outbox job' outbox') (hscan : scan ≠ .resultCandidates)
    (hsees : scan.sees now job outbox = true) :
    (job'.IsOverdue ↔ job.IsOverdue) ∧ (job'.IsStuck ↔ job.IsStuck) := by
  have hstates : job.Carries job' ∧ job.state ≠ .succeeded ∧ job'.state ≠ .succeeded ∧
      ¬ job.IsStuck ∧ ¬ job'.IsStuck := by
    cases scan with
    | expired =>
      obtain ⟨hcarries, hafter⟩ := h
      simp only [sees, isLeaseExpired, Bool.and_eq_true, beq_iff_eq] at hsees
      obtain ⟨-, hbefore⟩ := hsees
      refine ⟨hcarries, by simp [hbefore], ?_, by simp [IsStuck, hbefore], ?_⟩
      · rw [hafter]
        unfold recoveredState
        split
        · decide
        · split <;> decide
      · rintro ⟨hcancelled, hnone⟩
        rw [hcarries.cancellationRequestedAt] at hnone
        rw [hafter] at hcancelled
        unfold recoveredState at hcancelled
        simp only [hnone, Option.isSome_none, Bool.false_eq_true, if_false] at hcancelled
        split at hcancelled <;> cases hcancelled
    | dueRetries =>
      obtain ⟨hcarries, hafter⟩ := h
      simp only [sees, isRetryDue, Bool.and_eq_true, beq_iff_eq] at hsees
      obtain ⟨-, hbefore⟩ := hsees
      simp [hcarries, hbefore, hafter, IsStuck]
    | strandedDelivery =>
      obtain ⟨hcarries, hafter, -⟩ := h
      simp only [sees, Bool.and_eq_true, beq_iff_eq] at hsees
      obtain ⟨⟨-, hbefore⟩, -⟩ := hsees
      simp [hcarries, hbefore, hafter, IsStuck]
    | missingOutbox =>
      obtain ⟨hcarries, hafter, -⟩ := h
      simp only [sees, Bool.and_eq_true, beq_iff_eq] at hsees
      obtain ⟨-, hbefore⟩ := hsees
      simp [hcarries, hbefore, hafter, IsStuck]
    | resultCandidates => exact absurd rfl hscan
  obtain ⟨hcarries, hbefore, hafter, hfree, hfree'⟩ := hstates
  refine ⟨?_, iff_of_false hfree' hfree⟩
  unfold IsOverdue
  rw [hcarries.reconciliationCode]
  exact and_congr_left fun _ => iff_of_true hafter hbefore

/-- The job under an identifier has become another one by scans that settle no
result. -/
structure PreparedPass.Advances (pass : PreparedPass App) (db db' : Database App) : Prop where
  keeps : pass.Keeps db db'
  jobs : ∀ k job, db.job? k = some job → ∃ job', db'.job? k = some job' ∧
    (job'.IsOverdue ↔ job.IsOverdue) ∧ (job'.IsStuck ↔ job.IsStuck)

theorem PreparedPass.Advances.trans (h : pass.Advances db db')
    (h' : pass.Advances db' db'') : pass.Advances db db'' := by
  refine ⟨h.keeps.trans h'.keeps, fun k job hjob => ?_⟩
  obtain ⟨job', hjob', hoverdue, hstuck⟩ := h.jobs k job hjob
  obtain ⟨job'', hjob'', hoverdue', hstuck'⟩ := h'.jobs k job' hjob'
  exact ⟨job'', hjob'', hoverdue'.trans hoverdue, hstuck'.trans hstuck⟩

theorem PreparedPass.Scanned.advances (h : pass.Scanned scan db db')
    (horder : pass.supply.Rearranges) (hscan : scan ≠ .resultCandidates) :
    pass.Advances db db' := by
  refine ⟨h.keeps, fun k job hjob => ?_⟩
  by_cases hk : k ∈ (pass.found scan db).map BackgroundJob.id
  · obtain ⟨row, hfound, rfl⟩ := mem_map.mp hk
    obtain ⟨hrow, hsees⟩ := sees_of_mem_found horder hfound
    obtain rfl := Option.mem_unique hjob hrow
    obtain ⟨job', hjob', hleaves⟩ := h.visited job hfound
    exact ⟨job', hjob', hleaves.carries hscan hsees⟩
  · rw [← (h.others k hk).1] at hjob
    exact ⟨job, hjob, Iff.rfl, Iff.rfl⟩

/-- The jobs whose results a pass looks at. -/
def PreparedPass.firstBatch (pass : PreparedPass App) (db : Database App) : List String :=
  ((pass.supply.order db.backgroundJobs.rows).take pass.batchSize).map BackgroundJob.id

/-- A job whose committed result is looked at has succeeded, is flagged, or was stuck
and is as it was. -/
theorem ResultLeaves.reached
    (h : ResultLeaves now job outbox job' outbox' (resultRepair job.toReconciliationJob .present)) :
    (job'.IsOverdue ↔ job.IsOverdue ∧ job.IsStuck) ∧ (job'.IsStuck ↔ job.IsStuck) := by
  cases hrepair : resultRepair job.toReconciliationJob .present with
  | none =>
    have hstate : job.state = .succeeded := by
      simp only [resultRepair] at hrepair
      split at hrepair
      · next hsucceeded => exact hsucceeded
      · split at hrepair <;> cases hrepair
    rw [hrepair] at h
    obtain ⟨rfl, -⟩ := h
    simp [IsOverdue, IsStuck, hstate]
  | some remedy =>
    rw [hrepair] at h
    cases remedy with
    | flag reason =>
      have hreason : reason = .terminalResultConflict ∧
          (job.state = .failedAttention ∨ job.cancellationRequestedAt.isSome = true) := by
        simp only [resultRepair] at hrepair
        split at hrepair
        · cases hrepair
        · split at hrepair
          · next hconflict =>
            cases hrepair
            exact ⟨rfl, hconflict⟩
          · cases hrepair
      obtain ⟨rfl, hconflict⟩ := hreason
      obtain ⟨-, hafter, hcode⟩ := h
      have hfree : ¬ job.IsStuck := by
        rintro ⟨hcancelled, hnone⟩
        simp [hcancelled, hnone] at hconflict
      have hfree' : ¬ job'.IsStuck := by
        rcases hafter with rfl | rfl <;> exact hfree
      refine ⟨iff_of_false (fun hoverdue => hoverdue.2 hcode) fun hboth => hfree hboth.2,
        iff_of_false hfree' hfree⟩
    | repair =>
      obtain ⟨-, hsucceeded, hfailed, hnone⟩ := resultRepair_eq_repair hrepair
      have hopen : job.state ≠ .succeeded := hsucceeded
      have hunfailed : job.state ≠ .failedAttention := hfailed
      rcases h with ⟨rfl, -, hended⟩ | ⟨rfl, hrepairable⟩
      · have hcancelled : job'.state = .cancelled := by
          cases hstate : job'.state <;> simp_all [isRepairable]
        have hstuck : job'.IsStuck := ⟨hcancelled, hnone⟩
        exact ⟨⟨fun hoverdue => ⟨hoverdue, hstuck⟩, fun hboth => hboth.1⟩, Iff.rfl⟩
      · have hfree : ¬ job.IsStuck := by
          rintro ⟨hcancelled, -⟩
          simp [isRepairable, hcancelled] at hrepairable
        have hfree' : ¬ (repairedJob now job).IsStuck := by
          rintro ⟨hcancelled, -⟩
          cases hcancelled
        exact ⟨iff_of_false (fun hoverdue => hoverdue.1 rfl) fun hboth => hfree hboth.2,
          iff_of_false hfree' hfree⟩

/-- A supply whose order of rows depends on the jobs that there are, not on what is
in their rows. -/
structure ReconcilerSupply.IsFixed (supply : ReconcilerSupply App) : Prop where
  rearranges : supply.Rearranges
  order : ∀ rows rows' : List BackgroundJob,
    rows'.map BackgroundJob.id = rows.map BackgroundJob.id →
      (supply.order rows').map BackgroundJob.id = (supply.order rows).map BackgroundJob.id

private theorem PreparedPass.Keeps.firstBatch (h : pass.Keeps db db')
    (hfixed : pass.supply.IsFixed) :
    pass.firstBatch db' = pass.firstBatch db := by
  unfold PreparedPass.firstBatch
  rw [map_take, map_take, hfixed.order _ _ h.ids]

/-- What a pass does about committed results. -/
structure PreparedPass.Reaches (pass : PreparedPass App) (db db' : Database App) : Prop where
  keeps : pass.Keeps db db'
  jobs : ∀ k job, db.job? k = some job →
    pass.inspectResult job.toReconciliationJob db = some .present →
      ∃ job', db'.job? k = some job' ∧ (job'.IsStuck ↔ job.IsStuck) ∧
        (job'.IsOverdue ↔ job.IsOverdue ∧ (k ∉ pass.firstBatch db ∨ job.IsStuck))

/-- The scan for results settles the committed results among the rows it returns. -/
theorem PreparedPass.Scanned.reaches (h : pass.Scanned .resultCandidates db db')
    (horder : pass.supply.Rearranges) : pass.Reaches db db' := by
  have hbatch : (pass.found .resultCandidates db).map BackgroundJob.id = pass.firstBatch db := by
    have hall : db.backgroundJobs.rows.filter (ReconciliationScan.selects db pass.now
        .resultCandidates) = db.backgroundJobs.rows := filter_eq_self.mpr fun _ _ => rfl
    unfold PreparedPass.found PreparedPass.firstBatch
    rw [hall]
  refine ⟨h.keeps, fun k job hjob hpresent => ?_⟩
  by_cases hk : k ∈ pass.firstBatch db
  · have hlisted := hk
    rw [← hbatch] at hlisted
    obtain ⟨row, hfound, rfl⟩ := mem_map.mp hlisted
    obtain ⟨hrow, -⟩ := sees_of_mem_found horder hfound
    obtain rfl := Option.mem_unique hjob hrow
    obtain ⟨job', hjob', answer, hanswer, hleaves⟩ := h.visited job hfound
    obtain rfl : JobResultInspection.present = answer :=
      Option.some.inj (hpresent.symm.trans hanswer)
    obtain ⟨hoverdue, hstuck⟩ := hleaves.reached
    refine ⟨job', hjob', hstuck, hoverdue.trans ?_⟩
    simp [hk]
  · have hunlisted := hk
    rw [← hbatch] at hunlisted
    rw [← (h.others k hunlisted).1] at hjob
    exact ⟨job, hjob, Iff.rfl, by simp [hk]⟩

theorem PreparedPass.Advances.reaches (h : pass.Advances db db')
    (h' : pass.Reaches db' db'') (hfixed : pass.supply.IsFixed) : pass.Reaches db db'' := by
  refine ⟨h.keeps.trans h'.keeps, fun k job hjob hpresent => ?_⟩
  obtain ⟨job', hjob', hoverdue, hstuck⟩ := h.jobs k job hjob
  have hid : job'.toReconciliationJob.id = job.toReconciliationJob.id :=
    (id_of_job? hjob').trans (id_of_job? hjob).symm
  have hanswer := h.keeps.answers _ _ hid (h.keeps.workspaces k job job' hjob hjob')
  obtain ⟨job'', hjob'', hstuck', hoverdue'⟩ := h'.jobs k job' hjob' (hanswer.trans hpresent)
  refine ⟨job'', hjob'', hstuck'.trans hstuck, ?_⟩
  rw [hoverdue', hoverdue, hstuck, h.keeps.firstBatch hfixed]

private theorem ensures_runScans_reaches (hfixed : pass.supply.IsFixed)
    (hstable : StableInspector pass.inspectResult) :
    pass.runScans.Ensures (fun _ db' => pass.Reaches db db') (fun _ _ => ¬ pass.Sound db) db := by
  have horder := hfixed.rearranges
  apply ensures_scan_then horder hstable
  intro t₁ h₁
  apply ensures_scan_then horder hstable
  intro t₂ h₂
  apply ensures_scan_then horder hstable
  intro t₃ h₃
  apply ensures_scan_then horder hstable
  intro t₄ h₄
  apply ensures_scan_then horder hstable
  intro t₅ h₅
  rw [sweep_nil, ensures_pure]
  have hearly := (((h₁.advances horder (by decide)).trans (h₂.advances horder (by decide))).trans
    (h₃.advances horder (by decide))).trans (h₄.advances horder (by decide))
  exact hearly.reaches (h₅.reaches horder) hfixed

/-- What the cleanup hooks of a pass write settles no result. -/
theorem PreparedPass.SeesAlike.advances (h : pass.SeesAlike db db')
    (hstable : StableInspector pass.inspectResult) : pass.Advances db db' := by
  have hjobs : ∀ k, db'.job? k = db.job? k := by
    intro k
    unfold job?
    rw [h.backgroundJobs]
  have hviews : db.SameViews db' := by
    intro id
    unfold view job? attemptsOf outboxOf
    rw [h.backgroundJobs, h.jobAttempts, h.jobOutbox]
  have hkeeps : pass.Keeps db db' := by
    refine ⟨by rw [h.backgroundJobs], fun item item' hid hworkspace => ?_,
      fun k job job' hjob hjob' => ?_, fun hsound => ⟨hsound.dependable, hviews.inv hsound.inv, ?_⟩⟩
    · rw [h.answers]
      exact hstable db db item item' hid hworkspace (Database.SameSurroundings.refl db)
    · rw [hjobs, hjob] at hjob'
      rw [Option.some.inj hjob']
    · intro attempt hattempt job hjob
      rw [h.jobAttempts] at hattempt
      rw [hjobs] at hjob
      exact hsound.owns attempt hattempt job hjob
  refine ⟨hkeeps, fun k job hjob => ⟨job, ?_, Iff.rfl, Iff.rfl⟩⟩
  rw [hjobs]
  exact hjob

theorem PreparedPass.Reaches.advance (h : pass.Reaches db db')
    (h' : pass.Advances db' db'') : pass.Reaches db db'' := by
  refine ⟨h.keeps.trans h'.keeps, fun k job hjob hpresent => ?_⟩
  obtain ⟨job', hjob', hstuck, hoverdue⟩ := h.jobs k job hjob hpresent
  obtain ⟨job'', hjob'', hoverdue', hstuck'⟩ := h'.jobs k job' hjob'
  exact ⟨job'', hjob'', hstuck'.trans hstuck, hoverdue'.trans hoverdue⟩

/-- **The rule of one pass.** On a sound database a pass settles the committed
results of the first batch, and no other. -/
theorem reaches_reconcileBackgroundJobs {options : ReconcileBackgroundJobsOptions App}
    {supply : ReconcilerSupply App} (hprepare : preparePass options supply = .ok pass)
    (hfixed : supply.IsFixed) (hstable : StableInspector options.inspectResult)
    (hhooks : KeepingHooks options) (hsound : pass.Sound db) :
    pass.Reaches db (reconcileBackgroundJobs options supply db).2 := by
  obtain ⟨-, hhook, hinspect, -, hsupply, -⟩ := preparePass_spec hprepare
  rw [← hinspect] at hstable
  rw [← hsupply] at hfixed
  have hscans : pass.runScans.Ensures (fun _ t => pass.Reaches db t) (fun _ _ => False) db :=
    (ensures_runScans_reaches hfixed hstable).mono (fun _ _ h => h)
      fun _ _ hunsound => hunsound hsound
  have hpass : (reconcileBackgroundJobs options supply).Ensures
      (fun _ db' => pass.Reaches db db') (fun _ db' => pass.Reaches db db') db := by
    unfold reconcileBackgroundJobs
    rw [hprepare]
    rw [ensures_bind]
    refine hscans.mono (fun _ t hreaches => ?_) fun _ _ habsurd => absurd habsurd id
    rw [ensures_bind]
    exact (ensures_runHooks_alike hhooks hstable hhook hinspect).mono
      (fun _ _ halike => hreaches.advance (halike.advances hstable))
      fun _ _ halike => hreaches.advance (halike.advances hstable)
  unfold Session.Ensures at hpass
  rcases hrun : reconcileBackgroundJobs options supply db with ⟨_ | _, db'⟩ <;>
    rw [hrun] at hpass <;> exact hpass

/-! ### Any number of passes -/

section Passes

variable {options : ReconcileBackgroundJobsOptions App} {supply : ReconcilerSupply App}

/-- The database after passes at a list of instants, with nothing else in between. -/
def afterPasses (options : ReconcileBackgroundJobsOptions App) (supply : ReconcilerSupply App)
    (nows : List ℤ) (db : Database App) : Database App :=
  nows.foldl (fun db now => (reconcileBackgroundJobs { options with now } supply db).2) db

private theorem afterPasses_cons {now : ℤ} {nows : List ℤ} :
    afterPasses options supply (now :: nows) db =
    afterPasses options supply nows
      (reconcileBackgroundJobs { options with now } supply db).2 := rfl

/-- Every job whose result is committed has succeeded or is flagged for the conflict. -/
def CoversResults (options : ReconcileBackgroundJobsOptions App) (db : Database App) : Prop :=
  ∀ k job, db.job? k = some job →
    options.inspectResult job.toReconciliationJob db = some .present →
      job.state = .succeeded ∨
        job.reconciliationCode = some AmbiguousResult.terminalResultConflict.reasonCode

private theorem coversResults_iff : CoversResults options db ↔ ∀ k job, db.job? k = some job →
    options.inspectResult job.toReconciliationJob db = some .present → ¬ job.IsOverdue := by
  unfold CoversResults IsOverdue
  simp only [not_and_or, not_not]

private theorem preparePass_now (now : ℤ) :
    preparePass { options with now } supply =
      (preparePass options supply).map fun pass => { pass with now } := by
  unfold preparePass
  dsimp only
  split
  · rfl
  · split
    · rfl
    · rfl

private theorem PreparedPass.sound_now (now : ℤ) :
    PreparedPass.Sound { pass with now } db ↔ pass.Sound db :=
  ⟨fun h => ⟨⟨h.dependable.outboxId, h.dependable.auditId, h.dependable.inspectResult⟩, h.inv,
      h.owns⟩,
    fun h => ⟨⟨h.dependable.outboxId, h.dependable.auditId, h.dependable.inspectResult⟩, h.inv,
      h.owns⟩⟩

private theorem PreparedPass.Reaches.of_now {now : ℤ}
    (h : PreparedPass.Reaches { pass with now } db db') : pass.Reaches db db' :=
  ⟨⟨h.keeps.ids, h.keeps.answers, h.keeps.workspaces, fun hsound =>
    (PreparedPass.sound_now now).mp (h.keeps.sound ((PreparedPass.sound_now now).mpr hsound))⟩,
    h.jobs⟩

theorem PreparedPass.Reaches.trans {db'' : Database App} (h : pass.Reaches db db')
    (h' : pass.Reaches db' db'') (hfixed : pass.supply.IsFixed) : pass.Reaches db db'' := by
  refine ⟨h.keeps.trans h'.keeps, fun k job hjob hpresent => ?_⟩
  obtain ⟨job', hjob', hstuck, hoverdue⟩ := h.jobs k job hjob hpresent
  have hid : job'.toReconciliationJob.id = job.toReconciliationJob.id :=
    (id_of_job? hjob').trans (id_of_job? hjob).symm
  have hanswer := h.keeps.answers _ _ hid (h.keeps.workspaces k job job' hjob hjob')
  obtain ⟨job'', hjob'', hstuck', hoverdue'⟩ := h'.jobs k job' hjob' (hanswer.trans hpresent)
  refine ⟨job'', hjob'', hstuck'.trans hstuck, ?_⟩
  rw [hoverdue', hoverdue, hstuck, h.keeps.firstBatch hfixed, and_assoc, and_self]

/-- **The rule of repeated passes.** However many passes run, they reach what one of
them reaches. -/
theorem reaches_afterPasses (hprepare : preparePass options supply = .ok pass)
    (hfixed : supply.IsFixed) (hstable : StableInspector options.inspectResult)
    (hhooks : KeepingHooks options) (hsound : pass.Sound db) {nows : List ℤ} (hnows : nows ≠ []) :
    pass.Reaches db (afterPasses options supply nows db) := by
  induction nows generalizing db with
  | nil => exact absurd rfl hnows
  | cons now nows ih =>
    have hprepareNow : preparePass { options with now } supply = .ok { pass with now } := by
      rw [preparePass_now, hprepare]
      rfl
    have hhooksNow : KeepingHooks { options with now } := ⟨hhooks.keep⟩
    have hfirst := (reaches_reconcileBackgroundJobs hprepareNow hfixed hstable hhooksNow
      ((PreparedPass.sound_now now).mpr hsound)).of_now
    have hfixed' : pass.supply.IsFixed := by
      rw [(preparePass_spec hprepare).2.2.2.2.1]
      exact hfixed
    rw [afterPasses_cons]
    by_cases hlast : nows = []
    · subst hlast
      exact hfirst
    · exact hfirst.trans (ih (hfirst.keeps.sound hsound) hlast) hfixed'

/-- **Which committed results are reached.** Passes at any instants cover every
committed result exactly when each job that it makes overdue is among the first
rows that the scan for results returns, and is not cancelled without having been
asked to be. Then one pass is enough, and otherwise no number of passes is. -/
theorem covers_results_of_first_batch (options : ReconcileBackgroundJobsOptions App)
    (supply : ReconcilerSupply App) (pass : PreparedPass App) (db : Database App)
    (hprepare : preparePass options supply = .ok pass) (hfixed : supply.IsFixed)
    (hstable : StableInspector options.inspectResult) (hhooks : KeepingHooks options)
    (hsound : pass.Sound db) :
    ((∃ nows, CoversResults options (afterPasses options supply nows db)) ↔
        ∀ k job, db.job? k = some job →
          options.inspectResult job.toReconciliationJob db = some .present →
            job.IsOverdue → k ∈ pass.firstBatch db ∧ ¬ job.IsStuck) ∧
      ∀ nows, nows ≠ [] → ∀ nows', nows' ≠ [] →
        CoversResults options (afterPasses options supply nows db) →
          CoversResults options (afterPasses options supply nows' db) := by
  have hinspect := (preparePass_spec hprepare).2.2.1
  have hcovers : ∀ nows, nows ≠ [] →
      (CoversResults options (afterPasses options supply nows db) ↔
        ∀ k job, db.job? k = some job →
          options.inspectResult job.toReconciliationJob db = some .present →
            job.IsOverdue → k ∈ pass.firstBatch db ∧ ¬ job.IsStuck) := by
    intro nows hnows
    have hreaches := reaches_afterPasses hprepare hfixed hstable hhooks hsound hnows
    rw [coversResults_iff]
    constructor
    · intro hcovered k job hjob hpresent hoverdue
      rw [← hinspect] at hpresent
      obtain ⟨job', hjob', -, hafter⟩ := hreaches.jobs k job hjob hpresent
      have hid : job'.toReconciliationJob.id = job.toReconciliationJob.id :=
        (id_of_job? hjob').trans (id_of_job? hjob).symm
      have hanswer := hreaches.keeps.answers _ _ hid
        (hreaches.keeps.workspaces k job job' hjob hjob')
      have hfree := hcovered k job' hjob' (by rw [← hinspect, hanswer, hpresent])
      rw [hafter] at hfree
      by_contra hmissed
      refine hfree ⟨hoverdue, ?_⟩
      by_contra hreached
      rw [not_or, not_not] at hreached
      exact hmissed hreached
    · intro hfirst k job' hjob' hpresent
      obtain ⟨job, hjob⟩ : ∃ job, db.job? k = some job := by
        rw [db.exists_job?, ← hreaches.keeps.ids, ← exists_job?]
        exact ⟨job', hjob'⟩
      have hid : job'.toReconciliationJob.id = job.toReconciliationJob.id :=
        (id_of_job? hjob').trans (id_of_job? hjob).symm
      have hanswer := hreaches.keeps.answers _ _ hid
        (hreaches.keeps.workspaces k job job' hjob hjob')
      rw [hinspect, hpresent] at hanswer
      obtain ⟨after, hafter, -, hoverdue⟩ :=
        hreaches.jobs k job hjob (by rw [hinspect]; exact hanswer.symm)
      obtain rfl := Option.mem_unique hjob' hafter
      rw [hoverdue]
      rintro ⟨hbefore, hmissed⟩
      obtain ⟨hlisted, hfree⟩ := hfirst k job hjob hanswer.symm hbefore
      rcases hmissed with hunlisted | hstuck
      · exact hunlisted hlisted
      · exact hfree hstuck
  refine ⟨⟨?_, fun hfirst => ⟨[options.now], (hcovers _ (by simp)).mpr hfirst⟩⟩, ?_⟩
  · rintro ⟨nows, hcovered⟩
    by_cases hnone : nows = []
    · -- without a pass, nothing is overdue
      subst hnone
      intro k job hjob hpresent hoverdue
      exact absurd hoverdue (coversResults_iff.mp hcovered k job hjob hpresent)
    · exact (hcovers nows hnone).mp hcovered
  · intro nows hnows nows' hnows' hcovered
    exact (hcovers nows' hnows').mpr ((hcovers nows hnows).mp hcovered)

end Passes

namespace Sample

/-- A job is enqueued under a key. -/
def enqueuedAs (key id outboxId : String) : Event Bool :=
  .command (.enqueue ⟨"workspace"⟩
    { correlationId
      handlerVersion := 1
      idempotencyKey := key
      inputVersion := none
      maxAttempts := none
      priority := none
      queueName := "asset.validate"
      resourceId := none
      resourceType := none } id outboxId)

def otherJobId : String := "01900000-0000-7000-8000-000000000002"

/-- Two jobs wait in the queue, and the results of both are committed. -/
def twoResults : Database Bool :=
  (after [enqueued, enqueuedAs "other" otherJobId "other-outbox"]).db.setApp true

private theorem ne_of_flatMap {α : Type} {rows : List α} {name : α → String} {row : α}
    (hrow : row ∈ rows)
    (c : Char) : name row ≠ String.ofList (c :: rows.flatMap fun row => (name row).toList) := by
  intro heq
  have hlist := congrArg String.toList heq
  rw [String.toList_ofList] at hlist
  have hlength := congrArg List.length hlist
  have hsublist : (name row).toList.Sublist (rows.flatMap fun row => (name row).toList) :=
    sublist_flatten_of_mem (mem_map_of_mem hrow)
  have hshorter := hsublist.length_le
  rw [length_cons] at hlength
  omega

/-- A pass over the two results is prepared, and finds the database sound. -/
theorem exists_prepared (batchSize : ℤ) (hbatch : batchSize = 1 ∨ batchSize = 2) :
    ∃ pass, preparePass (passAt batchSize 0) supply = .ok pass ∧ pass.Sound twoResults := by
  have hok : (preparePass (passAt batchSize 0) supply).toOption.isSome = true := by
    rcases hbatch with rfl | rfl <;> decide
  cases hprepare : preparePass (passAt batchSize 0) supply with
  | error error =>
    rw [hprepare] at hok
    cases hok
  | ok pass =>
    obtain ⟨-, -, hinspect, -, hsupply, -⟩ := preparePass_spec hprepare
    refine ⟨pass, rfl, ⟨?_, ?_, ?_⟩, ?_, ?_⟩
    · rw [hsupply]
      exact fun db outbox hmem => ne_of_flatMap hmem 'o'
    · rw [hsupply]
      exact fun db event hmem => ne_of_flatMap hmem 'a'
    · rw [hinspect]
      exact fun _ _ => rfl
    · exact (reachable_after [enqueued, enqueuedAs "other" otherJobId "other-outbox"]).inv.db
    · have hnone : twoResults.jobAttempts.rows = [] := by
        have hlength : twoResults.jobAttempts.rows.length = 0 := by decide
        exact length_eq_zero_iff.mp hlength
      intro attempt hattempt
      rw [hnone] at hattempt
      cases hattempt

private theorem isFixed_supply : supply.IsFixed := ⟨fun rows => List.Perm.refl rows, fun _ _ h => h⟩

private theorem keepingHooks (batchSize : ℤ) : KeepingHooks (passAt batchSize 0) :=
  ⟨fun _ habsurd => absurd habsurd not_mem_nil⟩

/-- With a batch of two, both results are covered. -/
theorem both_results_covered :
    ∃ nows, CoversResults (passAt 2 0) (afterPasses (passAt 2 0) supply nows twoResults) := by
  obtain ⟨pass, hprepare, hsound⟩ := exists_prepared 2 (Or.inr rfl)
  obtain ⟨hsize, -, -, -, hsupply, -⟩ := preparePass_spec hprepare
  refine (covers_results_of_first_batch (passAt 2 0) supply pass twoResults hprepare
    isFixed_supply stableInspector (keepingHooks 2) hsound).1.mpr fun k job hjob _ _ => ⟨?_, ?_⟩
  · have hlisted := (exists_job? twoResults k).mp ⟨job, hjob⟩
    have hrows : twoResults.backgroundJobs.rows.length = 2 := by decide
    unfold PreparedPass.firstBatch
    rw [hsupply, hsize]
    show k ∈ (twoResults.backgroundJobs.rows.take 2).map BackgroundJob.id
    rw [take_of_length_le (by rw [hrows])]
    exact hlisted
  · have hqueued : (twoResults.backgroundJobs.rows.all fun row => row.state == .queued) = true := by
      decide
    have hstate := all_eq_true.mp hqueued job (Table.lookup_spec hjob).1
    rintro ⟨hcancelled, -⟩
    rw [hcancelled] at hstate
    cases hstate

/-- With a batch of one, the second result is never covered. -/
theorem second_result_never_covered :
    ¬ ∃ nows, CoversResults (passAt 1 0) (afterPasses (passAt 1 0) supply nows twoResults) := by
  rintro ⟨nows, hcovered⟩
  have hfound : ((twoResults.job? otherJobId).map fun job =>
      (job.state, job.reconciliationCode)) = some (.queued, none) := by decide
  obtain ⟨job, hjob, hcolumns⟩ := Option.map_eq_some_iff.mp hfound
  obtain ⟨hstate, hcode⟩ := Prod.mk.inj hcolumns
  have hoverdue : job.IsOverdue := ⟨by simp [hstate], by simp [hcode]⟩
  rw [coversResults_iff] at hcovered
  by_cases hnone : nows = []
  · subst hnone
    exact hcovered otherJobId job hjob rfl hoverdue
  · obtain ⟨pass, hprepare, hsound⟩ := exists_prepared 1 (Or.inl rfl)
    obtain ⟨hsize, -, hinspect, -, hsupply, -⟩ := preparePass_spec hprepare
    have hreaches := reaches_afterPasses hprepare isFixed_supply stableInspector (keepingHooks 1)
      hsound hnone
    have hpresent : pass.inspectResult job.toReconciliationJob twoResults = some .present := by
      rw [hinspect]
      rfl
    obtain ⟨job', hjob', -, hafter⟩ := hreaches.jobs otherJobId job hjob hpresent
    have hunlisted : otherJobId ∉ pass.firstBatch twoResults := by
      unfold PreparedPass.firstBatch
      rw [hsupply, hsize]
      show otherJobId ∉ (twoResults.backgroundJobs.rows.take 1).map BackgroundJob.id
      decide
    have hid : job'.toReconciliationJob.id = job.toReconciliationJob.id :=
      (id_of_job? hjob').trans (id_of_job? hjob).symm
    have hanswer := hreaches.keeps.answers _ _ hid
      (hreaches.keeps.workspaces otherJobId job job' hjob hjob')
    rw [hpresent, hinspect] at hanswer
    exact hcovered otherJobId job' hjob' hanswer (hafter.mpr ⟨hoverdue, Or.inl hunlisted⟩)

end Sample

end ContentAutomation
