import ContentAutomation.Jobs.Invariants
import ContentAutomation.Jobs.Quiescence

/-!
# Repeating a pass

A pass that has returned, and whose scans were not cut off by the batch size, is
not needed a second time: at the same instant and with the same answers about
results it repairs nothing, flags nothing and writes nothing.
-/

namespace ContentAutomation

open Relational Session ReconcileBackgroundJobsResult List PreparedPass

variable {App : Type} {db db' t : Database App} {pass : PreparedPass App}
  {scan : ReconciliationScan} {k : String} {job : BackgroundJob}

/-! ### The scans of the first pass -/

theorem ensures_scan_then (horder : pass.supply.Rearranges)
    (hstable : StableInspector pass.inspectResult) {scans : List ReconciliationScan}
    {post : Database App → Prop}
    (hrest : ∀ t, pass.Scanned scan db t →
      (sweep pass.runScan scans).Ensures (fun _ u => post u) (fun _ _ => ¬ pass.Sound t) t) :
    (sweep pass.runScan (scan :: scans)).Ensures (fun _ u => post u)
      (fun _ _ => ¬ pass.Sound db) db := by
  apply ensures_sweep_cons
  refine (ensures_runScan horder hstable).mono (fun _ t hscanned => ?_) fun _ _ herror => herror
  exact (hrest t hscanned).mono (fun _ _ hpost => hpost)
    fun _ _ hunsound hsound => hunsound (hscanned.keeps.sound hsound)

/-- **The rule of a pass.** After scans that were not cut off, no scan sees a job
again, and every result has been looked at. -/
theorem ensures_runScans (horder : pass.supply.Rearranges)
    (hstable : StableInspector pass.inspectResult)
    (hbatch : db.backgroundJobs.rows.length ≤ pass.batchSize) :
    pass.runScans.Ensures (fun _ db' => pass.Keeps db db' ∧
        (∀ earlier : ReconciliationScan, earlier ≠ .resultCandidates → pass.Quiet earlier db') ∧
        pass.Settled db')
      (fun _ _ => ¬ pass.Sound db) db := by
  have hrows : ∀ t, pass.Keeps db t → t.backgroundJobs.rows.length ≤ pass.batchSize := by
    intro t hkeeps
    have hlength := congrArg List.length hkeeps.ids
    rw [length_map, length_map] at hlength
    omega
  have hfits : ∀ t, pass.Keeps db t → ∀ scan : ReconciliationScan,
      (t.backgroundJobs.rows.filter (scan.selects t pass.now)).length ≤ pass.batchSize :=
    fun t hkeeps scan => (length_filter_le _ _).trans (hrows t hkeeps)
  have hstart := PreparedPass.Keeps.refl hstable db
  apply ensures_scan_then horder hstable
  intro t₁ h₁
  have hquiet₁ : ∀ earlier : ReconciliationScan, earlier.position ≤ 0 → pass.Quiet earlier t₁ :=
    fun earlier hearlier => h₁.quiet horder (by decide) (hfits db hstart _)
      (fun _ hbefore => absurd hbefore (Nat.not_lt_zero _)) hearlier
  apply ensures_scan_then horder hstable
  intro t₂ h₂
  have hkeeps₂ := h₁.keeps.trans h₂.keeps
  have hquiet₂ : ∀ earlier : ReconciliationScan, earlier.position ≤ 1 → pass.Quiet earlier t₂ :=
    fun earlier hearlier => h₂.quiet horder (by decide) (hfits t₁ h₁.keeps _)
      (fun other hbefore => hquiet₁ other (Nat.le_of_lt_succ hbefore)) hearlier
  apply ensures_scan_then horder hstable
  intro t₃ h₃
  have hkeeps₃ := hkeeps₂.trans h₃.keeps
  have hquiet₃ : ∀ earlier : ReconciliationScan, earlier.position ≤ 2 → pass.Quiet earlier t₃ :=
    fun earlier hearlier => h₃.quiet horder (by decide) (hfits t₂ hkeeps₂ _)
      (fun other hbefore => hquiet₂ other (Nat.le_of_lt_succ hbefore)) hearlier
  apply ensures_scan_then horder hstable
  intro t₄ h₄
  have hkeeps₄ := hkeeps₃.trans h₄.keeps
  have hquiet₄ : ∀ earlier : ReconciliationScan, earlier.position ≤ 3 → pass.Quiet earlier t₄ :=
    fun earlier hearlier => h₄.quiet horder (by decide) (hfits t₃ hkeeps₃ _)
      (fun other hbefore => hquiet₃ other (Nat.le_of_lt_succ hbefore)) hearlier
  apply ensures_scan_then horder hstable
  intro t₅ h₅
  obtain ⟨hquiet₅, hsettled⟩ := h₅.settled horder (hrows t₄ hkeeps₄) fun earlier hearlier =>
    hquiet₄ earlier (by cases earlier <;> simp [ReconciliationScan.position] at hearlier ⊢)
  rw [sweep_nil, ensures_pure]
  exact ⟨hkeeps₄.trans h₅.keeps, hquiet₅, hsettled⟩

/-! ### The hooks of the first pass -/

/-- The database with other tables of the application. -/
def Database.setApp (db : Database App) (app : App) : Database App := { db with app }

/-- Cleanup hooks that write tables of the application only, none that an answer
about a result depends on. -/
structure KeepingHooks (options : ReconcileBackgroundJobsOptions App) : Prop where
  keep : ∀ hook ∈ options.cleanupDebtHooks, ∀ limit now db, ∃ app,
    (hook limit now db).2 = db.setApp app ∧
      ∀ item, options.inspectResult item (db.setApp app) = options.inspectResult item db

/-- Cleanup hooks that leave no debt once all of them have run. -/
structure SettlingHooks (options : ReconcileBackgroundJobsOptions App) : Prop
    extends KeepingHooks options where
  settle : ∀ pass : PreparedPass App, pass.cleanupDebtHooks = options.cleanupDebtHooks →
    ∀ db result db', pass.runHooks db = (.ok result, db') →
      ∀ hook ∈ options.cleanupDebtHooks, hook pass.batchSize pass.now db' = (.ok [], db')

/-- The scans see the same jobs, and the inspections get the same answers. -/
structure PreparedPass.SeesAlike (pass : PreparedPass App) (db db' : Database App) : Prop where
  backgroundJobs : db'.backgroundJobs = db.backgroundJobs
  jobAttempts : db'.jobAttempts = db.jobAttempts
  jobOutbox : db'.jobOutbox = db.jobOutbox
  answers : ∀ item, pass.inspectResult item db' = pass.inspectResult item db

theorem PreparedPass.SeesAlike.trans {db'' : Database App} (h : pass.SeesAlike db db')
    (h' : pass.SeesAlike db' db'') : pass.SeesAlike db db'' :=
  ⟨h'.backgroundJobs.trans h.backgroundJobs, h'.jobAttempts.trans h.jobAttempts,
    h'.jobOutbox.trans h.jobOutbox,
    fun item => (h'.answers item).trans (h.answers item)⟩

private theorem ensures_auditOutcome_alike (hstable : StableInspector pass.inspectResult)
    (outcome : CleanupDebtOutcome) (db : Database App) :
    (pass.auditOutcome outcome).Ensures (fun _ db' => pass.SeesAlike db db')
      (fun _ db' => pass.SeesAlike db db') db := by
  have halike : ∀ auditEvents, pass.SeesAlike db (db.setAuditEvents auditEvents) := fun _ =>
    ⟨rfl, rfl, rfl, fun item => hstable db _ item item rfl rfl ⟨rfl, rfl, rfl, rfl, rfl, rfl⟩⟩
  unfold auditOutcome counting
  rw [ensures_bind]
  have haudit : (auditServiceOutcome pass.correlationId outcome pass.now
      (pass.supply.auditId db)).Ensures (fun _ db' => pass.SeesAlike db db') (fun _ => True) db := by
    unfold auditServiceOutcome
    by_cases hvalid : outcome.isValid = false
    · rw [if_pos hvalid]
      trivial
    · rw [if_neg hvalid]
      simp only [CleanupDebtOutcome.isValid, Bool.not_eq_false, Bool.and_eq_true] at hvalid
      exact ensures_auditEvent_create (accepted_serviceAuditData
        outcome.outcome.isSafeOutcome_name hvalid.1.1 _ _ _ _ _ _) halike fun _ _ => trivial
  exact ensures_commit haudit fun _ _ => halike db.auditEvents

/-- The cleanup hooks show no job to a scan. -/
theorem ensures_runHooks_alike {options : ReconcileBackgroundJobsOptions App}
    (hhooks : KeepingHooks options) (hstable : StableInspector pass.inspectResult)
    (hsame : pass.cleanupDebtHooks = options.cleanupDebtHooks)
    (hinspect : pass.inspectResult = options.inspectResult) :
    pass.runHooks.Ensures (fun _ db' => pass.SeesAlike db db')
      (fun _ db' => pass.SeesAlike db db') db := by
  have hrefl : ∀ db : Database App, pass.SeesAlike db db := fun _ => ⟨rfl, rfl, rfl, fun _ => rfl⟩
  unfold runHooks
  refine ensures_sweep_keep hrefl (fun h h' => PreparedPass.SeesAlike.trans h h')
    fun hook hmem t => ?_
  rw [hsame] at hmem
  unfold runHook
  rw [ensures_bind]
  obtain ⟨app, hwritten, hanswers⟩ := hhooks.keep hook hmem pass.batchSize pass.now t
  have hkept : pass.SeesAlike t (t.setApp app) := by
    refine ⟨rfl, rfl, rfl, fun item => ?_⟩
    rw [hinspect]
    exact hanswers item
  have hhook : Session.Ensures (hook pass.batchSize pass.now) (fun _ t' => pass.SeesAlike t t')
      (fun _ t' => pass.SeesAlike t t') t := by
    unfold Session.Ensures
    rcases hrun : hook pass.batchSize pass.now t with ⟨_ | _, t'⟩ <;> rw [hrun] at hwritten <;>
      subst hwritten <;> exact hkept
  refine hhook.mono (fun outcomes t' halike => ?_) fun _ _ halike => halike
  split
  · exact halike
  · refine (ensures_sweep_keep hrefl (fun h h' => PreparedPass.SeesAlike.trans h h')
      fun outcome _ u => ensures_auditOutcome_alike hstable outcome u).mono
      (fun _ _ halike' => halike.trans halike') fun _ _ halike' => halike.trans halike'

theorem PreparedPass.SeesAlike.quiet (h : pass.SeesAlike db db') (hquiet : pass.Quiet scan db) :
    pass.Quiet scan db' := by
  intro k job hjob
  have hbefore : db.job? k = some job := by
    unfold Database.job? at hjob ⊢
    rwa [h.backgroundJobs] at hjob
  have houtbox : db'.outboxOf k = db.outboxOf k := by
    unfold Database.outboxOf
    rw [h.jobOutbox]
  rw [houtbox]
  exact hquiet k job hbefore

theorem PreparedPass.SeesAlike.settled (h : pass.SeesAlike db db') (hsettled : pass.Settled db) :
    pass.Settled db' := by
  intro k job hjob
  have hbefore : db.job? k = some job := by
    unfold Database.job? at hjob ⊢
    rwa [h.backgroundJobs] at hjob
  obtain ⟨answer, hanswer, hidle⟩ := hsettled k job hbefore
  exact ⟨answer, (h.answers _).trans hanswer, hidle⟩

/-! ### The second pass -/

private theorem runScan_idle (horder : pass.supply.Rearranges) (hquiet : pass.Quiet scan db) :
    pass.runScan scan db = (.ok 0, db) := by
  have hnone : db.backgroundJobs.rows.filter (scan.selects db pass.now) = [] := by
    refine filter_eq_nil_iff.mpr fun job hmem => ?_
    rw [scan.selects_eq_sees, hquiet job.id job ((Table.lookup_eq_some
      backgroundJobSchema_keyedBy_id).mpr ⟨hmem, rfl⟩)]
    decide
  have hempty : pass.supply.order [] = [] := perm_nil.mp (horder [])
  have hfind : pass.findJobs scan db = (.ok [], db) := by
    show (Except.ok (((pass.supply.order (db.backgroundJobs.rows.filter
      (scan.selects db pass.now))).take pass.batchSize).map _), db) = _
    rw [hnone, hempty, take_nil, map_nil]
  unfold runScan
  rw [bind_of_ok hfind]
  rfl

private theorem counting_idle {count : Bool → ReconcileBackgroundJobsResult}
    {body : Database App → JobTransaction App Bool}
    (h : (body db).Ensures (fun answer db' => answer = false ∧ db' = db) (fun _ => False) db) :
    counting count body db = (.ok (count false), db) := by
  have hcommit : commit body db = (.ok false, db) := by
    rcases h.commit_cases with ⟨answer, db', hcommit, rfl, rfl⟩ | ⟨error, -, habsurd⟩
    · exact hcommit
    · exact absurd habsurd id
  unfold counting
  rw [bind_of_ok hcommit]
  rfl

/-- A result that has been looked at is left alone. -/
theorem visit_result_idle (hjob : db.job? k = some job) {answer : JobResultInspection}
    (hanswer : pass.inspectResult job.toReconciliationJob db = some answer)
    (hidle : ResultIdle job (resultRepair job.toReconciliationJob answer)) :
    pass.visit .resultCandidates job.toReconciliationJob db = (.ok 0, db) := by
  have hid : job.toReconciliationJob.id = k := Database.id_of_job? hjob
  have hinspect : pass.inspect job.toReconciliationJob db = (.ok answer, db) := by
    unfold inspect Session.commit Transaction.commit
    dsimp only
    rw [hanswer]
    rfl
  unfold visit
  dsimp only
  rw [bind_of_ok hinspect]
  unfold settleResult
  rw [hid]
  cases hrepair : resultRepair job.toReconciliationJob answer with
  | none => rfl
  | some remedy =>
    rw [hrepair] at hidle
    cases remedy with
    | flag reason => exact counting_idle (ensures_flagAmbiguousJob_idle hjob hidle)
    | repair => exact counting_idle (ensures_repairCommittedResult_idle hjob hidle)

private theorem runScan_result_idle (horder : pass.supply.Rearranges)
    (hbatch : db.backgroundJobs.rows.length ≤ pass.batchSize) (hsettled : pass.Settled db) :
    pass.runScan .resultCandidates db =
      (.ok (inspectedRows db.backgroundJobs.rows.length), db) := by
  have hlength : ((pass.found .resultCandidates db).map
      BackgroundJob.toReconciliationJob).length = db.backgroundJobs.rows.length := by
    have hall : db.backgroundJobs.rows.filter (ReconciliationScan.selects db pass.now
        .resultCandidates) = db.backgroundJobs.rows := filter_eq_self.mpr fun _ _ => rfl
    unfold found
    rw [hall, length_map, length_take, (horder _).length_eq]
    omega
  have hfind : pass.findJobs .resultCandidates db = (.ok ((pass.found .resultCandidates db).map
      BackgroundJob.toReconciliationJob), db) := rfl
  have hvisits : sweep (pass.visit .resultCandidates) ((pass.found .resultCandidates db).map
      BackgroundJob.toReconciliationJob) db = (.ok 0, db) := by
    refine sweep_of_idle fun item hitem => ?_
    obtain ⟨job, hfound, rfl⟩ := mem_map.mp hitem
    obtain ⟨hjob, -⟩ := sees_of_mem_found horder hfound
    obtain ⟨answer, hanswer, hidle⟩ := hsettled job.id job hjob
    exact visit_result_idle hjob hanswer hidle
  unfold runScan
  rw [bind_of_ok hfind, bind_of_ok hvisits, hlength]
  show (Except.ok (_ + 0), db) = _
  rw [add_zero]

/-- **The rule of the second pass.** Where no scan sees a job and every result has
been looked at, the scans do nothing. -/
theorem runScans_idle (horder : pass.supply.Rearranges)
    (hbatch : db.backgroundJobs.rows.length ≤ pass.batchSize)
    (hquiet : ∀ scan : ReconciliationScan, scan ≠ .resultCandidates → pass.Quiet scan db)
    (hsettled : pass.Settled db) :
    pass.runScans db = (.ok (inspectedRows db.backgroundJobs.rows.length), db) := by
  have hidle : ∀ scan : ReconciliationScan, scan ≠ .resultCandidates →
      pass.runScan scan db = (.ok 0, db) := fun scan hscan => runScan_idle horder (hquiet scan hscan)
  have hresult := runScan_result_idle horder hbatch hsettled
  have hlast : sweep pass.runScan [] db = (.ok 0, db) := rfl
  have hscans := sweep_cons_of_ok (hidle .expired (by decide)) <|
    sweep_cons_of_ok (hidle .dueRetries (by decide)) <|
    sweep_cons_of_ok (hidle .strandedDelivery (by decide)) <|
    sweep_cons_of_ok (hidle .missingOutbox (by decide)) <| sweep_cons_of_ok hresult hlast
  unfold runScans
  rw [hscans]
  simp only [zero_add, add_zero]

private theorem runHooks_idle (hsettled : ∀ hook ∈ pass.cleanupDebtHooks,
    hook pass.batchSize pass.now db = (.ok [], db)) : pass.runHooks db = (.ok 0, db) := by
  unfold runHooks
  refine sweep_of_idle fun hook hmem => ?_
  unfold runHook
  rw [bind_of_ok (hsettled hook hmem), if_neg (by simp)]
  rfl

/-! ### Passes from options -/

section Options

variable {options : ReconcileBackgroundJobsOptions App} {supply supply' : ReconcilerSupply App}

theorem preparePass_spec (h : preparePass options supply = .ok pass) :
    pass.batchSize = (options.batchSize.getD defaultReconciliationBatchSize).toNat ∧
      pass.cleanupDebtHooks = options.cleanupDebtHooks ∧
      pass.inspectResult = options.inspectResult ∧ pass.now = options.now ∧
      pass.supply = supply ∧ 0 < pass.batchSize := by
  unfold preparePass at h
  split at h
  · cases h
  · dsimp only at h
    split at h
    · next hbatch =>
      cases h
      refine ⟨rfl, rfl, rfl, rfl, rfl, ?_⟩
      have hpositive := hbatch.1
      simp only [isPositiveInteger, Bool.and_eq_true, decide_eq_true_eq] at hpositive
      dsimp only
      omega
    · cases h

private theorem preparePass_supply :
    preparePass options supply' =
      (preparePass options supply).map fun pass => { pass with supply := supply' } := by
  unfold preparePass
  split
  · rfl
  · dsimp only
    split
    · rfl
    · rfl

/-- **A pass is not needed twice.** After a pass that has returned and whose scans
each matched no more rows than the batch size, a second pass at the same instant,
whatever order and identifiers it is supplied with, repairs nothing and flags
nothing, and leaves the database as it is. -/
theorem second_pass_changes_nothing (options : ReconcileBackgroundJobsOptions App)
    (supply supply' : ReconcilerSupply App) (db db' : Database App)
    (result : ReconcileBackgroundJobsResult) (horder : supply.Rearranges)
    (horder' : supply'.Rearranges) (hstable : StableInspector options.inspectResult)
    (hhooks : SettlingHooks options)
    (hbatch : ∀ scan : ReconciliationScan,
      ((db.backgroundJobs.rows.filter (scan.selects db options.now)).length : ℤ) ≤
        options.batchSize.getD defaultReconciliationBatchSize)
    (hpass : reconcileBackgroundJobs options supply db = (.ok result, db')) :
    reconcileBackgroundJobs options supply' db' =
      (.ok ⟨0, db.backgroundJobs.rows.length, 0⟩, db') := by
  unfold reconcileBackgroundJobs at hpass ⊢
  cases hprepare : preparePass options supply with
  | error error =>
    rw [hprepare] at hpass
    cases hpass
  | ok pass =>
    rw [hprepare] at hpass
    have hprepare' : preparePass options supply' = .ok { pass with supply := supply' } := by
      rw [preparePass_supply, hprepare]
      rfl
    rw [hprepare']
    obtain ⟨hsize, hhook, hinspect, -, hsupply, -⟩ := preparePass_spec hprepare
    rw [← hinspect] at hstable
    rw [← hsupply] at horder
    have hrows : db.backgroundJobs.rows.length ≤ pass.batchSize := by
      have hall : db.backgroundJobs.rows.filter (ReconciliationScan.selects db options.now
          .resultCandidates) = db.backgroundJobs.rows := filter_eq_self.mpr fun _ _ => rfl
      have hfits := hbatch .resultCandidates
      rw [hall] at hfits
      omega
    obtain ⟨scanned, t, hscans, hrest⟩ := ok_of_bind hpass
    obtain ⟨cleaned, t', hcleans, hend⟩ := ok_of_bind hrest
    obtain rfl : t' = db' := (Prod.mk.inj hend).2
    obtain ⟨hkeeps, hquiet, hsettled⟩ := (ensures_runScans horder hstable hrows).of_ok hscans
    have halike := (ensures_runHooks_alike hhooks.toKeepingHooks hstable hhook hinspect).of_ok hcleans
    have hidle := hhooks.settle pass hhook t cleaned t' hcleans
    have hlength : t'.backgroundJobs.rows.length = db.backgroundJobs.rows.length := by
      have hids := congrArg List.length hkeeps.ids
      rw [length_map, length_map] at hids
      rw [halike.backgroundJobs, hids]
    have hscans' : runScans { pass with supply := supply' } t' =
        (.ok (inspectedRows t'.backgroundJobs.rows.length), t') :=
      runScans_idle horder' (by rw [hlength]; exact hrows)
        (fun scan hscan => halike.quiet (hquiet scan hscan)) (halike.settled hsettled)
    have hcleans' : runHooks { pass with supply := supply' } t' = (.ok 0, t') :=
      runHooks_idle fun hook hmem => hidle hook (hhook ▸ hmem)
    dsimp only
    rw [bind_of_ok hscans', bind_of_ok hcleans', hlength]
    rfl

end Options

namespace Sample

def supply : ReconcilerSupply Bool where
  order rows := rows
  outboxId db := String.ofList ('o' :: db.jobOutbox.rows.flatMap fun row => row.id.toList)
  auditId db := String.ofList ('a' :: db.auditEvents.rows.flatMap fun event => event.id.toList)

/-- A pass at an instant, with a batch size. -/
def passAt (batchSize now : ℤ) : ReconcileBackgroundJobsOptions Bool where
  batchSize := some batchSize
  cleanupDebtHooks := []
  correlationId := correlationId
  inspectResult := callbacks.inspectResult
  now := now

theorem stableInspector : StableInspector callbacks.inspectResult := by
  intro db db' item item' _ _ hsame
  show some (if db'.app then JobResultInspection.present else .absent) = _
  rw [hsame.app]
  rfl

/-- Once the lease of the running job has expired, a first pass recovers it and a
second one has nothing left to do. -/
theorem running_recovered_once : ∃ db',
    reconcileBackgroundJobs (passAt 10 1000000) supply (after running).db =
        (.ok ⟨0, 2, 1⟩, db') ∧
      reconcileBackgroundJobs (passAt 10 1000000) supply db' = (.ok ⟨0, 1, 0⟩, db') := by
  have hresult : (reconcileBackgroundJobs (passAt 10 1000000) supply
      (after running).db).1.toOption = some ⟨0, 2, 1⟩ := by decide
  have hrows : (after running).db.backgroundJobs.rows.length = 1 := by decide
  have hpass : reconcileBackgroundJobs (passAt 10 1000000) supply (after running).db =
      (.ok ⟨0, 2, 1⟩, (reconcileBackgroundJobs (passAt 10 1000000) supply
        (after running).db).2) := by
    refine Prod.ext ?_ rfl
    cases hanswer : (reconcileBackgroundJobs (passAt 10 1000000) supply (after running).db).1 with
    | error error =>
      rw [hanswer] at hresult
      cases hresult
    | ok result =>
      rw [hanswer] at hresult
      exact congrArg Except.ok (Option.some.inj hresult)
  refine ⟨_, hpass, ?_⟩
  have hsecond := second_pass_changes_nothing (passAt 10 1000000) supply supply
    (after running).db _ _ (fun rows => List.Perm.refl rows) (fun rows => List.Perm.refl rows)
    stableInspector
    ⟨⟨fun _ habsurd => absurd habsurd not_mem_nil⟩,
      fun _ _ _ _ _ _ _ habsurd => absurd habsurd not_mem_nil⟩
    (fun scan => ?_) hpass
  · rw [hrows] at hsecond
    exact hsecond
  · have hfits := length_filter_le (scan.selects (after running).db (passAt 10 1000000).now)
      (after running).db.backgroundJobs.rows
    rw [hrows] at hfits
    show ((List.filter _ _).length : ℤ) ≤ 10
    omega

end Sample

end ContentAutomation
