import ContentAutomation.Jobs.Clock

/-!
# The age of a delivery

The reconciler scans for deliveries that are older than the queue can hold them, and
resets each of them later. The reset does not ask for the age again, so that the
age depends on what dispatchers do in between.
-/

namespace ContentAutomation

open Relational Transaction List

variable {App : Type} {environment : Environment App} {s t : System App} {event : Event App}
  {k : String}

/-- A reconciler comes to visit stranded deliveries from their scan, or from the visit of
one before them. -/
theorem ReconcilerPass.visiting_of_resume {pass : ReconcilerPass} {input : ReconcilerInput}
    {intent : Intent App} (hintent : pass.intent environment input = some intent)
    {result : Except JobError intent.answer} {pass' : ReconcilerPass}
    {pending : List ReconciliationJob} (hresume : intent.resume result = .reconciler pass')
    (hphase : pass'.phase = .visiting .strandedDelivery pending) :
    pass.phase = .scanning .strandedDelivery ∨
      ∃ job, pass.phase = .visiting .strandedDelivery (job :: pending) := by
  obtain ⟨correlationId, batchSize, now, phase⟩ := pass
  cases phase with
  | scanning scan =>
    cases hintent
    cases hresume
    cases result with
    | error error => cases hphase
    | ok found =>
      cases hphase
      exact .inl rfl
  | visiting scan before =>
    cases before with
    | nil =>
      cases hintent
      cases hresume
      cases scan <;> cases hphase
    | cons job before =>
      cases scan with
      | resultCandidates =>
        cases hintent
        cases hresume
        cases result with
        | error error => cases hphase
        | ok inspection =>
          simp only [afterInspection] at hphase
          split at hphase <;> cases hphase
      | strandedDelivery =>
        cases hintent
        cases hresume
        cases result with
        | error error => cases hphase
        | ok answer =>
          cases hphase
          exact .inr ⟨job, rfl⟩
      | expired | dueRetries | missingOutbox =>
        cases hintent
        cases hresume
        cases result <;> cases hphase
  | settlingResult job remedy before =>
    cases remedy with
    | flag reason | repair =>
      cases hintent
      cases hresume
      cases result <;> cases hphase
  | cleaning before =>
    cases before with
    | nil =>
      cases hintent
      cases hresume
      simp only [afterHook] at hphase
      split at hphase <;> cases hphase
    | cons outcome before =>
      cases hintent
      cases hresume
      cases result <;> cases hphase
  | failed error => cases hintent

/-- Only a reconciler goes on as a reconciler, with the clock that its pass started at. -/
theorem Process.reconciler_of_resume {process : Process App} {input : Input App}
    {intent : Intent App} (hintent : process.intent environment input = some intent)
    {result : Except JobError intent.answer} {pass' : ReconcilerPass}
    (hresume : intent.resume result = .reconciler pass') :
    ∃ pass input', process = .reconciler pass ∧ input = .reconciler input' ∧
      pass'.now = pass.now := by
  have hcontinues := (Process.proposes hintent).continues result
  rw [hresume] at hcontinues
  cases process with
  | reconciler pass =>
    cases input with
    | reconciler input =>
      obtain ⟨phase, rfl⟩ := hcontinues
      exact ⟨pass, input, rfl, rfl, rfl⟩
    | handler | callback | dispatcher => cases hintent
  | _ => cases hcontinues

/-- The machine's delivery record of a job was dispatched by an instant, if at all. -/
def JobView.DispatchedBy (view : JobView) (instant : ℤ) : Prop :=
  ∀ outbox dispatchedAt, view.outbox = some outbox → outbox.dispatchedAt = some dispatchedAt →
    dispatchedAt ≤ instant

/-- The rows that the scan for stranded deliveries returns were dispatched long ago. -/
theorem Database.dispatchedBy_of_selection {db : Database App} (hinv : db.Inv) {now : ℤ}
    {batchSize : ℕ} {chosen : List String}
    (hselection : db.isSelection (ReconciliationScan.strandedDelivery.selects db now) batchSize
      chosen) {job : ReconciliationJob} (hjob : job ∈ scannedJobs db chosen) :
    (db.view job.id).DispatchedBy (strandedBefore now) := by
  obtain ⟨id, hid, hrow⟩ := mem_filterMap.mp hjob
  obtain ⟨row, hfound, rfl⟩ := Option.map_eq_some_iff.mp hrow
  simp only [Database.isSelection, Bool.and_eq_true, all_eq_true] at hselection
  have hselects := hselection.1.2 id hid
  rw [hfound, Option.any_some] at hselects
  have hrowId : row.toReconciliationJob.id = id := Database.id_of_job? hfound
  obtain ⟨outbox, houtbox, hrelated, -⟩ := hinv.relatedOutbox hfound
  simp only [ReconciliationScan.selects, isDeliveredBy, hrelated, Bool.and_eq_true] at hselects
  rw [hrowId]
  intro summary dispatchedAt hsummary hdispatched
  have hview : (db.view id).outbox = some outbox.summary := by
    simp only [Database.view, houtbox, Option.map_some]
  obtain rfl : outbox.summary = summary := Option.mem_unique hview hsummary
  have hdispatched' : outbox.dispatchedAt = some dispatchedAt := hdispatched
  have hdue := hselects.2.2
  rw [hdispatched'] at hdue
  simpa [isDue] using hdue

namespace System

/-- A reconciler visits a delivery that was dispatched at an instant, and resets it. -/
def ResetsDelivery (s t : System App) (pid : ℕ) (k : String) (dispatchedAt : ℤ) : Prop :=
  ∃ pass job pending, s.processes pid = .reconciler pass ∧
    pass.phase = .visiting .strandedDelivery (job :: pending) ∧ job.id = k ∧
      (∃ outbox, s.db.outboxOf k = some outbox ∧ outbox.dispatchedAt = some dispatchedAt) ∧
        ∃ outbox, t.db.outboxOf k = some outbox ∧ outbox.dispatchedAt = none

/-- A reconciler has scanned the job as stranded and is yet to visit it. -/
def IsVisiting (s : System App) (k : String) : Prop :=
  ∃ pid pass pending, s.processes pid = .reconciler pass ∧
    pass.phase = .visiting .strandedDelivery pending ∧ k ∈ pending.map ReconciliationJob.id

/-- A dispatcher marks the delivery of a job as sent while a reconciler has scanned the
job as stranded and is yet to visit it. -/
def SendsVisited (s : System App) (event : Event App) : Prop :=
  ∃ pid pass input k, event = .advance pid (.dispatcher input) ∧
    s.processes pid = .dispatcher pass ∧ pass.Acts s.db input k .dispatch ∧ s.IsVisiting k

private theorem Inv.dispatchedBy (hinv : s.Inv) (hquiet : ¬ s.SendsVisited event)
    (hstep : Step environment s event t) (hvisiting : s.IsVisiting k) {instant : ℤ}
    (hold : (s.db.view k).DispatchedBy instant) : (t.db.view k).DispatchedBy instant := by
  intro outbox dispatchedAt houtbox hdispatched
  rcases hinv.acts hstep k with hsame | ⟨action, hacts, hmoves⟩
  · rw [hsame] at houtbox
    exact hold outbox dispatchedAt houtbox hdispatched
  · by_cases haction : action = .dispatch
    · subst haction
      cases event with
      | advance pid input =>
        obtain ⟨pass, input, hprocess, rfl, hdispatch⟩ := Process.of_acts_dispatch hacts
        exact absurd ⟨pid, pass, input, k, rfl, hprocess, hdispatch, hvisiting⟩ hquiet
      | command command => cases command <;> simp [System.Acts, Command.call, Call.Acts] at hacts
      | tick | write | spawn | crash => cases hacts
    · obtain ⟨before, hbefore, hthen⟩ := hmoves.dispatchedAt haction houtbox hdispatched
      exact hold before dispatchedAt hbefore hthen

private theorem of_start_reconciler {birth : Birth} {pass : ReconcilerPass}
    (hstart : s.start birth = some (.reconciler pass)) :
    pass.now = s.db.clock ∧ pass.phase = .scanning .expired := by
  cases birth with
  | reconcile correlationId batchSize =>
    simp only [start] at hstart
    split at hstart
    · cases hstart
    · split at hstart <;> cases hstart
      exact ⟨rfl, rfl⟩
  | deliver delivery =>
    simp only [start] at hstart
    split at hstart <;> cases hstart
  | callback owner kind calledAt =>
    simp only [start] at hstart
    split at hstart <;> cases hstart
  | dispatch batchSize failureDelayMs leaseDurationMs =>
    simp only [start] at hstart
    split at hstart <;> cases hstart

/-- The clock of a pass is not ahead, and the deliveries that it is yet to visit are old
enough. -/
def VisitsStranded (s : System App) : Prop :=
  ∀ pid pass, s.processes pid = .reconciler pass → pass.now ≤ s.db.clock ∧
    ∀ pending, pass.phase = .visiting .strandedDelivery pending → ∀ job ∈ pending,
      (s.db.view job.id).DispatchedBy (strandedBefore pass.now)

/-- **Step lemma.** Deliveries that are yet to be visited stay old as long as none of them
is sent anew. -/
theorem VisitsStranded.step (h : s.VisitsStranded) (hinv : s.Inv) (hquiet : ¬ s.SendsVisited event)
    (hstep : Step environment s event t) : t.VisitsStranded := by
  intro pid pass hprocess
  have hclock := hstep.clock_le
  have hmoves := hstep.processMoves pid
  generalize t.processes pid = process at hmoves hprocess
  cases hmoves with
  | crashes => cases hprocess
  | starts hunused hstart =>
    subst hprocess
    obtain ⟨hnow, hphase⟩ := of_start_reconciler hstart
    refine ⟨by omega, fun pending hpending => ?_⟩
    cases hphase.symm.trans hpending
  | stays =>
    obtain ⟨hnow, hvisits⟩ := h pid pass hprocess
    refine ⟨by omega, fun pending hphase job hjob => ?_⟩
    refine hinv.dispatchedBy hquiet hstep ?_ (hvisits pending hphase job hjob)
    exact ⟨pid, pass, pending, hprocess, hphase, mem_map_of_mem hjob⟩
  | @advances input intent _ hintent henabled hdb =>
    obtain ⟨before, input, hbefore, rfl, hsame⟩ := Process.reconciler_of_resume hintent hprocess
    obtain ⟨hnow, hvisits⟩ := h pid before hbefore
    refine ⟨by omega, fun pending hphase job hjob => ?_⟩
    rw [hsame]
    have hreconciler := hintent
    rw [hbefore] at hreconciler
    rcases ReconcilerPass.visiting_of_resume hreconciler hprocess hphase with
      hscanning | ⟨visited, hvisiting⟩
    · -- the scan has just selected the delivery
      obtain ⟨correlationId, batchSize, now, phase⟩ := before
      cases hscanning
      cases hreconciler
      cases hprocess
      cases hphase
      simp only [Call.isEnabled, Bool.and_eq_true] at henabled
      rw [hdb]
      exact Database.dispatchedBy_of_selection hinv.db henabled.2 hjob
    · refine hinv.dispatchedBy hquiet hstep ?_
        (hvisits _ hvisiting job (mem_cons_of_mem _ hjob))
      exact ⟨pid, before, _, hbefore, hvisiting,
        mem_map_of_mem (mem_cons_of_mem _ hjob)⟩

/-- **The age of a delivery.** In every run in which no dispatcher marks a delivery as sent
while a reconciler has scanned its job as stranded and is yet to visit it, the
reconciler resets a delivery only when its dispatch is as old as the queue can hold
it. -/
theorem resets_only_old_deliveries {clock : ℤ} {internalUsers : List InternalUser} {app : App}
    {history : List (System App × Event App)}
    (hrun : Transition.Run (Transition.Restricted (Step environment)
      fun s event => ¬ s.SendsVisited event) (initial clock internalUsers app) history s) :
    ∀ pid input t, Step environment s (.advance pid input) t → ∀ k dispatchedAt,
      s.ResetsDelivery t pid k dispatchedAt →
        dispatchedAt + queueDeliveryExpirySeconds * 1000 ≤ s.db.clock := by
  intro pid input t hstep k dispatchedAt hresets
  have hgood : s.Inv ∧ s.VisitsStranded := by
    refine Transition.Reachable.invariant (I := fun s => s.Inv ∧ s.VisitsStranded)
      ⟨history, hrun⟩ ⟨inv_initial clock internalUsers app, fun pid pass hprocess => ?_⟩ ?_
    · cases hprocess
    · intro s t event ⟨hinv, hvisits⟩ ⟨hquiet, hstep⟩
      exact ⟨hinv.step hstep, hvisits.step hinv hquiet hstep⟩
  obtain ⟨pass, job, pending, hprocess, hphase, rfl, ⟨outbox, houtbox, hdispatched⟩, -⟩ := hresets
  obtain ⟨hnow, hvisits⟩ := hgood.2 pid pass hprocess
  have hview : (s.db.view job.id).outbox = some outbox.summary := by
    simp only [Database.view, houtbox, Option.map_some]
  have hold : dispatchedAt ≤ strandedBefore pass.now :=
    hvisits _ hphase job mem_cons_self outbox.summary dispatchedAt hview hdispatched
  unfold strandedBefore at hold
  omega

end System

namespace Sample

/-- A dispatcher takes its next step with its first row. -/
def dispatching (pid : ℕ) (leaseId : String) : Event Bool :=
  .advance pid (.dispatcher ⟨[], leaseId, 0, .ok (leaseId ++ "-delivery")⟩)

/-- A dispatcher leases the row of the job, publishes it and marks it as sent. -/
def sent (pid : ℕ) (leaseId : String) : List (Event Bool) :=
  .spawn pid (.dispatch none none none) :: List.replicate 3 (dispatching pid leaseId)

/-- A reconciler scans the job as stranded. -/
def stranding (pid : ℕ) : List (Event Bool) :=
  .spawn pid (.reconcile correlationId none) :: scanned pid 2 ++ [reconciled pid [jobId] "scan"]

/-- The job is delivered, nothing happens for as long as the queue holds the delivery, and a
reconciler scans it. -/
def settled : List (Event Bool) :=
  enqueued :: sent 2 "outbox-lease" ++ .tick 900000 :: stranding 0

/-- A second reconciler scans and requeues the job, and a dispatcher sends it again. -/
def overlapping : List (Event Bool) :=
  settled ++ stranding 1 ++ reconciled 1 [] "first" :: sent 3 "second-lease"

/-- The jobs that a reconciler has scanned as stranded and is yet to visit. -/
def stranded? : Process Bool → Option (List String)
  | .reconciler ⟨_, _, _, .visiting .strandedDelivery pending⟩ =>
    some (pending.map ReconciliationJob.id)
  | _ => none

private theorem exists_of_stranded? {process : Process Bool} {ids : List String}
    (h : stranded? process = some ids) : ∃ pass pending, process = .reconciler pass ∧
      pass.phase = .visiting .strandedDelivery pending ∧ pending.map ReconciliationJob.id = ids := by
  unfold stranded? at h
  split at h
  · next pending => exact ⟨_, pending, rfl, rfl, Option.some.inj h⟩
  · cases h

/-- A reconciler that visits the job and leaves its delivery unsent has reset it. -/
theorem resets_of_states {s t : System Bool} {pid : ℕ} {dispatchedAt : ℤ}
    (hstranded : stranded? (s.processes pid) = some [jobId])
    (hbefore : (s.db.outboxOf jobId).map JobOutbox.dispatchedAt = some (some dispatchedAt))
    (hafter : (t.db.outboxOf jobId).map JobOutbox.dispatchedAt = some none) :
    s.ResetsDelivery t pid jobId dispatchedAt := by
  obtain ⟨pass, pending, hprocess, hphase, hids⟩ := exists_of_stranded? hstranded
  obtain ⟨job, rfl, hid⟩ := map_eq_singleton_iff.mp hids
  exact ⟨pass, job, [], hprocess, hphase, hid, Option.map_eq_some_iff.mp hbefore,
    Option.map_eq_some_iff.mp hafter⟩

/-- The event starts a process only under one of the identifiers. -/
def spawnsAmong (pids : List ℕ) : Event Bool → Bool
  | .spawn pid _ => pids.contains pid
  | _ => true

/-- A process that no event starts does nothing. -/
theorem idle_of_not_spawned {pids : List ℕ} {s : System Bool}
    (hrun : Transition.Reachable (Transition.Restricted (System.Step callbacks)
      fun _ event => spawnsAmong pids event) initial s) {pid : ℕ} (hpid : pid ∉ pids) :
    s.processes pid = .unused ∨ s.processes pid = .crashed := by
  refine hrun.invariant (I := fun s => s.processes pid = .unused ∨ s.processes pid = .crashed)
    (.inl rfl) ?_
  intro s t event hidle ⟨hspawns, hstep⟩
  have hmoves := hstep.processMoves pid
  generalize t.processes pid = process at hmoves
  cases hmoves with
  | stays => exact hidle
  | crashes => exact .inr rfl
  | starts =>
    have hmem : pid ∈ pids := by simpa [spawnsAmong] using hspawns
    exact absurd hmem hpid
  | @advances input intent _ hintent =>
    rcases hidle with hunused | hcrashed
    · rw [hunused] at hintent
      cases input <;> cases hintent
    · rw [hcrashed] at hintent
      cases input <;> cases hintent

/-- The next step of a process may mark a delivery as sent. -/
def marks : Process Bool → Bool
  | .dispatcher ⟨_, _, _, _, .dispatching records⟩ => records.any fun entry =>
    match entry.2 with
    | .marking _ => true
    | _ => false
  | _ => false

private theorem marks_of_acts {pass : DispatcherPass} {db : Database Bool} {input : DispatcherInput}
    {k : String} (h : pass.Acts db input k .dispatch) : marks (.dispatcher pass) := by
  obtain ⟨records, record, deliveryId, hphase, hrecord, -⟩ := h
  obtain ⟨batchSize, failureDelayMs, leaseDurationMs, now, phase⟩ := pass
  cases hphase
  simp only [marks, any_eq_true]
  exact ⟨_, mem_of_getElem? hrecord, rfl⟩

/-- The delivery that has settled is reset, and old enough. -/
theorem settled_resets : ∃ t, System.Step callbacks (after settled) (reconciled 0 [] "reset") t ∧
    (after settled).ResetsDelivery t 0 jobId 0 ∧
      0 + queueDeliveryExpirySeconds * 1000 ≤ (after settled).db.clock := by
  have hafter : (((after settled).step callbacks (reconciled 0 [] "reset")).bind fun t =>
      (t.db.outboxOf jobId).map JobOutbox.dispatchedAt) = some none := by
    decide
  obtain ⟨t, hstep, hreset⟩ := Option.bind_eq_some_iff.mp hafter
  have hresets : (after settled).ResetsDelivery t 0 jobId 0 :=
    resets_of_states (by decide) (by decide) hreset
  have hspawns : ∀ visited ∈ (run settled).1, spawnsAmong [0, 2] visited.2 = true := by
    decide
  -- while a delivery is marked as sent, the reconciler has not started
  have hmarks : ∀ visited ∈ (run settled).1, ∀ pid ∈ [0, 2], ∀ other ∈ [0, 2],
      marks (visited.1.processes pid) = true → stranded? (visited.1.processes other) = none := by
    decide
  have hquiet : ∀ visited ∈ (run settled).1, ¬ visited.1.SendsVisited visited.2 := by
    rintro visited hvisited ⟨pid, pass, input, k, -, hdispatcher, hacts, other, reconciler, pending,
      hreconciler, hphase, -⟩
    have hrun : Transition.Run (Transition.Restricted (System.Step callbacks) fun _ event =>
        spawnsAmong [0, 2] event = true) _ _ _ := (run_run settled).restricted hspawns
    obtain ⟨hreach, -⟩ := hrun.mem_history hvisited
    have hpid : pid ∈ [0, 2] := by
      by_contra hnot
      rcases idle_of_not_spawned hreach hnot with hidle | hidle <;> cases hdispatcher.symm.trans hidle
    have hother : other ∈ [0, 2] := by
      by_contra hnot
      rcases idle_of_not_spawned hreach hnot with hidle | hidle <;> cases hreconciler.symm.trans hidle
    have hmark : marks (visited.1.processes pid) = true := by
      rw [hdispatcher]
      exact marks_of_acts hacts
    have hnone := hmarks visited hvisited pid hpid other hother hmark
    obtain ⟨correlationId, batchSize, now, phase⟩ := reconciler
    cases hphase
    rw [hreconciler] at hnone
    cases hnone
  exact ⟨t, hstep, hresets, System.resets_only_old_deliveries
    ((run_run settled).restricted hquiet) 0 _ t hstep jobId 0 hresets⟩

/-- **A fresh delivery is reset.** The first reconciler resets the delivery that the
dispatcher has just sent again. -/
theorem overlapping_resets :
    Transition.Run (System.Step callbacks) initial (run overlapping).1 (after overlapping) ∧
      ∃ t, System.Step callbacks (after overlapping) (reconciled 0 [] "second") t ∧
        (after overlapping).ResetsDelivery t 0 jobId 900000 ∧
          ¬ 900000 + queueDeliveryExpirySeconds * 1000 ≤ (after overlapping).db.clock := by
  refine ⟨run_run overlapping, ?_⟩
  have hafter : (((after overlapping).step callbacks (reconciled 0 [] "second")).bind fun t =>
      (t.db.outboxOf jobId).map JobOutbox.dispatchedAt) = some none := by
    decide
  obtain ⟨t, hstep, hreset⟩ := Option.bind_eq_some_iff.mp hafter
  refine ⟨t, hstep, resets_of_states ?_ ?_ hreset, ?_⟩
  · decide
  · decide
  · decide

end Sample

end ContentAutomation
