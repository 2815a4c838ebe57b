import ContentAutomation.Uploads.CallRules

/-!
# Objects without a row

Which objects of an upload are referred to by an asset once no process is running.
Objects never go away again; one that a process has had made is owed by this process until
its asset is created. Where a process stops, gives up or is overtaken before that, the
object stays behind.
-/

namespace ContentAutomation

open Relational Transaction UploadProcess UploadWorld List Function

/-! ### The invariant of every run -/

namespace UploadSystem

variable {maxBytes : ℕ} {s t : UploadSystem} {event : UploadEvent} {pid : ℕ}
  {process' process : UploadProcess} {row : VideoUploadIntent}

/-- What holds in every run: what processes have read is in the tables, an asset belongs
to a completed intent, and of a closed intent one process at most is to create it. -/
structure Inv (s : UploadSystem) : Prop where
  read : ∀ pid context intent, (s.processes pid).intent? = some (context, intent) →
    ∃ row ∈ s.world.intents.rows, row.id = intent.id ∧
      row.workspaceId = context.workspaceId ∧ row.objectKey = intent.objectKey
  stored : ∀ pid request intent object, s.processes pid = .stored request intent object →
    s.world.store.Holds intent.objectKey
  assets : ∀ asset ∈ s.world.assets.rows, ∃ row ∈ s.world.intents.rows,
    asset.uploadIntentId = some row.id ∧ asset.objectKey = row.objectKey ∧
      row.state = .completed
  closed : ∀ pid request intent object, s.processes pid = .closed request intent object →
    (∃ row ∈ s.world.intents.rows, row.id = intent.id ∧ row.state = .completed) ∧
      ∀ asset ∈ s.world.assets.rows, asset.uploadIntentId ≠ some intent.id
  once : ∀ pid pid' request request' intent intent' object object',
    s.processes pid = .closed request intent object →
      s.processes pid' = .closed request' intent' object' → intent.id = intent'.id → pid = pid'

/-- A step of the system: of a process, a reservation, or one that changes no row, no
object and at most one process, which then owes nothing and has read nothing. -/
theorem Step.cases (hstep : s.Step maxBytes event t) :
    (∃ pid choice world' process', event = .advance pid choice ∧
      Advances maxBytes choice s.world (s.processes pid) world' process' ∧
      (∀ asset ∈ s.world.assets.rows, asset.id ≠ choice.assetId) ∧
      t.world = world' ∧ t.processes = update s.processes pid process') ∨
    (∃ intent, event = .initiate intent ∧ intent.state = .pending ∧
      ¬ s.world.store.Holds intent.objectKey ∧
      t.world.intents.rows = s.world.intents.rows ++ [intent] ∧
      t.world.assets = s.world.assets ∧
      t.world.store.objects = s.world.store.objects ∧ t.processes = s.processes) ∨
    (s.world.Same t.world ∧ (t.processes = s.processes ∨
      ∃ pid process', t.processes = update s.processes pid process' ∧
        process'.owes = false ∧ process'.intent? = none ∧
        ((s.processes pid).owes → event = .crash pid))) := by
  have hbegin : ∀ {pid process}, s.begin pid process = some t → process.owes = false →
      process.intent? = none → s.world.Same t.world ∧ (t.processes = s.processes ∨
        ∃ pid process', t.processes = update s.processes pid process' ∧
          process'.owes = false ∧ process'.intent? = none ∧
          ((s.processes pid).owes = true → event = .crash pid)) := by
    intro pid process h howes hintent
    unfold begin at h
    split at h
    · next hidle =>
      cases h
      refine ⟨.refl, .inr ⟨pid, process, rfl, howes, hintent, fun hheld => ?_⟩⟩
      rw [hidle] at hheld
      cases hheld
    · cases h
  unfold Step UploadSystem.next at hstep
  cases event with
  | tick elapsed =>
    cases hstep
    exact .inr (.inr ⟨⟨rfl, rfl, rfl⟩, .inl rfl⟩)
  | sweep limit =>
    cases hstep
    exact .inr (.inr ⟨.refl, .inl rfl⟩)
  | complete pid request => exact .inr (.inr (hbegin hstep rfl rfl))
  | abort pid context intentId => exact .inr (.inr (hbegin hstep rfl rfl))
  | cleanup pid context intentId =>
    dsimp only at hstep
    split at hstep
    · exact .inr (.inr (hbegin hstep rfl rfl))
    · cases hstep
  | crash pid =>
    dsimp only at hstep
    split at hstep
    · cases hstep
      exact .inr (.inr ⟨.refl, .inr ⟨pid, _, rfl, rfl, rfl, fun _ => rfl⟩⟩)
    · cases hstep
  | initiate intent =>
    dsimp only [reserve] at hstep
    split at hstep
    · next hnew =>
      obtain ⟨hpending, hfree⟩ := hnew
      split at hstep
      · next intents hcreate =>
        cases hstep
        refine .inr (.inl ⟨intent, rfl, hpending, ?_, Table.create_eq_ok.mp hcreate, rfl, rfl,
          rfl⟩)
        rintro ⟨object, hmem⟩
        have hother := all_eq_true.mp hfree _ hmem
        simp at hother
      · cases hstep
    · cases hstep
  | advance pid choice =>
    dsimp only at hstep
    split at hstep
    · next hrunning =>
      cases hstep
      refine .inl ⟨pid, choice, _, _, rfl, advances (s.processes pid), ?_, rfl, rfl⟩
      intro asset hasset
      have hfresh := all_eq_true.mp hrunning.2 asset hasset
      simpa using hfresh
    · cases hstep

theorem inv_start (db : Database WorkerTables) : (start db).Inv := by
  constructor
  · intro pid context intent h
    cases h
  · intro pid request intent object h
    cases h
  · intro asset hasset
    cases hasset
  · intro pid request intent object h
    cases h
  · intro pid pid' request request' intent intent' object object' h
    cases h

private theorem process_cases {other : ℕ} (h : update s.processes pid process' other = process) :
    other = pid ∧ process' = process ∨ other ≠ pid ∧ s.processes other = process := by
  by_cases hother : other = pid
  · left
    rw [hother, update_self] at h
    exact ⟨hother, h⟩
  · right
    rw [update_of_ne hother] at h
    exact ⟨hother, h⟩

private theorem process_intent?_cases {other : ℕ} {read : WorkspaceContext × VideoUploadIntent}
    (h : (update s.processes pid process' other).intent? = some read) :
    other = pid ∧ process'.intent? = some read ∨
      other ≠ pid ∧ (s.processes other).intent? = some read := by
  by_cases hother : other = pid
  · left
    rw [hother, update_self] at h
    exact ⟨hother, h⟩
  · right
    rw [update_of_ne hother] at h
    exact ⟨hother, h⟩

private theorem Inv.row_of_closed (h : s.Inv) {request : CompletionRequest}
    {intent : VideoUploadIntent} {object : StoredObject}
    (hprocess : s.processes pid = .closed request intent object) :
    ∃ row ∈ s.world.intents.rows, row.id = intent.id ∧ row.objectKey = intent.objectKey ∧
      row.state = .completed := by
  have hread : (s.processes pid).intent? = some (request.context, intent) := by
    rw [hprocess]
    rfl
  obtain ⟨row, hrow, hid, -, hkey⟩ := h.read pid request.context intent hread
  obtain ⟨row', hrow', hid', hstate⟩ := (h.closed pid request intent object hprocess).1
  have hsame := intent_eq_of_id hrow hrow' (hid.trans hid'.symm)
  rw [← hsame] at hstate
  exact ⟨row, hrow, hid, hkey, hstate⟩

/-- The table accepts the asset of a closed intent. -/
theorem Inv.create_accepts (h : s.Inv) {request : CompletionRequest}
    {intent : VideoUploadIntent} {object : StoredObject} {assetId : String}
    (hprocess : s.processes pid = .closed request intent object)
    (hfresh : ∀ asset ∈ s.world.assets.rows, asset.id ≠ assetId) (violation : Violation) :
    s.world.assets.create (uploadedAsset request intent object assetId) ≠ .error violation := by
  intro hrefused
  cases violation with
  | check constraint =>
    have hfailed := Table.create_check hrefused
    have hpassed : videoAssetSchema.failedCheck (uploadedAsset request intent object assetId) =
        none := rfl
    rw [hpassed] at hfailed
    cases hfailed
  | unique index =>
    obtain ⟨other, hother, hcollides⟩ := Table.exists_collision_of_create hrefused
    refine hcollides (Schema.collision_eq_none.mpr ?_)
    have hintent := (h.closed pid request intent object hprocess).2 other hother
    have hkey : other.objectKey ≠ intent.objectKey := by
      obtain ⟨row, hrow, hid, hrowkey, -⟩ := h.row_of_closed hprocess
      obtain ⟨row', hrow', hupload, hkey', -⟩ := h.assets other hother
      intro hsame
      have heq := intent_eq_of_objectKey hrow' hrow (hkey'.symm.trans (hsame.trans hrowkey.symm))
      rw [hupload, heq, hid] at hintent
      exact hintent rfl
    simp only [videoAssetSchema, uploadedAsset, mem_cons, not_mem_nil, or_false,
      forall_eq_or_imp, forall_eq, beq_eq_false_iff_ne, Bool.and_eq_false_iff]
    refine ⟨hfresh other hother, .inr hintent, ?_, hkey⟩
    cases hjob : other.importJobId with
    | none => exact .inl (.inl rfl)
    | some importJobId => exact .inr (by simp)

/-- The invariant along a step of a process. -/
theorem Inv.advance (h : s.Inv) {choice : UploadChoice}
    (hadvance : Advances maxBytes choice s.world (s.processes pid) t.world process')
    (hprocesses : t.processes = update s.processes pid process') : t.Inv := by
  obtain ⟨world', cleanupJobs, processes'⟩ := t
  subst hprocesses
  have hevolves := hadvance.evolves
  have hkept : ∀ {context : WorkspaceContext} {intent : VideoUploadIntent},
      (∃ row ∈ s.world.intents.rows, row.id = intent.id ∧
        row.workspaceId = context.workspaceId ∧ row.objectKey = intent.objectKey) →
      ∃ row ∈ world'.intents.rows, row.id = intent.id ∧
        row.workspaceId = context.workspaceId ∧ row.objectKey = intent.objectKey := by
    rintro context intent ⟨row, hrow, hid, hworkspace, hkey⟩
    obtain ⟨row', hrow', hid', hworkspace', hkey', -⟩ := hevolves row hrow
    exact ⟨row', hrow', hid'.trans hid, hworkspace'.trans hworkspace, hkey'.trans hkey⟩
  have hcompleted : ∀ {intentId : String},
      (∃ row ∈ s.world.intents.rows, row.id = intentId ∧ row.state = .completed) →
      ∃ row ∈ world'.intents.rows, row.id = intentId ∧ row.state = .completed := by
    rintro intentId ⟨row, hrow, hid, hstate⟩
    obtain ⟨row', hrow', hid', -, -, hstate'⟩ := hevolves row hrow
    exact ⟨row', hrow', hid'.trans hid, hstate' hstate⟩
  have hassets : ∀ asset ∈ s.world.assets.rows, ∃ row ∈ world'.intents.rows,
      asset.uploadIntentId = some row.id ∧ asset.objectKey = row.objectKey ∧
        row.state = .completed := by
    intro asset hasset
    obtain ⟨row, hrow, hupload, hkey, hstate⟩ := h.assets asset hasset
    obtain ⟨row', hrow', hid', -, hkey', hstate'⟩ := hevolves row hrow
    refine ⟨row', hrow', ?_, hkey.trans hkey'.symm, hstate' hstate⟩
    rw [hid']
    exact hupload
  constructor
  · intro other context intent hread
    rcases process_intent?_cases hread with ⟨rfl, hnext⟩ | ⟨-, hsame⟩
    · rcases hadvance.intent?_cases hnext with hold | ⟨hmem, hworkspace⟩
      · exact hkept (h.read other context intent hold)
      · exact hkept ⟨intent, hmem, rfl, hworkspace, rfl⟩
    · exact hkept (h.read other context intent hsame)
  · intro other request intent object hprocess
    rcases process_cases hprocess with ⟨-, hnext⟩ | ⟨-, hsame⟩
    · obtain ⟨-, -, -, -, -, hobjects⟩ := hadvance.stored_cases hnext
      exact (holds_of_made hobjects).mpr (.inl rfl)
    · exact hadvance.holds (h.stored other request intent object hsame)
  · intro asset hasset
    rcases hadvance.assets_cases with hsame | ⟨request, intent, object, hclosed, hrows⟩
    · exact hassets asset (hsame ▸ hasset)
    · have hasset' : asset ∈ world'.assets.rows := hasset
      rw [hrows] at hasset'
      rcases mem_append.mp hasset' with hold | hnew
      · exact hassets asset hold
      · rw [mem_singleton.mp hnew]
        obtain ⟨row, hrow, hid, hkey, hstate⟩ := h.row_of_closed hclosed
        obtain ⟨row', hrow', hid', -, hkey', hstate'⟩ := hevolves row hrow
        refine ⟨row', hrow', ?_, (hkey'.trans hkey).symm, hstate' hstate⟩
        rw [hid', hid]
        rfl
  · intro other request intent object hprocess
    rcases process_cases hprocess with ⟨-, hnext⟩ | ⟨hother, hsame⟩
    · obtain ⟨-, ⟨row, hrow, hopen⟩, hcloses, hsameAssets⟩ := hadvance.closed_cases hnext
      obtain ⟨hid, hpending, -⟩ := pending_of_isOpenIntent hopen
      constructor
      · obtain ⟨row', hrow', hid', -, -, hstate⟩ := hcloses.row hrow
        rw [if_pos hopen] at hstate
        exact ⟨row', hrow', hid'.trans hid, hstate⟩
      · intro asset hasset hupload
        obtain ⟨row', hrow', hupload', -, hstate⟩ := h.assets asset (hsameAssets ▸ hasset)
        rw [hupload] at hupload'
        have hsame := intent_eq_of_id hrow hrow' (hid.trans (Option.some.inj hupload'))
        rw [hsame, hstate] at hpending
        cases hpending
    · obtain ⟨hrow, hnone⟩ := h.closed other request intent object hsame
      refine ⟨hcompleted hrow, fun asset hasset hupload => ?_⟩
      rcases hadvance.assets_cases with hsameAssets | ⟨request', intent', object', hclosed, hrows⟩
      · exact hnone asset (hsameAssets ▸ hasset) hupload
      · have hasset' : asset ∈ world'.assets.rows := hasset
        rw [hrows] at hasset'
        rcases mem_append.mp hasset' with hold | hnew
        · exact hnone asset hold hupload
        · rw [mem_singleton.mp hnew] at hupload
          refine hother (h.once other pid request request' intent intent' object object' hsame
            hclosed ?_)
          exact (Option.some.inj hupload).symm
  · intro first second request request' intent intent' object object' hfirst hsecond hid
    have hclash : ∀ {other request request' intent intent' object object'},
        process' = .closed request intent object →
        s.processes other = .closed request' intent' object' → intent.id = intent'.id →
        False := by
      intro other request request' intent intent' object object' hnext hother hid
      obtain ⟨-, ⟨row, hrow, hopen⟩, -, -⟩ := hadvance.closed_cases hnext
      obtain ⟨hrowid, hpending, -⟩ := pending_of_isOpenIntent hopen
      obtain ⟨row', hrow', hrowid', hstate⟩ := (h.closed other request' intent' object' hother).1
      have hsame := intent_eq_of_id hrow hrow' (hrowid.trans (hid.trans hrowid'.symm))
      rw [hsame, hstate] at hpending
      cases hpending
    rcases process_cases hfirst with ⟨hpid, hnext⟩ | ⟨-, hsame⟩
    · rcases process_cases hsecond with ⟨hpid', -⟩ | ⟨-, hsame'⟩
      · exact hpid.trans hpid'.symm
      · exact (hclash hnext hsame' hid).elim
    · rcases process_cases hsecond with ⟨-, hnext'⟩ | ⟨-, hsame'⟩
      · exact (hclash hnext' hsame hid.symm).elim
      · exact h.once first second request request' intent intent' object object' hsame hsame' hid

/-- The invariant where intents may be added and processes may begin or end. -/
theorem Inv.carry (h : s.Inv) (hevolves : s.world.Evolves t.world)
    (hassets : t.world.assets = s.world.assets)
    (hobjects : t.world.store.objects = s.world.store.objects)
    (hprocesses : ∀ pid, t.processes pid = s.processes pid ∨
      (t.processes pid).owes = false ∧ (t.processes pid).intent? = none) : t.Inv := by
  have hold : ∀ {pid process}, t.processes pid = process → process.owes = true →
      s.processes pid = process := by
    intro pid process hprocess howes
    rcases hprocesses pid with hsame | ⟨hunowed, -⟩
    · exact hsame.symm.trans hprocess
    · rw [hprocess, howes] at hunowed
      cases hunowed
  constructor
  · intro pid context intent hread
    rcases hprocesses pid with hsame | ⟨-, hunread⟩
    · rw [hsame] at hread
      obtain ⟨row, hrow, hid, hworkspace, hkey⟩ := h.read pid context intent hread
      obtain ⟨row', hrow', hid', hworkspace', hkey', -⟩ := hevolves row hrow
      exact ⟨row', hrow', hid'.trans hid, hworkspace'.trans hworkspace, hkey'.trans hkey⟩
    · rw [hunread] at hread
      cases hread
  · intro pid request intent object hprocess
    unfold ObjectStore.Holds
    rw [hobjects]
    exact h.stored pid request intent object (hold hprocess rfl)
  · intro asset hasset
    rw [hassets] at hasset
    obtain ⟨row, hrow, hupload, hkey, hstate⟩ := h.assets asset hasset
    obtain ⟨row', hrow', hid', -, hkey', hstate'⟩ := hevolves row hrow
    refine ⟨row', hrow', ?_, hkey.trans hkey'.symm, hstate' hstate⟩
    rw [hid']
    exact hupload
  · intro pid request intent object hprocess
    rw [hassets]
    obtain ⟨⟨row, hrow, hid, hstate⟩, hnone⟩ :=
      h.closed pid request intent object (hold hprocess rfl)
    obtain ⟨row', hrow', hid', -, -, hstate'⟩ := hevolves row hrow
    exact ⟨⟨row', hrow', hid'.trans hid, hstate' hstate⟩, hnone⟩
  · intro pid pid' request request' intent intent' object object' hprocess hprocess'
    exact h.once pid pid' request request' intent intent' object object' (hold hprocess rfl)
      (hold hprocess' rfl)

private theorem evolves_of_append {intent : VideoUploadIntent}
    (h : t.world.intents.rows = s.world.intents.rows ++ [intent]) : s.world.Evolves t.world := by
  intro row hrow
  refine ⟨row, ?_, rfl, rfl, rfl, id⟩
  rw [h]
  exact mem_append_left _ hrow

/-- **The step rule of the invariant.** -/
theorem Inv.step (h : s.Inv) (hstep : s.Step maxBytes event t) : t.Inv := by
  rcases hstep.cases with ⟨pid, choice, world', process', -, hadvance, -, rfl, hprocesses⟩ |
    ⟨intent, -, -, -, hintents, hassets, hobjects, hprocesses⟩ | ⟨hsame, hprocesses⟩
  · exact h.advance hadvance hprocesses
  · exact h.carry (evolves_of_append hintents) hassets hobjects fun pid =>
      .inl (congrFun hprocesses pid)
  · refine h.carry (evolves_of_eq hsame.intents) hsame.assets hsame.objects fun other => ?_
    rcases hprocesses with hunmoved | ⟨pid, process', hmoved, howes, hunread, -⟩
    · exact .inl (congrFun hunmoved other)
    · rw [hmoved]
      by_cases hother : other = pid
      · rw [hother, update_self]
        exact .inr ⟨howes, hunread⟩
      · rw [update_of_ne hother]
        exact .inl rfl

theorem inv_of_reachable {db : Database WorkerTables}
    (h : Transition.Reachable (Step maxBytes) (start db) t) : t.Inv := by
  refine h.invariant (inv_start db) ?_
  intro t u event hinv hstep
  exact hinv.step hstep

/-- **Objects never go away.** No step removes an object, or the intent under whose key
it is. -/
theorem Step.persists (hstep : s.Step maxBytes event t) :
    s.world.Evolves t.world ∧
      ∀ objectKey, s.world.store.Holds objectKey → t.world.store.Holds objectKey := by
  have hsame : t.world.store.objects = s.world.store.objects → ∀ objectKey,
      s.world.store.Holds objectKey → t.world.store.Holds objectKey := by
    intro hobjects objectKey hholds
    unfold ObjectStore.Holds
    rwa [hobjects]
  rcases hstep.cases with ⟨pid, choice, world', process', -, hadvance, -, rfl, -⟩ |
    ⟨intent, -, -, -, hintents, -, hobjects, -⟩ | ⟨hquiet, -⟩
  · exact ⟨hadvance.evolves, fun _ hholds => hadvance.holds hholds⟩
  · exact ⟨evolves_of_append hintents, hsame hobjects⟩
  · exact ⟨evolves_of_eq hquiet.intents, hsame hquiet.objects⟩

private theorem holds_of_reachable (h : Transition.Reachable (Step maxBytes) s t)
    {objectKey : String}
    (hholds : s.world.store.Holds objectKey) : t.world.store.Holds objectKey := by
  refine h.invariant (I := fun t => t.world.store.Holds objectKey) hholds ?_
  intro t u event ih hstep
  exact hstep.persists.2 objectKey ih

private theorem accounted_iff_owned : s.Accounted maxBytes ↔ ∀ intent ∈ s.world.intents.rows,
    s.world.store.Holds intent.objectKey → s.Referenced intent.objectKey := by
  constructor
  · intro h intent hintent hholds
    rcases h intent hintent hholds with hreferenced | ⟨-, later, hlater, hgone⟩
    · exact hreferenced
    · exact absurd (holds_of_reachable hlater hholds) hgone
  · intro h intent hintent hholds
    exact .inl (h intent hintent hholds)

/-! ### Runs that leave no object behind -/

/-- The object is what was admitted, within the bound, and its intent can be closed. -/
def Admits (maxBytes : ℕ) (s : UploadSystem) (request : CompletionRequest)
    (intent : VideoUploadIntent) (object : StoredObject) : Prop :=
  object.bytes = intent.declaredBytes ∧ object.bytes ≤ maxBytes ∧
    ∃ row ∈ s.world.intents.rows, isOpenIntent request.context intent.id row = true

/-- The intent that is closed as aborted or expired has no object, or is closed already. -/
def ClosesSafely (s : UploadSystem) (context : WorkspaceContext) (intent : VideoUploadIntent) :
    Prop :=
  s.world.store.Holds intent.objectKey →
    ∀ row ∈ s.world.intents.rows, isOpenIntent context intent.id row = false

/-- The next call of a process leaves no object behind: a provider that makes an object
says so, and the object is what was admitted; and nobody closes an intent as aborted or
expired when its object is there. -/
def CarefulCall (maxBytes : ℕ) (s : UploadSystem) (choice : UploadChoice) : UploadProcess → Prop
  | .storing request intent =>
    ⟨intent.objectKey, intent.providerUploadId⟩ ∈ s.world.store.uploads →
      match choice.answer with
      | .observed object => s.Admits maxBytes request intent object
      | .unobserved _ => False
      | .failed => True
  | .mismatched request intent => s.ClosesSafely request.context intent
  | .closingAborted context intent => s.ClosesSafely context intent
  | .closingExpired context intent => s.ClosesSafely context intent
  | _ => True

/-- The steps that leave no object behind: careful calls, and no process stops while it
owes an object. -/
def Careful (maxBytes : ℕ) (s : UploadSystem) : UploadEvent → Prop
  | .advance pid choice => s.CarefulCall maxBytes choice (s.processes pid)
  | .crash pid => (s.processes pid).owes = false
  | _ => True

private theorem CarefulCall.closesSafely {choice : UploadChoice}
    (h : s.CarefulCall maxBytes choice process)
    (hcloses : process.closes) {context : WorkspaceContext} {intent : VideoUploadIntent}
    (hread : process.intent? = some (context, intent)) : s.ClosesSafely context intent := by
  cases process with
  | mismatched | closingAborted | closingExpired =>
    cases hread
    exact h
  | _ => cases hcloses

/-- The process will create the asset of the intent: it holds the object and will close
the intent, or it has closed it. -/
def OwesFor (maxBytes : ℕ) (row : VideoUploadIntent) : UploadProcess → Prop
  | .stored request intent object => row.state = .pending ∧ intent.id = row.id ∧
    request.context.workspaceId = row.workspaceId ∧ object.bytes = intent.declaredBytes ∧
      object.bytes ≤ maxBytes
  | .closed _ intent _ => intent.id = row.id
  | _ => False

/-- The object under the key of an intent is that of an asset, or a process owes it. -/
def Owed (maxBytes : ℕ) (s : UploadSystem) (row : VideoUploadIntent) : Prop :=
  s.Referenced row.objectKey ∨ ∃ pid, OwesFor maxBytes row (s.processes pid)

/-- Every object under the key of an intent is owed. -/
def Covered (maxBytes : ℕ) (s : UploadSystem) : Prop :=
  ∀ row ∈ s.world.intents.rows, s.world.store.Holds row.objectKey → s.Owed maxBytes row

private theorem owes_of_owesFor (h : OwesFor maxBytes row process) : process.owes := by
  cases process <;> first | rfl | cases h

theorem Owed.carry (h : s.Owed maxBytes row)
    (hassets : ∀ asset ∈ s.world.assets.rows, asset ∈ t.world.assets.rows)
    (hprocesses : ∀ pid, OwesFor maxBytes row (s.processes pid) →
      t.processes pid = s.processes pid) : t.Owed maxBytes row := by
  rcases h with ⟨asset, hasset, hkey⟩ | ⟨pid, howes⟩
  · exact .inl ⟨asset, hassets asset hasset, hkey⟩
  · refine .inr ⟨pid, ?_⟩
    rw [hprocesses pid howes]
    exact howes

/-- The intent under whose key a process has an object made, is the open one. -/
theorem Inv.row_eq_of_open (h : s.Inv) {context : WorkspaceContext}
    {intent : VideoUploadIntent} (hread : (s.processes pid).intent? = some (context, intent))
    (hrow : row ∈ s.world.intents.rows) (hopen : isOpenIntent context intent.id row) :
    row.objectKey = intent.objectKey := by
  obtain ⟨row', hrow', hid', -, hkey'⟩ := h.read pid context intent hread
  have hid := (pending_of_isOpenIntent hopen).1
  rw [intent_eq_of_id hrow hrow' (hid.trans hid'.symm)]
  exact hkey'

/-- Objects stay covered along a careful step of a process. -/
theorem Covered.advance (hcovered : s.Covered maxBytes) (h : s.Inv) {choice : UploadChoice}
    (hcareful : s.Careful maxBytes (.advance pid choice))
    (hfresh : ∀ asset ∈ s.world.assets.rows, asset.id ≠ choice.assetId)
    (hadvance : Advances maxBytes choice s.world (s.processes pid) t.world process')
    (hprocesses : t.processes = update s.processes pid process') :
    t.Covered maxBytes := by
  obtain ⟨world', cleanupJobs, processes'⟩ := t
  subst hprocesses
  have hcall : s.CarefulCall maxBytes choice (s.processes pid) := hcareful
  intro row hrow hholds
  -- what the other processes owe, they go on owing
  have hothers : s.Owed maxBytes row → (s.world.assets.rows ⊆ world'.assets.rows) →
      ¬ OwesFor maxBytes row (s.processes pid) →
      Owed maxBytes ⟨world', cleanupJobs, update s.processes pid process'⟩ row := by
    intro howed hassets hunowed
    refine howed.carry (fun asset hasset => hassets hasset) fun other howes => ?_
    refine update_of_ne ?_ _ _
    rintro rfl
    exact hunowed howes
  have hheld : world'.store.objects = s.world.store.objects →
      s.world.store.Holds row.objectKey := by
    intro hobjects
    unfold ObjectStore.Holds
    rw [← hobjects]
    exact hholds
  generalize hbefore : s.processes pid = process at hadvance hothers
  cases hadvance with
  | quiet same unowed _ _ =>
    have hrow' : row ∈ s.world.intents.rows := same.intents ▸ hrow
    refine hothers (hcovered row hrow' (hheld same.objects)) ?_ ?_
    · exact same.assets ▸ List.Subset.refl _
    · intro howes
      rw [owes_of_owesFor howes] at unowed
      cases unowed
  | @stores request intent object _ _ upload intents assets objects answer =>
    have hrow' : row ∈ s.world.intents.rows := intents ▸ hrow
    rw [hbefore] at hcall
    have hanswer := hcall upload
    rcases answer with ⟨hobserved, rfl⟩ | ⟨hunobserved, -⟩
    · rw [hobserved] at hanswer
      obtain ⟨hbytes, hbound, opened, hopened, hopen⟩ := hanswer
      rcases (holds_of_made objects).mp hholds with hkey | hold
      · have hread : (s.processes pid).intent? = some (request.context, intent) := by
          rw [hbefore]
          rfl
        have hsame : row = opened := by
          refine intent_eq_of_objectKey hrow' hopened ?_
          rw [hkey, h.row_eq_of_open hread hopened hopen]
        obtain ⟨hid, hpending, hworkspace⟩ := pending_of_isOpenIntent hopen
        refine .inr ⟨pid, ?_⟩
        show OwesFor maxBytes row (update s.processes pid _ pid)
        rw [update_self, hsame]
        exact ⟨hpending, hid.symm, hworkspace.symm, hbytes, hbound⟩
      · exact hothers (hcovered row hrow' hold) (assets ▸ List.Subset.refl _) fun howes => howes
    · rw [hunobserved] at hanswer
      exact hanswer.elim
  | givesUp same reason _ _ =>
    have hrow' : row ∈ s.world.intents.rows := same.intents ▸ hrow
    refine hothers (hcovered row hrow' (hheld same.objects)) ?_ ?_
    · exact same.assets ▸ List.Subset.refl _
    · rintro ⟨hpending, hid, hworkspace, hbytes, hbound⟩
      rcases reason with hother | hlarge | hclosed
      · exact hother hbytes
      · omega
      · have hnone := hclosed row hrow'
        simp [isOpenIntent, hpending, hid, hworkspace] at hnone
  | completes opened closing assets objects =>
    rcases closing.mem_cases hrow with ⟨hrow', hclosed⟩ | ⟨old, hold, hopen, hid, -, -⟩
    · refine hothers (hcovered row hrow' (hheld objects)) ?_ ?_
      · exact assets ▸ List.Subset.refl _
      · rintro ⟨hpending, hid, hworkspace, -, -⟩
        simp [isOpenIntent, hpending, hid, hworkspace] at hclosed
    · refine .inr ⟨pid, ?_⟩
      show OwesFor maxBytes row (update s.processes pid _ pid)
      rw [update_self]
      exact (hid.trans (pending_of_isOpenIntent hopen).1).symm
  | @closes _ _ _ context intent _ closing reads opened closed assets objects unowed' _ =>
    rcases closed.mem_cases hrow with ⟨hrow', -⟩ | ⟨old, hold, hopen, -, hkey, -⟩
    · refine hothers (hcovered row hrow' (hheld objects)) ?_ ?_
      · exact assets ▸ List.Subset.refl _
      · intro howes
        have hunowed := owes_of_closes closing
        rw [owes_of_owesFor howes] at hunowed
        cases hunowed
    · rw [← hbefore] at closing reads
      have hold' := h.row_eq_of_open reads hold hopen
      have hnone := hcall.closesSafely closing reads ?_ old hold
      · rw [hnone] at hopen
        cases hopen
      · rw [← hold', ← hkey]
        exact hheld objects
  | @creates request intent object _ _ intents assets objects _ _ =>
    have hrow' : row ∈ s.world.intents.rows := intents ▸ hrow
    by_cases hid : intent.id = row.id
    · obtain ⟨row', hmem, hid', hkey, -⟩ := h.row_of_closed hbefore
      have hsame := intent_eq_of_id hrow' hmem (hid.symm.trans hid'.symm)
      refine .inl ⟨uploadedAsset request intent object choice.assetId, ?_, ?_⟩
      · show _ ∈ world'.assets.rows
        rw [assets]
        exact mem_append_right _ (mem_singleton_self _)
      · rw [hsame, hkey]
        rfl
    · refine hothers (hcovered row hrow' (hheld objects)) ?_ hid
      rw [assets]
      exact subset_append_left _ _
  | createFails refused _ _ => exact absurd refused (h.create_accepts hbefore hfresh _)

/-- **The step rule of coverage.** -/
theorem Covered.step (hcovered : s.Covered maxBytes) (h : s.Inv)
    (hcareful : s.Careful maxBytes event) (hstep : s.Step maxBytes event t) :
    t.Covered maxBytes := by
  rcases hstep.cases with ⟨pid, choice, world', process', rfl, hadvance, hfresh, rfl, hprocesses⟩ |
    ⟨intent, -, -, hfree, hintents, hassets, hobjects, hprocesses⟩ | ⟨hsame, hprocesses⟩
  · exact hcovered.advance h hcareful hfresh hadvance hprocesses
  · intro row hrow hholds
    have hold : s.world.store.Holds row.objectKey := by
      unfold ObjectStore.Holds
      rw [← hobjects]
      exact hholds
    rw [hintents] at hrow
    rcases mem_append.mp hrow with hmem | hnew
    · refine (hcovered row hmem hold).carry ?_ fun pid _ => congrFun hprocesses pid
      rw [hassets]
      exact fun _ hasset => hasset
    · rw [mem_singleton.mp hnew] at hold
      exact absurd hold hfree
  · intro row hrow hholds
    rw [hsame.intents] at hrow
    have hold : s.world.store.Holds row.objectKey := by
      unfold ObjectStore.Holds
      rw [← hsame.objects]
      exact hholds
    refine (hcovered row hrow hold).carry ?_ fun pid howes => ?_
    · rw [hsame.assets]
      exact fun _ hasset => hasset
    · rcases hprocesses with hunmoved | ⟨moved, process', hmoved, -, -, hcrash⟩
      · exact congrFun hunmoved pid
      · rw [hmoved]
        refine update_of_ne ?_ _ _
        rintro rfl
        rw [hcrash (owes_of_owesFor howes)] at hcareful
        have hunowed : (s.processes pid).owes = false := hcareful
        rw [owes_of_owesFor howes] at hunowed
        cases hunowed

/-- **No orphaned object.** In every run whose steps are careful, however completions,
aborts and sweeps interleave: once no process is running, every object under the key of an
intent is accounted for, and every object that a completion has ever held is that of an
asset. -/
theorem objects_are_accounted {db : Database WorkerTables}
    {history : List (UploadSystem × UploadEvent)}
    (hrun : Transition.Run (Step maxBytes) (start db) history t)
    (hcareful : ∀ visited ∈ history, visited.1.Careful maxBytes visited.2)
    (hquiescent : t.Quiescent) :
    t.Accounted maxBytes ∧ ∀ visited ∈ history, ∀ pid request intent object,
      visited.1.processes pid = .stored request intent object →
        t.Referenced intent.objectKey := by
  have hcovered : t.Inv ∧ t.Covered maxBytes := by
    clear hquiescent
    induction hrun with
    | refl =>
      refine ⟨inv_start db, ?_⟩
      intro row hrow
      cases hrow
    | @tail history s t event hrun hstep ih =>
      obtain ⟨hinv, hcovered⟩ := ih fun visited hvisited =>
        hcareful visited (mem_cons_of_mem _ hvisited)
      exact ⟨hinv.step hstep, hcovered.step hinv (hcareful (s, event) mem_cons_self) hstep⟩
  have hreferenced : ∀ row ∈ t.world.intents.rows, t.world.store.Holds row.objectKey →
      t.Referenced row.objectKey := by
    intro row hrow hholds
    rcases hcovered.2 row hrow hholds with hreferenced | ⟨pid, howes⟩
    · exact hreferenced
    · have hidle := hquiescent pid
      rw [isRunning_of_owes (owes_of_owesFor howes)] at hidle
      cases hidle
  refine ⟨accounted_iff_owned.mpr hreferenced, ?_⟩
  intro visited hvisited pid request intent object hprocess
  obtain ⟨hbefore, next, hstep, hafter⟩ := hrun.mem_history hvisited
  have hinv := inv_of_reachable hbefore
  have hread : (visited.1.processes pid).intent? = some (request.context, intent) := by
    rw [hprocess]
    rfl
  obtain ⟨row, hrow, -, -, hkey⟩ := hinv.read pid request.context intent hread
  have hholds := hinv.stored pid request intent object hprocess
  obtain ⟨row', hrow', hkey'⟩ : ∃ row' ∈ t.world.intents.rows, row'.objectKey = row.objectKey := by
    have hlater : Transition.Reachable (Step maxBytes) visited.1 t :=
      (Transition.Reachable.refl.tail hstep).trans hafter
    refine hlater.invariant (I := fun u => ∃ row' ∈ u.world.intents.rows,
      row'.objectKey = row.objectKey) ⟨row, hrow, rfl⟩ ?_
    rintro u v event ⟨row', hrow', hkey'⟩ hnext
    obtain ⟨row'', hrow'', -, -, hkey'', -⟩ := hnext.persists.1 row' hrow'
    exact ⟨row'', hrow'', hkey''.trans hkey'⟩
  have hsame : row'.objectKey = intent.objectKey := hkey'.trans hkey
  rw [← hsame]
  refine hreferenced row' hrow' ?_
  rw [hsame]
  exact holds_of_reachable ((Transition.Reachable.refl.tail hstep).trans hafter) hholds

/-! ### Runs on a few processes -/

/-- A step moves no process but the one that it is about. -/
theorem Step.processes_of_ne (hstep : s.Step maxBytes event t) (hpid : event.pid? ≠ some pid) :
    t.processes pid = s.processes pid := by
  have hbegin : ∀ {other process}, s.begin other process = some t → other ≠ pid →
      t.processes pid = s.processes pid := by
    intro other process h hother
    unfold begin at h
    split at h
    · cases h
      exact update_of_ne (Ne.symm hother) _ _
    · cases h
  have hother : ∀ {other}, event.pid? = some other → other ≠ pid := by
    rintro other hsome rfl
    exact hpid hsome
  unfold Step UploadSystem.next at hstep
  cases event with
  | tick elapsed =>
    cases hstep
    rfl
  | sweep limit =>
    cases hstep
    rfl
  | initiate intent =>
    dsimp only [reserve] at hstep
    split at hstep
    · split at hstep
      · cases hstep
        rfl
      · cases hstep
    · cases hstep
  | complete other request => exact hbegin hstep (hother rfl)
  | abort other context intentId => exact hbegin hstep (hother rfl)
  | cleanup other context intentId =>
    dsimp only at hstep
    split at hstep
    · exact hbegin hstep (hother rfl)
    · cases hstep
  | crash other =>
    dsimp only at hstep
    split at hstep
    · cases hstep
      exact update_of_ne (Ne.symm (hother rfl)) _ _
    · cases hstep
  | advance other choice =>
    dsimp only at hstep
    split at hstep
    · cases hstep
      exact update_of_ne (Ne.symm (hother rfl)) _ _
    · cases hstep

/-- After a run on the first processes only, no process is running if none of these is. -/
theorem quiescent_of_bound {db : Database WorkerTables}
    {history : List (UploadSystem × UploadEvent)}
    (hrun : Transition.Run (Step maxBytes) (start db) history t) {bound : ℕ}
    (hbound : history.all (fun visited => visited.2.pid?.all (· < bound)))
    (hidle : ∀ pid < bound, (t.processes pid).isRunning = false) : t.Quiescent := by
  intro pid
  by_cases hpid : pid < bound
  · exact hidle pid hpid
  · have hunmoved : t.processes pid = .idle := by
      clear hidle
      induction hrun with
      | refl => rfl
      | @tail history s t event hrun hstep ih =>
        rw [all_cons, Bool.and_eq_true] at hbound
        have hne : event.pid? ≠ some pid := by
          intro hsome
          have hlt := hbound.1
          rw [hsome] at hlt
          simp only [Option.all_some, decide_eq_true_eq] at hlt
          exact hpid hlt
        exact (hstep.processes_of_ne hne).trans (ih hbound.2)
    rw [hunmoved]
    rfl

/-- Whether there is an object is decidable. -/
instance (store : ObjectStore) (objectKey : String) : Decidable (store.Holds objectKey) :=
  decidable_of_iff (store.objects.any (fun entry => entry.1 == objectKey) = true) (by
    unfold ObjectStore.Holds
    simp)

/-- Whether an intent is closed safely is decidable. -/
instance (s : UploadSystem) (context : WorkspaceContext) (intent : VideoUploadIntent) :
    Decidable (s.ClosesSafely context intent) :=
  inferInstanceAs (Decidable (_ → _))

/-- Whether an object is what was admitted is decidable. -/
instance (s : UploadSystem) (request : CompletionRequest) (intent : VideoUploadIntent)
    (object : StoredObject) : Decidable (s.Admits maxBytes request intent object) :=
  inferInstanceAs (Decidable (_ ∧ _ ∧ _))

/-- Whether a call is careful is decidable. -/
instance (s : UploadSystem) (choice : UploadChoice) (process : UploadProcess) :
    Decidable (s.CarefulCall maxBytes choice process) :=
  match process with
  | .storing request intent =>
    match hanswer : choice.answer with
    | .observed object =>
      decidable_of_iff (⟨intent.objectKey, intent.providerUploadId⟩ ∈ s.world.store.uploads →
        s.Admits maxBytes request intent object) (by simp only [CarefulCall, hanswer])
    | .unobserved object =>
      decidable_of_iff (⟨intent.objectKey, intent.providerUploadId⟩ ∉ s.world.store.uploads)
        (by simp only [CarefulCall, hanswer])
    | .failed => .isTrue (by simp [CarefulCall, hanswer])
  | .mismatched request intent => inferInstanceAs (Decidable (s.ClosesSafely _ _))
  | .closingAborted context intent => inferInstanceAs (Decidable (s.ClosesSafely _ _))
  | .closingExpired context intent => inferInstanceAs (Decidable (s.ClosesSafely _ _))
  | .idle | .completing _ | .stored .. | .closed .. | .published .. | .resolving ..
  | .aborting .. | .abortingParts .. | .releasing .. | .releasingParts .. | .ended _ =>
    .isTrue trivial

/-- Whether a step is careful is decidable. -/
instance (s : UploadSystem) (event : UploadEvent) : Decidable (s.Careful maxBytes event) :=
  match event with
  | .advance _ choice => inferInstanceAs (Decidable (s.CarefulCall maxBytes choice _))
  | .crash _ => inferInstanceAs (Decidable (_ = _))
  | .tick _ | .initiate _ | .complete .. | .abort .. | .sweep _ | .cleanup .. => .isTrue trivial

namespace Sample

def context : WorkspaceContext := ⟨"workspace"⟩

def intent : VideoUploadIntent where
  id := "01900000-0000-7000-8000-000000000001"
  workspaceId := "workspace"
  instagramPostId := "post"
  pendingForPostId := some "post"
  objectKey := "production/workspace/videos/source"
  providerUploadId := "provider-upload"
  declaredBytes := 1000
  partCount := 1
  state := .pending
  expiresAt := 86400000
  completedAt := none

def request : CompletionRequest where
  context := context
  correlationId := "01900000-0000-7000-8000-0000000000c0"
  intentId := intent.id
  now := 86400000
  parts := [⟨1, "etag"⟩]

/-- A provider that makes an object of some size, and identifiers to make up. -/
def choice (bytes : ℕ) : UploadChoice where
  answer := .observed ⟨bytes, some "video/mp4", "etag-1", none⟩
  abortAnswered := true
  partsDiscarded := false
  assetId := "01900000-0000-7000-8000-0000000000a0"
  jobId := "01900000-0000-7000-8000-0000000000b0"
  outboxId := "outbox"

def database : Database WorkerTables where
  clock := 0
  backgroundJobs := Table.empty _
  jobAttempts := Table.empty _
  jobOutbox := Table.empty _
  auditEvents := Table.empty _
  internalUsers := []
  analysisJobs := []
  app := WorkerTables.empty

/-- Events that can happen one after the other, under a ceiling of a gibibyte. -/
abbrev Schedule : Type := { events : List UploadEvent //
  (Transition.replay (next 1073741824) [] (start database) events).isSome = true }

/-- The run of a schedule. -/
def runOf (schedule : Schedule) : List (UploadSystem × UploadEvent) × UploadSystem :=
  (Transition.replay (next 1073741824) [] (start database) schedule.1).get schedule.2

theorem run_runOf (schedule : Schedule) :
    Transition.Run (Step 1073741824) (start database) (runOf schedule).1 (runOf schedule).2 :=
  Transition.Run.replay .refl (Option.some_get schedule.2).symm

def mismatching : Schedule where
  val := [.initiate intent, .complete 0 request] ++ List.replicate 4 (.advance 0 (choice 999))
  property := by decide

/-- The window closes, and a cleanup job and a completion overtake one another. -/
def racing : Schedule where
  val := [.initiate intent, .tick 86400001, .sweep 50, .cleanup 1 context intent.id,
    .complete 0 request, .advance 1 (choice 1000), .advance 0 (choice 1000),
    .advance 0 (choice 1000)] ++ List.replicate 2 (.advance 1 (choice 1000)) ++
    List.replicate 2 (.advance 0 (choice 1000))
  property := by decide

/-- The last call enqueues the validation of the asset that the one before it has made. -/
def completing : Schedule where
  val := [.initiate intent, .complete 0 request] ++ List.replicate 4 (.advance 0 (choice 1000)) ++
    [.advance 0 { choice 1000 with assetId := "01900000-0000-7000-8000-0000000000a1" }]
  property := by decide

/-- What the last state shows of the upload: how its processes have ended, the state of
its intent, and whether there is an object or an asset. -/
def outcome (schedule : Schedule) :
    UploadProcess × List VideoUploadIntentState × Bool × ℕ :=
  ((runOf schedule).2.processes 0, (runOf schedule).2.world.intents.rows.map VideoUploadIntent.state,
    decide ((runOf schedule).2.world.store.Holds intent.objectKey),
    (runOf schedule).2.world.assets.rows.length)

/-- An object under the key of the intent, without any asset, is not accounted for. -/
theorem not_accounted {schedule : Schedule}
    (hkeys : (runOf schedule).2.world.intents.rows.map VideoUploadIntent.objectKey =
      [intent.objectKey])
    (hholds : (runOf schedule).2.world.store.Holds intent.objectKey)
    (hassets : (runOf schedule).2.world.assets.rows = []) :
    ¬ (runOf schedule).2.Accounted 1073741824 := by
  intro h
  have hmem : intent.objectKey ∈
      (runOf schedule).2.world.intents.rows.map VideoUploadIntent.objectKey := by
    rw [hkeys]
    exact mem_singleton_self _
  obtain ⟨row, hrow, hkey⟩ := mem_map.mp hmem
  obtain ⟨asset, hasset, -⟩ := accounted_iff_owned.mp h row hrow (hkey.symm ▸ hholds)
  rw [hassets] at hasset
  cases hasset

private theorem quiescent_runOf {schedule : Schedule}
    (hbound : (runOf schedule).1.all (fun visited => visited.2.pid?.all (· < 2)))
    (hidle : ∀ pid < 2, ((runOf schedule).2.processes pid).isRunning = false) :
    (runOf schedule).2.Quiescent :=
  quiescent_of_bound (run_runOf schedule) hbound hidle

/-- A completion that finds another size, and one that a cleanup job overtakes, both leave
an object behind that nothing refers to. -/
theorem objects_are_orphaned :
    (Transition.Reachable (Step 1073741824) (start database) (runOf mismatching).2 ∧
      (runOf mismatching).2.Quiescent ∧
      outcome mismatching = (.ended (.refused .sizeMismatch), [.aborted], true, 0) ∧
      ¬ (runOf mismatching).2.Accounted 1073741824) ∧
    (Transition.Reachable (Step 1073741824) (start database) (runOf racing).2 ∧
      (runOf racing).2.Quiescent ∧
      outcome racing = (.ended (.refused .intentNotPending), [.expired], true, 0) ∧
      ¬ (runOf racing).2.Accounted 1073741824) := by
  constructor
  · refine ⟨⟨_, run_runOf mismatching⟩, quiescent_runOf ?_ ?_, ?_, not_accounted ?_ ?_ ?_⟩
    all_goals decide
  · refine ⟨⟨_, run_runOf racing⟩, quiescent_runOf ?_ ?_, ?_, not_accounted ?_ ?_ ?_⟩
    all_goals decide

/-- An upload that is completed undisturbed ends with its intent closed, its object and its
asset, and is accounted for. -/
theorem completed_upload_is_accounted :
    Transition.Run (Step 1073741824) (start database) (runOf completing).1 (runOf completing).2 ∧
      outcome completing =
        (.ended (.completed false (choice 1000).assetId 1000), [.completed], true, 1) ∧
      (runOf completing).2.Accounted 1073741824 ∧ ∀ visited ∈ (runOf completing).1,
        ∀ pid request intent object, visited.1.processes pid = .stored request intent object →
          (runOf completing).2.Referenced intent.objectKey := by
  refine ⟨run_runOf completing, by decide,
    objects_are_accounted (run_runOf completing) ?_ (quiescent_runOf ?_ ?_)⟩
  all_goals decide

end Sample

end UploadSystem

end ContentAutomation
