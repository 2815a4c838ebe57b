import ContentAutomation.Uploads.Completion

/-!
# What one call of an upload can do

The calls of completions, aborts and cleanup jobs, sorted by what they change: most change
no row and no object; some make an object, close an intent or create an asset. No call
removes an object, or an intent.
-/

namespace ContentAutomation

open Relational Transaction List

/-! ### What a step of a process can do -/

namespace UploadProcess

/-- The intent that a process has read, and is going to act on. -/
def intent? : UploadProcess → Option (WorkspaceContext × VideoUploadIntent)
  | .storing request intent | .stored request intent _ | .mismatched request intent
  | .closed request intent _ => some (request.context, intent)
  | .abortingParts context intent | .closingAborted context intent
  | .releasingParts context intent | .closingExpired context intent => some (context, intent)
  | _ => none

/-- The process holds an object that no asset refers to yet. -/
def owes : UploadProcess → Bool
  | .stored .. | .closed .. => true
  | _ => false

/-- The next call closes the intent as aborted or expired. -/
def closes : UploadProcess → Bool
  | .mismatched .. | .closingAborted .. | .closingExpired .. => true
  | _ => false

theorem owes_of_closes {process : UploadProcess} (h : process.closes) :
    process.owes = false := by
  cases process <;> first | rfl | cases h

theorem isRunning_of_owes {process : UploadProcess} (h : process.owes) :
    process.isRunning := by
  cases process <;> first | rfl | cases h

end UploadProcess

namespace UploadWorld

/-- The rows and the objects are the same. -/
structure Same (world world' : UploadWorld) : Prop where
  intents : world'.intents = world.intents
  assets : world'.assets = world.assets
  objects : world'.store.objects = world.store.objects

/-- The intents after one of them has been closed. -/
def Closes (world world' : UploadWorld) (context : WorkspaceContext) (intentId : String)
    (state : VideoUploadIntentState) : Prop :=
  ∃ completedAt, world'.intents.rows = world.intents.rows.map fun row =>
    if isOpenIntent context intentId row then closedIntent state completedAt row else row

theorem Same.refl {world : UploadWorld} : world.Same world := ⟨rfl, rfl, rfl⟩

end UploadWorld

open UploadProcess UploadWorld

/-- What a step of a process can do to the rows and the objects. -/
inductive Advances (maxBytes : ℕ) (choice : UploadChoice) (world : UploadWorld) :
    UploadProcess → UploadWorld → UploadProcess → Prop
  /-- A process that owes no object reads, or asks for parts to be discarded. -/
  | quiet {process next : UploadProcess} {world' : UploadWorld} (same : world.Same world')
      (unowed : process.owes = false) (unowed' : next.owes = false)
      (read : ∀ context intent, next.intent? = some (context, intent) →
        process.intent? = some (context, intent) ∨
          intent ∈ world.intents.rows ∧ intent.workspaceId = context.workspaceId) :
      Advances maxBytes choice world process world' next
  /-- The provider makes the object. -/
  | stores {request : CompletionRequest} {intent : VideoUploadIntent} {object : StoredObject}
      {world' : UploadWorld} {next : UploadProcess}
      (upload : ⟨intent.objectKey, intent.providerUploadId⟩ ∈ world.store.uploads)
      (intents : world'.intents = world.intents) (assets : world'.assets = world.assets)
      (objects : world'.store.objects = (intent.objectKey, object) ::
        world.store.objects.filter fun entry => entry.1 != intent.objectKey)
      (answer : choice.answer = .observed object ∧ next = .stored request intent object ∨
        choice.answer = .unobserved object ∧ next = .ended (.refused .storageUnavailable)) :
      Advances maxBytes choice world (.storing request intent) world' next
  /-- The object is not what was admitted, or the intent has been closed meanwhile. -/
  | givesUp {request : CompletionRequest} {intent : VideoUploadIntent} {object : StoredObject}
      {world' : UploadWorld} {next : UploadProcess} (same : world.Same world')
      (reason : object.bytes ≠ intent.declaredBytes ∨ maxBytes < object.bytes ∨
        ∀ row ∈ world.intents.rows, isOpenIntent request.context intent.id row = false)
      (unowed' : next.owes = false)
      (read : ∀ context intent', next.intent? = some (context, intent') →
        context = request.context ∧ intent' = intent) :
      Advances maxBytes choice world (.stored request intent object) world' next
  /-- The intent of a stored object is closed. -/
  | completes {request : CompletionRequest} {intent : VideoUploadIntent} {object : StoredObject}
      {world' : UploadWorld}
      (opened : ∃ row ∈ world.intents.rows, isOpenIntent request.context intent.id row = true)
      (closing : world.Closes world' request.context intent.id .completed)
      (assets : world'.assets = world.assets)
      (objects : world'.store.objects = world.store.objects) :
      Advances maxBytes choice world (.stored request intent object) world'
        (.closed request intent object)
  /-- An intent is closed as aborted or expired. -/
  | closes {process next : UploadProcess} {world' : UploadWorld} {context : WorkspaceContext}
      {intent : VideoUploadIntent} {state : VideoUploadIntentState}
      (closing : process.closes = true) (reads : process.intent? = some (context, intent))
      (opened : ∃ row ∈ world.intents.rows, isOpenIntent context intent.id row = true)
      (closed : world.Closes world' context intent.id state)
      (assets : world'.assets = world.assets)
      (objects : world'.store.objects = world.store.objects)
      (unowed' : next.owes = false) (unread : next.intent? = none) :
      Advances maxBytes choice world process world' next
  /-- The asset of an object is created. -/
  | creates {request : CompletionRequest} {intent : VideoUploadIntent} {object : StoredObject}
      {world' : UploadWorld} {next : UploadProcess} (intents : world'.intents = world.intents)
      (assets : world'.assets.rows = world.assets.rows ++
        [uploadedAsset request intent object choice.assetId])
      (objects : world'.store.objects = world.store.objects)
      (unowed' : next.owes = false) (unread : next.intent? = none) :
      Advances maxBytes choice world (.closed request intent object) world' next
  /-- The asset of an object is refused. -/
  | createFails {request : CompletionRequest} {intent : VideoUploadIntent}
      {object : StoredObject} {next : UploadProcess} {violation : Violation}
      (refused : world.assets.create (uploadedAsset request intent object choice.assetId) =
        .error violation)
      (unowed' : next.owes = false) (unread : next.intent? = none) :
      Advances maxBytes choice world (.closed request intent object) world next

section Advance

variable {maxBytes : ℕ} {choice : UploadChoice} {world : UploadWorld} {context : WorkspaceContext}
  {intent : VideoUploadIntent} {request : CompletionRequest} {object : StoredObject}

private theorem same_discardParts (intent : VideoUploadIntent) :
    world.Same (world.discardParts intent choice) := by
  unfold discardParts
  split
  · exact ⟨rfl, rfl, rfl⟩
  · exact .refl

private theorem mem_of_findVideoUploadIntent {intentId : String}
    (h : world.findVideoUploadIntent context intentId = some intent) :
    intent ∈ world.intents.rows ∧ intent.workspaceId = context.workspaceId := by
  refine ⟨mem_of_find?_eq_some h, ?_⟩
  have hselected := List.find?_some h
  simp only [Bool.and_eq_true, beq_iff_eq] at hselected
  exact hselected.2

private theorem advances_close {process : UploadProcess} {state : VideoUploadIntentState}
    {next : Bool → UploadProcess} (hcloses : process.closes)
    (hreads : process.intent? = some (context, intent))
    (hended : ∀ closed, ∃ outcome, next closed = .ended outcome) :
    Advances maxBytes choice world process
      (world.perform (closeVideoUploadIntent context intent.id state none) next).1
      (world.perform (closeVideoUploadIntent context intent.id state none) next).2 := by
  have hunowed := owes_of_closes hcloses
  rcases closeVideoUploadIntent_cases context intent.id state none world.db with
    ⟨row, hrow, hopen, rows, hrows, hrun⟩ | ⟨-, hrun⟩
  · obtain ⟨outcome, hnext⟩ := hended true
    rw [perform_of_ok hrun, hnext]
    exact .closes hcloses hreads ⟨row, hrow, hopen⟩ ⟨none, hrows⟩ rfl rfl rfl rfl
  · obtain ⟨outcome, hnext⟩ := hended false
    rw [perform_of_ok hrun, hnext]
    refine .quiet ⟨rfl, rfl, rfl⟩ hunowed rfl ?_
    intro context intent hread
    cases hread

private theorem advances_makeObject {next : UploadProcess}
    (hanswer : choice.answer = .observed object ∧ next = .stored request intent object ∨
      choice.answer = .unobserved object ∧ next = .ended (.refused .storageUnavailable)) :
    Advances maxBytes choice world (.storing request intent)
      (world.makeObject intent object next).1 (world.makeObject intent object next).2 := by
  unfold makeObject ObjectStore.completeMultipartUpload
  by_cases hupload : (⟨intent.objectKey, intent.providerUploadId⟩ : MultipartUploadHandle) ∈
      world.store.uploads
  · rw [if_pos hupload]
    exact .stores hupload rfl rfl rfl hanswer
  · rw [if_neg hupload]
    refine .quiet .refl rfl rfl ?_
    intro context intent hread
    cases hread

private theorem advances_settleObject :
    Advances maxBytes choice world (.stored request intent object)
      (settleObject maxBytes choice world request intent object).1
      (settleObject maxBytes choice world request intent object).2 := by
  unfold settleObject
  split_ifs with hbytes hlarge
  · refine .givesUp (same_discardParts intent) (.inl hbytes) rfl ?_
    intro context intent' hread
    cases hread
    exact ⟨rfl, rfl⟩
  · refine .givesUp .refl (.inr (.inl hlarge)) rfl ?_
    intro context intent' hread
    cases hread
  · rcases closeVideoUploadIntent_cases request.context intent.id .completed (some request.now)
      world.db with ⟨row, hrow, hopen, rows, hrows, hrun⟩ | ⟨hnone, hrun⟩
    · rw [perform_of_ok hrun, if_pos rfl]
      exact .completes ⟨row, hrow, hopen⟩ ⟨_, hrows⟩ rfl rfl
    · rw [perform_of_ok hrun, if_neg (by simp)]
      refine .givesUp ⟨rfl, rfl, rfl⟩ (.inr (.inr hnone)) rfl ?_
      intro context intent' hread
      cases hread

-- that an enqueue keeps the other tables is all that is needed of it
seal enqueueBackgroundJob

/-- Enqueueing the validation of an asset changes neither rows nor objects. -/
theorem advances_enqueue {asset : VideoAsset} :
    Advances maxBytes choice world (.published request asset)
      ((published request asset).advance maxBytes choice world).1
      ((published request asset).advance maxBytes choice world).2 := by
  unfold UploadProcess.advance
  dsimp only
  have hkeeps : Keeps (fun db : Database WorkerTables => db.app) (enqueueBackgroundJob
      request.context (assetValidation request.correlationId asset.id) choice.jobId
      choice.outboxId) := keepsApp_enqueueBackgroundJob _ _ _ _
  cases hrun : (enqueueBackgroundJob request.context
      (assetValidation request.correlationId asset.id) choice.jobId choice.outboxId).run
      world.db with
  | error exception =>
    rw [perform_of_error hrun]
    refine .quiet .refl rfl rfl ?_
    intro context intent hread
    cases hread
  | ok result =>
    obtain ⟨answer, db⟩ := result
    rw [perform_of_ok hrun]
    have hkept := Ensures.of_run (hkeeps world.db) hrun
    have happ : db.app = world.db.app := hkept
    refine .quiet ⟨?_, ?_, rfl⟩ rfl rfl ?_
    · show db.app.videoUploadIntents = world.db.app.videoUploadIntents
      rw [happ]
    · show db.app.videoAssets = world.db.app.videoAssets
      rw [happ]
    · intro context intent hread
      cases hread

/-- The asset of an object is created or refused. -/
theorem advances_create :
    Advances maxBytes choice world (.closed request intent object)
      ((closed request intent object).advance maxBytes choice world).1
      ((closed request intent object).advance maxBytes choice world).2 := by
  unfold UploadProcess.advance
  dsimp only
  cases hcreate : world.assets.create (uploadedAsset request intent object choice.assetId) with
  | error violation =>
    have hrun : (videoAsset.create (uploadedAsset request intent object choice.assetId)).run
        world.db = .error (.fault (.violation violation)) := by
      unfold WorkerTable.create WorkerTable.store
      unfold UploadWorld.assets at hcreate
      simp only [StateT.run, videoAsset, hcreate]
      rfl
    rw [perform_of_error hrun]
    exact .createFails hcreate rfl rfl
  | ok assets =>
    have hrun : (videoAsset.create (uploadedAsset request intent object choice.assetId)).run
        world.db = .ok ((), { world.db with app := { world.db.app with videoAssets := assets } }) := by
      unfold WorkerTable.create WorkerTable.store
      unfold UploadWorld.assets at hcreate
      simp only [StateT.run, videoAsset, hcreate]
      rfl
    rw [perform_of_ok hrun]
    exact .creates rfl (Table.create_eq_ok.mp hcreate) rfl rfl rfl

section Admission

variable {context' : WorkspaceContext} {found : Option VideoUploadIntent}

theorem intent?_admitCompletion
    (h : (admitCompletion request found).intent? = some (context', intent)) :
    context' = request.context ∧ found = some intent := by
  unfold admitCompletion at h
  cases found with
  | none => cases h
  | some row =>
    dsimp only at h
    split_ifs at h <;> first | (cases h; exact ⟨rfl, rfl⟩) | cases h

theorem intent?_admitAbort (h : (admitAbort context found).intent? = some (context', intent)) :
    context' = context ∧ found = some intent := by
  unfold admitAbort at h
  cases found with
  | none => cases h
  | some row =>
    dsimp only at h
    split_ifs at h <;> first | (cases h; exact ⟨rfl, rfl⟩) | cases h

theorem intent?_admitRelease (h : (admitRelease context found).intent? = some (context', intent)) :
    context' = context ∧ found = some intent := by
  unfold admitRelease at h
  cases found with
  | none => cases h
  | some row =>
    dsimp only at h
    split_ifs at h <;> first | (cases h; exact ⟨rfl, rfl⟩) | cases h

private theorem owes_admitCompletion : (admitCompletion request found).owes = false := by
  unfold admitCompletion
  cases found with
  | none => rfl
  | some row =>
    dsimp only
    split_ifs <;> rfl

private theorem owes_admitAbort : (admitAbort context found).owes = false := by
  unfold admitAbort
  cases found with
  | none => rfl
  | some row =>
    dsimp only
    split_ifs <;> rfl

private theorem owes_admitRelease : (admitRelease context found).owes = false := by
  unfold admitRelease
  cases found with
  | none => rfl
  | some row =>
    dsimp only
    split_ifs <;> rfl

end Admission

private theorem advances_read {process next : UploadProcess} {intentId : String}
    (hunowed : process.owes = false) (hunowed' : next.owes = false)
    (hnext : ∀ context' intent, next.intent? = some (context', intent) → context' = context ∧
      world.findVideoUploadIntent context intentId = some intent) :
    Advances maxBytes choice world process world next := by
  refine .quiet .refl hunowed hunowed' ?_
  intro context' intent hread
  obtain ⟨rfl, hfound⟩ := hnext context' intent hread
  exact .inr (mem_of_findVideoUploadIntent hfound)

/-- **What a step of a process can do.** -/
theorem advances (process : UploadProcess) : Advances maxBytes choice world process
    (process.advance maxBytes choice world).1 (process.advance maxBytes choice world).2 := by
  cases process with
  | idle => exact .quiet .refl rfl rfl fun _ _ h => .inl h
  | ended outcome => exact .quiet .refl rfl rfl fun _ _ h => .inl h
  | stored request intent object => exact advances_settleObject
  | mismatched request intent => exact advances_close rfl rfl fun _ => ⟨_, rfl⟩
  | closingAborted context intent => exact advances_close rfl rfl fun _ => ⟨_, rfl⟩
  | closingExpired context intent => exact advances_close rfl rfl fun _ => ⟨_, rfl⟩
  | abortingParts context intent =>
    exact .quiet (same_discardParts intent) rfl rfl fun _ _ h => .inl h
  | releasingParts context intent =>
    unfold UploadProcess.advance
    cases choice.abortAnswered with
    | true => exact .quiet (same_discardParts intent) rfl rfl fun _ _ h => .inl h
    | false =>
      refine .quiet (same_discardParts intent) rfl rfl ?_
      intro context intent hread
      cases hread
  | storing request intent =>
    unfold UploadProcess.advance
    cases hanswer : choice.answer with
    | observed object => exact advances_makeObject (.inl ⟨hanswer, rfl⟩)
    | unobserved object => exact advances_makeObject (.inr ⟨hanswer, rfl⟩)
    | failed =>
      refine .quiet .refl rfl rfl ?_
      intro context intent hread
      cases hread
  | closed request intent object => exact advances_create
  | published request asset => exact advances_enqueue
  | resolving request intentId =>
    unfold UploadProcess.advance
    dsimp only
    split <;> refine .quiet .refl rfl rfl fun _ _ hread => ?_ <;> cases hread
  | completing request =>
    unfold UploadProcess.advance
    dsimp only
    split_ifs
    · refine .quiet .refl rfl rfl fun _ _ hread => ?_
      cases hread
    · exact advances_read rfl owes_admitCompletion fun _ _ => intent?_admitCompletion
  | aborting context intentId =>
    unfold UploadProcess.advance
    dsimp only
    split_ifs
    · refine .quiet .refl rfl rfl fun _ _ hread => ?_
      cases hread
    · exact advances_read rfl owes_admitAbort fun _ _ => intent?_admitAbort
  | releasing context intentId =>
    exact advances_read rfl owes_admitRelease fun _ _ => intent?_admitRelease

end Advance

/-! ### Rows and objects along a step -/

namespace UploadWorld

variable {world world' : UploadWorld} {context : WorkspaceContext} {intentId : String}
  {state : VideoUploadIntentState}

/-- Every intent is still there, under its key, and a completed one is still completed. -/
def Evolves (world world' : UploadWorld) : Prop :=
  ∀ row ∈ world.intents.rows, ∃ row' ∈ world'.intents.rows, row'.id = row.id ∧
    row'.workspaceId = row.workspaceId ∧ row'.objectKey = row.objectKey ∧
      (row.state = .completed → row'.state = .completed)

theorem evolves_of_eq (h : world'.intents = world.intents) : world.Evolves world' := by
  intro row hrow
  refine ⟨row, ?_, rfl, rfl, rfl, id⟩
  rw [h]
  exact hrow

theorem pending_of_isOpenIntent {row : VideoUploadIntent}
    (h : isOpenIntent context intentId row) :
    row.id = intentId ∧ row.state = .pending ∧ row.workspaceId = context.workspaceId := by
  simp only [isOpenIntent, Bool.and_eq_true, beq_iff_eq] at h
  exact ⟨h.1.1, h.1.2, h.2⟩

theorem Closes.mem_cases (h : world.Closes world' context intentId state)
    {row : VideoUploadIntent} (hrow : row ∈ world'.intents.rows) :
    (row ∈ world.intents.rows ∧ isOpenIntent context intentId row = false) ∨
      ∃ old ∈ world.intents.rows, isOpenIntent context intentId old ∧
        row.id = old.id ∧ row.objectKey = old.objectKey ∧ row.state = state := by
  obtain ⟨completedAt, hrows⟩ := h
  rw [hrows] at hrow
  obtain ⟨old, hold, rfl⟩ := mem_map.mp hrow
  by_cases hopen : isOpenIntent context intentId old = true
  · right
    refine ⟨old, hold, hopen, ?_⟩
    rw [if_pos hopen]
    exact ⟨rfl, rfl, rfl⟩
  · left
    rw [if_neg hopen]
    exact ⟨hold, by simpa using hopen⟩

theorem Closes.row (h : world.Closes world' context intentId state) {row : VideoUploadIntent}
    (hrow : row ∈ world.intents.rows) :
    ∃ row' ∈ world'.intents.rows, row'.id = row.id ∧ row'.workspaceId = row.workspaceId ∧
      row'.objectKey = row.objectKey ∧
        row'.state = if isOpenIntent context intentId row then state else row.state := by
  obtain ⟨completedAt, hrows⟩ := h
  have hmem : (if isOpenIntent context intentId row then closedIntent state completedAt row
      else row) ∈ world'.intents.rows := by
    rw [hrows]
    exact mem_map_of_mem hrow
  refine ⟨_, hmem, ?_⟩
  by_cases hopen : isOpenIntent context intentId row = true
  · rw [if_pos hopen, if_pos hopen]
    exact ⟨rfl, rfl, rfl, rfl⟩
  · rw [if_neg hopen, if_neg hopen]
    exact ⟨rfl, rfl, rfl, rfl⟩

theorem Closes.evolves (h : world.Closes world' context intentId state) :
    world.Evolves world' := by
  intro row hrow
  obtain ⟨row', hrow', hid, hworkspace, hkey, hstate⟩ := h.row hrow
  refine ⟨row', hrow', hid, hworkspace, hkey, fun hcompleted => ?_⟩
  have hclosed : isOpenIntent context intentId row = false := by
    by_contra hopen
    have hpending := (pending_of_isOpenIntent (by simpa using hopen)).2.1
    rw [hcompleted] at hpending
    cases hpending
  rw [hstate, hclosed]
  exact hcompleted

theorem intent_eq_of_id {row other : VideoUploadIntent} (hrow : row ∈ world.intents.rows)
    (hother : other ∈ world.intents.rows) (hid : row.id = other.id) : row = other :=
  Table.eq_of_key videoUploadIntentSchema_keyedBy_id hrow hother hid

theorem intent_eq_of_objectKey {row other : VideoUploadIntent} (hrow : row ∈ world.intents.rows)
    (hother : other ∈ world.intents.rows) (hkey : row.objectKey = other.objectKey) :
    row = other :=
  Table.eq_of_key videoUploadIntentSchema_keyedBy_objectKey hrow hother hkey

theorem holds_of_made {objectKey other : String} {object : StoredObject}
    (h : world'.store.objects = (objectKey, object) ::
      world.store.objects.filter fun entry => entry.1 != objectKey) :
    world'.store.Holds other ↔ other = objectKey ∨ world.store.Holds other := by
  unfold ObjectStore.Holds
  rw [h]
  constructor
  · rintro ⟨found, hmem⟩
    rcases mem_cons.mp hmem with hsame | hold
    · exact .inl (congrArg Prod.fst hsame)
    · exact .inr ⟨found, (mem_filter.mp hold).1⟩
  · rintro (rfl | ⟨found, hmem⟩)
    · exact ⟨object, mem_cons_self⟩
    · by_cases hkey : other = objectKey
      · rw [hkey]
        exact ⟨object, mem_cons_self⟩
      · exact ⟨found, mem_cons_of_mem _ (mem_filter.mpr ⟨hmem, by simpa using hkey⟩)⟩

end UploadWorld

section Along

variable {maxBytes : ℕ} {choice : UploadChoice} {world world' : UploadWorld}
  {process next : UploadProcess} {intent : VideoUploadIntent} {request : CompletionRequest}

theorem Advances.evolves (h : Advances maxBytes choice world process world' next) :
    world.Evolves world' := by
  cases h with
  | quiet same _ _ _ => exact evolves_of_eq same.intents
  | stores _ intents _ _ _ => exact evolves_of_eq intents
  | givesUp same _ _ _ => exact evolves_of_eq same.intents
  | completes _ closing _ _ => exact closing.evolves
  | closes _ _ _ closed _ _ _ _ => exact closed.evolves
  | creates intents _ _ _ _ => exact evolves_of_eq intents
  | createFails _ _ _ => exact evolves_of_eq rfl

theorem Advances.holds (h : Advances maxBytes choice world process world' next)
    {objectKey : String} (hholds : world.store.Holds objectKey) :
    world'.store.Holds objectKey := by
  have hsame : world'.store.objects = world.store.objects →
      world'.store.Holds objectKey := by
    intro hobjects
    unfold ObjectStore.Holds
    rwa [hobjects]
  cases h with
  | quiet same _ _ _ => exact hsame same.objects
  | stores _ _ _ objects _ => exact (holds_of_made objects).mpr (.inr hholds)
  | givesUp same _ _ _ => exact hsame same.objects
  | completes _ _ _ objects => exact hsame objects
  | closes _ _ _ _ _ objects _ _ => exact hsame objects
  | creates _ _ objects _ _ => exact hsame objects
  | createFails _ _ _ => exact hsame rfl

/-- What a process goes on with, it has read before or reads now. -/
theorem Advances.intent?_cases (h : Advances maxBytes choice world process world' next)
    {context : WorkspaceContext} (hread : next.intent? = some (context, intent)) :
    process.intent? = some (context, intent) ∨
      intent ∈ world.intents.rows ∧ intent.workspaceId = context.workspaceId := by
  cases h with
  | quiet _ _ _ read => exact read context intent hread
  | stores _ _ _ _ answer =>
    rcases answer with ⟨-, rfl⟩ | ⟨-, rfl⟩
    · exact .inl hread
    · cases hread
  | givesUp _ _ _ read =>
    obtain ⟨rfl, rfl⟩ := read context intent hread
    exact .inl rfl
  | completes _ _ _ _ => exact .inl hread
  | closes _ _ _ _ _ _ _ unread =>
    rw [unread] at hread
    cases hread
  | creates _ _ _ _ unread =>
    rw [unread] at hread
    cases hread
  | createFails _ _ unread =>
    rw [unread] at hread
    cases hread

theorem Advances.stored_cases (h : Advances maxBytes choice world process world' next)
    {object : StoredObject}
    (hnext : next = .stored request intent object) :
    process = .storing request intent ∧ choice.answer = .observed object ∧
      ⟨intent.objectKey, intent.providerUploadId⟩ ∈ world.store.uploads ∧
      world'.intents = world.intents ∧ world'.assets = world.assets ∧
      world'.store.objects = (intent.objectKey, object) ::
        world.store.objects.filter fun entry => entry.1 != intent.objectKey := by
  subst hnext
  cases h with
  | quiet _ _ unowed' _ => cases unowed'
  | stores upload intents assets objects answer =>
    rcases answer with ⟨hanswer, hnext⟩ | ⟨-, hnext⟩
    · cases hnext
      exact ⟨rfl, hanswer, upload, intents, assets, objects⟩
    · cases hnext
  | givesUp _ _ unowed' _ => cases unowed'
  | closes _ _ _ _ _ _ unowed' _ => cases unowed'
  | creates _ _ _ unowed' _ => cases unowed'
  | createFails _ unowed' _ => cases unowed'

theorem Advances.closed_cases (h : Advances maxBytes choice world process world' next)
    {object : StoredObject}
    (hnext : next = .closed request intent object) :
    process = .stored request intent object ∧
      (∃ row ∈ world.intents.rows, isOpenIntent request.context intent.id row) ∧
      world.Closes world' request.context intent.id .completed ∧
      world'.assets = world.assets := by
  subst hnext
  cases h with
  | quiet _ _ unowed' _ => cases unowed'
  | stores _ _ _ _ answer => rcases answer with ⟨-, hnext⟩ | ⟨-, hnext⟩ <;> cases hnext
  | givesUp _ _ unowed' _ => cases unowed'
  | completes opened closing assets _ => exact ⟨rfl, opened, closing, assets⟩
  | closes _ _ _ _ _ _ unowed' _ => cases unowed'
  | creates _ _ _ unowed' _ => cases unowed'
  | createFails _ unowed' _ => cases unowed'

theorem Advances.assets_cases (h : Advances maxBytes choice world process world' next) :
    world'.assets = world.assets ∨ ∃ request intent object,
      process = .closed request intent object ∧ world'.assets.rows = world.assets.rows ++
        [uploadedAsset request intent object choice.assetId] := by
  cases h with
  | quiet same _ _ _ => exact .inl same.assets
  | stores _ _ assets _ _ => exact .inl assets
  | givesUp same _ _ _ => exact .inl same.assets
  | completes _ _ assets _ => exact .inl assets
  | closes _ _ _ _ assets _ _ _ => exact .inl assets
  | creates _ assets _ _ _ => exact .inr ⟨_, _, _, rfl, assets⟩
  | createFails _ _ _ => exact .inl rfl

end Along

end ContentAutomation
