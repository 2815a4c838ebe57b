import ContentAutomation.Library.Transition
import ContentAutomation.Worker.Writes

/-!
# Uploads

`completeVideoUpload`, `abortVideoUpload` and the release of an upload whose window has
closed, as processes that make one call to the database or to the object store at a
time. Any number of them interleave, and each may stop between two calls. The parts of
an upload become an object before any row records it.
-/

namespace ContentAutomation

open Relational Transaction

/-! ### The object store -/

/-- What the provider has stored under a key. -/
structure StoredObject where
  bytes : ℕ
  contentType : Option String
  etag : String
  objectVersion : Option String
  deriving DecidableEq

/-- `MultipartUploadHandle`. -/
structure MultipartUploadHandle where
  objectKey : String
  providerUploadId : String
  deriving DecidableEq

/-- The object store: unfinished uploads, and objects under their keys. -/
structure ObjectStore where
  uploads : List MultipartUploadHandle
  objects : List (String × StoredObject)

namespace ObjectStore

/-- There is an object under the key. -/
def Holds (store : ObjectStore) (objectKey : String) : Prop :=
  ∃ object, (objectKey, object) ∈ store.objects

/-- An unfinished upload is discarded. One that is unknown, or has become an object, is
as it should be. -/
def abortMultipartUpload (store : ObjectStore) (handle : MultipartUploadHandle) : ObjectStore :=
  { store with uploads := store.uploads.filter fun upload => upload != handle }

/-- The parts of an unfinished upload become the object. -/
def completeMultipartUpload (store : ObjectStore) (handle : MultipartUploadHandle)
    (object : StoredObject) : Option ObjectStore :=
  if handle ∈ store.uploads then
    some
      { uploads := store.uploads.filter fun upload => upload != handle
        objects := (handle.objectKey, object) ::
          store.objects.filter fun entry => entry.1 != handle.objectKey }
  else none

end ObjectStore

/-! ### Requests -/

/-- A part that the browser claims to have uploaded. -/
structure CompletedPart where
  partNumber : ℕ
  etag : String
  deriving DecidableEq

/-- `hasUniquePartNumbers`. -/
def hasUniquePartNumbers (parts : List CompletedPart) : Bool :=
  decide (parts.map CompletedPart.partNumber).Nodup

/-- A request to complete an upload. -/
structure CompletionRequest where
  context : WorkspaceContext
  correlationId : String
  intentId : String
  now : ℤ
  parts : List CompletedPart
  deriving DecidableEq

/-- The reasons for which completing or aborting is refused. -/
inductive UploadRefusalReason
  | duplicatePart | intentNotFound | intentNotPending | partNumberOutOfRange | sizeMismatch
  | storageUnavailable | tooLarge
  deriving DecidableEq

/-- How a process has ended. -/
inductive UploadOutcome
  | completed (alreadyCompleted : Bool) (assetId : String) (bytes : ℕ)
  | refused (reason : UploadRefusalReason)
  | aborted (alreadyClosed : Bool)
  /-- A cleanup job has done what there was to do. -/
  | released
  /-- It threw, or it was lost. -/
  | failed
  deriving DecidableEq

/-- Where a process is: what it has read, before its next call. -/
inductive UploadProcess
  | idle
  /-- Completion, before it reads the intent. -/
  | completing (request : CompletionRequest)
  /-- Completion, before the provider makes the object. -/
  | storing (request : CompletionRequest) (intent : VideoUploadIntent)
  /-- Completion, with the object stored. -/
  | stored (request : CompletionRequest) (intent : VideoUploadIntent) (object : StoredObject)
  /-- Completion, before it closes the intent of an object of another size. -/
  | mismatched (request : CompletionRequest) (intent : VideoUploadIntent)
  /-- Completion, with the intent closed. -/
  | closed (request : CompletionRequest) (intent : VideoUploadIntent) (object : StoredObject)
  /-- Completion, with the asset created. -/
  | published (request : CompletionRequest) (asset : VideoAsset)
  /-- Completion of an intent that is not pending, before it reads the asset. -/
  | resolving (request : CompletionRequest) (intentId : String)
  /-- Abort, before it reads the intent. -/
  | aborting (context : WorkspaceContext) (intentId : String)
  /-- Abort, before the provider discards the parts. -/
  | abortingParts (context : WorkspaceContext) (intent : VideoUploadIntent)
  /-- Abort, before it closes the intent. -/
  | closingAborted (context : WorkspaceContext) (intent : VideoUploadIntent)
  /-- Cleanup, before it reads the intent. -/
  | releasing (context : WorkspaceContext) (intentId : String)
  /-- Cleanup, before the provider discards the parts. -/
  | releasingParts (context : WorkspaceContext) (intent : VideoUploadIntent)
  /-- Cleanup, before its commit closes the intent. -/
  | closingExpired (context : WorkspaceContext) (intent : VideoUploadIntent)
  | ended (outcome : UploadOutcome)
  deriving DecidableEq

/-- What the provider answers to a completion. -/
inductive CompletionAnswer
  /-- The object is made, and has been read back. -/
  | observed (object : StoredObject)
  /-- The object is made, but the answer or the reading back is lost. -/
  | unobserved (object : StoredObject)
  /-- Nothing is made. -/
  | failed

/-- What a process meets in its next step: the provider's answers, and the identifiers
that the step makes up. -/
structure UploadChoice where
  answer : CompletionAnswer
  /-- The provider answers that it has discarded the parts. -/
  abortAnswered : Bool
  /-- It may have discarded them without an answer. -/
  partsDiscarded : Bool
  assetId : String
  jobId : String
  outboxId : String

/-- The database and the object store. -/
structure UploadWorld where
  db : Database WorkerTables
  store : ObjectStore

namespace UploadWorld

/-- The upload intents. -/
def intents (world : UploadWorld) : Table videoUploadIntentSchema := world.db.app.videoUploadIntents

/-- The assets. -/
def assets (world : UploadWorld) : Table videoAssetSchema := world.db.app.videoAssets

/-- `findVideoUploadIntent`. -/
def findVideoUploadIntent (world : UploadWorld) (context : WorkspaceContext) (intentId : String) :
    Option VideoUploadIntent :=
  world.intents.findFirst fun row => row.id == intentId && row.workspaceId == context.workspaceId

/-- `findVideoAssetForIntent`. -/
def findVideoAssetForIntent (world : UploadWorld) (context : WorkspaceContext)
    (intentId : String) : Option VideoAsset :=
  world.assets.findFirst fun row =>
    row.uploadIntentId == some intentId && row.workspaceId == context.workspaceId

/-- `listExpiredVideoUploadIntents`. -/
def listExpiredVideoUploadIntents (world : UploadWorld) (expiredBefore : ℤ) (limit : ℕ) :
    List VideoUploadIntent :=
  ((world.intents.rows.filter fun row =>
    decide (row.expiresAt < expiredBefore) && row.state == .pending).insertionSort
      fun left right => left.expiresAt ≤ right.expiresAt).take limit

/-- Commit a transaction and go on with its answer; a process ends when it throws. -/
def perform {α : Type} (world : UploadWorld) (body : WorkerTransaction α)
    (next : α → UploadProcess) : UploadWorld × UploadProcess :=
  match body.commit world.db with
  | (.ok answer, db) => ({ world with db }, next answer)
  | (.error _, _) => (world, .ended .failed)

theorem perform_of_ok {α : Type} {world : UploadWorld} {body : WorkerTransaction α}
    {next : α → UploadProcess} {answer : α} {db : Database WorkerTables}
    (h : body.run world.db = .ok (answer, db)) :
    world.perform body next = ({ world with db }, next answer) := by
  unfold perform commit
  rw [h]

theorem perform_of_error {α : Type} {world : UploadWorld} {body : WorkerTransaction α}
    {next : α → UploadProcess} {error : JobError} (h : body.run world.db = .error error) :
    world.perform body next = (world, .ended .failed) := by
  unfold perform commit
  rw [h]

/-- Ask the provider to discard the parts of an upload. -/
def discardParts (world : UploadWorld) (intent : VideoUploadIntent) (choice : UploadChoice) :
    UploadWorld :=
  if choice.partsDiscarded || choice.abortAnswered then
    { world with store :=
        world.store.abortMultipartUpload ⟨intent.objectKey, intent.providerUploadId⟩ }
  else world

/-- Ask the provider to make the object of an upload. -/
def makeObject (world : UploadWorld) (intent : VideoUploadIntent) (object : StoredObject)
    (next : UploadProcess) : UploadWorld × UploadProcess :=
  match world.store.completeMultipartUpload ⟨intent.objectKey, intent.providerUploadId⟩ object with
  | some store => ({ world with store }, next)
  | none => (world, .ended (.refused .storageUnavailable))

end UploadWorld

/-- The row that `createVideoAsset` inserts. -/
def uploadedAsset (request : CompletionRequest) (intent : VideoUploadIntent)
    (object : StoredObject) (assetId : String) : VideoAsset where
  id := assetId
  workspaceId := request.context.workspaceId
  instagramPostId := intent.instagramPostId
  origin := .userUpload
  uploadIntentId := some intent.id
  importJobId := none
  objectKey := intent.objectKey
  objectVersion := object.objectVersion
  etag := object.etag
  bytes := object.bytes
  contentType := object.contentType
  state := .pendingValidation
  measurements := unmeasured
  rejectionCode := none
  validatedAt := none
  purgeAfter := none
  purgedAt := none

/-- What completion does with the intent that it has read. -/
def admitCompletion (request : CompletionRequest) : Option VideoUploadIntent → UploadProcess
  | none => .ended (.refused .intentNotFound)
  | some intent =>
    if intent.state ≠ .pending then .resolving request intent.id
    else if hasUniquePartNumbers request.parts = false then .ended (.refused .duplicatePart)
    else if request.parts.any (fun part => decide (intent.partCount < part.partNumber)) then
      .ended (.refused .partNumberOutOfRange)
    else .storing request intent

/-- What abort does with the intent that it has read. -/
def admitAbort (context : WorkspaceContext) : Option VideoUploadIntent → UploadProcess
  | none => .ended (.refused .intentNotFound)
  | some intent =>
    if intent.state ≠ .pending then .ended (.aborted true) else .abortingParts context intent

/-- What a cleanup job does with the intent that it has read. -/
def admitRelease (context : WorkspaceContext) : Option VideoUploadIntent → UploadProcess
  | none => .ended .released
  | some intent =>
    if intent.state ≠ .pending then .ended .released else .releasingParts context intent

/-- Completion from the stored object on. -/
def settleObject (maxBytes : ℕ) (choice : UploadChoice) (world : UploadWorld)
    (request : CompletionRequest) (intent : VideoUploadIntent) (object : StoredObject) :
    UploadWorld × UploadProcess :=
  if object.bytes ≠ intent.declaredBytes then
    (world.discardParts intent choice, .mismatched request intent)
  else if maxBytes < object.bytes then (world, .ended (.refused .tooLarge))
  else world.perform
    (closeVideoUploadIntent request.context intent.id .completed (some request.now)) fun closed =>
      if closed then .closed request intent object else .resolving request intent.id

/-- One call of a process. -/
def UploadProcess.advance (maxBytes : ℕ) (choice : UploadChoice) (world : UploadWorld) :
    UploadProcess → UploadWorld × UploadProcess
  | .completing request =>
    if isUuidV7 request.intentId = false then (world, .ended (.refused .intentNotFound))
    else (world, admitCompletion request
      (world.findVideoUploadIntent request.context request.intentId))
  | .storing request intent =>
    match choice.answer with
    | .observed object => world.makeObject intent object (.stored request intent object)
    | .unobserved object =>
      world.makeObject intent object (.ended (.refused .storageUnavailable))
    | .failed => (world, .ended (.refused .storageUnavailable))
  | .stored request intent object => settleObject maxBytes choice world request intent object
  | .mismatched request intent =>
    world.perform (closeVideoUploadIntent request.context intent.id .aborted none) fun _ =>
      .ended (.refused .sizeMismatch)
  | .closed request intent object =>
    let asset := uploadedAsset request intent object choice.assetId
    world.perform (videoAsset.create asset) fun _ => .published request asset
  | .published request asset =>
    world.perform (enqueueBackgroundJob request.context
      (assetValidation request.correlationId asset.id) choice.jobId choice.outboxId) fun _ =>
        .ended (.completed false asset.id asset.bytes)
  | .resolving request intentId =>
    match world.findVideoAssetForIntent request.context intentId with
    | some asset => (world, .ended (.completed true asset.id asset.bytes))
    | none => (world, .ended (.refused .intentNotPending))
  | .aborting context intentId =>
    if isUuidV7 intentId = false then (world, .ended (.refused .intentNotFound))
    else (world, admitAbort context (world.findVideoUploadIntent context intentId))
  | .abortingParts context intent =>
    -- a failure of the provider is caught
    (world.discardParts intent choice, .closingAborted context intent)
  | .closingAborted context intent =>
    world.perform (closeVideoUploadIntent context intent.id .aborted none) fun closed =>
      .ended (.aborted !closed)
  | .releasing context intentId =>
    (world, admitRelease context (world.findVideoUploadIntent context intentId))
  | .releasingParts context intent =>
    -- here a failure of the provider fails the job
    (world.discardParts intent choice,
      if choice.abortAnswered then .closingExpired context intent else .ended .failed)
  | .closingExpired context intent =>
    world.perform (closeVideoUploadIntent context intent.id .expired none) fun _ =>
      .ended .released
  | .idle => (world, .idle)
  | .ended outcome => (world, .ended outcome)

/-! ### The system -/

/-- The processes over the database and the object store, and what sweeps have enqueued. -/
structure UploadSystem where
  world : UploadWorld
  /-- The workspace and the intent of each cleanup job. -/
  cleanupJobs : List (String × String)
  processes : ℕ → UploadProcess

/-- What can happen. -/
inductive UploadEvent
  | tick (elapsed : ℕ)
  /-- `initiateVideoUpload` has reserved an upload. -/
  | initiate (intent : VideoUploadIntent)
  | complete (pid : ℕ) (request : CompletionRequest)
  | abort (pid : ℕ) (context : WorkspaceContext) (intentId : String)
  /-- The sweep enqueues cleanup for intents whose window has closed. -/
  | sweep (limit : ℕ)
  /-- A cleanup job is delivered, for the first time or again. -/
  | cleanup (pid : ℕ) (context : WorkspaceContext) (intentId : String)
  | advance (pid : ℕ) (choice : UploadChoice)
  /-- A process stops, or a call of it to the database throws. -/
  | crash (pid : ℕ)

/-- The process that an event is about. -/
def UploadEvent.pid? : UploadEvent → Option ℕ
  | .complete pid _ | .abort pid _ _ | .cleanup pid _ _ | .advance pid _ | .crash pid => some pid
  | .tick _ | .initiate _ | .sweep _ => none

/-- The process has begun and has not ended. -/
def UploadProcess.isRunning : UploadProcess → Bool
  | .idle | .ended _ => false
  | _ => true

namespace UploadSystem

/-- The system before any upload. -/
def start (db : Database WorkerTables) : UploadSystem where
  world :=
    { db := { db with app := { db.app with
        videoUploadIntents := Table.empty _
        videoAssets := Table.empty _ } }
      store := ⟨[], []⟩ }
  cleanupJobs := []
  processes _ := .idle

/-- Another phase of a process. -/
def setProcess (s : UploadSystem) (pid : ℕ) (process : UploadProcess) : UploadSystem :=
  { s with processes := Function.update s.processes pid process }

/-- A process begins. -/
def begin (s : UploadSystem) (pid : ℕ) (process : UploadProcess) : Option UploadSystem :=
  if s.processes pid = .idle then some (s.setProcess pid process) else none

/-- An upload is reserved, under a key and at an upload that the provider has not seen. -/
def reserve (s : UploadSystem) (intent : VideoUploadIntent) : Option UploadSystem :=
  let handle : MultipartUploadHandle := ⟨intent.objectKey, intent.providerUploadId⟩
  if intent.state = .pending ∧ s.world.store.objects.all (fun entry =>
      entry.1 != intent.objectKey) = true then
    match s.world.intents.create intent with
    | .ok intents => some { s with world :=
        { db := { s.world.db with app := { s.world.db.app with videoUploadIntents := intents } }
          store := { s.world.store with uploads := handle :: s.world.store.uploads } } }
    | .error _ => none
  else none

/-- One step, if the event can happen. -/
def next (maxBytes : ℕ) (s : UploadSystem) : UploadEvent → Option UploadSystem
  | .tick elapsed => some { s with world :=
      { s.world with db := { s.world.db with clock := s.world.db.clock + elapsed } } }
  | .initiate intent => s.reserve intent
  | .complete pid request => s.begin pid (.completing request)
  | .abort pid context intentId => s.begin pid (.aborting context intentId)
  | .sweep limit => some { s with cleanupJobs := s.cleanupJobs ++
      (s.world.listExpiredVideoUploadIntents s.world.db.clock limit).map fun intent =>
        (intent.workspaceId, intent.id) }
  | .cleanup pid context intentId =>
    if (context.workspaceId, intentId) ∈ s.cleanupJobs then
      s.begin pid (.releasing context intentId)
    else none
  | .advance pid choice =>
    -- identifiers of assets are never made up twice
    if (s.processes pid).isRunning = true ∧
        s.world.assets.rows.all (fun asset => asset.id != choice.assetId) = true then
      let result := (s.processes pid).advance maxBytes choice s.world
      some { s.setProcess pid result.2 with world := result.1 }
    else none
  | .crash pid =>
    if (s.processes pid).isRunning = true then some (s.setProcess pid (.ended .failed)) else none

/-- The steps of the system. -/
def Step (maxBytes : ℕ) (s : UploadSystem) (event : UploadEvent) (t : UploadSystem) : Prop :=
  s.next maxBytes event = some t

/-- No process is running. -/
def Quiescent (s : UploadSystem) : Prop := ∀ pid, (s.processes pid).isRunning = false

/-- An asset refers to the object. -/
def Referenced (s : UploadSystem) (objectKey : String) : Prop :=
  ∃ asset ∈ s.world.assets.rows, asset.objectKey = objectKey

/-- Every object under the key of an intent is the object of an asset, or its intent is
pending and the object will go away. -/
def Accounted (maxBytes : ℕ) (s : UploadSystem) : Prop :=
  ∀ intent ∈ s.world.intents.rows, s.world.store.Holds intent.objectKey →
    s.Referenced intent.objectKey ∨ (intent.state = .pending ∧
      ∃ later, Transition.Reachable (Step maxBytes) s later ∧
        ¬ later.world.store.Holds intent.objectKey)

end UploadSystem

end ContentAutomation
