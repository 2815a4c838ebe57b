import ContentAutomation.Uploads.Completion

/-!
# The browser's side of an upload

The session of `upload-client.ts`: closures over shared variables, each of which runs up to
its next request and is suspended there. Calls of the session and answers to its requests
come in any order, so several runs may be suspended at a time. A log keeps every call,
every request and every answer, and beside it stands what the session has shown.
-/

namespace ContentAutomation.UploadClient

/-- `UploadPhase`. -/
inductive UploadPhase
  | selecting | reserving | uploading | paused | completing | completed | error
  deriving DecidableEq

/-- `UploadSessionOptions`, less the functions. -/
structure UploadSessionOptions where
  fileSize : ℕ
  fileType : String
  postId : String
  retriesPerPart : Option ℕ := none

/-- `defaultRetriesPerPart`. -/
def defaultRetriesPerPart : ℕ := 3

/-- The attempts that each part gets. -/
def UploadSessionOptions.retries (options : UploadSessionOptions) : ℕ :=
  options.retriesPerPart.getD defaultRetriesPerPart

/-- `genericFailure`. -/
def genericFailure : String := "The upload could not be completed."

/-- `isRetryableStorageStatus`. -/
def isRetryableStorageStatus (status : ℕ) : Bool :=
  if status = 408 ∨ status = 429 then true else decide (500 ≤ status)

/-- `refusalMessages`. -/
def refusalMessages : List (String × String) :=
  [("CONTENT_TYPE_NOT_ACCEPTED", "That file type is not supported. Use MP4, MOV or WebM."),
    ("DUPLICATE_PART", genericFailure),
    ("EMPTY_FILE", "That file is empty."),
    ("INTENT_NOT_FOUND", "This upload is no longer available. Start a new one."),
    ("INTENT_NOT_PENDING", "This upload has already finished."),
    ("PART_NUMBER_OUT_OF_RANGE", genericFailure),
    ("POST_NOT_FOUND", "This post is no longer available."),
    ("SIZE_MISMATCH",
      "The uploaded file did not match the size that was reserved. Try again."),
    ("STORAGE_UNAVAILABLE", "Storage is temporarily unavailable. Try again shortly."),
    ("TOO_LARGE", "That file is larger than this workspace's upload limit."),
    ("UPLOAD_ALREADY_PENDING", "Another upload for this post is already in progress."),
    ("UPLOAD_EXPIRED", "This upload took too long and expired. Start a new one.")]

/-- `describeRefusal`, of a reason that is a text, if it is one. For a reason that names a property of
`Object.prototype`, such as `toString`, the source shows that property and no text. -/
def describeRefusal (reason : Option String) : String :=
  (reason.bind fun text => refusalMessages.lookup text).getD genericFailure

/-- `describeStorageRejection`. -/
def describeStorageRejection (status : ℕ) : String :=
  if status = 413 then
    "This video is larger than the storage limit for this workspace. Upload a smaller file, " ++
      "or ask an administrator to raise the limit."
  else if status = 401 ∨ status = 403 then
    "The upload was not authorised by storage. Start a new upload."
  else "Storage refused this upload. Start a new one."

/-! ### Requests and answers -/

/-- The bytes of the file from `start` on and before `stop`. -/
structure Slice where
  start : ℕ
  stop : ℕ
  deriving DecidableEq

/-- The slice of the file that is a part, for parts of a given size. -/
def partSlice (options : UploadSessionOptions) (partSizeBytes partNumber : ℕ) : Slice :=
  let start := (partNumber - 1) * partSizeBytes
  { start, stop := min (start + partSizeBytes) options.fileSize }

/-- The requests of a session. An intent that is absent is written as `null` into the
path. -/
inductive Request
  | reserve (contentType postId : String) (sizeBytes : ℕ)
  | sign (intentId : Option String) (partNumber : ℕ)
  | put (url : String) (slice : Slice)
  | complete (intentId : Option String) (parts : List CompletedPart)
  | abort (intentId : String)
  deriving DecidableEq

/-- The fields that the session reads of the body of an answer. A body that is no JSON
text has none of them. -/
structure Body where
  intentId : Option String := none
  partCount : Option ℕ := none
  partSizeBytes : Option ℕ := none
  reason : Option String := none
  url : Option String := none
  deriving DecidableEq

/-- What becomes of a request: the network fails, or there is a response, with `none` for
the JSON text `null`, whose fields cannot be read. -/
inductive Answer
  | lost
  | response (status : ℕ) (body : Option Body) (etag : Option String)
  deriving DecidableEq

/-- `Response.ok`. -/
def isOk (status : ℕ) : Bool := decide (200 ≤ status ∧ status ≤ 299)

/-- The text of the `ETag` header, without its quotes. -/
def withoutQuotes (header : String) : String :=
  String.ofList (header.toList.filter fun c => c != '"')

/-- Where a run of the session is suspended. -/
inductive Continuation
  | reserving
  | signing (partNumber attempt : ℕ) (slice : Slice)
  | storing (partNumber attempt : ℕ) (slice : Slice)
  | completing
  | aborting
  deriving DecidableEq

/-- A request without an answer, and what goes on with the answer. -/
structure Pending where
  id : ℕ
  continuation : Continuation
  deriving DecidableEq

/-- The calls that a session takes. -/
inductive Call
  | start | pause | resume | cancel
  deriving DecidableEq

/-- What the log of a session tells. -/
inductive LogEntry
  | called (call : Call)
  | sent (id : ℕ) (request : Request)
  | answered (id : ℕ) (answer : Answer)
  deriving DecidableEq

/-! ### The session -/

/-- The variables of a session, its suspended runs, its log, latest entry first, and the phases of
the snapshots that it has passed on, each with the log of that time. -/
structure UploadState where
  phase : UploadPhase := .selecting
  error : Option String := none
  intentId : Option String := none
  partSizeBytes : ℕ := 0
  partsTotal : ℕ := 0
  pauseRequested : Bool := false
  cancelled : Bool := false
  resumable : Bool := false
  parts : List CompletedPart := []
  pending : List Pending := []
  requests : ℕ := 0
  log : List LogEntry := []
  shown : List (UploadPhase × List LogEntry) := []

def UploadState.initial : UploadState := {}

/-- `UploadSnapshot`. -/
structure UploadSnapshot where
  bytesUploaded : ℤ
  error : Option String
  intentId : Option String
  partsCompleted : ℕ
  partsTotal : ℕ
  phase : UploadPhase
  resumable : Bool
  totalBytes : ℕ

namespace UploadState

/-- `parts.has`. -/
def hasPart (s : UploadState) (partNumber : ℕ) : Bool :=
  s.parts.any fun part => part.partNumber == partNumber

/-- `parts.set`: the part of a number that is known keeps its place. -/
def setPart (part : CompletedPart) (s : UploadState) : UploadState :=
  if s.hasPart part.partNumber then
    { s with
      parts := s.parts.map fun old => if old.partNumber = part.partNumber then part else old }
  else { s with parts := s.parts ++ [part] }

/-- `snapshot`. -/
def snapshot (options : UploadSessionOptions) (s : UploadState) : UploadSnapshot where
  bytesUploaded :=
    (s.parts.map fun part =>
      if part.partNumber = s.partsTotal then
        (options.fileSize : ℤ) - s.partSizeBytes * ((s.partsTotal : ℤ) - 1)
      else (s.partSizeBytes : ℤ)).sum
  error := s.error
  intentId := s.intentId
  partsCompleted := s.parts.length
  partsTotal := s.partsTotal
  phase := s.phase
  resumable := s.phase = .paused ∨ s.resumable
  totalBytes := options.fileSize

/-- `options.onChange(snapshot())`. -/
def onChange (s : UploadState) : UploadState := { s with shown := (s.phase, s.log) :: s.shown }

/-- `transition`. -/
def transition (next : UploadPhase) (message : Option String) (canResume : Bool)
    (s : UploadState) : UploadState :=
  { s with phase := next, error := message, resumable := canResume }.onChange

/-- A call enters the log. -/
def enter (call : Call) (s : UploadState) : UploadState :=
  { s with log := .called call :: s.log }

/-- A request is sent, and the run is suspended until its answer. -/
def send (request : Request) (continuation : Continuation) (s : UploadState) : UploadState :=
  { s with
    pending := s.pending ++ [{ id := s.requests, continuation }]
    requests := s.requests + 1
    log := .sent s.requests request :: s.log }

/-- A request is answered. -/
def settle (id : ℕ) (answer : Answer) (s : UploadState) : UploadState :=
  { s with
    pending := s.pending.filter fun entry => entry.id != id
    log := .answered id answer :: s.log }

/-- `reserve`, up to its request. -/
def reserve (options : UploadSessionOptions) (s : UploadState) : UploadState :=
  (s.transition .reserving none false).send
    (.reserve options.fileType options.postId options.fileSize) .reserving

/-- The end of a run whose part was not uploaded. -/
def partFailed (s : UploadState) : UploadState :=
  if s.pauseRequested then s.transition .paused none false else s

/-- One attempt of `uploadPart`, up to its request, and the end of the run when there are
no more attempts. -/
def attemptPart (options : UploadSessionOptions) (partNumber attempt : ℕ) (slice : Slice)
    (s : UploadState) : UploadState :=
  if attempt ≤ options.retries then
    if s.pauseRequested || s.cancelled then s.partFailed
    else s.send (.sign s.intentId partNumber) (.signing partNumber attempt slice)
  else
    (s.transition .error (some "The connection dropped. You can resume this upload.") true).partFailed

/-- `uploadPart`, up to its first request. -/
def uploadPart (options : UploadSessionOptions) (partNumber : ℕ) (s : UploadState) : UploadState :=
  s.attemptPart options partNumber 1 (partSlice options s.partSizeBytes partNumber)

/-- `complete`, up to its request. -/
def complete (s : UploadState) : UploadState :=
  (s.transition .completing none false).send
    (.complete s.intentId
      (s.parts.insertionSort fun left right => left.partNumber ≤ right.partNumber)) .completing

/-- The loop of `run` from a part on, with the number of parts that are left. -/
def runFrom (options : UploadSessionOptions) : ℕ → ℕ → UploadState → UploadState
  | 0, _, s => s.complete
  | left + 1, partNumber, s =>
    if s.cancelled then s
    else if s.pauseRequested then s.transition .paused none false
    -- A part that a previous run has stored is skipped.
    else if s.hasPart partNumber then runFrom options left (partNumber + 1) s
    else s.uploadPart options partNumber

/-- `run`, up to its first request. -/
def run (options : UploadSessionOptions) (s : UploadState) : UploadState :=
  (s.transition .uploading none false).runFrom options s.partsTotal 1

/-- `start`. -/
def start (options : UploadSessionOptions) (s : UploadState) : UploadState :=
  { s.enter .start with cancelled := false, pauseRequested := false }.reserve options

/-- `resume`. Where nothing was reserved, to resume is to start. -/
def resume (options : UploadSessionOptions) (s : UploadState) : UploadState :=
  let s := { s.enter .resume with pauseRequested := false, error := none }
  if s.intentId = none then s.start options else s.run options

/-- What `cancel` does after its request. -/
def clear (s : UploadState) : UploadState :=
  { s with intentId := none, parts := [] }.transition .selecting none false

/-- `cancel`. -/
def cancel (s : UploadState) : UploadState :=
  let s := { s.enter .cancel with cancelled := true }
  match s.intentId with
  | none => s.clear
  | some intentId => s.send (.abort intentId) .aborting

/-- `pause`. -/
def pause (s : UploadState) : UploadState :=
  { s.enter .pause with pauseRequested := true }

/-- `reserve` and `start` after the answer. -/
def reserved (options : UploadSessionOptions) (answer : Answer) (s : UploadState) : UploadState :=
  match answer with
  -- An exception that leaves `start`.
  | .lost | .response _ none _ => s
  | .response status (some body) _ =>
    match isOk status, body.intentId with
    | true, some intentId =>
      { s with
        intentId := some intentId
        partsTotal := body.partCount.getD 0
        partSizeBytes := body.partSizeBytes.getD 0 }.run options
    | _, _ => s.transition .error (some (describeRefusal body.reason)) false

/-- `uploadPart` after the answer to its request for a signature. -/
def signed (options : UploadSessionOptions) (partNumber attempt : ℕ) (slice : Slice)
    (answer : Answer) (s : UploadState) : UploadState :=
  match answer with
  | .lost | .response _ none _ => s.attemptPart options partNumber (attempt + 1) slice
  | .response status (some body) _ =>
    match isOk status, body.url with
    | true, some url => s.send (.put url slice) (.storing partNumber attempt slice)
    | _, _ => (s.transition .error (some (describeRefusal body.reason)) false).partFailed

/-- The tag that an answer to a `PUT` leaves of a part that was stored. -/
def storedTag : Answer → Option String
  | .lost => none
  | .response status _ etag =>
    if isOk status then
      etag.bind fun header => if withoutQuotes header = "" then none else some (withoutQuotes header)
    else none

/-- `uploadPart` after the answer to its `PUT`, and the loop of `run` from there. -/
def stored (options : UploadSessionOptions) (partNumber attempt : ℕ) (slice : Slice)
    (answer : Answer) (s : UploadState) : UploadState :=
  match storedTag answer with
  | some etag =>
    (s.setPart { partNumber, etag }).onChange.runFrom options (s.partsTotal - partNumber)
      (partNumber + 1)
  | none =>
    match answer with
    | .response status _ _ =>
      if isOk status || isRetryableStorageStatus status then
        s.attemptPart options partNumber (attempt + 1) slice
      else (s.transition .error (some (describeStorageRejection status)) false).partFailed
    | .lost => s.attemptPart options partNumber (attempt + 1) slice

/-- `complete` after the answer. -/
def completed (answer : Answer) (s : UploadState) : UploadState :=
  match answer with
  | .lost => s
  | .response status body _ =>
    if isOk status then s.transition .completed none false
    else
      match body with
      | none => s
      | some body => s.transition .error (some (describeRefusal body.reason)) false

/-- A suspended run goes on with the answer to its request. -/
def proceed (options : UploadSessionOptions) (answer : Answer) (s : UploadState) :
    Continuation → UploadState
  | .reserving => s.reserved options answer
  | .signing partNumber attempt slice => s.signed options partNumber attempt slice answer
  | .storing partNumber attempt slice => s.stored options partNumber attempt slice answer
  | .completing => s.completed answer
  | .aborting => s.clear

end UploadState

/-- The intent that an answer reserves. -/
def Answer.reserves : Answer → Option String
  | .response status (some body) _ => if isOk status then body.intentId else none
  | _ => none

/-- What happens to a session: a call, or the answer to a request. -/
inductive Event
  | call (call : Call)
  | answer (id : ℕ) (answer : Answer)

/-- The intent of an answer to a reservation was not given before: the server answers
with the row that it has just created. -/
def isNew (log : List LogEntry) (answer : Answer) : Bool :=
  log.all fun
    | .answered _ earlier => earlier.reserves.isNone || earlier.reserves != answer.reserves
    | _ => true

/-- What follows an event. -/
def next (options : UploadSessionOptions) (s : UploadState) : Event → Option UploadState
  | .call .start => some (s.start options)
  | .call .pause => some s.pause
  | .call .resume => some (s.resume options)
  | .call .cancel => some s.cancel
  | .answer id answer =>
    match s.pending.find? fun entry => entry.id == id with
    | none => none
    | some entry =>
      if entry.continuation = .reserving ∧ isNew s.log answer = false then none
      else some ((s.settle id answer).proceed options answer entry.continuation)

/-- The steps of a session. -/
def Step (options : UploadSessionOptions) (s : UploadState) (event : Event) (t : UploadState) :
    Prop := next options s event = some t

end ContentAutomation.UploadClient
