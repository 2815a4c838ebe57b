import ContentAutomation.Uploads.UploadClient

/-!
# The schedules of an upload session

What the log of a session has to say of the requests that upload a file, and the schedules
of calls and answers under which it says so. At most one run is suspended then, apart from
requests to abort, and what it has stored belongs to the intent that it completes.
-/

namespace ContentAutomation.UploadClient

open UploadState List LogEntry

/-! ### What a log says -/

/-- The upload was cancelled, and none was started since. -/
def cancelledIn : List LogEntry → Bool
  | [] => false
  | .called .cancel :: _ => true
  | .called .start :: _ => false
  | _ :: earlier => cancelledIn earlier

/-- A pause was asked for, and the upload was neither resumed nor started since. -/
def pausedIn : List LogEntry → Bool
  | [] => false
  | .called .pause :: _ => true
  | .called .resume :: _ | .called .start :: _ => false
  | _ :: earlier => pausedIn earlier

/-- An answer has reserved an intent with its parts. -/
def Reserved (log : List LogEntry) (intentId : String) (partsTotal partSizeBytes : ℕ) : Prop :=
  ∃ id contentType postId sizeBytes status body etag,
    .sent id (.reserve contentType postId sizeBytes) ∈ log ∧
      .answered id (.response status (some body) etag) ∈ log ∧ isOk status = true ∧
      body.intentId = some intentId ∧ body.partCount.getD 0 = partsTotal ∧
      body.partSizeBytes.getD 0 = partSizeBytes

/-- An answer has signed a URL for a part of an intent. -/
def Signed (log : List LogEntry) (intentId : String) (partNumber : ℕ) (url : String) : Prop :=
  ∃ id status body etag, .sent id (.sign (some intentId) partNumber) ∈ log ∧
    .answered id (.response status (some body) etag) ∈ log ∧ isOk status = true ∧
    body.url = some url

/-- An answer has returned the tag of a part, for a `PUT` of a slice of the file to a URL that
was signed for the part of an intent. -/
def Stored (log : List LogEntry) (intentId : String) (slice : Slice) (part : CompletedPart) :
    Prop :=
  ∃ id url answer, Signed log intentId part.partNumber url ∧ .sent id (.put url slice) ∈ log ∧
    .answered id answer ∈ log ∧ storedTag answer = some part.etag

/-- A request that uploads: one for a signature, a `PUT`, or one to complete. -/
def Request.uploads : Request → Bool
  | .sign .. | .put .. | .complete .. => true
  | .reserve .. | .abort .. => false

/-- An entry that completes an intent. -/
def LogEntry.completes (intentId : Option String) : LogEntry → Bool
  | .sent _ (.complete completed _) => completed == intentId
  | _ => false

/-- What completes an intent lists its parts in order, each with the tag of its own `PUT`. -/
def CompletesOwnParts (options : UploadSessionOptions) (log : List LogEntry) : Prop :=
  ∀ id intentId parts earlier, .sent id (.complete intentId parts) :: earlier <:+ log →
    ∃ intent partsTotal partSizeBytes, intentId = some intent ∧
      Reserved earlier intent partsTotal partSizeBytes ∧
      parts.map CompletedPart.partNumber = List.range' 1 partsTotal ∧
      ∀ part ∈ parts,
        Stored earlier intent (partSlice options partSizeBytes part.partNumber) part

/-- An intent is completed at most once. -/
def CompletesOnce (log : List LogEntry) : Prop :=
  ∀ intentId, log.countP (completes intentId) ≤ 1

/-- No request that uploads is sent while the upload is stopped. -/
def StaysStopped (log : List LogEntry) : Prop :=
  ∀ id request earlier, .sent id request :: earlier <:+ log → request.uploads = true →
    cancelledIn earlier = false ∧ pausedIn earlier = false

/-- An upload completes with its own parts, once, and sends nothing while it is stopped. -/
structure OwnParts (options : UploadSessionOptions) (log : List LogEntry) : Prop where
  own : CompletesOwnParts options log
  once : CompletesOnce log
  stopped : StaysStopped log

/-! ### Schedules -/

/-- The URL that an answer signs. -/
def Answer.signs : Answer → Option String
  | .response status (some body) _ => if isOk status then body.url else none
  | _ => none

/-- The number of parts that an answer reserves. -/
def Answer.partCount : Answer → ℕ
  | .response _ (some body) _ => body.partCount.getD 0
  | _ => 0

/-- A run of the upload, and not the end of a cancelled one. -/
def Pending.isRun (entry : Pending) : Bool := entry.continuation != .aborting

/-- A run that waits for a signature or for a `PUT`. -/
def Pending.isUploading (entry : Pending) : Bool :=
  match entry.continuation with
  | .signing .. | .storing .. => true
  | _ => false

namespace UploadState

/-- The runs that are suspended. -/
def runs (s : UploadState) : List Pending := s.pending.filter Pending.isRun

/-- The upload was paused or cancelled. -/
def isStopped (s : UploadState) : Bool := s.cancelled || s.pauseRequested

/-- Every part from a number on is stored. -/
def hasAllFrom (s : UploadState) (partNumber : ℕ) : Bool :=
  (List.range' partNumber (s.partsTotal + 1 - partNumber)).all s.hasPart

/-- The answer leads to a request that is sent without asking whether the upload was stopped:
a `PUT`, or the request to complete. -/
def goesOn (s : UploadState) (answer : Answer) : Continuation → Bool
  | .reserving => answer.reserves.isSome && answer.partCount == 0
  | .signing .. => answer.signs.isSome
  | .storing partNumber _ _ => (storedTag answer).isSome && s.hasAllFrom (partNumber + 1)
  | .completing | .aborting => false

end UploadState

/-- An upload is started where no run is suspended and no part is kept, and resumed where no run
is suspended and its intent was not completed. A run does not go on to a `PUT` or to
the end of its parts after a pause or a cancellation, and does not lose its intent to one
that was cancelled before. -/
def Orderly (s : UploadState) : Event → Prop
  | .call .start => s.runs = [] ∧ s.parts = []
  | .call .resume => s.runs = [] ∧
      (s.intentId = none → s.parts = []) ∧
      (s.intentId ≠ none → s.log.any (completes s.intentId) = false ∧
        (s.hasAllFrom 1 = true → s.cancelled = false))
  | .call .pause | .call .cancel => True
  | .answer id answer => ∀ entry ∈ s.pending, entry.id = id →
      (s.goesOn answer entry.continuation = true → s.isStopped = false) ∧
      (entry.continuation = .aborting → s.pending.any Pending.isUploading = true →
        s.cancelled = true)

instance (s : UploadState) (event : Event) : Decidable (Orderly s event) := by
  unfold Orderly
  split <;> infer_instance

/-! ### Logs -/

section Logs

variable {options : UploadSessionOptions} {log : List LogEntry} {entry : LogEntry}
  {intentId url : String} {partsTotal partSizeBytes partNumber : ℕ} {slice : Slice}
  {part : CompletedPart}

theorem Reserved.cons (h : Reserved log intentId partsTotal partSizeBytes) :
    Reserved (entry :: log) intentId partsTotal partSizeBytes := by
  obtain ⟨id, contentType, postId, sizeBytes, status, body, etag, hsent, hanswered, h⟩ := h
  exact ⟨id, contentType, postId, sizeBytes, status, body, etag, mem_cons_of_mem _ hsent,
    mem_cons_of_mem _ hanswered, h⟩

theorem Signed.mono {log' : List LogEntry} (h : Signed log intentId partNumber url)
    (hlog : log ⊆ log') : Signed log' intentId partNumber url := by
  obtain ⟨id, status, body, etag, hsent, hanswered, h⟩ := h
  exact ⟨id, status, body, etag, hlog hsent, hlog hanswered, h⟩

theorem Stored.cons (h : Stored log intentId slice part) :
    Stored (entry :: log) intentId slice part := by
  obtain ⟨id, url, answer, hsigned, hsent, hanswered, h⟩ := h
  exact ⟨id, url, answer, hsigned.mono (subset_cons_self _ _), mem_cons_of_mem _ hsent,
    mem_cons_of_mem _ hanswered, h⟩

/-- What a log has to say before a request. -/
def Proper (options : UploadSessionOptions) (earlier : List LogEntry) : Request → Prop
  | .reserve .. | .abort _ => True
  | .sign .. | .put .. => cancelledIn earlier = false ∧ pausedIn earlier = false
  | .complete intentId parts => (cancelledIn earlier = false ∧ pausedIn earlier = false) ∧
      earlier.any (completes intentId) = false ∧
      ∃ intent partsTotal partSizeBytes, intentId = some intent ∧
        Reserved earlier intent partsTotal partSizeBytes ∧
        parts.map CompletedPart.partNumber = List.range' 1 partsTotal ∧
        ∀ part ∈ parts,
          Stored earlier intent (partSlice options partSizeBytes part.partNumber) part

/-- Every request of a log is proper. -/
def ProperLog (options : UploadSessionOptions) (log : List LogEntry) : Prop :=
  ∀ id request earlier, .sent id request :: earlier <:+ log → Proper options earlier request

theorem ProperLog.cons (h : ProperLog options log)
    (hentry : ∀ id request, entry = .sent id request → Proper options log request) :
    ProperLog options (entry :: log) := by
  intro id request earlier hsuffix
  rcases suffix_cons_iff.mp hsuffix with heq | hlog
  · cases heq
    exact hentry id request rfl
  · exact h id request earlier hlog

theorem ProperLog.of_cons (h : ProperLog options (entry :: log)) : ProperLog options log :=
  fun id request earlier hsuffix =>
    h id request earlier (hsuffix.trans (suffix_cons entry log))

private theorem ProperLog.countP_completes_le (h : ProperLog options log)
    (intentId : Option String) :
    log.countP (completes intentId) ≤ 1 := by
  induction log with
  | nil => exact Nat.zero_le _
  | cons entry log ih =>
    rw [countP_cons]
    split
    · next hcompletes =>
      obtain ⟨id, parts, rfl⟩ : ∃ id parts, entry = .sent id (.complete intentId parts) := by
        unfold completes at hcompletes
        split at hcompletes
        · next id completed parts => exact ⟨id, parts, by rw [beq_iff_eq.mp hcompletes]⟩
        · cases hcompletes
      have hnone := (h id (.complete intentId parts) log (suffix_refl _)).2.1
      rw [countP_eq_zero.mpr]
      intro earlier hmem hearlier
      exact Bool.false_ne_true (hnone.symm.trans (any_eq_true.mpr ⟨earlier, hmem, hearlier⟩))
    · exact ih h.of_cons

private theorem ProperLog.ownParts (h : ProperLog options log) : OwnParts options log where
  own id intentId parts earlier hsuffix := (h id _ earlier hsuffix).2.2
  once intentId := h.countP_completes_le intentId
  stopped id request earlier hsuffix huploads := by
    have hproper := h id request earlier hsuffix
    cases request with
    | reserve | abort => cases huploads
    | sign | put => exact hproper
    | complete => exact hproper.1

private theorem ProperLog.reserved_of_completes (h : ProperLog options log)
    (hany : log.any (completes (some intentId))) :
    ∃ id answer, .answered id answer ∈ log ∧ answer.reserves = some intentId := by
  induction log with
  | nil => cases hany
  | cons entry log ih =>
    rw [any_cons, Bool.or_eq_true] at hany
    rcases hany with hentry | hlater
    · unfold completes at hentry
      split at hentry
      · next id completed parts =>
        rw [beq_iff_eq.mp hentry] at h
        obtain ⟨intent, partsTotal, partSizeBytes, hintent, hreserved, -⟩ :=
          (h id _ log (suffix_refl _)).2.2
        obtain ⟨id, _, _, _, status, body, etag, -, hanswered, hok, hbody, -⟩ := hreserved
        refine ⟨id, .response status (some body) etag, mem_cons_of_mem _ hanswered, ?_⟩
        rw [Answer.reserves, if_pos hok, hbody, hintent]
      · cases hentry
    · obtain ⟨id, answer, hmem, hreserves⟩ := ih h.of_cons hlater
      exact ⟨id, answer, mem_cons_of_mem _ hmem, hreserves⟩

private theorem ProperLog.not_completes_of_isNew (h : ProperLog options log) {answer : Answer}
    (hnew : isNew log answer) (hreserves : answer.reserves = some intentId) :
    log.any (completes (some intentId)) = false := by
  rw [Bool.eq_false_iff]
  intro hany
  obtain ⟨id, earlier, hmem, hearlier⟩ := h.reserved_of_completes hany
  have hentry := all_eq_true.mp hnew _ hmem
  simp [hearlier, hreserves] at hentry

end Logs

/-! ### The parts of a session -/

section Parts

variable {s : UploadState} {part : CompletedPart} {n : ℕ}

theorem hasPart_iff : s.hasPart n ↔ n ∈ s.parts.map CompletedPart.partNumber := by
  simp [hasPart]

private theorem map_setPart : (s.setPart part).parts.map CompletedPart.partNumber =
    if s.hasPart part.partNumber then s.parts.map CompletedPart.partNumber
    else s.parts.map CompletedPart.partNumber ++ [part.partNumber] := by
  unfold setPart
  split
  · rw [map_map]
    refine map_congr_left fun old _ => ?_
    simp only [Function.comp_apply]
    split
    · next heq => exact heq.symm
    · rfl
  · rw [map_append]
    rfl

private theorem hasPart_setPart :
    (s.setPart part).hasPart n ↔ n = part.partNumber ∨ s.hasPart n := by
  rw [hasPart_iff, map_setPart]
  split
  · next hthere =>
    rw [← hasPart_iff]
    exact ⟨.inr, fun h => h.elim (fun heq => heq ▸ hthere) id⟩
  · rw [mem_append, mem_singleton, ← hasPart_iff, or_comm]

private theorem nodup_setPart (h : (s.parts.map CompletedPart.partNumber).Nodup) :
    ((s.setPart part).parts.map CompletedPart.partNumber).Nodup := by
  rw [map_setPart]
  split
  · exact h
  · next hthere =>
    rw [hasPart_iff] at hthere
    exact nodup_append.mpr ⟨h, nodup_singleton _,
      fun a ha b hb heq => hthere (mem_singleton.mp hb ▸ heq ▸ ha)⟩

private theorem mem_setPart {other : CompletedPart} (h : other ∈ (s.setPart part).parts) :
    other = part ∨ other ∈ s.parts := by
  unfold setPart at h
  split at h
  · obtain ⟨old, hold, rfl⟩ := mem_map.mp h
    split
    · exact .inl rfl
    · exact .inr hold
  · rcases mem_append.mp h with hold | hnew
    · exact .inr hold
    · exact .inl (mem_singleton.mp hnew)

theorem setPart_eq (part : CompletedPart) (s : UploadState) :
    s.setPart part = { s with parts := (s.setPart part).parts } := by
  unfold setPart
  split <;> rfl

private theorem map_insertionSort_parts {partsTotal : ℕ}
    (hnodup : (s.parts.map CompletedPart.partNumber).Nodup)
    (hrange : ∀ part ∈ s.parts, 1 ≤ part.partNumber ∧ part.partNumber ≤ partsTotal)
    (hall : ∀ m, 1 ≤ m → m ≤ partsTotal → s.hasPart m) :
    (s.parts.insertionSort fun left right => left.partNumber ≤ right.partNumber).map
      CompletedPart.partNumber = List.range' 1 partsTotal := by
  rw [map_insertionSort (fun left right : CompletedPart => left.partNumber ≤ right.partNumber)
    (· ≤ ·) CompletedPart.partNumber s.parts fun _ _ _ _ => Iff.rfl]
  have hmem : ∀ m, m ∈ s.parts.map CompletedPart.partNumber ↔ m ∈ List.range' 1 partsTotal := by
    intro m
    rw [mem_range'_1]
    constructor
    · intro h
      obtain ⟨part, hpart, rfl⟩ := mem_map.mp h
      have hbounds := hrange part hpart
      omega
    · intro h
      exact hasPart_iff.mp (hall m h.1 (by omega))
  have hperm : (s.parts.map CompletedPart.partNumber).insertionSort (· ≤ ·) |>.Perm
      (List.range' 1 partsTotal) :=
    (perm_insertionSort _ _).trans
      ((perm_ext_iff_of_nodup hnodup nodup_range').mpr hmem)
  exact hperm.eq_of_pairwise' (pairwise_insertionSort (· ≤ ·) _) (pairwise_le_range' 1)

end Parts

/-! ### The invariant -/

/-- What a session keeps, whatever is suspended: its variables agree with its log, and the parts
of an intent were stored for it. -/
structure Kept (options : UploadSessionOptions) (s : UploadState) : Prop where
  proper : ProperLog options s.log
  cancelled : s.cancelled = cancelledIn s.log
  paused : s.pauseRequested = pausedIn s.log
  numbers : (s.parts.map CompletedPart.partNumber).Nodup
  plan : ∀ intentId, s.intentId = some intentId →
    Reserved s.log intentId s.partsTotal s.partSizeBytes
  own : ∀ intentId, s.intentId = some intentId → ∀ part ∈ s.parts,
    (1 ≤ part.partNumber ∧ part.partNumber ≤ s.partsTotal) ∧
      Stored s.log intentId (partSlice options s.partSizeBytes part.partNumber) part

/-- A run that has come to a part of an intent. The intent is lost to a cancellation only. -/
structure Uploading (options : UploadSessionOptions) (s : UploadState) (intentId : String)
    (partNumber : ℕ) : Prop where
  intent : s.intentId = some intentId ∨ (s.cancelled = true ∧ s.intentId = none)
  notCompleted : s.log.any (completes (some intentId)) = false
  positive : 1 ≤ partNumber
  before : s.cancelled = false → ∀ m, 1 ≤ m → m < partNumber → s.hasPart m = true

/-- What a suspended run relies on. -/
def Suspended (options : UploadSessionOptions) (s : UploadState) (entry : Pending) : Prop :=
  match entry.continuation with
  | .reserving => s.parts = [] ∧ ∃ contentType postId sizeBytes,
      .sent entry.id (.reserve contentType postId sizeBytes) ∈ s.log
  | .signing partNumber _ slice => ∃ intentId, Uploading options s intentId partNumber ∧
      partNumber ≤ s.partsTotal ∧ slice = partSlice options s.partSizeBytes partNumber ∧
      .sent entry.id (.sign (some intentId) partNumber) ∈ s.log
  | .storing partNumber _ slice => ∃ intentId url, Uploading options s intentId partNumber ∧
      partNumber ≤ s.partsTotal ∧ slice = partSlice options s.partSizeBytes partNumber ∧
      Signed s.log intentId partNumber url ∧ .sent entry.id (.put url slice) ∈ s.log
  | .completing | .aborting => True

/-- At most one run is suspended, with what it relies on. -/
structure Inv (options : UploadSessionOptions) (s : UploadState) : Prop extends
    Kept options s where
  single : s.runs = [] ∨ ∃ entry, s.runs = [entry] ∧ Suspended options s entry

section Keeping

variable {options : UploadSessionOptions} {s t : UploadState}
  {request : Request} {continuation : Continuation} {intentId : String} {partNumber : ℕ}
  {entry : Pending} {answer : Answer} {part : CompletedPart}

theorem Kept.onChange (h : Kept options s) : Kept options s.onChange :=
  ⟨h.proper, h.cancelled, h.paused, h.numbers, h.plan, h.own⟩

theorem Kept.transition (h : Kept options s) (next : UploadPhase) (message : Option String)
    (canResume : Bool) : Kept options (s.transition next message canResume) :=
  ⟨h.proper, h.cancelled, h.paused, h.numbers, h.plan, h.own⟩

theorem Kept.idle (h : Kept options s) (hruns : s.runs = []) : Inv options s := ⟨h, .inl hruns⟩

theorem Kept.settle (h : Kept options s) (id : ℕ) (answer : Answer) :
    Kept options (s.settle id answer) where
  proper := h.proper.cons fun _ _ heq => LogEntry.noConfusion heq
  cancelled := h.cancelled
  paused := h.paused
  numbers := h.numbers
  plan intentId hintent := (h.plan intentId hintent).cons
  own intentId hintent part hpart :=
    ⟨(h.own intentId hintent part hpart).1, (h.own intentId hintent part hpart).2.cons⟩

theorem Kept.enter (h : Kept options s) (call : Call) {cancelled paused : Bool}
    (error : Option String) (hcancelled : cancelled = cancelledIn (.called call :: s.log))
    (hpaused : paused = pausedIn (.called call :: s.log)) :
    Kept options { s.enter call with cancelled, pauseRequested := paused, error } where
  proper := h.proper.cons fun _ _ heq => LogEntry.noConfusion heq
  cancelled := hcancelled
  paused := hpaused
  numbers := h.numbers
  plan intentId hintent := (h.plan intentId hintent).cons
  own intentId hintent part hpart :=
    ⟨(h.own intentId hintent part hpart).1, (h.own intentId hintent part hpart).2.cons⟩

theorem Kept.clear (h : Kept options s) : Kept options s.clear where
  proper := h.proper
  cancelled := h.cancelled
  paused := h.paused
  numbers := nodup_nil
  plan _ hintent := by cases hintent
  own _ hintent := by cases hintent

theorem Kept.send (h : Kept options s) (hproper : Proper options s.log request) :
    Kept options (s.send request continuation) where
  proper := h.proper.cons fun _ _ heq => by
    cases heq
    exact hproper
  cancelled := h.cancelled
  paused := h.paused
  numbers := h.numbers
  plan intentId hintent := (h.plan intentId hintent).cons
  own intentId hintent part hpart :=
    ⟨(h.own intentId hintent part hpart).1, (h.own intentId hintent part hpart).2.cons⟩

private theorem runs_send (hrun : continuation ≠ .aborting) (hruns : s.runs = []) :
    (s.send request continuation).runs = [{ id := s.requests, continuation }] := by
  have hnew : Pending.isRun { id := s.requests, continuation } = true := bne_iff_ne.mpr hrun
  unfold runs at hruns
  simp only [runs, UploadState.send, filter_append, hruns, nil_append,
    filter_cons_of_pos hnew, filter_nil]

private theorem Kept.suspend (h : Kept options s) (hruns : s.runs = [])
    (hrun : continuation ≠ .aborting) (hproper : Proper options s.log request)
    (hsuspended : Suspended options (s.send request continuation) ⟨s.requests, continuation⟩) :
    Inv options (s.send request continuation) :=
  ⟨h.send hproper, .inr ⟨_, runs_send hrun hruns, hsuspended⟩⟩

private theorem Kept.not_stopped (h : Kept options s) (hstopped : s.isStopped = false) :
    cancelledIn s.log = false ∧ pausedIn s.log = false := by
  rw [← h.cancelled, ← h.paused]
  exact Bool.or_eq_false_iff.mp hstopped

theorem Kept.partFailed (h : Kept options s) (hruns : s.runs = []) : Inv options s.partFailed := by
  unfold UploadState.partFailed
  split
  · exact (h.transition _ _ _).idle hruns
  · exact h.idle hruns

private theorem Uploading.intent_eq (h : Uploading options s intentId partNumber)
    (hcancelled : s.cancelled = false) : s.intentId = some intentId := by
  rcases h.intent with hintent | ⟨htrue, -⟩
  · exact hintent
  · exact absurd (hcancelled.symm.trans htrue) Bool.false_ne_true

theorem Uploading.send (h : Uploading options s intentId partNumber)
    (hcompletes : completes (some intentId) (.sent s.requests request) = false) :
    Uploading options (s.send request continuation) intentId partNumber where
  intent := h.intent
  notCompleted := by
    simp only [UploadState.send, any_cons, hcompletes, h.notCompleted, Bool.or_self]
  positive := h.positive
  before := h.before

theorem Kept.attemptPart (h : Kept options s) (hruns : s.runs = [])
    (hat : Uploading options s intentId partNumber) (hle : partNumber ≤ s.partsTotal)
    (attempt : ℕ) : Inv options (s.attemptPart options partNumber attempt
      (partSlice options s.partSizeBytes partNumber)) := by
  unfold UploadState.attemptPart
  split
  · split
    · exact h.partFailed hruns
    · next hgoes =>
      have hstopped : s.isStopped = false := by
        rw [Bool.or_comm] at hgoes
        exact Bool.eq_false_iff.mpr hgoes
      have hintent := hat.intent_eq (Bool.or_eq_false_iff.mp hstopped).1
      refine h.suspend hruns (by simp) (h.not_stopped hstopped) ?_
      refine ⟨intentId, hat.send rfl, hle, rfl, ?_⟩
      rw [hintent]
      exact mem_cons_self
  · exact (h.transition _ _ _).partFailed hruns

theorem Kept.complete (h : Kept options s) (hruns : s.runs = [])
    (hat : Uploading options s intentId partNumber) (hend : partNumber = s.partsTotal + 1)
    (hstopped : s.isStopped = false) : Inv options s.complete := by
  have hcancelled := (Bool.or_eq_false_iff.mp hstopped).1
  have hintent := hat.intent_eq hcancelled
  refine (h.transition _ _ _).suspend hruns (by simp) ⟨h.not_stopped hstopped, ?_, ?_⟩ trivial
  · rw [hintent]
    exact hat.notCompleted
  · refine ⟨intentId, s.partsTotal, s.partSizeBytes, hintent, h.plan intentId hintent, ?_, ?_⟩
    · refine map_insertionSort_parts h.numbers (fun part hpart => (h.own _ hintent part hpart).1) ?_
      intro m hpositive hle
      exact hat.before hcancelled m hpositive (by omega)
    · intro part hpart
      exact (h.own _ hintent part ((mem_insertionSort _).mp hpart)).2

/-- The loop comes to a part that is missing, or to the end of the parts. -/
theorem Kept.runFrom (h : Kept options s) (hruns : s.runs = []) (left : ℕ)
    (hat : Uploading options s intentId partNumber) (hleft : partNumber + left = s.partsTotal + 1)
    (hlast : s.hasAllFrom partNumber → s.isStopped = false) :
    Inv options (s.runFrom options left partNumber) := by
  induction left generalizing partNumber with
  | zero =>
    have hall : s.hasAllFrom partNumber = true := by
      rw [hasAllFrom, ← hleft, Nat.add_zero, Nat.sub_self]
      rfl
    exact h.complete hruns hat hleft (hlast hall)
  | succ left ih =>
    unfold UploadState.runFrom
    split
    · exact h.idle hruns
    · next hgoes =>
      have hcancelled := Bool.eq_false_iff.mpr hgoes
      split
      · exact (h.transition _ _ _).idle hruns
      · split
        · next hthere =>
          refine ih ⟨hat.intent, hat.notCompleted, by omega, ?_⟩ (by omega) ?_
          · intro _ m hpositive hlt
            rcases Nat.lt_succ_iff_lt_or_eq.mp hlt with hearlier | rfl
            · exact hat.before hcancelled m hpositive hearlier
            · exact hthere
          · intro hall
            refine hlast ?_
            have hlength : s.partsTotal + 1 - partNumber = s.partsTotal + 1 - (partNumber + 1) + 1 := by
              omega
            rw [hasAllFrom, hlength, range'_succ, all_cons, hthere, Bool.true_and]
            exact hall
        · exact h.attemptPart hruns hat (by omega) 1

theorem Kept.run (h : Kept options s) (hruns : s.runs = []) (hintent : s.intentId = some intentId)
    (hcompletes : s.log.any (completes (some intentId)) = false)
    (hlast : s.hasAllFrom 1 → s.isStopped = false) : Inv options (s.run options) := by
  have hat : Uploading options (s.transition .uploading none false) intentId 1 :=
    ⟨.inl hintent, hcompletes, le_rfl, fun _ m hpositive hlt => by omega⟩
  exact (h.transition .uploading none false).runFrom hruns s.partsTotal hat (Nat.add_comm _ _) hlast

theorem Kept.start (h : Kept options s) (hruns : s.runs = []) (hparts : s.parts = []) :
    Inv options (s.start options) := by
  have hkept : Kept options { s.enter .start with cancelled := false, pauseRequested := false } :=
    h.enter .start s.error rfl rfl
  refine (hkept.transition .reserving none false).suspend hruns (by simp) trivial ?_
  exact ⟨hparts, _, _, _, mem_cons_self⟩

theorem runs_settle (id : ℕ) (answer : Answer) :
    (s.settle id answer).runs = s.runs.filter fun entry => entry.id != id := by
  simp only [runs, UploadState.settle, filter_filter, Bool.and_comm]

theorem Inv.found (h : Inv options s) {id : ℕ} (answer : Answer)
    (hfound : s.pending.find? (fun entry => entry.id == id) = some entry)
    (hrun : entry.isRun) :
    entry.id = id ∧ Suspended options s entry ∧ (s.settle id answer).runs = [] := by
  have hid : entry.id = id := by simpa using List.find?_some hfound
  have hmem : entry ∈ s.runs := mem_filter.mpr ⟨mem_of_find?_eq_some hfound, hrun⟩
  rcases h.single with hnone | ⟨only, honly, hsuspended⟩
  · rw [hnone] at hmem
    cases hmem
  · rw [honly, mem_singleton] at hmem
    subst hmem
    refine ⟨hid, hsuspended, ?_⟩
    rw [runs_settle, honly, filter_cons_of_neg (by simp [hid]), filter_nil]

theorem Uploading.settle (h : Uploading options s intentId partNumber) (id : ℕ) (answer : Answer) :
    Uploading options (s.settle id answer) intentId partNumber :=
  ⟨h.intent, h.notCompleted, h.positive, h.before⟩

/-- The answer to a reservation begins the run of a new intent. -/
theorem Inv.reserved (h : Inv options s) {id : ℕ}
    (hfound : s.pending.find? (fun entry => entry.id == id) = some entry)
    (hcontinuation : entry.continuation = .reserving) (hnew : isNew s.log answer)
    (horderly : s.goesOn answer .reserving → s.isStopped = false) :
    Inv options ((s.settle id answer).reserved options answer) := by
  obtain ⟨rfl, hsuspended, hruns⟩ := h.found answer hfound (by rw [Pending.isRun, hcontinuation]; rfl)
  rw [Suspended, hcontinuation] at hsuspended
  obtain ⟨hparts, contentType, postId, sizeBytes, hsent⟩ := hsuspended
  have hkept := h.toKept.settle entry.id answer
  unfold UploadState.reserved
  split
  · exact hkept.idle hruns
  · exact hkept.idle hruns
  · next status body etag =>
    split
    · next intentId hok hbody =>
      have hreserves : Answer.reserves (.response status (some body) etag) = some intentId := by
        rw [Answer.reserves, if_pos hok, hbody]
      have hcompletes := h.proper.not_completes_of_isNew hnew hreserves
      refine Kept.run ⟨hkept.proper, hkept.cancelled, hkept.paused, hkept.numbers, ?_, ?_⟩ hruns rfl
        hcompletes ?_
      · rintro _ ⟨⟩
        exact ⟨entry.id, contentType, postId, sizeBytes, status, body, etag,
          mem_cons_of_mem _ hsent, mem_cons_self, hok, hbody, rfl, rfl⟩
      · intro _ _ part hpart
        exact absurd (hparts ▸ hpart : part ∈ ([] : List CompletedPart)) not_mem_nil
      · intro hall
        refine horderly ?_
        rw [goesOn, hreserves, Option.isSome_some, Bool.true_and, beq_iff_eq, Answer.partCount]
        by_contra hne
        have hfirst := all_eq_true.mp hall 1 (mem_range'_1.mpr ⟨le_rfl, by
          change 1 < 1 + (body.partCount.getD 0 + 1 - 1)
          omega⟩)
        obtain ⟨part, hpart, -⟩ := mem_map.mp (hasPart_iff.mp hfirst)
        exact absurd (hparts ▸ hpart : part ∈ ([] : List CompletedPart)) not_mem_nil
    · exact (hkept.transition _ _ _).idle hruns

/-- The answer to a request for a signature leads to a `PUT`, to another attempt, or to the end
of the run. -/
theorem Inv.signed (h : Inv options s) {id attempt : ℕ} {slice : Slice}
    (hfound : s.pending.find? (fun entry => entry.id == id) = some entry)
    (hcontinuation : entry.continuation = .signing partNumber attempt slice)
    (horderly : answer.signs.isSome → s.isStopped = false) :
    Inv options ((s.settle id answer).signed options partNumber attempt slice answer) := by
  obtain ⟨rfl, hsuspended, hruns⟩ := h.found answer hfound (by rw [Pending.isRun, hcontinuation]; rfl)
  rw [Suspended, hcontinuation] at hsuspended
  obtain ⟨intentId, hat, hle, rfl, hsent⟩ := hsuspended
  have hkept := h.toKept.settle entry.id answer
  have hretry := hkept.attemptPart hruns (hat.settle entry.id answer) hle (attempt + 1)
  unfold UploadState.signed
  split
  · exact hretry
  · exact hretry
  · next status body etag =>
    split
    · next url hok hbody =>
      have hsigns : Answer.signs (.response status (some body) etag) = some url := by
        rw [Answer.signs, if_pos hok, hbody]
      have hstopped := horderly (by rw [hsigns]; rfl)
      refine hkept.suspend hruns (by simp) (hkept.not_stopped hstopped) ?_
      refine ⟨intentId, url, (hat.settle entry.id _).send rfl, hle, rfl, ?_, mem_cons_self⟩
      exact ⟨entry.id, status, body, etag, mem_cons_of_mem _ (mem_cons_of_mem _ hsent),
        mem_cons_of_mem _ mem_cons_self, hok, hbody⟩
    · exact (hkept.transition _ _ _).partFailed hruns

theorem Kept.setPart (h : Kept options s) (hown : ∀ intentId, s.intentId = some intentId →
      (1 ≤ part.partNumber ∧ part.partNumber ≤ s.partsTotal) ∧
        Stored s.log intentId (partSlice options s.partSizeBytes part.partNumber) part) :
    Kept options (s.setPart part) := by
  have hnumbers : ((s.setPart part).parts.map CompletedPart.partNumber).Nodup :=
    nodup_setPart h.numbers
  have hmem : ∀ other ∈ (s.setPart part).parts, other = part ∨ other ∈ s.parts :=
    fun other => mem_setPart
  rw [setPart_eq]
  refine ⟨h.proper, h.cancelled, h.paused, hnumbers, h.plan, ?_⟩
  intro intentId hintent other hother
  rcases hmem other hother with rfl | hold
  · exact hown intentId hintent
  · exact h.own intentId hintent other hold

theorem Uploading.setPart (h : Uploading options s intentId part.partNumber) :
    Uploading options (s.setPart part) intentId (part.partNumber + 1) := by
  have hbefore : s.cancelled = false → ∀ m, 1 ≤ m → m < part.partNumber + 1 →
      (s.setPart part).hasPart m = true := by
    intro hcancelled m hpositive hlt
    rcases Nat.lt_succ_iff_lt_or_eq.mp hlt with hearlier | heq
    · exact hasPart_setPart.mpr (.inr (h.before hcancelled m hpositive hearlier))
    · exact hasPart_setPart.mpr (.inl heq)
  rw [setPart_eq] at hbefore ⊢
  exact ⟨h.intent, h.notCompleted, Nat.succ_pos _, hbefore⟩

private theorem hasAllFrom_of_setPart (h : (s.setPart part).hasAllFrom (part.partNumber + 1)) :
    s.hasAllFrom (part.partNumber + 1) := by
  have htotal : (s.setPart part).partsTotal = s.partsTotal := by rw [setPart_eq]
  rw [hasAllFrom, htotal, all_eq_true] at h
  refine all_eq_true.mpr fun m hmem => ?_
  rcases hasPart_setPart.mp (h m hmem) with heq | hthere
  · rw [mem_range'_1] at hmem
    omega
  · exact hthere

/-- The answer to a `PUT` leads on to the next part, to another attempt, or to the end of the
run. -/
theorem Inv.stored (h : Inv options s) {id attempt : ℕ} {slice : Slice}
    (hfound : s.pending.find? (fun entry => entry.id == id) = some entry)
    (hcontinuation : entry.continuation = .storing partNumber attempt slice)
    (horderly : (storedTag answer).isSome → s.hasAllFrom (partNumber + 1) →
      s.isStopped = false) :
    Inv options ((s.settle id answer).stored options partNumber attempt slice answer) := by
  obtain ⟨rfl, hsuspended, hruns⟩ := h.found answer hfound (by rw [Pending.isRun, hcontinuation]; rfl)
  rw [Suspended, hcontinuation] at hsuspended
  obtain ⟨intentId, url, hat, hle, rfl, hsigned, hsent⟩ := hsuspended
  have hkept := h.toKept.settle entry.id answer
  have hsettled := hat.settle entry.id answer
  have hretry := hkept.attemptPart hruns hsettled hle (attempt + 1)
  unfold UploadState.stored
  split
  · next etag htag =>
    have hset : Kept options ((s.settle entry.id answer).setPart { partNumber, etag }) := by
      refine hkept.setPart fun current hcurrent => ⟨⟨hat.positive, hle⟩, ?_⟩
      have hsame : current = intentId := by
        rcases hat.intent with hintent | ⟨-, hnone⟩
        · exact Option.some.inj (hcurrent.symm.trans hintent)
        · exact absurd (hcurrent.symm.trans hnone) (Option.some_ne_none _)
      subst hsame
      exact ⟨entry.id, url, answer, hsigned.mono (subset_cons_self _ _), mem_cons_of_mem _ hsent,
        mem_cons_self, htag⟩
    have hleft : partNumber + 1 + (s.partsTotal - partNumber) =
        ((s.settle entry.id answer).setPart { partNumber, etag }).partsTotal + 1 := by
      rw [setPart_eq]
      change partNumber + 1 + (s.partsTotal - partNumber) = s.partsTotal + 1
      omega
    have hnext : Uploading options
        ((s.settle entry.id answer).setPart { partNumber, etag }).onChange intentId
        (partNumber + 1) := by
      have hset := @Uploading.setPart _ _ _ { partNumber, etag } hsettled
      exact ⟨hset.intent, hset.notCompleted, hset.positive, hset.before⟩
    refine hset.onChange.runFrom ?_ _ hnext hleft fun hall => ?_
    · rw [setPart_eq]
      exact hruns
    · have hset : ((s.settle entry.id answer).setPart { partNumber, etag }).hasAllFrom
          (partNumber + 1) = true := hall
      have hstopped := horderly (by rw [htag]; rfl) (hasAllFrom_of_setPart hset)
      rw [setPart_eq]
      exact hstopped
  · split
    · split
      · exact hretry
      · exact (hkept.transition _ _ _).partFailed hruns
    · exact hretry

theorem Inv.completed (h : Inv options s) {id : ℕ}
    (hfound : s.pending.find? (fun entry => entry.id == id) = some entry)
    (hcontinuation : entry.continuation = .completing) :
    Inv options ((s.settle id answer).completed answer) := by
  obtain ⟨rfl, -, hruns⟩ := h.found answer hfound (by rw [Pending.isRun, hcontinuation]; rfl)
  have hkept := h.toKept.settle entry.id answer
  unfold UploadState.completed
  split
  · exact hkept.idle hruns
  · split
    · exact (hkept.transition _ _ _).idle hruns
    · split
      · exact hkept.idle hruns
      · exact (hkept.transition _ _ _).idle hruns

/-- A suspended run keeps what it relies on as long as the log only grows, and the intent and its
parts stay, or are cleared after a cancellation. -/
theorem Suspended.transfer (h : Suspended options s entry)
    (hlog : s.log ⊆ t.log)
    (hcompletes : ∀ intentId, t.log.any (completes intentId) =
      s.log.any (completes intentId))
    (htotal : t.partsTotal = s.partsTotal) (hsize : t.partSizeBytes = s.partSizeBytes)
    (hcancelled : s.cancelled → t.cancelled)
    (hkept : (t.intentId = s.intentId ∧ t.parts = s.parts) ∨ (t.intentId = none ∧ t.parts = [] ∧
      (entry.isUploading → t.cancelled))) : Suspended options t entry := by
  have hmoves : ∀ {intentId partNumber}, entry.isUploading = true →
      Uploading options s intentId partNumber → Uploading options t intentId partNumber := by
    intro intentId partNumber huploading hat
    refine ⟨?_, (hcompletes _).trans hat.notCompleted, hat.positive, fun hgoes => ?_⟩
    · rcases hkept with ⟨hintent, -⟩ | ⟨hnone, -, hstopped⟩
      · exact hintent ▸ hat.intent.imp id fun hlost => ⟨hcancelled hlost.1, hlost.2⟩
      · exact .inr ⟨hstopped huploading, hnone⟩
    · rcases hkept with ⟨-, hparts⟩ | ⟨-, -, hstopped⟩
      · have hbefore : s.cancelled = false := by
          rw [← Bool.not_eq_true]
          exact fun htrue => Bool.false_ne_true (hgoes.symm.trans (hcancelled htrue))
        simpa only [hasPart, hparts] using hat.before hbefore
      · exact absurd (hgoes.symm.trans (hstopped huploading)) Bool.false_ne_true
  unfold Suspended at h ⊢
  rw [htotal, hsize]
  split at h
  · obtain ⟨hparts, contentType, postId, sizeBytes, hsent⟩ := h
    refine ⟨?_, contentType, postId, sizeBytes, hlog hsent⟩
    rcases hkept with ⟨-, hsame⟩ | ⟨-, hnone, -⟩
    · exact hsame.trans hparts
    · exact hnone
  · next hcontinuation =>
    obtain ⟨intentId, hat, hle, hslice, hsent⟩ := h
    have huploading : entry.isUploading = true := by rw [Pending.isUploading, hcontinuation]
    exact ⟨intentId, hmoves huploading hat, hle, hslice, hlog hsent⟩
  · next hcontinuation =>
    obtain ⟨intentId, url, hat, hle, hslice, hsigned, hsent⟩ := h
    have huploading : entry.isUploading = true := by rw [Pending.isUploading, hcontinuation]
    exact ⟨intentId, url, hmoves huploading hat, hle, hslice, hsigned.mono hlog, hlog hsent⟩
  · trivial
  · trivial

theorem Inv.pause (h : Inv options s) : Inv options s.pause := by
  refine ⟨h.toKept.enter .pause s.error h.cancelled rfl, h.single.imp id fun ⟨entry, honly, hsuspended⟩ => ⟨entry, honly, ?_⟩⟩
  exact hsuspended.transfer (subset_cons_self _ _) (fun _ => rfl) rfl rfl id
    (.inl ⟨rfl, rfl⟩)

theorem Inv.cancel (h : Inv options s) : Inv options s.cancel := by
  have hkept : Kept options { s.enter .cancel with cancelled := true } :=
    h.toKept.enter .cancel s.error rfl h.paused
  unfold UploadState.cancel
  dsimp only
  split
  · refine ⟨hkept.clear, h.single.imp id fun ⟨entry, honly, hsuspended⟩ => ⟨entry, honly, ?_⟩⟩
    exact hsuspended.transfer (subset_cons_self _ _) (fun _ => rfl) rfl rfl (fun _ => rfl)
      (.inr ⟨rfl, rfl, fun _ => rfl⟩)
  · next intentId hintent =>
    refine ⟨hkept.send trivial, ?_⟩
    have hruns : ({ s.enter .cancel with cancelled := true }.send (.abort intentId) .aborting).runs =
        s.runs := by
      simp [runs, UploadState.send, Pending.isRun, UploadState.enter]
    rw [hruns]
    refine h.single.imp id fun ⟨entry, honly, hsuspended⟩ => ⟨entry, honly, ?_⟩
    exact hsuspended.transfer (fun _ hmem => mem_cons_of_mem _ (mem_cons_of_mem _ hmem))
      (fun _ => rfl) rfl rfl (fun _ => rfl) (.inl ⟨rfl, rfl⟩)

/-- The end of a cancellation clears what is kept, and leaves a run that does not need it. -/
theorem Inv.clear (h : Inv options s) (id : ℕ) (answer : Answer)
    (horderly : s.pending.any Pending.isUploading → s.cancelled) :
    Inv options (s.settle id answer).clear := by
  refine ⟨(h.toKept.settle id answer).clear, ?_⟩
  have hruns : (s.settle id answer).clear.runs = s.runs.filter fun entry => entry.id != id :=
    runs_settle id answer
  rw [hruns]
  rcases h.single with hnone | ⟨entry, honly, hsuspended⟩
  · left
    rw [hnone, filter_nil]
  · rw [honly]
    by_cases hid : entry.id = id
    · left
      rw [filter_cons_of_neg (by simp [hid]), filter_nil]
    · right
      refine ⟨entry, by rw [filter_cons_of_pos (by simp [hid]), filter_nil], ?_⟩
      have hmem : entry ∈ s.runs := honly ▸ mem_singleton_self entry
      exact hsuspended.transfer (subset_cons_self _ _) (fun _ => rfl) rfl rfl (fun h => h)
        (.inr ⟨rfl, rfl, fun huploading => horderly (any_eq_true.mpr
          ⟨entry, mem_of_mem_filter hmem, huploading⟩)⟩)

theorem Inv.resume (h : Inv options s) (horderly : Orderly s (.call .resume)) :
    Inv options (s.resume options) := by
  obtain ⟨hruns, hnone, hsome⟩ := horderly
  have hkept : Kept options { s.enter .resume with pauseRequested := false, error := none } :=
    h.toKept.enter .resume none h.cancelled rfl
  unfold UploadState.resume
  dsimp only
  split
  · next hintent => exact hkept.start hruns (hnone hintent)
  · next hintent =>
    obtain ⟨intentId, heq⟩ := Option.ne_none_iff_exists'.mp hintent
    obtain ⟨hcompletes, hlast⟩ := hsome hintent
    refine hkept.run hruns heq ?_ fun hall => ?_
    · exact heq ▸ hcompletes
    · rw [isStopped, Bool.or_false]
      exact hlast hall

/-- What is kept of a session is kept along every orderly step. -/
theorem Inv.step {event : Event} (h : Inv options s) (horderly : Orderly s event)
    (hnext : next options s event = some t) : Inv options t := by
  unfold next at hnext
  split at hnext
  · cases hnext
    exact h.start horderly.1 horderly.2
  · cases hnext
    exact h.pause
  · cases hnext
    exact h.resume horderly
  · cases hnext
    exact h.cancel
  · next id answer =>
    split at hnext
    · cases hnext
    · next entry hfound =>
      split at hnext
      · cases hnext
      · next hnew =>
        cases hnext
        have hmem := mem_of_find?_eq_some hfound
        have hid : entry.id = id := by simpa using List.find?_some hfound
        obtain ⟨hgoes, hlost⟩ := horderly entry hmem hid
        cases hcontinuation : entry.continuation with
        | reserving =>
          rw [hcontinuation] at hgoes
          exact h.reserved hfound hcontinuation (by simpa [hcontinuation] using hnew) hgoes
        | signing partNumber attempt slice =>
          rw [hcontinuation] at hgoes
          exact h.signed hfound hcontinuation hgoes
        | storing partNumber attempt slice =>
          rw [hcontinuation] at hgoes
          exact h.stored hfound hcontinuation fun htag hall =>
            hgoes (by rw [goesOn, htag, hall, Bool.true_and])
        | completing => exact h.completed hfound hcontinuation
        | aborting => exact h.clear id answer (hlost hcontinuation)

end Keeping

/-! ### Orderly schedules -/

variable {options : UploadSessionOptions} {s : UploadState}

theorem inv_initial : Inv options .initial where
  proper _ _ _ hsuffix := by cases suffix_nil.mp hsuffix
  cancelled := rfl
  paused := rfl
  numbers := nodup_nil
  plan _ hintent := by cases hintent
  own _ hintent := by cases hintent
  single := .inl rfl

/-- **An upload completes with its own parts.** In every orderly schedule of calls and answers,
a request to complete an intent lists all of its parts in order, each with the tag of a `PUT` of its
slice to a URL that was signed for the intent, an intent is completed at most once, and no request
that uploads is started while the upload is stopped. -/
theorem completes_with_own_parts
    (h : Transition.Reachable (Transition.Restricted (Step options) Orderly) .initial s) :
    OwnParts options s.log := by
  have hinv : Inv options s :=
    h.invariant inv_initial fun hinv hstep => hinv.step hstep.1 hstep.2
  exact hinv.proper.ownParts

def sampleOptions : UploadSessionOptions where
  fileSize := 12
  fileType := "video/mp4"
  postId := "post"

/-- A schedule that pauses during the first of two parts, and goes on from there. -/
def pausedSchedule : List Event :=
  [.call .start,
    .answer 0 (.response 201
      (some { intentId := some "first", partCount := some 2, partSizeBytes := some 8 }) none),
    .answer 1 (.response 200 (some { url := some "part-1" }) none),
    .call .pause,
    .answer 2 (.response 200 none (some "\"a\"")),
    .call .resume,
    .answer 3 .lost,
    .answer 4 (.response 200 (some { url := some "part-2" }) none),
    .answer 5 (.response 200 none (some "\"b\"")),
    .answer 6 (.response 201 (some {}) none)]

/-- An upload that was paused completes with its own parts. -/
theorem paused_upload_completes : ∃ s : UploadState,
    s.log.any (LogEntry.completes (some "first")) = true ∧ OwnParts sampleOptions s.log := by
  have hreplay : (Transition.replayWithin (next sampleOptions) Orderly .initial pausedSchedule).map
      (fun s => s.log.any (completes (some "first"))) = some true := by decide
  obtain ⟨s, hs, hcompletes⟩ := Option.map_eq_some_iff.mp hreplay
  exact ⟨s, hcompletes, completes_with_own_parts
    (Transition.Reachable.replayWithin Transition.Reachable.refl hs)⟩

/-- A schedule that pauses while a signature is on its way, resumes while the intent is being
completed, and starts again with the parts that are kept. -/
def hastySchedule : List Event :=
  [.call .start,
    .answer 0 (.response 201
      (some { intentId := some "first", partCount := some 1, partSizeBytes := some 12 }) none),
    .call .pause,
    .answer 1 (.response 200 (some { url := some "part-1" }) none),
    .answer 2 (.response 200 none (some "\"a\"")),
    .call .resume,
    .call .start,
    .answer 5 (.response 201
      (some { intentId := some "second", partCount := some 1, partSizeBytes := some 12 }) none)]

def hastyLog : List LogEntry :=
  [.sent 6 (.complete (some "second") [{ partNumber := 1, etag := "a" }]),
    .answered 5 (.response 201
      (some { intentId := some "second", partCount := some 1, partSizeBytes := some 12 }) none),
    .sent 5 (.reserve "video/mp4" "post" 12), .called .start,
    .sent 4 (.complete (some "first") [{ partNumber := 1, etag := "a" }]), .called .resume,
    .sent 3 (.complete (some "first") [{ partNumber := 1, etag := "a" }]),
    .answered 2 (.response 200 none (some "\"a\"")),
    .sent 2 (.put "part-1" { start := 0, stop := 12 }),
    .answered 1 (.response 200 (some { url := some "part-1" }) none), .called .pause,
    .sent 1 (.sign (some "first") 1),
    .answered 0 (.response 201
      (some { intentId := some "first", partCount := some 1, partSizeBytes := some 12 }) none),
    .sent 0 (.reserve "video/mp4" "post" 12), .called .start]

/-- A `PUT` is sent after a pause, an intent is completed twice, and another one with a part
that was not stored for it. -/
theorem hasty_upload_completes_with_other_parts : ∃ s,
    Transition.Reachable (Step sampleOptions) .initial s ∧
      ¬ CompletesOwnParts sampleOptions s.log ∧ ¬ CompletesOnce s.log ∧ ¬ StaysStopped s.log := by
  have hreplay : (Transition.replay (next sampleOptions) [] .initial hastySchedule).map
      (fun result => result.2.log) = some hastyLog := by decide
  obtain ⟨⟨history, s⟩, hs, hlog⟩ := Option.map_eq_some_iff.mp hreplay
  refine ⟨s, ⟨history, Transition.Run.refl.replay hs⟩, ?_⟩
  change s.log = hastyLog at hlog
  rw [hlog]
  refine ⟨fun hown => ?_, fun honce => ?_, fun hstopped => ?_⟩
  · obtain ⟨intent, _, _, hintent, -, -, hstored⟩ :=
      hown 6 (some "second") [{ partNumber := 1, etag := "a" }] _ (suffix_refl _)
    cases hintent
    obtain ⟨_, _, _, ⟨id, _, _, _, hsent, -⟩, -⟩ := hstored _ mem_cons_self
    simp at hsent
  · exact absurd (honce (some "first")) (by decide)
  · have hput := hstopped 2 (.put "part-1" { start := 0, stop := 12 }) (hastyLog.drop 9)
      ⟨hastyLog.take 8, rfl⟩ rfl
    exact absurd hput.2 (by decide)

end ContentAutomation.UploadClient
