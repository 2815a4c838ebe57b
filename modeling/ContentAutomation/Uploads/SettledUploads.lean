import ContentAutomation.Uploads.UploadSchedules

/-!
# How an upload ends

A session settles when nothing that was started is suspended any more. This file determines the
answers under which it then stands in a phase that is an end, has let go of what it had reserved
before a cancellation, and is silent after one until it is started again.
-/

namespace ContentAutomation.UploadClient

open UploadState List

/-! ### What is asked of an end -/

/-- A phase in which nothing goes on. -/
def UploadPhase.isSettled : UploadPhase → Bool
  | .selecting | .paused | .error | .completed => true
  | .reserving | .uploading | .completing => false

/-- An intent was sent an abort. -/
def isAborted (log : List LogEntry) (intentId : String) : Bool :=
  log.any fun
    | .sent _ (.abort aborted) => aborted == intentId
    | _ => false

/-- A request to complete an intent has succeeded. -/
def isCompleted (log : List LogEntry) (intentId : String) : Bool :=
  log.any fun
    | .sent id (.complete completed _) => completed == some intentId && log.any fun
      | .answered other (.response status _ _) => other == id && isOk status
      | _ => false
    | _ => false

/-- An intent was sent an abort, or it was completed. -/
def isLetGo (log : List LogEntry) (intentId : String) : Bool :=
  isAborted log intentId || isCompleted log intentId

/-- The upload was cancelled after a request was sent. -/
def cancelledSince (id : ℕ) : List LogEntry → Bool
  | [] => false
  | .called .cancel :: _ => true
  | .sent other _ :: earlier => other != id && cancelledSince id earlier
  | _ :: earlier => cancelledSince id earlier

/-- An entry that sends an abort with an identifier. -/
def LogEntry.sendsAbort (id : ℕ) : LogEntry → Bool
  | .sent other (.abort _) => other == id
  | _ => false

/-- A cancellation has resolved, and no upload was started since. One that has no intent to abort
resolves at once, and the others with the answer to the abort. -/
def resolvedIn : List LogEntry → Bool
  | [] => false
  | .called .start :: _ => false
  | .called .cancel :: _ => true
  | .sent _ (.abort _) :: .called .cancel :: earlier => resolvedIn earlier
  | .answered id _ :: earlier => earlier.any (LogEntry.sendsAbort id) || resolvedIn earlier
  | _ :: earlier => resolvedIn earlier

/-- A reservation was answered with an intent. -/
def ReservedBy (log : List LogEntry) (id : ℕ) (intentId : String) : Prop :=
  ∃ contentType postId sizeBytes answer, .sent id (.reserve contentType postId sizeBytes) ∈ log ∧
    .answered id answer ∈ log ∧ answer.reserves = some intentId

/-- **A session settles and cancels cleanly.** -/
structure SettlesCleanly (s : UploadState) : Prop where
  /-- Where nothing is suspended, the phase is an end. -/
  settled : s.pending = [] → s.phase.isSettled = true
  /-- An intent whose reservation was sent before a cancellation was sent an abort, or it was
  completed. -/
  letGo : ∀ id intentId, ReservedBy s.log id intentId → cancelledSince id s.log = true →
    isLetGo s.log intentId = true
  /-- After a cancellation has resolved, nothing but the first phase is shown until the upload is
  started. -/
  silent : ∀ entry ∈ s.shown, resolvedIn entry.2 = true → entry.1 = .selecting

/-! ### Answers that settle -/

/-- The answer leaves a run by an exception: no response to a reservation or to a completion can
be read. -/
def Answer.escapes (answer : Answer) : Continuation → Bool
  | .reserving =>
    match answer with
    | .lost | .response _ none _ => true
    | _ => false
  | .completing =>
    match answer with
    | .lost => true
    | .response status none _ => !isOk status
    | _ => false
  | _ => false

/-- The answer leads to another attempt at a part. -/
def Answer.isRetried (answer : Answer) : Continuation → Bool
  | .signing .. =>
    match answer with
    | .lost | .response _ none _ => true
    | _ => false
  | .storing .. => (storedTag answer).isNone &&
    match answer with
    | .lost => true
    | .response status _ _ => isOk status || isRetryableStorageStatus status
  | _ => false

namespace UploadState

/-- A cancelled run goes on or ends without a word: an exception leaves it, its signature is
granted, a part is stored that is not the last, or the next attempt finds the upload cancelled and
not paused. -/
def staysSilent (options : UploadSessionOptions) (s : UploadState) (answer : Answer) :
    Continuation → Bool
  | .reserving => answer.escapes .reserving
  | .completing => answer.escapes .completing
  | .aborting => true
  | .signing partNumber attempt slice => answer.signs.isSome ||
      (answer.isRetried (.signing partNumber attempt slice) && decide (attempt < options.retries) &&
        !s.pauseRequested)
  | .storing partNumber attempt slice =>
    ((storedTag answer).isSome && decide (partNumber < s.partsTotal)) ||
      (answer.isRetried (.storing partNumber attempt slice) &&
        decide (attempt < options.retries) && !s.pauseRequested)

/-- The intent that is kept, if there is one, was let go. -/
def keepsNothing (s : UploadState) : Bool := s.intentId.all (isLetGo s.log)

end UploadState

open UploadState

/-- The answers under which a session settles. An exception leaves a run only after a cancellation,
or where something else is suspended or the phase is an end. An intent is reserved only if the
upload was not cancelled since it was asked for and the intent before it was let go. An abort is
answered only while the upload is still cancelled or no run is suspended, and no other intent is
kept. A run that is suspended when a cancellation has resolved stays silent. -/
def Settles (options : UploadSessionOptions) (s : UploadState) : Event → Prop
  | .call _ => True
  | .answer id answer => ∀ entry ∈ s.pending, entry.id = id →
      (answer.escapes entry.continuation = true → s.cancelled = true ∨
        (∃ other ∈ s.pending, other.id ≠ id) ∨ s.phase.isSettled = true) ∧
      (entry.continuation = .reserving → answer.reserves.isSome = true →
        cancelledSince id s.log = false ∧ s.keepsNothing = true) ∧
      (entry.continuation = .aborting → (s.cancelled = true ∨ s.runs = []) ∧
        s.keepsNothing = true) ∧
      (resolvedIn s.log = true → s.staysSilent options answer entry.continuation = true)

instance (options : UploadSessionOptions) (s : UploadState) (event : Event) :
    Decidable (Settles options s event) :=
  match event with
  | .call _ => .isTrue trivial
  | .answer _ _ => by
    dsimp only [Settles]
    infer_instance

/-! ### Logs -/

section Logs

variable {log : List LogEntry} {entry : LogEntry} {id : ℕ} {intentId : String} {request : Request}

private theorem isAborted_cons (h : isAborted log intentId) :
    isAborted (entry :: log) intentId := by
  unfold isAborted at h ⊢
  rw [any_cons, h, Bool.or_true]

private theorem isCompleted_cons (h : isCompleted log intentId) :
    isCompleted (entry :: log) intentId := by
  unfold isCompleted at h ⊢
  obtain ⟨sent, hsent, hcompletes⟩ := any_eq_true.mp h
  refine any_eq_true.mpr ⟨sent, mem_cons_of_mem _ hsent, ?_⟩
  split at hcompletes
  · obtain ⟨hcompleted, hanswered⟩ := Bool.and_eq_true_iff.mp hcompletes
    rw [hcompleted, any_cons, hanswered, Bool.or_true]
    rfl
  · cases hcompletes

private theorem isLetGo_cons (h : isLetGo log intentId) :
    isLetGo (entry :: log) intentId := by
  unfold isLetGo at h ⊢
  rcases Bool.or_eq_true_iff.mp h with haborted | hcompleted
  · rw [isAborted_cons haborted, Bool.true_or]
  · rw [isCompleted_cons hcompleted, Bool.or_true]

private theorem isLetGo_abort : isLetGo (.sent id (.abort intentId) :: log) intentId := by
  unfold isLetGo isAborted
  rw [any_cons]
  simp

private theorem resolvedIn_sent (h : ∀ aborted, request ≠ .abort aborted) :
    resolvedIn (.sent id request :: log) = resolvedIn log := by
  cases request with
  | abort aborted => exact absurd rfl (h aborted)
  | _ => simp only [resolvedIn]

private theorem resolvedIn_answered {answer : Answer}
    (h : log.any (LogEntry.sendsAbort id) = false) :
    resolvedIn (.answered id answer :: log) = resolvedIn log := by
  simp only [resolvedIn, h, Bool.false_or]

theorem ReservedBy.of_cons (h : ReservedBy (entry :: log) id intentId)
    (hsent : ∀ contentType postId sizeBytes,
      entry = .sent id (.reserve contentType postId sizeBytes) → False)
    (hanswered : ∀ answer, entry = .answered id answer →
      answer.reserves = some intentId → False) : ReservedBy log id intentId := by
  obtain ⟨contentType, postId, sizeBytes, answer, hmem, hanswer, hreserves⟩ := h
  refine ⟨contentType, postId, sizeBytes, answer, ?_, ?_, hreserves⟩
  · rcases mem_cons.mp hmem with heq | hmem
    · exact (hsent _ _ _ heq.symm).elim
    · exact hmem
  · rcases mem_cons.mp hanswer with heq | hmem
    · exact (hanswered _ heq.symm hreserves).elim
    · exact hmem

end Logs

/-! ### What a run does between two answers -/

section Onward

variable {options : UploadSessionOptions} {s t u : UploadState} {continuation : Continuation}
  {answer : Answer} {slice : Slice}

/-- Nothing has been sent. -/
structure SendsNothing (s t : UploadState) : Prop where
  log : t.log = s.log
  pending : t.pending = s.pending
  requests : t.requests = s.requests

/-- A request has been sent that uploads, and its run is suspended. -/
structure SendsUpload (s t : UploadState) (request : Request) (continuation : Continuation) :
    Prop where
  uploads : request.uploads = true
  run : continuation ≠ .aborting ∧ continuation ≠ .reserving
  log : t.log = .sent s.requests request :: s.log
  pending : t.pending = s.pending ++ [{ id := s.requests, continuation }]
  requests : t.requests = s.requests + 1

/-- A run goes on to its next request, or to its end. What it shows it shows before the request,
and where it ends with the phase of a run, the upload was cancelled. -/
structure Onward (s t : UploadState) : Prop where
  intentId : t.intentId = s.intentId
  cancelled : t.cancelled = s.cancelled
  sent : SendsNothing s t ∨ ∃ request continuation, SendsUpload s t request continuation
  shown : ∀ entry ∈ t.shown, entry ∈ s.shown ∨ entry.2 = s.log
  ends : t.phase.isSettled = true ∨ t.pending ≠ [] ∨ s.cancelled = true

/-- A run shows nothing that is not shown already. -/
structure Silent (s t : UploadState) : Prop where
  phase : t.phase = s.phase
  shown : ∀ entry ∈ t.shown, entry ∈ s.shown ∨ entry.1 = s.phase

private theorem pending_send (request : Request) (continuation : Continuation) :
    (s.send request continuation).pending ≠ [] := by
  intro hnone
  exact append_ne_nil_of_right_ne_nil _ (cons_ne_nil _ _) hnone

theorem Onward.after (h : Onward t u) (hsends : SendsNothing s t) (hintent : t.intentId = s.intentId)
    (hcancelled : t.cancelled = s.cancelled)
    (hshown : ∀ entry ∈ t.shown, entry ∈ s.shown ∨ entry.2 = s.log) : Onward s u where
  intentId := h.intentId.trans hintent
  cancelled := h.cancelled.trans hcancelled
  sent := by
    rcases h.sent with hnothing | ⟨request, continuation, hupload⟩
    · exact .inl ⟨hnothing.log.trans hsends.log, hnothing.pending.trans hsends.pending,
        hnothing.requests.trans hsends.requests⟩
    · refine .inr ⟨request, continuation, hupload.uploads, hupload.run, ?_, ?_, ?_⟩
      · rw [hupload.log, hsends.log, hsends.requests]
      · rw [hupload.pending, hsends.pending, hsends.requests]
      · rw [hupload.requests, hsends.requests]
  shown entry hentry := by
    rcases h.shown entry hentry with hold | hnew
    · exact hshown entry hold
    · exact .inr (hnew.trans hsends.log)
  ends := hcancelled ▸ h.ends

private theorem Onward.of_transition {next : UploadPhase} {message : Option String}
    {canResume : Bool} (h : Onward (s.transition next message canResume) u) : Onward s u := by
  refine h.after ⟨rfl, rfl, rfl⟩ rfl rfl ?_
  intro entry hentry
  rcases mem_cons.mp hentry with rfl | hold
  · exact .inr rfl
  · exact .inl hold

theorem Onward.stop (hends : s.phase.isSettled ∨ s.pending ≠ [] ∨ s.cancelled) :
    Onward s s :=
  ⟨rfl, rfl, .inl ⟨rfl, rfl, rfl⟩, fun _ => .inl, hends⟩

theorem Onward.send {request : Request} (huploads : request.uploads)
    (hrun : continuation ≠ .aborting ∧ continuation ≠ .reserving) :
    Onward s (s.send request continuation) where
  intentId := rfl
  cancelled := rfl
  sent := .inr ⟨request, continuation, huploads, hrun, rfl, rfl, rfl⟩
  shown _ := .inl
  ends := .inr (.inl (pending_send request continuation))

theorem Onward.settle {next : UploadPhase} {message : Option String} {canResume : Bool}
    (hnext : next.isSettled) : Onward s (s.transition next message canResume) :=
  Onward.of_transition (Onward.stop (.inl hnext))

theorem Onward.partFailed (h : s.phase.isSettled ∨ s.pauseRequested ∨
    s.cancelled) : Onward s s.partFailed := by
  unfold UploadState.partFailed
  split
  · exact Onward.settle rfl
  · next hgoes =>
    refine Onward.stop ?_
    rcases h with hsettled | hpaused | hcancelled
    · exact .inl hsettled
    · exact absurd hpaused hgoes
    · exact .inr (.inr hcancelled)

variable (partNumber attempt : ℕ)

private theorem onward_attemptPart (slice : Slice) :
    Onward s (s.attemptPart options partNumber attempt slice) := by
  unfold UploadState.attemptPart
  split
  · split
    · next hstopped => exact Onward.partFailed (.inr (Bool.or_eq_true_iff.mp hstopped))
    · exact Onward.send rfl ⟨by simp, by simp⟩
  · exact Onward.of_transition (Onward.partFailed (.inl rfl))

private theorem onward_runFrom (left partNumber : ℕ) :
    Onward s (s.runFrom options left partNumber) := by
  induction left generalizing partNumber with
  | zero => exact Onward.of_transition (Onward.send rfl ⟨by simp, by simp⟩)
  | succ left ih =>
    unfold runFrom
    split
    · next hcancelled => exact Onward.stop (.inr (.inr hcancelled))
    · split
      · exact Onward.settle rfl
      · split
        · exact ih (partNumber + 1)
        · exact onward_attemptPart partNumber 1 _

private theorem onward_run : Onward s (s.run options) := Onward.of_transition (onward_runFrom _ _)

private theorem onward_signed (slice : Slice) (answer : Answer) :
    Onward s (s.signed options partNumber attempt slice answer) := by
  unfold signed
  split
  · exact onward_attemptPart partNumber (attempt + 1) slice
  · exact onward_attemptPart partNumber (attempt + 1) slice
  · split
    · exact Onward.send rfl ⟨by simp, by simp⟩
    · exact Onward.of_transition (Onward.partFailed (.inl rfl))

private theorem onward_stored (slice : Slice) (answer : Answer) :
    Onward s (s.stored options partNumber attempt slice answer) := by
  unfold stored
  split
  · next etag htag =>
    have hset := setPart_eq { partNumber, etag } s
    refine (onward_runFrom _ _).after ?_ ?_ ?_ ?_
    · constructor <;> rw [onChange, hset]
    · rw [onChange, hset]
    · rw [onChange, hset]
    · rw [onChange, hset]
      intro entry hentry
      rcases mem_cons.mp hentry with rfl | hold
      · exact .inr rfl
      · exact .inl hold
  · split
    · split
      · exact onward_attemptPart partNumber (attempt + 1) slice
      · exact Onward.of_transition (Onward.partFailed (.inl rfl))
    · exact onward_attemptPart partNumber (attempt + 1) slice

private theorem onward_completed
    (hescapes : answer.escapes .completing → s.phase.isSettled ∨ s.pending ≠ [] ∨
      s.cancelled) : Onward s (s.completed answer) := by
  unfold completed
  split
  · exact Onward.stop (hescapes rfl)
  · next status body etag =>
    split
    · exact Onward.settle rfl
    · next hrefused =>
      split
      · refine Onward.stop (hescapes ?_)
        rw [Answer.escapes, Bool.not_eq_true'] 
        exact Bool.eq_false_iff.mpr hrefused
      · exact Onward.settle rfl

theorem Silent.refl : Silent s s := ⟨rfl, fun _ => .inl⟩

private theorem silent_attemptPart {partNumber attempt : ℕ} (hcancelled : s.cancelled)
    (hpaused : s.pauseRequested = false) (hattempt : attempt ≤ options.retries) :
    Silent s (s.attemptPart options partNumber attempt slice) := by
  unfold attemptPart partFailed
  rw [if_pos hattempt, hcancelled, Bool.or_true, if_pos rfl, if_neg (by simp [hpaused])]
  exact Silent.refl

private theorem silent_reserved (h : answer.escapes .reserving) :
    Silent s (s.reserved options answer) := by
  unfold reserved
  split
  · exact Silent.refl
  · exact Silent.refl
  · cases h

private theorem silent_completed (h : answer.escapes .completing) :
    Silent s (s.completed answer) := by
  unfold completed
  split
  · exact Silent.refl
  · next status body etag =>
    cases body with
    | none =>
      have hrefused : isOk status = false := by simpa [Answer.escapes] using h
      rw [if_neg (by simp [hrefused])]
      exact Silent.refl
    | some body => cases h

/-- A signature that is granted is silent, and so is another attempt of a cancelled run. -/
theorem silent_signed {partNumber attempt : ℕ} (hcancelled : s.cancelled)
    (h : s.staysSilent options answer (.signing partNumber attempt slice)) :
    Silent s (s.signed options partNumber attempt slice answer) := by
  simp only [staysSilent, Bool.or_eq_true, Bool.and_eq_true, decide_eq_true_eq,
    Bool.not_eq_true'] at h
  unfold signed
  rcases h with hsigns | ⟨⟨hretried, hattempt⟩, hpaused⟩
  · split
    · cases hsigns
    · cases hsigns
    · next status body etag =>
      change (if isOk status = true then body.url else none).isSome = true at hsigns
      split_ifs at hsigns with hok
      · obtain ⟨url, hurl⟩ := Option.isSome_iff_exists.mp hsigns
        rw [hok, hurl]
        exact ⟨rfl, fun _ => .inl⟩
      · cases hsigns
  · split
    · exact silent_attemptPart hcancelled hpaused hattempt
    · exact silent_attemptPart hcancelled hpaused hattempt
    · cases hretried

/-- A part that is stored and not the last one shows what was shown, and another attempt of a
cancelled run nothing. -/
theorem silent_stored {partNumber attempt : ℕ} (hcancelled : s.cancelled)
    (h : s.staysSilent options answer (.storing partNumber attempt slice)) :
    Silent s (s.stored options partNumber attempt slice answer) := by
  simp only [staysSilent, Bool.or_eq_true, Bool.and_eq_true, decide_eq_true_eq,
    Bool.not_eq_true'] at h
  unfold stored
  rcases h with ⟨htag, hpart⟩ | ⟨⟨hretried, hattempt⟩, hpaused⟩
  · obtain ⟨etag, htag⟩ := Option.isSome_iff_exists.mp htag
    have hleft : s.partsTotal - partNumber = s.partsTotal - partNumber - 1 + 1 := by omega
    have hset := setPart_eq { partNumber, etag } s
    rw [htag, hleft]
    dsimp only
    unfold runFrom
    rw [onChange, hset, if_pos hcancelled]
    refine ⟨rfl, ?_⟩
    intro entry hentry
    rcases mem_cons.mp hentry with rfl | hold
    · exact .inr rfl
    · exact .inl hold
  · unfold Answer.isRetried at hretried
    obtain ⟨htag, hretried⟩ := Bool.and_eq_true_iff.mp hretried
    rw [Option.isNone_iff_eq_none.mp htag]
    dsimp only
    split
    · next status body etag =>
      rw [if_pos hretried]
      exact silent_attemptPart hcancelled hpaused hattempt
    · exact silent_attemptPart hcancelled hpaused hattempt

private theorem silent_of_staysSilent {id : ℕ} (hcancelled : s.cancelled)
    (hrun : continuation ≠ .aborting) (h : s.staysSilent options answer continuation) :
    Silent (s.settle id answer) ((s.settle id answer).proceed options answer continuation) := by
  cases continuation with
  | aborting => exact absurd rfl hrun
  | reserving => exact silent_reserved h
  | completing => exact silent_completed h
  | signing partNumber attempt slice => exact silent_signed hcancelled h
  | storing partNumber attempt slice => exact silent_stored hcancelled h

end Onward

/-! ### The invariant -/

/-- A request is one that a continuation waits for, as far as reservations and aborts go. -/
structure Request.Suits (request : Request) (continuation : Continuation) : Prop where
  reserves : (∃ contentType postId sizeBytes, request = .reserve contentType postId sizeBytes) →
    continuation = .reserving
  reserving : continuation = .reserving →
    ∃ contentType postId sizeBytes, request = .reserve contentType postId sizeBytes
  aborts : ∀ intentId, request = .abort intentId → continuation = .aborting
  aborting : continuation = .aborting → ∃ intentId, request = .abort intentId

/-- Requests have identifiers of their own, and what is suspended waits for one of them. -/
structure Ledger (s : UploadState) : Prop where
  fresh : ∀ id request, .sent id request ∈ s.log → id < s.requests
  answered : ∀ id answer, .answered id answer ∈ s.log → id < s.requests
  unique : ∀ id request other, .sent id request ∈ s.log → .sent id other ∈ s.log → request = other
  sent : ∀ entry ∈ s.pending, ∃ request, .sent entry.id request ∈ s.log ∧
    request.Suits entry.continuation

/-- What a session keeps, whatever phase it is left in. -/
structure Tracked (s : UploadState) : Prop where
  ledger : Ledger s
  flagged : s.cancelled = cancelledIn s.log
  since : ∀ entry ∈ s.pending, entry.continuation = .reserving →
    cancelledSince entry.id s.log = false → s.cancelled = false
  resolving : s.cancelled = true → resolvedIn s.log = true ∨
    ∃ entry ∈ s.pending, entry.continuation = .aborting
  resolved : resolvedIn s.log = true → s.phase = .selecting ∧ s.intentId = none ∧
    (s.cancelled = true ∨ s.runs = [])
  reserved : ∀ id intentId, ReservedBy s.log id intentId → isLetGo s.log intentId = true ∨
    (s.intentId = some intentId ∧ cancelledSince id s.log = false)
  silent : ∀ entry ∈ s.shown, resolvedIn entry.2 = true → entry.1 = .selecting

/-- What a session keeps, and where nothing is suspended, the phase is an end. -/
structure Ended (s : UploadState) : Prop extends Tracked s where
  settled : s.pending = [] → s.phase.isSettled = true

/-- The log says nothing new of reservations and of cancellations. -/
structure Extends (s t : UploadState) : Prop where
  ledger : Ledger t
  resolved : resolvedIn t.log = resolvedIn s.log
  cancelled : cancelledIn t.log = cancelledIn s.log
  since : ∀ id < s.requests, cancelledSince id t.log = cancelledSince id s.log
  letGo : ∀ intentId, isLetGo s.log intentId = true → isLetGo t.log intentId = true
  reserved : ∀ id intentId, ReservedBy t.log id intentId → ReservedBy s.log id intentId
  reserving : ∀ entry ∈ t.pending, entry.continuation = .reserving → entry ∈ s.pending
  aborting : ∀ entry ∈ s.pending, entry.continuation = .aborting → entry ∈ t.pending

section Keeping

variable {options : UploadSessionOptions} {s t u : UploadState} {entry : Pending}
  {request : Request} {continuation : Continuation} {call : Call} {id : ℕ} {intentId : String}
  {answer : Answer}

private theorem Ended.settlesCleanly (h : Ended s) : SettlesCleanly s where
  settled := h.settled
  letGo id intentId hreserved hcancelled := by
    rcases h.reserved id intentId hreserved with hletGo | ⟨-, hnot⟩
    · exact hletGo
    · rw [hcancelled] at hnot
      cases hnot
  silent := h.silent

/-- Where the upload is cancelled and nothing is suspended, the cancellation has resolved. -/
theorem Tracked.ended (h : Tracked s) (hends : s.phase.isSettled ∨ s.pending ≠ [] ∨
    s.cancelled) : Ended s where
  toTracked := h
  settled hnone := by
    rcases hends with hsettled | hsome | hcancelled
    · exact hsettled
    · exact absurd hnone hsome
    · rcases h.resolving hcancelled with hresolved | ⟨entry, hentry, -⟩
      · rw [(h.resolved hresolved).1]
        rfl
      · rw [hnone] at hentry
        cases hentry

private theorem Ledger.lt_requests (h : Ledger s) (hentry : entry ∈ s.pending) :
    entry.id < s.requests := by
  obtain ⟨request, hsent, -⟩ := h.sent entry hentry
  exact h.fresh _ _ hsent

private theorem Ledger.lt_of_reservedBy (h : Ledger s) (hreserved : ReservedBy s.log id intentId) :
    id < s.requests := by
  obtain ⟨contentType, postId, sizeBytes, answer, hsent, -⟩ := hreserved
  exact h.fresh _ _ hsent

theorem Ledger.send (h : Ledger s) (hsuits : request.Suits continuation) :
    Ledger (s.send request continuation) where
  fresh id other hsent := by
    rcases mem_cons.mp hsent with heq | hold
    · cases heq
      exact Nat.lt_succ_self _
    · exact Nat.lt_succ_of_lt (h.fresh _ _ hold)
  answered id answer hanswered :=
    Nat.lt_succ_of_lt (h.answered id answer (mem_of_ne_of_mem (by simp) hanswered))
  unique id first second hfirst hsecond := by
    have hnew : ∀ other, .sent s.requests other ∉ s.log := fun other hmem =>
      lt_irrefl _ (h.fresh _ _ hmem)
    rcases mem_cons.mp hfirst with heq | hfirst
    · cases heq
      rcases mem_cons.mp hsecond with heq | hsecond
      · cases heq
        rfl
      · exact absurd hsecond (hnew _)
    · rcases mem_cons.mp hsecond with heq | hsecond
      · cases heq
        exact absurd hfirst (hnew _)
      · exact h.unique id first second hfirst hsecond
  sent entry hentry := by
    rcases mem_append.mp hentry with hold | hnew
    · obtain ⟨request, hsent, hsuits⟩ := h.sent entry hold
      exact ⟨request, mem_cons_of_mem _ hsent, hsuits⟩
    · rw [mem_singleton.mp hnew]
      exact ⟨request, mem_cons_self, hsuits⟩

theorem Ledger.enter (h : Ledger s) (call : Call) : Ledger (s.enter call) where
  fresh id request hsent := h.fresh id request (mem_of_ne_of_mem (by simp) hsent)
  answered id answer hanswered :=
    h.answered id answer (mem_of_ne_of_mem (by simp) hanswered)
  unique id first second hfirst hsecond := h.unique id first second
    (mem_of_ne_of_mem (by simp) hfirst) (mem_of_ne_of_mem (by simp) hsecond)
  sent entry hentry := by
    obtain ⟨request, hsent, hsuits⟩ := h.sent entry hentry
    exact ⟨request, mem_cons_of_mem _ hsent, hsuits⟩

theorem Ledger.settle (h : Ledger s) (hmem : entry ∈ s.pending) (answer : Answer) :
    Ledger (s.settle entry.id answer) where
  fresh other request hsent := h.fresh other request (mem_of_ne_of_mem (by simp) hsent)
  answered other earlier hanswered := by
    rcases mem_cons.mp hanswered with heq | hold
    · cases heq
      exact h.lt_requests hmem
    · exact h.answered other earlier hold
  unique other first second hfirst hsecond := h.unique other first second
    (mem_of_ne_of_mem (by simp) hfirst) (mem_of_ne_of_mem (by simp) hsecond)
  sent entry hentry := by
    obtain ⟨request, hsent, hsuits⟩ := h.sent entry (mem_of_mem_filter hentry)
    exact ⟨request, mem_cons_of_mem _ hsent, hsuits⟩

/-- What a log says does not depend on the variables. -/
theorem Extends.congr (h : Extends s t) (hsends : SendsNothing t u) : Extends s u := by
  obtain ⟨hlog, hpending, hrequests⟩ := hsends
  have hledger : Ledger u := by
    constructor
    · rw [hlog, hrequests]
      exact h.ledger.fresh
    · rw [hlog, hrequests]
      exact h.ledger.answered
    · rw [hlog]
      exact h.ledger.unique
    · rw [hlog, hpending]
      exact h.ledger.sent
  exact
    { ledger := hledger
      resolved := hlog ▸ h.resolved
      cancelled := hlog ▸ h.cancelled
      since := hlog ▸ h.since
      letGo := hlog ▸ h.letGo
      reserved := hlog ▸ h.reserved
      reserving := hpending ▸ h.reserving
      aborting := hpending ▸ h.aborting }

private theorem Ledger.extends_self (h : Ledger s) : Extends s s where
  ledger := h
  resolved := rfl
  cancelled := rfl
  since _ _ := rfl
  letGo _ := id
  reserved _ _ := id
  reserving _ hentry _ := hentry
  aborting _ hentry _ := hentry

/-- A request that uploads says nothing new of reservations and of cancellations. -/
theorem Ledger.extends_send (h : Ledger s) (huploads : request.uploads)
    (hrun : continuation ≠ .aborting ∧ continuation ≠ .reserving) :
    Extends s (s.send request continuation) := by
  have hnotAbort : ∀ aborted, request ≠ .abort aborted := by
    rintro aborted rfl
    cases huploads
  have hnotReserve : ∀ contentType postId sizeBytes,
      request ≠ .reserve contentType postId sizeBytes := by
    rintro contentType postId sizeBytes rfl
    cases huploads
  have hsuits : request.Suits continuation :=
    ⟨fun ⟨_, _, _, heq⟩ => absurd heq (hnotReserve _ _ _), fun heq => absurd heq hrun.2,
      fun aborted heq => absurd heq (hnotAbort aborted), fun heq => absurd heq hrun.1⟩
  exact
    { ledger := h.send hsuits
      resolved := resolvedIn_sent hnotAbort
      cancelled := rfl
      since := by
        intro id hid
        have hne : (s.requests != id) = true := by simpa using hid.ne'
        simp only [UploadState.send, cancelledSince, hne, Bool.true_and]
      letGo := fun _ => isLetGo_cons
      reserved := by
        intro id intentId hreserved
        refine hreserved.of_cons ?_ ?_
        · intro contentType postId sizeBytes heq
          cases heq
          exact hnotReserve _ _ _ rfl
        · intro answer heq
          cases heq
      reserving := by
        intro entry hentry hreserving
        rcases mem_append.mp hentry with hold | hnew
        · exact hold
        · rw [mem_singleton.mp hnew] at hreserving
          exact absurd hreserving hrun.2
      aborting := fun entry hentry _ => mem_append_left _ hentry }

/-- What is kept along a log that says nothing new of reservations and of cancellations. -/
theorem Tracked.extend (h : Tracked s) (hextends : Extends s t)
    (hcancelled : t.cancelled = s.cancelled) (hintent : t.intentId = s.intentId)
    (hresolved : resolvedIn s.log → t.phase = s.phase ∧ (t.cancelled ∨ t.runs = []))
    (hsilent : ∀ entry ∈ t.shown, resolvedIn entry.2 → entry.1 = .selecting) :
    Tracked t where
  ledger := hextends.ledger
  flagged := by rw [hcancelled, hextends.cancelled, h.flagged]
  since entry hentry hreserving hnot := by
    have hold := hextends.reserving entry hentry hreserving
    rw [hextends.since _ (h.ledger.lt_requests hold)] at hnot
    rw [hcancelled]
    exact h.since entry hold hreserving hnot
  resolving htrue := by
    rw [hcancelled] at htrue
    rw [hextends.resolved]
    exact (h.resolving htrue).imp_right fun ⟨entry, hentry, haborting⟩ =>
      ⟨entry, hextends.aborting entry hentry haborting, haborting⟩
  resolved htrue := by
    rw [hextends.resolved] at htrue
    obtain ⟨hphase, hstops⟩ := hresolved htrue
    obtain ⟨hselecting, hnone, -⟩ := h.resolved htrue
    exact ⟨hphase.trans hselecting, hintent.trans hnone, hstops⟩
  reserved id intentId hreserved := by
    have hold := hextends.reserved id intentId hreserved
    rw [hintent, hextends.since id (h.ledger.lt_of_reservedBy hold)]
    exact (h.reserved id intentId hold).imp_left (hextends.letGo intentId)
  silent := hsilent

/-- **A run that goes on** from what is kept keeps it, if it is silent where a cancellation has
resolved. -/
theorem Tracked.onward (h : Tracked s) (honward : Onward s t)
    (hsilent : resolvedIn s.log → s.cancelled ∧ Silent s t) : Ended t := by
  have hends : t.phase.isSettled = true ∨ t.pending ≠ [] ∨ t.cancelled = true :=
    honward.cancelled ▸ honward.ends
  have hextends : Extends s t := by
    rcases honward.sent with hnothing | ⟨request, continuation, hupload⟩
    · exact h.ledger.extends_self.congr hnothing
    · exact (h.ledger.extends_send hupload.uploads hupload.run).congr
        ⟨hupload.log, hupload.pending, hupload.requests⟩
  refine Tracked.ended (h.extend hextends honward.cancelled honward.intentId ?_ ?_) hends
  · intro hresolved
    obtain ⟨hcancelled, hquiet⟩ := hsilent hresolved
    exact ⟨hquiet.phase, .inl (honward.cancelled.trans hcancelled)⟩
  · intro entry hentry hresolved
    rcases honward.shown entry hentry with hold | hnew
    · exact h.silent entry hold hresolved
    · rw [hnew] at hresolved
      rcases (hsilent hresolved).2.shown entry hentry with hold | hsame
      · exact h.silent entry hold (hnew ▸ hresolved)
      · exact hsame.trans (h.resolved hresolved).1

private theorem runs_settle_eq_nil (hruns : s.runs = []) : (s.settle id answer).runs = [] := by
  rw [runs_settle, hruns, filter_nil]

private theorem Ledger.any_sendsAbort (h : Ledger s) (hsent : .sent id request ∈ s.log)
    (hnotAbort : ∀ aborted, request ≠ .abort aborted) :
    s.log.any (LogEntry.sendsAbort id) = false := by
  rw [Bool.eq_false_iff]
  intro hany
  obtain ⟨entry, hentry, hsends⟩ := any_eq_true.mp hany
  unfold LogEntry.sendsAbort at hsends
  split at hsends
  · next other aborted =>
    rw [beq_iff_eq.mp hsends] at hentry
    exact hnotAbort aborted (h.unique _ _ _ hsent hentry)
  · cases hsends

private theorem Ledger.suits (h : Ledger s) (hmem : entry ∈ s.pending)
    (hsent : .sent entry.id request ∈ s.log) : request.Suits entry.continuation := by
  obtain ⟨other, hother, hsuits⟩ := h.sent entry hmem
  rwa [h.unique _ _ _ hsent hother]

/-- A reservation whose answer is noted with another request, or reserves nothing, was there
before. -/
theorem Ledger.reservedBy_of_settle (h : Ledger s) (hmem : entry ∈ s.pending)
    (hreserves : entry.continuation = .reserving → answer.reserves ≠ some intentId)
    (hreserved : ReservedBy (s.settle entry.id answer).log id intentId) :
    ReservedBy s.log id intentId := by
  have hsame := hreserved
  obtain ⟨contentType, postId, sizeBytes, -, hsent, -⟩ := hsame
  refine hreserved.of_cons (fun _ _ _ heq => by cases heq) ?_
  intro other heq hother
  cases heq
  have hold : .sent entry.id (.reserve contentType postId sizeBytes) ∈ s.log :=
    mem_of_ne_of_mem (by simp) hsent
  exact hreserves ((h.suits hmem hold).reserves ⟨_, _, _, rfl⟩) hother

private theorem Ledger.resolvedIn_abort (h : Ledger s) (hmem : entry ∈ s.pending)
    (haborting : entry.continuation = .aborting) :
    resolvedIn (s.settle entry.id answer).log := by
  obtain ⟨request, hsent, hsuits⟩ := h.sent entry hmem
  obtain ⟨aborted, rfl⟩ := hsuits.aborting haborting
  have hany : s.log.any (LogEntry.sendsAbort entry.id) = true :=
    any_eq_true.mpr ⟨_, hsent, beq_self_eq_true entry.id⟩
  simp only [UploadState.settle, resolvedIn, hany, Bool.true_or]

private theorem Ledger.resolvedIn_run (h : Ledger s) (hmem : entry ∈ s.pending)
    (hrun : entry.continuation ≠ .aborting) :
    resolvedIn (s.settle entry.id answer).log = resolvedIn s.log := by
  obtain ⟨request, hsent, hsuits⟩ := h.sent entry hmem
  exact resolvedIn_answered
    (h.any_sendsAbort hsent fun aborted heq => hrun (hsuits.aborts aborted heq))

/-- The answer to a run that reserves nothing says nothing new. -/
theorem Tracked.settle (h : Tracked s) (hmem : entry ∈ s.pending)
    (hrun : entry.continuation ≠ .aborting)
    (hreserves : entry.continuation = .reserving → answer.reserves = none) :
    Tracked (s.settle entry.id answer) := by
  have hextends : Extends s (s.settle entry.id answer) :=
    { ledger := h.ledger.settle hmem answer
      resolved := h.ledger.resolvedIn_run hmem hrun
      cancelled := rfl
      since := fun _ _ => rfl
      letGo := fun _ => isLetGo_cons
      reserved := fun id intentId => h.ledger.reservedBy_of_settle hmem
        fun hreserving => by simp [hreserves hreserving]
      reserving := fun other hother _ => mem_of_mem_filter hother
      aborting := by
        intro other hother haborting
        refine mem_filter.mpr ⟨hother, bne_iff_ne.mpr fun hid => ?_⟩
        obtain ⟨request, hsent, hsuits⟩ := h.ledger.sent other hother
        obtain ⟨aborted, rfl⟩ := hsuits.aborting haborting
        exact hrun ((h.ledger.suits hmem (hid ▸ hsent)).aborts aborted rfl) }
  refine h.extend hextends rfl rfl ?_ h.silent
  intro hresolved
  exact ⟨rfl, (h.resolved hresolved).2.2.imp_right runs_settle_eq_nil⟩

/-- A reservation that is granted while the upload is not cancelled begins a run. -/
theorem Tracked.grant (h : Tracked s) (hmem : entry ∈ s.pending)
    (hreserving : entry.continuation = .reserving) (hreserves : answer.reserves = some intentId)
    (hsince : cancelledSince entry.id s.log = false) (hkeeps : s.keepsNothing)
    (partsTotal partSizeBytes : ℕ) :
    Ended ({ s.settle entry.id answer with
      intentId := some intentId, partsTotal, partSizeBytes }.run options) := by
  have hnotCancelled := h.since entry hmem hreserving hsince
  have hnotResolved : resolvedIn (s.settle entry.id answer).log = false := by
    rw [h.ledger.resolvedIn_run hmem (by simp [hreserving]), Bool.eq_false_iff]
    intro hresolved
    rcases (h.resolved hresolved).2.2 with hcancelled | hnone
    · exact Bool.false_ne_true (hnotCancelled.symm.trans hcancelled)
    · have hrun : entry ∈ s.runs := mem_filter.mpr ⟨hmem, by simp [Pending.isRun, hreserving]⟩
      rw [hnone] at hrun
      cases hrun
  have hledger := h.ledger.settle hmem answer
  have htracked : Tracked { s.settle entry.id answer with
      intentId := some intentId, partsTotal, partSizeBytes } := by
    refine ⟨⟨hledger.fresh, hledger.answered, hledger.unique, hledger.sent⟩, h.flagged, ?_, ?_, ?_,
      ?_, h.silent⟩
    · intro other hother hreserving hnot
      exact h.since other (mem_of_mem_filter hother) hreserving hnot
    · intro hcancelled
      exact absurd (hnotCancelled.symm.trans hcancelled) Bool.false_ne_true
    · intro hresolved
      exact absurd (hnotResolved.symm.trans hresolved) Bool.false_ne_true
    · intro id other hreserved
      by_cases hsame : other = intentId
      · subst hsame
        by_cases hid : id = entry.id
        · subst hid
          exact .inr ⟨rfl, hsince⟩
        · have hold : ReservedBy s.log id other := by
            refine hreserved.of_cons (fun _ _ _ heq => by cases heq) ?_
            intro earlier heq _
            cases heq
            exact hid rfl
          rcases h.reserved id other hold with hletGo | ⟨hintent, -⟩
          · exact .inl (isLetGo_cons hletGo)
          · unfold keepsNothing at hkeeps
            rw [hintent] at hkeeps
            exact .inl (isLetGo_cons hkeeps)
      · have hold := h.ledger.reservedBy_of_settle hmem
          (fun _ heq => hsame (Option.some.inj (heq.symm.trans hreserves))) hreserved
        rcases h.reserved id other hold with hletGo | ⟨hintent, -⟩
        · exact .inl (isLetGo_cons hletGo)
        · unfold keepsNothing at hkeeps
          rw [hintent] at hkeeps
          exact .inl (isLetGo_cons hkeeps)
  refine htracked.onward onward_run fun hresolved => ?_
  exact absurd (hnotResolved.symm.trans hresolved) Bool.false_ne_true

/-- An upload that is started waits for its reservation. -/
theorem Tracked.start (h : Tracked s) : Ended (s.start options) := by
  have hledger : Ledger (s.start options) := by
    have hentered := h.ledger.enter .start
    refine Ledger.send (s := { s.enter .start with cancelled := false, pauseRequested := false }.transition
      .reserving none false) ⟨hentered.fresh, hentered.answered, hentered.unique, hentered.sent⟩ ?_
    exact ⟨fun _ => rfl, fun _ => ⟨_, _, _, rfl⟩, (fun _ heq => by cases heq), (fun heq => by cases heq)⟩
  have hresolved : resolvedIn (s.start options).log = false := rfl
  refine Tracked.ended ⟨hledger, rfl, fun _ _ _ _ => rfl, (fun hcancelled => by cases hcancelled), ?_,
    ?_, ?_⟩ (.inr (.inl (pending_send _ _)))
  · intro htrue
    exact absurd (hresolved.symm.trans htrue) Bool.false_ne_true
  · intro id intentId hreserved
    have hid : id ≠ s.requests := by
      obtain ⟨_, _, _, answer, -, hanswered, -⟩ := hreserved
      have hold : .answered id answer ∈ s.log :=
        mem_of_ne_of_mem (by simp) (mem_of_ne_of_mem (by simp) hanswered)
      exact (h.ledger.answered id answer hold).ne
    have hold : ReservedBy s.log id intentId := by
      refine (hreserved.of_cons ?_ fun _ heq => by cases heq).of_cons
        (fun _ _ _ heq => by cases heq) fun _ heq => by cases heq
      intro _ _ _ heq
      cases heq
      exact hid rfl
    have hsince : cancelledSince id (s.start options).log = cancelledSince id s.log := by
      have hne : (s.requests != id) = true := by simpa using hid.symm
      change (s.requests != id && cancelledSince id (.called .start :: s.log)) = _
      rw [hne, Bool.true_and]
      rfl
    rw [hsince]
    exact (h.reserved id intentId hold).imp_left fun hletGo => isLetGo_cons (isLetGo_cons hletGo)
  · intro entry hentry htrue
    rcases mem_cons.mp hentry with rfl | hold
    · cases htrue
    · exact h.silent entry hold htrue

theorem Tracked.enter (h : Tracked s) (hcall : call = .pause ∨ call = .resume) (paused : Bool)
    (error : Option String) :
    Tracked { s.enter call with pauseRequested := paused, error } := by
  have hledger := h.ledger.enter call
  have hextends : Extends s { s.enter call with pauseRequested := paused, error } :=
    { ledger := ⟨hledger.fresh, hledger.answered, hledger.unique, hledger.sent⟩
      resolved := by rcases hcall with rfl | rfl <;> rfl
      cancelled := by rcases hcall with rfl | rfl <;> rfl
      since := by
        intro id _
        rcases hcall with rfl | rfl <;> rfl
      letGo := fun _ => isLetGo_cons
      reserved := fun id intentId hreserved =>
        hreserved.of_cons (fun _ _ _ heq => by cases heq) fun _ heq => by cases heq
      reserving := fun _ hentry _ => hentry
      aborting := fun _ hentry _ => hentry }
  exact h.extend hextends rfl rfl (fun hresolved => ⟨rfl, (h.resolved hresolved).2.2⟩) h.silent

theorem Ended.pause (h : Ended s) : Ended s.pause :=
  ⟨h.toTracked.enter (.inl rfl) true s.error, h.settled⟩

theorem Tracked.resume (h : Tracked s) : Ended (s.resume options) := by
  have hentered := h.enter (.inr rfl) false none
  unfold UploadState.resume
  dsimp only
  split
  · exact hentered.start
  · next hintent =>
    refine hentered.onward onward_run fun hresolved => ?_
    exact absurd (hentered.resolved hresolved).2.1 hintent

/-- A cancellation without an intent resolves at once, and another waits for its abort. -/
theorem Tracked.cancel (h : Tracked s) : Ended s.cancel := by
  have hentered := h.ledger.enter .cancel
  have hreservedBy : ∀ {id intentId}, ReservedBy (.called .cancel :: s.log) id intentId →
      ReservedBy s.log id intentId := fun hreserved =>
    hreserved.of_cons (fun _ _ _ heq => by cases heq) fun _ heq => by cases heq
  unfold UploadState.cancel
  dsimp only
  split
  · next hnone =>
    have hintent : s.intentId = none := hnone
    refine Tracked.ended ⟨⟨hentered.fresh, hentered.answered, hentered.unique, hentered.sent⟩, rfl,
      (fun _ _ _ hnot => by cases hnot), fun _ => .inl rfl, fun _ => ⟨rfl, rfl, .inl rfl⟩, ?_,
      ?_⟩
      (.inl rfl)
    · intro id intentId hreserved
      rcases h.reserved id intentId (hreservedBy hreserved) with hletGo | ⟨hsome, -⟩
      · exact .inl (isLetGo_cons hletGo)
      · rw [hintent] at hsome
        cases hsome
    · intro entry hentry hresolved
      rcases mem_cons.mp hentry with rfl | hold
      · rfl
      · exact h.silent entry hold hresolved
  · next kept hsome =>
    have hintent : s.intentId = some kept := hsome
    have hledger : Ledger ({ s.enter .cancel with cancelled := true }.send (.abort kept)
        .aborting) := by
      refine Ledger.send (s := { s.enter .cancel with cancelled := true })
        ⟨hentered.fresh, hentered.answered, hentered.unique, hentered.sent⟩ ?_
      exact ⟨(fun ⟨_, _, _, heq⟩ => by cases heq), (fun heq => by cases heq), fun _ _ => rfl,
        fun _ => ⟨_, rfl⟩⟩
    refine Tracked.ended ⟨hledger, rfl, ?_, ?_, ?_, ?_, h.silent⟩
      (.inr (.inl (pending_send _ _)))
    · intro entry hentry hreserving hnot
      rcases mem_append.mp hentry with hold | hnew
      · have hne : (s.requests != entry.id) = true := by
          simpa using (h.ledger.lt_requests hold).ne'
        change (s.requests != entry.id && true) = false at hnot
        rw [hne] at hnot
        cases hnot
      · rw [mem_singleton.mp hnew] at hreserving
        cases hreserving
    · exact fun _ => .inr ⟨_, mem_append_right _ mem_cons_self, rfl⟩
    · intro hresolved
      have hold : resolvedIn s.log = true := hresolved
      rw [(h.resolved hold).2.1] at hintent
      cases hintent
    · intro id intentId hreserved
      have hold : ReservedBy s.log id intentId := hreservedBy
        (hreserved.of_cons (fun _ _ _ heq => by cases heq) fun _ heq => by cases heq)
      rcases h.reserved id intentId hold with hletGo | ⟨hheld, -⟩
      · exact .inl (isLetGo_cons (isLetGo_cons hletGo))
      · obtain rfl := Option.mem_unique hintent hheld
        exact .inl isLetGo_abort

/-- A cancellation resolves with the answer to its abort. -/
theorem Tracked.clear (h : Tracked s) (hmem : entry ∈ s.pending)
    (haborting : entry.continuation = .aborting) (hstops : s.cancelled ∨ s.runs = [])
    (hkeeps : s.keepsNothing) : Ended (s.settle entry.id answer).clear := by
  have hledger := h.ledger.settle hmem answer
  have hresolved : resolvedIn (s.settle entry.id answer).clear.log = true :=
    h.ledger.resolvedIn_abort hmem haborting
  have hstopped : s.cancelled = true ∨ (s.settle entry.id answer).runs = [] :=
    hstops.imp_right runs_settle_eq_nil
  refine Tracked.ended ⟨⟨hledger.fresh, hledger.answered, hledger.unique, hledger.sent⟩, h.flagged,
    ?_, fun _ => .inl hresolved, fun _ => ⟨rfl, rfl, hstopped⟩, ?_, ?_⟩ (.inl rfl)
  · intro other hother hreserving hnot
    exact h.since other (mem_of_mem_filter hother) hreserving hnot
  · intro id intentId hreserved
    have hold : ReservedBy s.log id intentId :=
      h.ledger.reservedBy_of_settle hmem (fun heq => by simp [haborting] at heq) hreserved
    rcases h.reserved id intentId hold with hletGo | ⟨hintent, -⟩
    · exact .inl (isLetGo_cons hletGo)
    · unfold keepsNothing at hkeeps
      rw [hintent] at hkeeps
      exact .inl (isLetGo_cons hkeeps)
  · intro other hother htrue
    rcases mem_cons.mp hother with rfl | hold
    · rfl
    · exact h.silent other hold htrue

private theorem onward_reserved (hreserves : answer.reserves = none)
    (hescapes : answer.escapes .reserving → s.phase.isSettled ∨ s.pending ≠ [] ∨
      s.cancelled) : Onward s (s.reserved options answer) := by
  unfold reserved
  split
  · exact Onward.stop (hescapes rfl)
  · exact Onward.stop (hescapes rfl)
  · next status body etag =>
    split
    · next intentId hok hbody =>
      rw [Answer.reserves, if_pos hok, hbody] at hreserves
      cases hreserves
    · exact Onward.settle rfl

private theorem reserved_of_reserves (hreserves : answer.reserves = some intentId) :
    ∃ partsTotal partSizeBytes, s.reserved options answer =
      { s with intentId := some intentId, partsTotal, partSizeBytes }.run options := by
  unfold Answer.reserves at hreserves
  split at hreserves
  · next status body etag =>
    split_ifs at hreserves with hok
    refine ⟨body.partCount.getD 0, body.partSizeBytes.getD 0, ?_⟩
    simp only [reserved, hok, hreserves]
  · cases hreserves

/-- **Every step that settles keeps what a session keeps.** -/
theorem Ended.step {event : Event} (h : Ended s) (hsettles : Settles options s event)
    (hnext : next options s event = some t) : Ended t := by
  unfold next at hnext
  split at hnext
  · cases hnext
    exact h.toTracked.start
  · cases hnext
    exact h.pause
  · cases hnext
    exact h.toTracked.resume
  · cases hnext
    exact h.toTracked.cancel
  · next id answer =>
    split at hnext
    · cases hnext
    · next entry hfound =>
      split at hnext
      · cases hnext
      · cases hnext
        have hmem := mem_of_find?_eq_some hfound
        obtain rfl : entry.id = id := by simpa using List.find?_some hfound
        obtain ⟨hescapes, hgranted, haborted, hsilent⟩ := hsettles entry hmem rfl
        by_cases haborting : entry.continuation = .aborting
        · obtain ⟨hstops, hkeeps⟩ := haborted haborting
          rw [haborting]
          exact h.toTracked.clear hmem haborting hstops hkeeps
        -- a run that is suspended when a cancellation has resolved is a cancelled one
        have hquiet : resolvedIn (s.settle entry.id answer).log = true →
            s.cancelled = true ∧ Silent (s.settle entry.id answer)
              ((s.settle entry.id answer).proceed options answer entry.continuation) := by
          intro hresolved
          rw [h.ledger.resolvedIn_run hmem haborting] at hresolved
          have hcancelled : s.cancelled = true := by
            rcases (h.resolved hresolved).2.2 with hcancelled | hnone
            · exact hcancelled
            · have hrun : entry ∈ s.runs :=
                mem_filter.mpr ⟨hmem, by simpa [Pending.isRun] using haborting⟩
              rw [hnone] at hrun
              cases hrun
          exact ⟨hcancelled, silent_of_staysSilent hcancelled haborting (hsilent hresolved)⟩
        have hleft : answer.escapes entry.continuation = true →
            (s.settle entry.id answer).phase.isSettled = true ∨
              (s.settle entry.id answer).pending ≠ [] ∨ s.cancelled = true := by
          intro htrue
          rcases hescapes htrue with hcancelled | ⟨other, hother, hne⟩ | hsettled
          · exact .inr (.inr hcancelled)
          · refine .inr (.inl (ne_nil_of_mem (a := other) ?_))
            exact mem_filter.mpr ⟨hother, bne_iff_ne.mpr hne⟩
          · exact .inl hsettled
        cases hcontinuation : entry.continuation with
        | reserving =>
          rw [hcontinuation] at hquiet hleft
          cases hreserves : answer.reserves with
          | none =>
            exact (h.toTracked.settle hmem haborting fun _ => hreserves).onward
              (onward_reserved hreserves hleft) hquiet
          | some intentId =>
            obtain ⟨hsince, hkeeps⟩ := hgranted hcontinuation (by rw [hreserves]; rfl)
            obtain ⟨partsTotal, partSizeBytes, hrun⟩ : ∃ partsTotal partSizeBytes,
                (s.settle entry.id answer).reserved options answer = { s.settle entry.id answer with
                  intentId := some intentId, partsTotal, partSizeBytes }.run options :=
              reserved_of_reserves hreserves
            change Ended ((s.settle entry.id answer).reserved options answer)
            rw [hrun]
            exact h.toTracked.grant hmem hcontinuation hreserves hsince hkeeps _ _
        | signing partNumber attempt slice =>
          rw [hcontinuation] at hquiet
          exact (h.toTracked.settle hmem haborting fun heq => by simp [hcontinuation] at heq).onward
            (onward_signed partNumber attempt slice answer) hquiet
        | storing partNumber attempt slice =>
          rw [hcontinuation] at hquiet
          exact (h.toTracked.settle hmem haborting fun heq => by simp [hcontinuation] at heq).onward
            (onward_stored partNumber attempt slice answer) hquiet
        | completing =>
          rw [hcontinuation] at hquiet hleft
          exact (h.toTracked.settle hmem haborting fun heq => by simp [hcontinuation] at heq).onward
            (onward_completed hleft) hquiet
        | aborting => exact absurd hcontinuation haborting

private theorem ended_initial : Ended .initial where
  ledger :=
    { fresh := fun _ _ hsent => by cases hsent
      answered := fun _ _ hanswered => by cases hanswered
      unique := fun _ _ _ hsent => by cases hsent
      sent := fun _ hentry => by cases hentry }
  flagged := rfl
  since _ hentry := by cases hentry
  resolving htrue := by cases htrue
  resolved htrue := by cases htrue
  reserved _ _ hreserved := by
    obtain ⟨_, _, _, _, hsent, -⟩ := hreserved
    cases hsent
  silent _ hentry := by cases hentry
  settled _ := rfl

end Keeping

/-- **An upload settles and cancels cleanly.** In every schedule of calls and answers whose answers
settle, a session in which nothing is suspended stands in a phase that is an end, every intent whose
reservation was sent before a cancellation was sent an abort or completed, and after a cancellation
has resolved nothing but the first phase is shown until the upload is started. -/
theorem session_settles_cleanly {options : UploadSessionOptions} {s : UploadState}
    (h : Transition.Reachable (Transition.Restricted (Step options) (Settles options)) .initial s) :
    SettlesCleanly s :=
  (h.invariant ended_initial fun hended hstep => hended.step hstep.1 hstep.2).settlesCleanly

/-- A schedule that cancels during a `PUT`, and loses the abort. -/
def cancelledSchedule : List Event :=
  [.call .start,
    .answer 0 (.response 201
      (some { intentId := some "first", partCount := some 2, partSizeBytes := some 8 }) none),
    .answer 1 (.response 200 (some { url := some "part-1" }) none),
    .call .cancel,
    .answer 2 (.response 200 none (some "\"a\"")),
    .answer 3 .lost]

/-- An upload that was cancelled has settled cleanly. -/
theorem cancelled_upload_settles : ∃ s : UploadState,
    s.pending = [] ∧ s.cancelled = true ∧ SettlesCleanly s := by
  have hreplay : (Transition.replayWithin (next sampleOptions) (Settles sampleOptions) .initial
      cancelledSchedule).map (fun s => (s.pending, s.cancelled)) = some ([], true) := by
    decide
  obtain ⟨s, hs, hstate⟩ := Option.map_eq_some_iff.mp hreplay
  obtain ⟨hpending, hcancelled⟩ := Prod.mk.inj hstate
  exact ⟨s, hpending, hcancelled, session_settles_cleanly
    (Transition.Reachable.replayWithin Transition.Reachable.refl hs)⟩

/-- What a schedule leads to. -/
def after (events : List Event) : Option UploadState :=
  (Transition.replay (next sampleOptions) [] .initial events).map Prod.snd

theorem reachable_of_after {events : List Event} {s : UploadState} (h : after events = some s) :
    Transition.Reachable (Step sampleOptions) .initial s := by
  obtain ⟨⟨history, t⟩, hreplay, rfl⟩ := Option.map_eq_some_iff.mp h
  exact ⟨history, Transition.Run.refl.replay hreplay⟩

def granted : Answer :=
  .response 201
    (some { intentId := some "first", partCount := some 1, partSizeBytes := some 12 }) none

def hurriedSchedule : List Event := [.call .start, .call .cancel, .answer 0 granted]

def hurriedLog : List LogEntry :=
  [.called .cancel, .sent 0 (.reserve "video/mp4" "post" 12), .called .start]

/-- A reservation that is lost leaves the phase of a run. After a cancellation during the
reservation the session stays in the phase of a run too, has shown it, and keeps an intent without
an abort. -/
theorem upload_stays_unsettled :
    (∃ s, Transition.Reachable (Step sampleOptions) .initial s ∧ s.pending = [] ∧
      s.phase = .reserving) ∧
    ∃ s, Transition.Reachable (Step sampleOptions) .initial s ∧
      ¬ (s.pending = [] → s.phase.isSettled = true) ∧
      ¬ (∀ id intentId, ReservedBy s.log id intentId → cancelledSince id s.log = true →
        isLetGo s.log intentId = true) ∧
      ¬ ∀ entry ∈ s.shown, resolvedIn entry.2 = true → entry.1 = .selecting := by
  constructor
  · have hlost : (after [.call .start, .answer 0 .lost]).map (fun s => (s.pending, s.phase)) =
        some ([], .reserving) := by decide
    obtain ⟨s, hs, hstate⟩ := Option.map_eq_some_iff.mp hlost
    obtain ⟨hpending, hphase⟩ := Prod.mk.inj hstate
    exact ⟨s, reachable_of_after hs, hpending, hphase⟩
  · have hhurried : (after hurriedSchedule).map (fun s => (s.pending, s.phase, s.log, s.shown)) =
        some ([], .uploading, .answered 0 granted :: hurriedLog,
          [(.uploading, .answered 0 granted :: hurriedLog), (.selecting, hurriedLog),
            (.reserving, [.called .start])]) := rfl
    obtain ⟨s, hs, hstate⟩ := Option.map_eq_some_iff.mp hhurried
    simp only [Prod.mk.injEq] at hstate
    obtain ⟨hpending, hphase, hlog, hshown⟩ := hstate
    refine ⟨s, reachable_of_after hs, ?_, ?_, ?_⟩
    · rw [hpending, hphase]
      decide
    · intro hletGo
      rw [hlog] at hletGo
      have hreserved : ReservedBy (.answered 0 granted :: hurriedLog) 0 "first" :=
        ⟨"video/mp4", "post", 12, granted, by simp [hurriedLog], mem_cons_self, rfl⟩
      have hnot := hletGo 0 "first" hreserved (by decide)
      exact absurd hnot (by decide)
    · intro hsilent
      rw [hshown] at hsilent
      exact absurd (hsilent _ mem_cons_self (by decide)) (by decide)

end ContentAutomation.UploadClient
