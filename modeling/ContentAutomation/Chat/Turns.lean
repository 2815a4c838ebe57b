import ContentAutomation.Chat.Sessions
import ContentAutomation.Library.Transition

/-!
# Turns of conversations

Any number of `runChatTurn` calls run at once. Each loads its conversation, counts the questions
of the last hour, stores its question in a transaction of its own, asks the provider, and stores
the answer in a second transaction. The transactions run under READ COMMITTED, and their
statements interleave freely.
-/

namespace ContentAutomation

open Relational

/-- What a transaction appends: a question that was admitted at a time, or the answer to one. -/
inductive AppendKind
  | question (countedAt : ℤ)
  | answer (asked : ChatMessage)
  deriving DecidableEq

/-- A message that is about to be stored, with the title that its session takes from it. -/
structure Append where
  kind : AppendKind
  message : ChatMessage
  title : Option Utf16
  deriving DecidableEq

/-- The session after a message has been stored. -/
def Append.updated (append : Append) (row : ChatSession) : ChatSession :=
  { row with
    lastMessageAt := some append.message.createdAt
    messageCount := row.messageCount + 1
    title := append.title.getD row.title }

/-- How far a turn has come. -/
inductive TurnPhase
  /-- Before the query for the conversation. -/
  | starting
  /-- The conversation is there; before the count of the recent questions. -/
  | counting
  /-- The count was below the limit; before `appendChatQuestion`. -/
  | admitted (countedAt : ℤ)
  /-- The session was read; before the insert of the message. -/
  | inserting (append : Append)
  /-- Before the update of the session. -/
  | updating (append : Append)
  /-- Before the commit. -/
  | committing (append : Append)
  /-- The question is stored, and the provider is asked. -/
  | asking (asked : ChatMessage)
  /-- An answer was produced; before `appendChatAnswer`. -/
  | answering (asked : ChatMessage) (answer : ChatAnswerRecord)
  /-- The answer is stored. -/
  | answered (message : ChatMessage)
  | refused (reason : ChatRefusalReason)
  /-- The call has thrown, or its process has stopped, before an answer was produced. -/
  | failed
  /-- An answer was produced, and the call is over without having stored it. -/
  | unanswered (asked : ChatMessage)
  deriving DecidableEq

/-- The call is over. -/
def TurnPhase.ended : TurnPhase → Bool
  | .answered _ | .refused _ | .failed | .unanswered _ => true
  | _ => false

/-- The phase of a call that throws, or whose process stops. -/
def TurnPhase.thrown : TurnPhase → TurnPhase
  | .answering asked _ => .unanswered asked
  | .inserting append | .updating append | .committing append =>
    match append.kind with
    | .question _ => .failed
    | .answer asked => .unanswered asked
  | _ => .failed

/-- What a turn appends to a session that it has read. -/
def ChatTurn.appendQuestion (turn : ChatTurn) (session : ChatSession) (countedAt createdAt : ℤ) :
    Append where
  kind := .question countedAt
  message := turn.questionRow session createdAt
  title :=
    if session.titleSetByUser || 0 < session.messageCount then none
    else some (deriveChatTitle turn.content)

/-- What a turn appends for an answer. -/
def ChatTurn.appendAnswer (turn : ChatTurn) (asked : ChatMessage) (answer : ChatAnswerRecord)
    (createdAt : ℤ) : Append where
  kind := .answer asked
  message := turn.answerRow asked answer createdAt
  title := none

/-- The conversations under open transactions, the clock, and the phase of each turn. -/
structure ChatSystem (ι : Type*) [DecidableEq ι] where
  sessions : LockedTable chatSessionSchema ChatSession.id ι
  messages : OpenTable chatMessageSchema ι
  clock : ℤ
  phase : ι → TurnPhase

/-- What happens next. -/
inductive ChatEvent (ι : Type*)
  /-- The next statement of a turn, or its commit. -/
  | advance (i : ι)
  /-- What the provider was asked has come to an answer, or to the record of a failure. -/
  | produce (i : ι) (answer : ChatAnswerRecord)
  /-- The call throws, or its process stops. -/
  | stop (i : ι)
  /-- Time passes. -/
  | pass (elapsed : ℕ)
  deriving DecidableEq

namespace ChatSystem

variable {ι : Type*} [DecidableEq ι]

/-- The conversations before any turn has begun. -/
def start (sessions : Table chatSessionSchema) (messages : Table chatMessageSchema) (clock : ℤ)
    (ι : Type*) [DecidableEq ι] : ChatSystem ι where
  sessions := LockedTable.start sessions ChatSession.id ι
  messages := OpenTable.start messages ι
  clock := clock
  phase := fun _ => .starting

/-- The session of a turn, as its statement reads it. -/
def session? (s : ChatSystem ι) (turn : ChatTurn) (i : ι) : Option ChatSession :=
  if isUuidV7 turn.sessionId then
    (s.sessions.visible i).findFirst fun row =>
      row.id == turn.sessionId && row.workspaceId == turn.context.workspaceId
  else none

/-- A turn enters its next phase. -/
def enter (s : ChatSystem ι) (i : ι) (phase : TurnPhase) : ChatSystem ι :=
  { s with phase := Function.update s.phase i phase }

/-- A turn throws, and its open transaction is rolled back. -/
def throw (s : ChatSystem ι) (i : ι) : ChatSystem ι where
  sessions := s.sessions.rollBack i
  messages := s.messages.rollBack i
  clock := s.clock
  phase := Function.update s.phase i (s.phase i).thrown

/-- The transaction of a turn commits. -/
def commit (s : ChatSystem ι) (i : ι) (append : Append) : ChatSystem ι where
  sessions := s.sessions.commit i
  messages := s.messages.commit i
  clock := s.clock
  phase := Function.update s.phase i
    (match append.kind with
    | .question _ => .asking append.message
    | .answer _ => .answered append.message)

/-- The next statement of `runChatTurn`; `none` while it has to wait, or is over. -/
def advance (turn : ChatTurn) (s : ChatSystem ι) (i : ι) : Option (ChatSystem ι) :=
  match s.phase i with
  | .starting =>
    match turn.refusal with
    | some reason => some (s.enter i (.refused reason))
    | none =>
      match s.session? turn i with
      | none => some (s.enter i (.refused .sessionNotFound))
      | some _ => some (s.enter i .counting)
  | .counting =>
    if chatWorkspaceHourlyTurnLimit ≤ countRecentChatQuestions (s.messages.visible i).rows
        turn.context (s.clock - oneHourMs) then
      some (s.enter i (.refused .workspaceRateLimited))
    else some (s.enter i (.admitted s.clock))
  | .admitted countedAt =>
    match s.session? turn i with
    | none => some (s.enter i (.refused .sessionFull))
    | some session =>
      if chatSessionMessageLimit ≤ session.messageCount then
        some (s.enter i (.refused .sessionFull))
      else some (s.enter i (.inserting (turn.appendQuestion session countedAt s.clock)))
  | .inserting append =>
    match s.messages.insertRow i append.message with
    | .done messages => some ({ s with messages }.enter i (.updating append))
    | .waits => none
    | .refused _ => some (s.throw i)
  | .updating append =>
    match s.sessions.update i turn.sessionId append.updated with
    | .done _ sessions => some ({ s with sessions }.enter i (.committing append))
    | .notFound => some (s.enter i (.committing append))
    | .waits => none
    | .refused _ => some (s.throw i)
  | .committing append => some (s.commit i append)
  | .answering asked answer =>
    match s.session? turn i with
    | none => some (s.enter i (.unanswered asked))
    | some _ => some (s.enter i (.inserting (turn.appendAnswer asked answer s.clock)))
  | .asking _ | .answered _ | .refused _ | .failed | .unanswered _ => none

/-- What an event makes of the conversations. -/
def next (turns : ι → ChatTurn) (s : ChatSystem ι) : ChatEvent ι → Option (ChatSystem ι)
  | .advance i => s.advance (turns i) i
  | .produce i answer =>
    match s.phase i with
    | .asking asked => some (s.enter i (.answering asked answer))
    | _ => none
  | .stop i => if (s.phase i).ended then none else some (s.throw i)
  | .pass elapsed => some { s with clock := s.clock + elapsed }

/-- The steps of the turns. -/
def Step (turns : ι → ChatTurn) (s : ChatSystem ι) (event : ChatEvent ι) (t : ChatSystem ι) :
    Prop := s.next turns event = some t

/-! ### What a step does -/

section Moves

variable {turns : ι → ChatTurn} {s t : ChatSystem ι} {event : ChatEvent ι} {i : ι}

/-- What an event does. -/
inductive Move (turns : ι → ChatTurn) (s : ChatSystem ι) : ChatEvent ι → ChatSystem ι → Prop
  | loads {i : ι} (hphase : s.phase i = .starting) : Move turns s (.advance i) (s.enter i .counting)
  | refuses {i : ι} {reason : ChatRefusalReason}
      (hphase : s.phase i = .starting ∨ s.phase i = .counting ∨ ∃ c, s.phase i = .admitted c) :
      Move turns s (.advance i) (s.enter i (.refused reason))
  | admits {i : ι} (hphase : s.phase i = .counting)
      (hcount : countRecentChatQuestions (s.messages.visible i).rows (turns i).context
        (s.clock - oneHourMs) < chatWorkspaceHourlyTurnLimit) :
      Move turns s (.advance i) (s.enter i (.admitted s.clock))
  | readsForQuestion {i : ι} {c : ℤ} {session : ChatSession} (hphase : s.phase i = .admitted c)
      (hsession : s.session? (turns i) i = some session)
      (hlimit : session.messageCount < chatSessionMessageLimit) :
      Move turns s (.advance i)
        (s.enter i (.inserting ((turns i).appendQuestion session c s.clock)))
  | produces {i : ι} {asked : ChatMessage} {answer : ChatAnswerRecord}
      (hphase : s.phase i = .asking asked) :
      Move turns s (.produce i answer) (s.enter i (.answering asked answer))
  | readsForAnswer {i : ι} {asked : ChatMessage} {answer : ChatAnswerRecord}
      {session : ChatSession} (hphase : s.phase i = .answering asked answer)
      (hsession : s.session? (turns i) i = some session) :
      Move turns s (.advance i)
        (s.enter i (.inserting ((turns i).appendAnswer asked answer s.clock)))
  | loses {i : ι} {asked : ChatMessage} {answer : ChatAnswerRecord}
      (hphase : s.phase i = .answering asked answer) (hsession : s.session? (turns i) i = none) :
      Move turns s (.advance i) (s.enter i (.unanswered asked))
  | inserts {i : ι} {append : Append} {messages : OpenTable chatMessageSchema ι}
      (hphase : s.phase i = .inserting append)
      (hdone : s.messages.insertRow i append.message = .done messages) :
      Move turns s (.advance i) ({ s with messages }.enter i (.updating append))
  | updates {i : ι} {append : Append} {row : ChatSession}
      {sessions : LockedTable chatSessionSchema ChatSession.id ι}
      (hphase : s.phase i = .updating append)
      (hdone : s.sessions.update i (turns i).sessionId append.updated = .done row sessions) :
      Move turns s (.advance i) ({ s with sessions }.enter i (.committing append))
  | misses {i : ι} {append : Append} (hphase : s.phase i = .updating append)
      (hmissing : s.sessions.update i (turns i).sessionId append.updated = .notFound) :
      Move turns s (.advance i) (s.enter i (.committing append))
  | commits {i : ι} {append : Append} (hphase : s.phase i = .committing append) :
      Move turns s (.advance i) (s.commit i append)
  | fails {i : ι} {append : Append} {violation : Violation}
      (hphase : s.phase i = .inserting append ∧
          s.messages.insertRow i append.message = .refused violation ∨
        s.phase i = .updating append ∧
          s.sessions.update i (turns i).sessionId append.updated = .refused violation) :
      Move turns s (.advance i) (s.throw i)
  | stops {i : ι} (hended : (s.phase i).ended = false) : Move turns s (.stop i) (s.throw i)
  | passes {elapsed : ℕ} : Move turns s (.pass elapsed) { s with clock := s.clock + elapsed }

/-- **Inversion of steps.** -/
theorem move_of_step (hstep : Step turns s event t) : Move turns s event t := by
  unfold Step next at hstep
  cases event with
  | pass elapsed =>
    cases hstep
    exact .passes
  | stop i =>
    simp only at hstep
    split at hstep
    · cases hstep
    · next hended =>
      cases hstep
      exact .stops (by simpa using hended)
  | produce i answer =>
    simp only at hstep
    split at hstep
    · next asked hphase =>
      cases hstep
      exact .produces hphase
    · cases hstep
  | advance i =>
    simp only [advance] at hstep
    split at hstep
    · next hphase =>
      split at hstep
      · cases hstep
        exact .refuses (.inl hphase)
      · split at hstep <;> cases hstep
        · exact .refuses (.inl hphase)
        · exact .loads hphase
    · next hphase =>
      split at hstep <;> cases hstep
      · exact .refuses (.inr (.inl hphase))
      · next hcount => exact .admits hphase (not_le.mp hcount)
    · next c hphase =>
      split at hstep
      · cases hstep
        exact .refuses (.inr (.inr ⟨c, hphase⟩))
      · next session hsession =>
        split at hstep <;> cases hstep
        · exact .refuses (.inr (.inr ⟨c, hphase⟩))
        · next hlimit => exact .readsForQuestion hphase hsession (not_le.mp hlimit)
    · next append hphase =>
      split at hstep <;> cases hstep
      · next messages hdone => exact .inserts hphase hdone
      · next violation hrefused => exact .fails (.inl ⟨hphase, hrefused⟩)
    · next append hphase =>
      split at hstep <;> cases hstep
      · next row sessions hdone => exact .updates hphase hdone
      · next hmissing => exact .misses hphase hmissing
      · next violation hrefused => exact .fails (.inr ⟨hphase, hrefused⟩)
    · next append hphase =>
      cases hstep
      exact .commits hphase
    · next asked answer hphase =>
      split at hstep <;> cases hstep
      · next hsession => exact .loses hphase hsession
      · next session hsession => exact .readsForAnswer hphase hsession
    all_goals cases hstep

end Moves

end ChatSystem

end ContentAutomation
