import ContentAutomation.Chat.Sequences
import Mathlib.Data.Fintype.Basic

/-!
# Answers that are kept

An answer is stored at the position after its question. It is there for it exactly as long as no
other question of the conversation has taken it, so that turns of one conversation keep their
answers if they follow one another.
-/

namespace ContentAutomation

open Relational List Function

/-- The question that an append answers. -/
def AppendKind.asked? : AppendKind → Option ChatMessage
  | .question _ => none
  | .answer asked => some asked

/-- The stored question whose answer is not stored yet. -/
def TurnPhase.owed? : TurnPhase → Option ChatMessage
  | .asking asked | .answering asked _ => some asked
  | .inserting append | .updating append | .committing append => append.kind.asked?
  | _ => none

/-- The question that is about to be stored. -/
def TurnPhase.storing? : TurnPhase → Option Append
  | .committing append => if append.kind.asked? = none then some append else none
  | _ => none

/-- An answer was produced and is not stored yet. -/
def TurnPhase.produced : TurnPhase → Bool
  | .answering _ _ => true
  | .inserting append | .updating append | .committing append => append.kind.asked?.isSome
  | _ => false

/-- The turn has read its session, for its question or for the answer. -/
def TurnPhase.hasRead (phase : TurnPhase) : Bool := phase.append?.isSome || phase.owed?.isSome

namespace ChatSystem

variable {ι : Type*} [DecidableEq ι]

/-- Turns of one conversation follow one another: a question is stored only when its conversation
has room for it and for its answer, and owes no answer. Answers fit their columns, and a turn does
not stop between an answer and its storing. -/
def Orderly (turns : ι → ChatTurn) (s : ChatSystem ι) : ChatEvent ι → Prop
  | .advance i => ∀ append ∈ (s.phase i).storing?,
    append.message.sequence + 2 ≤ chatSessionMessageLimit ∧
      ∀ j, (turns j).sessionId = (turns i).sessionId → (s.phase j).owed? = none
  | .produce _ answer => answer.fits = true
  | .stop i => (s.phase i).produced = false
  | .pass _ => True

instance [Fintype ι] (turns : ι → ChatTurn) (s : ChatSystem ι) : DecidablePred (Orderly turns s)
  | .advance _ => inferInstanceAs (Decidable (∀ append ∈ (_ : Option Append), _))
  | .produce _ _ => inferInstanceAs (Decidable (_ = _))
  | .stop _ => inferInstanceAs (Decidable (_ = _))
  | .pass _ => inferInstanceAs (Decidable True)

/-- Every answer that was produced is stored as a message of its conversation or about to be, and
no conversation holds more messages than it may. -/
structure Kept (turns : ι → ChatTurn) (s : ChatSystem ι) : Prop where
  owed : ∀ i asked, s.phase i ≠ .unanswered asked
  stored : ∀ i message, s.phase i = .answered message → message ∈ s.messages.committed.rows ∧
    message.role = .assistant ∧ message.chatSessionId = (turns i).sessionId
  limit : ∀ session ∈ s.sessions.committed.rows,
    (s.messages.committed.rows.filter fun row => row.chatSessionId == session.id).length ≤
      chatSessionMessageLimit

/-- The identifiers of answers are generated for them. -/
structure NewIds (turns : ι → ChatTurn) (messages : Table chatMessageSchema) : Prop where
  question : ∀ i j, (turns i).questionId ≠ (turns j).answerId
  answer : Function.Injective fun i => (turns i).answerId
  fresh : ∀ row ∈ messages.rows, ∀ i, row.id ≠ (turns i).answerId

/-- An append is one that the turn makes. -/
inductive Made (turn : ChatTurn) : Append → Prop
  | question {session : ChatSession} {countedAt createdAt : ℤ} :
      Made turn (turn.appendQuestion session countedAt createdAt)
  | answer {asked : ChatMessage} {answer : ChatAnswerRecord} {createdAt : ℤ}
      (hfits : answer.fits = true) : Made turn (turn.appendAnswer asked answer createdAt)

/-- The session of a turn is one that it may read. -/
structure Readable (sessions : Table chatSessionSchema) (turn : ChatTurn) : Prop where
  id : isUuidV7 turn.sessionId = true
  row : ∃ row, sessions.lookup ChatSession.id turn.sessionId = some row ∧
    row.workspaceId = turn.context.workspaceId

/-- The invariant of turns that follow one another. -/
structure InOrder (turns : ι → ChatTurn) (s : ChatSystem ι) : Prop where
  made : ∀ i append, (s.phase i).append? = some append → Made (turns i) append
  readable : ∀ i, (s.phase i).hasRead = true → Readable s.sessions.committed (turns i)
  fits : ∀ i asked answer, s.phase i = .answering asked answer → answer.fits = true
  /-- A conversation owes one answer at most. -/
  alone : ∀ i j asked asked', (s.phase i).owed? = some asked → (s.phase j).owed? = some asked' →
    (turns i).sessionId = (turns j).sessionId → i = j
  /-- The question whose answer is owed is the last message, and there is room for one more. -/
  last : ∀ i asked, (s.phase i).owed? = some asked → ∃ row,
    s.sessions.committed.lookup ChatSession.id (turns i).sessionId = some row ∧
      row.messageCount = asked.sequence + 1 ∧ row.messageCount < chatSessionMessageLimit
  counts : ∀ session ∈ s.sessions.committed.rows, session.messageCount ≤ chatSessionMessageLimit
  ids : ∀ row ∈ s.messages.committed.rows, ∀ i, row.id = (turns i).answerId →
    ∃ message, s.phase i = .answered message
  owed : ∀ i asked, s.phase i ≠ .unanswered asked
  stored : ∀ i message, s.phase i = .answered message → message ∈ s.messages.committed.rows ∧
    message.role = .assistant ∧ message.chatSessionId = (turns i).sessionId

variable {turns : ι → ChatTurn} {s t : ChatSystem ι} {event : ChatEvent ι} {i j : ι}
  {append : Append} {phase : TurnPhase} {turn : ChatTurn} {asked : ChatMessage}
  {sessions : Table chatSessionSchema}

/-- A phase that an orderly turn enters without a commit. -/
structure Continues (sessions : Table chatSessionSchema) (turn : ChatTurn)
    (phase phase' : TurnPhase) : Prop where
  made : ∀ append, phase'.append? = some append → Made turn append
  readable : phase'.hasRead = true → phase.hasRead = true ∨ Readable sessions turn
  fits : ∀ asked answer, phase' = .answering asked answer → answer.fits = true
  owed : phase'.owed? = phase.owed? ∨ phase'.owed? = none
  before : ∀ message, phase ≠ .answered message
  after : ∀ message, phase' ≠ .answered message
  kept : ∀ asked, phase' ≠ .unanswered asked

/-- The invariant, after a turn has gone on without a commit. -/
theorem InOrder.continues (h : InOrder turns s)
    (hphase : Continues s.sessions.committed (turns i) (s.phase i) phase)
    (hsessions : t.sessions.committed = s.sessions.committed)
    (hmessages : t.messages.committed = s.messages.committed)
    (hafter : t.phase = update s.phase i phase) : InOrder turns t := by
  have hself : t.phase i = phase := by rw [hafter, update_self]
  have hother : ∀ j, j ≠ i → t.phase j = s.phase j := fun j hj => by
    rw [hafter, update_of_ne hj]
  have howed : ∀ j asked, (t.phase j).owed? = some asked → (s.phase j).owed? = some asked := by
    intro j asked hasked
    by_cases hj : j = i
    · subst hj
      rw [hself] at hasked
      rcases hphase.owed with hsame | hnone
      · rw [← hsame, hasked]
      · rw [hnone] at hasked
        cases hasked
    · rw [← hother j hj, hasked]
  have hanswered : ∀ j message, t.phase j = .answered message ↔ s.phase j = .answered message := by
    intro j message
    by_cases hj : j = i
    · subst hj
      rw [hself]
      exact iff_of_false (hphase.after message) (hphase.before message)
    · rw [hother j hj]
  constructor
  · intro j append happend
    by_cases hj : j = i
    · subst hj
      rw [hself] at happend
      exact hphase.made append happend
    · rw [hother j hj] at happend
      exact h.made j append happend
  · intro j hread
    rw [hsessions]
    by_cases hj : j = i
    · subst hj
      rw [hself] at hread
      exact (hphase.readable hread).elim (h.readable j) id
    · rw [hother j hj] at hread
      exact h.readable j hread
  · intro j asked answer hanswering
    by_cases hj : j = i
    · subst hj
      rw [hself] at hanswering
      exact hphase.fits asked answer hanswering
    · rw [hother j hj] at hanswering
      exact h.fits j asked answer hanswering
  · intro j k asked asked' hasked hasked'
    exact h.alone j k asked asked' (howed j asked hasked) (howed k asked' hasked')
  · intro j asked hasked
    rw [hsessions]
    exact h.last j asked (howed j asked hasked)
  · rw [hsessions]
    exact h.counts
  · rw [hmessages]
    intro row hrow j hid
    obtain ⟨message, hmessage⟩ := h.ids row hrow j hid
    exact ⟨message, (hanswered j message).mpr hmessage⟩
  · intro j asked
    by_cases hj : j = i
    · subst hj
      rw [hself]
      exact hphase.kept asked
    · rw [hother j hj]
      exact h.owed j asked
  · intro j message hmessage
    rw [hmessages]
    exact h.stored j message ((hanswered j message).mp hmessage)

/-! ### What is owed can be stored -/

private theorem checked_answerRow {answer : ChatAnswerRecord}
    {createdAt : ℤ} (hfits : answer.fits)
    (hplace : asked.sequence + 1 < chatSessionMessageLimit) :
    chatMessageSchema.failedCheck (turn.answerRow asked answer createdAt) = none := by
  rw [Schema.failedCheck_eq_none]
  have hinteger : takesInteger ((asked.sequence + 1 : ℕ) : ℤ) = true :=
    takesInteger_natCast (by unfold chatSessionMessageLimit at hplace; omega)
  simp only [chatMessageSchema, forall_mem_cons, not_mem_nil, false_imp_iff,
    implies_true, and_true]
  exact ⟨hinteger, hfits⟩

private theorem InOrder.answer_of_append (h : InOrder turns s)
    (happend : (s.phase i).append? = some append) (hasked : append.kind.asked? = some asked) :
    ∃ answer createdAt, append = (turns i).appendAnswer asked answer createdAt ∧
      answer.fits := by
  cases h.made i append happend with
  | question => cases hasked
  | answer hfits =>
    cases hasked
    exact ⟨_, _, rfl, hfits⟩

/-- An owed answer is not refused: its identifier is new and its position is free. -/
theorem InOrder.insertRow_ne_refused (h : InOrder turns s) (hinv : Inv turns s)
    (hdense : Dense s.sessions.committed s.messages.committed)
    (hphase : s.phase i = .inserting append) (hasked : append.kind.asked? = some asked)
    (violation : Violation) :
    s.messages.insertRow i append.message ≠ .refused violation := by
  obtain ⟨answer, createdAt, rfl, hfits⟩ :=
    h.answer_of_append (i := i) (by rw [hphase]; rfl) hasked
  obtain ⟨row, hrow, hcount, hroom⟩ := h.last i asked (by rw [hphase]; exact hasked)
  obtain ⟨hmem, hid⟩ := Table.lookup_spec hrow
  refine OpenTable.insertRow_ne_refused (checked_answerRow hfits (hcount ▸ hroom)) ?_ violation
  intro other hother
  rw [OpenTable.visible_rows, (hinv.own_of_inserting hphase).1, append_nil] at hother
  have hnew : other.id ≠ (turns i).answerId := by
    intro heq
    obtain ⟨message, hmessage⟩ := h.ids other hother i heq
    rw [hphase] at hmessage
    cases hmessage
  have hfree : other.chatSessionId = (turns i).sessionId → other.sequence ≠ asked.sequence + 1 := by
    intro hsession hsequence
    -- the positions that are taken are below the counter
    have htaken : other.sequence ∈ (s.messages.committed.rows.filter fun row' =>
        row'.chatSessionId == row.id).map ChatMessage.sequence :=
      mem_map_of_mem (mem_filter.mpr ⟨hother, by simp [hsession, hid]⟩)
    rw [(hdense row hmem).mem_iff, mem_range, hsequence, hcount] at htaken
    exact lt_irrefl _ htaken
  rw [Schema.collision_eq_none]
  simp only [chatMessageSchema, forall_mem_cons, not_mem_nil, false_imp_iff,
    implies_true, and_true]
  refine ⟨by simpa [ChatTurn.appendAnswer, ChatTurn.answerRow] using hnew, ?_⟩
  simpa [ChatTurn.appendAnswer, ChatTurn.answerRow] using hfree

/-- The session takes an owed answer. -/
theorem InOrder.update_ne_refused (h : InOrder turns s) (hinv : Inv turns s)
    (hphase : s.phase i = .updating append) (hasked : append.kind.asked? = some asked)
    (violation : Violation) :
    s.sessions.update i (turns i).sessionId append.updated ≠ .refused violation := by
  obtain ⟨answer, createdAt, rfl, -⟩ :=
    h.answer_of_append (i := i) (by rw [hphase]; rfl) hasked
  obtain ⟨row, hrow, -, hroom⟩ := h.last i asked (by rw [hphase]; exact hasked)
  obtain ⟨-, hown, -⟩ := hinv.own_of_updating hphase
  refine LockedTable.update_ne_refused chatSessionSchema_keyedBy_id ?_ ?_ ?_ violation
  · intro index hindex old other
    obtain rfl := mem_singleton.mp hindex
    exact ⟨rfl, rfl⟩
  · intro old
    rfl
  · intro found hfound
    rw [visible_sessions hown, hrow] at hfound
    cases hfound
    have hchecked := Schema.failedCheck_eq_none.mp
      (s.sessions.committed.checked (Table.lookup_spec hrow).1)
    simp only [chatSessionSchema, forall_mem_cons, not_mem_nil, false_imp_iff,
      implies_true, and_true] at hchecked
    rw [Schema.failedCheck_eq_none]
    simp only [chatSessionSchema, forall_mem_cons, not_mem_nil, false_imp_iff,
      implies_true, and_true]
    have hcount : row.messageCount + 1 ≤ 2147483647 := by
      unfold chatSessionMessageLimit at hroom
      omega
    exact ⟨hchecked.1, takesInteger_natCast hcount⟩

/-! ### The invariant -/

/-- The invariant, after a question or an answer has been stored. -/
theorem InOrder.commit (h : InOrder turns s) (hinv : Inv turns s)
    (hdense : Dense s.sessions.committed s.messages.committed)
    (hids : ∀ i j, (turns i).questionId ≠ (turns j).answerId)
    (hanswers : Function.Injective fun i => (turns i).answerId)
    (hphase : s.phase i = .committing append) (horderly : Orderly turns s (.advance i)) :
    InOrder turns (s.commit i append) := by
  have hmessages := hinv.messages_commit hphase
  have hlookup := hinv.lookup_commit hphase
  obtain ⟨row, -, -, hsession, hrow, -⟩ := hinv.own_of_committing hphase
  have hsequence := hinv.sequence_eq hphase hrow hdense
  have hmade := h.made i append (by rw [hphase]; rfl)
  have hself : (s.commit i append).phase i =
      (match append.kind with
      | .question _ => .asking append.message
      | .answer _ => .answered append.message) := update_self ..
  have hother : ∀ j, j ≠ i → (s.commit i append).phase j = s.phase j := fun j hj =>
    update_of_ne hj _ _
  -- no other turn of the conversation waits for its answer
  have halone : ∀ j asked, j ≠ i → (s.phase j).owed? = some asked →
      (turns j).sessionId ≠ (turns i).sessionId := by
    intro j asked hj hasked hsame
    cases hkind : append.kind.asked? with
    | none =>
      have hstoring : append ∈ (s.phase i).storing? := by
        rw [hphase]
        exact if_pos hkind
      rw [(horderly append hstoring).2 j hsame] at hasked
      cases hasked
    | some asked' =>
      exact hj (h.alone j i asked asked' hasked (by rw [hphase]; exact hkind) hsame)
  -- there was room for the message, and for the answer to a question
  have hroom : row.messageCount + 1 ≤ chatSessionMessageLimit ∧
      (append.kind.asked? = none → row.messageCount + 1 < chatSessionMessageLimit) := by
    cases hkind : append.kind.asked? with
    | none =>
      have hstoring : append ∈ (s.phase i).storing? := by
        rw [hphase]
        exact if_pos hkind
      have hplaces := (horderly append hstoring).1
      rw [hsequence] at hplaces
      exact ⟨by omega, fun _ => by omega⟩
    | some asked =>
      obtain ⟨found, hfound, -, hlt⟩ := h.last i asked (by rw [hphase]; exact hkind)
      rw [hrow] at hfound
      cases hfound
      exact ⟨hlt, fun hnone => by cases hnone⟩
  have howed : ∀ j asked, ((s.commit i append).phase j).owed? = some asked →
      j ≠ i ∧ (s.phase j).owed? = some asked ∨
        j = i ∧ asked = append.message ∧ append.kind.asked? = none := by
    intro j asked hasked
    by_cases hj : j = i
    · subst hj
      rw [hself] at hasked
      cases hkind : append.kind with
      | question =>
        rw [hkind] at hasked
        cases hasked
        exact .inr ⟨rfl, rfl, rfl⟩
      | answer =>
        rw [hkind] at hasked
        cases hasked
    · rw [hother j hj] at hasked
      exact .inl ⟨hj, hasked⟩
  constructor
  case made =>
    intro j append' happend
    by_cases hj : j = i
    · subst hj
      rw [hself] at happend
      cases hkind : append.kind <;> rw [hkind] at happend <;> cases happend
    · rw [hother j hj] at happend
      exact h.made j append' happend
  case readable =>
    intro j hread
    have hbefore : (s.phase j).hasRead = true := by
      by_cases hj : j = i
      · rw [hj, hphase]
        rfl
      · rwa [hother j hj] at hread
    obtain ⟨hid, found, hfound, hworkspace⟩ := h.readable j hbefore
    refine ⟨hid, _, by rw [hlookup, hfound, Option.map_some], ?_⟩
    split <;> exact hworkspace
  case fits =>
    intro j asked answer hanswering
    by_cases hj : j = i
    · subst hj
      rw [hself] at hanswering
      cases hkind : append.kind <;> rw [hkind] at hanswering <;> cases hanswering
    · rw [hother j hj] at hanswering
      exact h.fits j asked answer hanswering
  case alone =>
    intro j k asked asked' hasked hasked' hsame
    rcases howed j asked hasked with ⟨hj, howes⟩ | ⟨hj, -, -⟩
    · rcases howed k asked' hasked' with ⟨hk, howes'⟩ | ⟨hk, -, -⟩
      · exact h.alone j k asked asked' howes howes' hsame
      · exact absurd (hk ▸ hsame) (halone j asked hj howes)
    · rcases howed k asked' hasked' with ⟨hk, howes'⟩ | ⟨hk, -, -⟩
      · exact absurd (hj ▸ hsame.symm) (halone k asked' hk howes')
      · rw [hj, hk]
  case last =>
    intro j asked hasked
    rw [hlookup]
    rcases howed j asked hasked with ⟨hj, hasked⟩ | ⟨rfl, rfl, hkind⟩
    · obtain ⟨found, hfound, hcount, hlt⟩ := h.last j asked hasked
      refine ⟨found, ?_, hcount, hlt⟩
      rw [hfound, Option.map_some, if_neg (halone j asked hj hasked)]
    · refine ⟨append.updated row, ?_, ?_, hroom.2 hkind⟩
      · rw [hrow, Option.map_some, if_pos rfl]
      · rw [hsequence]
        rfl
  case counts =>
    intro session hmem
    have hfound := hlookup session.id
    rw [(Table.lookup_eq_some chatSessionSchema_keyedBy_id).mpr ⟨hmem, rfl⟩] at hfound
    obtain ⟨old, hold, hversion⟩ := Option.map_eq_some_iff.mp hfound.symm
    split at hversion
    · next hsame =>
      rw [hsame, hrow] at hold
      cases hold
      rw [← hversion]
      exact hroom.1
    · rw [← hversion]
      exact h.counts old (Table.lookup_spec hold).1
  case ids =>
    intro message hmem j hid
    rw [hmessages] at hmem
    rcases mem_append.mp hmem with hold | hnew
    · obtain ⟨stored, hstored⟩ := h.ids message hold j hid
      have hj : j ≠ i := by
        rintro rfl
        rw [hphase] at hstored
        cases hstored
      exact ⟨stored, by rw [hother j hj, hstored]⟩
    · obtain rfl := mem_singleton.mp hnew
      cases hmade with
      | question => exact absurd hid (hids i j)
      | answer =>
        obtain rfl := hanswers hid
        exact ⟨_, hself⟩
  case owed =>
    intro j asked
    by_cases hj : j = i
    · subst hj
      rw [hself]
      cases append.kind <;> rintro ⟨⟩
    · rw [hother j hj]
      exact h.owed j asked
  case stored =>
    intro j message hmessage
    rw [hmessages]
    by_cases hj : j = i
    · subst hj
      rw [hself] at hmessage
      cases hmade with
      | question => cases hmessage
      | answer =>
        cases hmessage
        exact ⟨mem_append_right _ (mem_singleton_self _), rfl, rfl⟩
    · rw [hother j hj] at hmessage
      obtain ⟨hmem, hrole⟩ := h.stored j message hmessage
      exact ⟨mem_append_left _ hmem, hrole⟩

private theorem continues_thrown (hproduced : phase.produced = false)
    (hended : phase.ended = false) :
    Continues sessions turn phase phase.thrown := by
  have hkind : ∀ append : Append, append.kind.asked?.isSome = false →
      ∃ countedAt, append.kind = .question countedAt := by
    intro append happend
    cases hkind : append.kind with
    | question countedAt => exact ⟨countedAt, rfl⟩
    | answer asked => simp [hkind, AppendKind.asked?] at happend
  have hfailed : phase.thrown = .failed := by
    cases phase with
    | answering asked answer => cases hproduced
    | inserting append | updating append | committing append =>
      obtain ⟨countedAt, hquestion⟩ := hkind append hproduced
      simp only [TurnPhase.thrown, hquestion]
    | answered message => cases hended
    | refused reason => cases hended
    | unanswered asked => cases hended
    | starting | counting | admitted countedAt | asking asked | failed => rfl
  rw [hfailed]
  exact
    { made := by rintro _ ⟨⟩
      readable := by rintro ⟨⟩
      fits := by rintro _ _ ⟨⟩
      owed := .inr rfl
      before := by
        rintro message rfl
        cases hended
      after := by rintro _ ⟨⟩
      kept := by rintro _ ⟨⟩ }

private theorem continues_unasked {phase' : TurnPhase} (hended : phase.ended = false)
    (h : phase' = .counting ∨ (∃ reason, phase' = .refused reason) ∨ ∃ c, phase' = .admitted c) :
    Continues sessions turn phase phase' := by
  have hbefore : ∀ message, phase ≠ .answered message := by
    rintro message rfl
    cases hended
  rcases h with rfl | ⟨reason, rfl⟩ | ⟨c, rfl⟩ <;>
    exact ⟨by rintro _ ⟨⟩, by rintro ⟨⟩, by rintro _ _ ⟨⟩, .inr rfl, hbefore, by rintro _ ⟨⟩,
      by rintro _ ⟨⟩⟩

private theorem InOrder.continues_append (h : InOrder turns s)
    (hbefore : (s.phase i).append? = some append) (hafter : phase.append? = some append) :
    Continues s.sessions.committed (turns i) (s.phase i) phase where
  made other hother := by
    rw [hafter] at hother
    cases hother
    exact h.made i append hbefore
  readable _ := .inl (by simp [TurnPhase.hasRead, hbefore])
  fits := by
    rintro asked answer rfl
    cases hafter
  owed := by
    have howed : ∀ {phase : TurnPhase}, phase.append? = some append →
        phase.owed? = append.kind.asked? := by
      intro phase happend
      cases phase <;> cases happend <;> rfl
    exact .inl ((howed hafter).trans (howed hbefore).symm)
  before := by
    intro message hanswered
    rw [hanswered] at hbefore
    cases hbefore
  after := by
    rintro message rfl
    cases hafter
  kept := by
    rintro asked rfl
    cases hafter

theorem InOrder.session?_ne_none (h : InOrder turns s) (hinv : Inv turns s)
    (hidle : (s.phase i).append? = none) (hread : (s.phase i).hasRead) :
    s.session? (turns i) i ≠ none := by
  obtain ⟨hid, row, hrow, hworkspace⟩ := h.readable i hread
  unfold session?
  rw [if_pos hid, visible_sessions (hinv.own_of_idle hidle).2]
  intro hnone
  have hmissing := List.find?_eq_none.mp hnone row (Table.lookup_spec hrow).1
  simp [(Table.lookup_spec hrow).2, hworkspace] at hmissing

private theorem readable_of_session? {session : ChatSession}
    (hown : s.sessions.own i = []) (h : s.session? turn i = some session) :
    Readable s.sessions.committed turn := by
  have hlookup := lookup_of_session? hown h
  unfold session? at h
  split at h
  · next hid =>
    have hfound := List.find?_some h
    simp only [Bool.and_eq_true, beq_iff_eq] at hfound
    exact ⟨hid, session, hlookup, hfound.2⟩
  · cases h

/-- Every move that the order of the turns allows keeps the invariant. -/
theorem InOrder.after (h : InOrder turns s) (hinv : Inv turns s)
    (hdense : Dense s.sessions.committed s.messages.committed)
    (hids : ∀ i j, (turns i).questionId ≠ (turns j).answerId)
    (hanswers : Function.Injective fun i => (turns i).answerId)
    (horderly : Orderly turns s event) (hmove : Move turns s event t) : InOrder turns t := by
  cases hmove with
  | loads hphase =>
    exact h.continues (continues_unasked (by rw [hphase]; rfl) (.inl rfl)) rfl rfl rfl
  | refuses hphase =>
    refine h.continues (continues_unasked ?_ (.inr (.inl ⟨_, rfl⟩))) rfl rfl rfl
    rcases hphase with hphase | hphase | ⟨c, hphase⟩ <;> rw [hphase] <;> rfl
  | admits hphase =>
    exact h.continues (continues_unasked (by rw [hphase]; rfl) (.inr (.inr ⟨_, rfl⟩))) rfl rfl
      rfl
  | @readsForQuestion i c session hphase hsession hlimit =>
    have hown := hinv.own_of_idle (i := i) (by rw [hphase]; rfl)
    have hreadable := readable_of_session? hown.2 hsession
    refine h.continues ⟨?_, fun _ => .inr hreadable, by rintro _ _ ⟨⟩, .inr rfl, ?_,
      by rintro _ ⟨⟩, by rintro _ ⟨⟩⟩ rfl rfl rfl
    · rintro _ ⟨⟩
      exact .question
    · rw [hphase]
      rintro _ ⟨⟩
  | @produces i asked answer hphase =>
    refine h.continues ⟨by rintro _ ⟨⟩, ?_, ?_, ?_, ?_, by rintro _ ⟨⟩, by rintro _ ⟨⟩⟩ rfl rfl rfl
    · intro _
      rw [hphase]
      exact .inl rfl
    · rintro _ _ ⟨⟩
      exact horderly
    · rw [hphase]
      exact .inl rfl
    · rw [hphase]
      rintro _ ⟨⟩
  | @readsForAnswer i asked answer session hphase hsession =>
    refine h.continues ⟨?_, ?_, by rintro _ _ ⟨⟩, ?_, ?_, by rintro _ ⟨⟩, by rintro _ ⟨⟩⟩ rfl rfl
      rfl
    · rintro _ ⟨⟩
      exact .answer (h.fits i asked answer hphase)
    · intro _
      rw [hphase]
      exact .inl rfl
    · rw [hphase]
      exact .inl rfl
    · rw [hphase]
      rintro _ ⟨⟩
  | @loses i asked answer hphase hsession =>
    refine absurd hsession (h.session?_ne_none hinv ?_ ?_) <;> rw [hphase] <;> rfl
  | @inserts i append messages hphase hdone =>
    obtain ⟨hcommitted, -⟩ := OpenTable.of_insertRow_done hdone
    exact h.continues (h.continues_append (by rw [hphase]; rfl) rfl) rfl hcommitted rfl
  | @updates i append row sessions hphase hdone =>
    obtain ⟨-, -, -, hcommitted, -⟩ := LockedTable.of_update_done hdone
    exact h.continues (h.continues_append (by rw [hphase]; rfl) rfl) hcommitted rfl rfl
  | misses hphase => exact h.continues (h.continues_append (by rw [hphase]; rfl) rfl) rfl rfl rfl
  | commits hphase => exact h.commit hinv hdense hids hanswers hphase horderly
  | @fails i append violation hphase =>
    have hquestion : append.kind.asked? = none := by
      cases hkind : append.kind.asked? with
      | none => rfl
      | some asked =>
        rcases hphase with ⟨hphase, hrefused⟩ | ⟨hphase, hrefused⟩
        · exact absurd hrefused (h.insertRow_ne_refused hinv hdense hphase hkind violation)
        · exact absurd hrefused (h.update_ne_refused hinv hphase hkind violation)
    refine h.continues (continues_thrown ?_ ?_) rfl rfl rfl
    · rcases hphase with ⟨hphase, -⟩ | ⟨hphase, -⟩ <;>
        simp only [hphase, TurnPhase.produced, hquestion, Option.isSome_none]
    · rcases hphase with ⟨hphase, -⟩ | ⟨hphase, -⟩ <;> rw [hphase] <;> rfl
  | stops hended => exact h.continues (continues_thrown horderly hended) rfl rfl rfl
  | passes => exact ⟨h.made, h.readable, h.fits, h.alone, h.last, h.counts, h.ids, h.owed, h.stored⟩

private theorem inOrder_start (sessions : Table chatSessionSchema)
    (messages : Table chatMessageSchema)
    (clock : ℤ) (hlimit : ∀ session ∈ sessions.rows, session.messageCount ≤ chatSessionMessageLimit)
    (hfresh : ∀ row ∈ messages.rows, ∀ i, row.id ≠ (turns i).answerId) :
    InOrder turns (start sessions messages clock ι) where
  made := by rintro _ _ ⟨⟩
  readable := by rintro _ ⟨⟩
  fits := by rintro _ _ _ ⟨⟩
  alone := by rintro _ _ _ _ ⟨⟩
  last := by rintro _ _ ⟨⟩
  counts := hlimit
  ids := fun row hrow i hid => absurd hid (hfresh row hrow i)
  owed := by rintro _ _ ⟨⟩
  stored := by rintro _ _ ⟨⟩

end ChatSystem

open ChatSystem in
/-- **Turns that follow one another keep every answer**, and no conversation holds more messages
than it may. -/
theorem orderly_turns_keep_answers {ι : Type} [DecidableEq ι] (turns : ι → ChatTurn)
    (sessions : Table chatSessionSchema) (messages : Table chatMessageSchema) (clock : ℤ)
    (hdense : Dense sessions messages)
    (hlimit : ∀ session ∈ sessions.rows, session.messageCount ≤ chatSessionMessageLimit)
    (hids : NewIds turns messages) {t : ChatSystem ι}
    (h : Transition.Reachable (Transition.Restricted (Step turns) (Orderly turns))
      (start sessions messages clock ι) t) : Kept turns t := by
  have hall : Inv turns t ∧ Dense t.sessions.committed t.messages.committed ∧ InOrder turns t := by
    refine h.invariant (I := fun t => Inv turns t ∧
      Dense t.sessions.committed t.messages.committed ∧ InOrder turns t)
      ⟨inv_start sessions messages clock, hdense,
        inOrder_start sessions messages clock hlimit hids.fresh⟩ ?_
    rintro s t event ⟨hinv, hdense, horder⟩ ⟨horderly, hstep⟩
    have hmove := move_of_step hstep
    exact ⟨hinv.after hmove, hinv.dense_after hmove hdense,
      horder.after hinv hdense hids.question hids.answer horderly hmove⟩
  obtain ⟨-, hdense, horder⟩ := hall
  refine ⟨horder.owed, horder.stored, fun session hmem => ?_⟩
  have hlength := (hdense session hmem).length_eq
  rw [length_map, length_range] at hlength
  rw [hlength]
  exact horder.counts session hmem

/-! ### A question that overtakes an answer -/

namespace ChatSample

open ChatSystem

def reply : ChatAnswerRecord where
  citedEvidenceKeys := []
  content := [0x4E, 0x6F]
  contextHash := none
  contextSources := []
  contextTokenEstimate := some 12
  failureClass := none
  failureCode := none
  finishReason := some "STOP"
  followUps := []
  inputTokens := some 20
  modelRequested := some "gemini"
  modelVersion := some "gemini"
  outputTokens := some 2
  promptVersion := some "1"
  providerLatencyMs := some 700
  schemaVersion := some "1"
  strategyGenerationId := none
  totalTokens := some 22

private theorem newIds_turns : NewIds turns (Table.empty chatMessageSchema) where
  question i j := by cases i <;> cases j <;> decide
  answer i j h := by
    cases i <;> cases j <;> first | rfl | exact absurd h (by decide)
  fresh _ hrow := absurd hrow not_mem_nil

def wholeTurn : List (ChatEvent Bool) :=
  asks false ++ .produce false reply :: List.replicate 4 (.advance false)

/-- The answer of a turn that is not overtaken is kept. -/
theorem answer_is_kept : ∃ t, Transition.replayWithin (next turns) (Orderly turns)
    (start sessions (Table.empty _) 0 Bool) wholeTurn = some t ∧
      (t.messages.committed.rows.map ChatMessage.sequence) = [0, 1] ∧ Kept turns t := by
  have hrun : (Transition.replayWithin (next turns) (Orderly turns)
      (start sessions (Table.empty _) 0 Bool) wholeTurn).map
        (fun t => t.messages.committed.rows.map ChatMessage.sequence) = some [0, 1] := by
    decide
  obtain ⟨t, hreplay, hrows⟩ := Option.map_eq_some_iff.mp hrun
  have hlimit : ∀ session ∈ sessions.rows, session.messageCount ≤ chatSessionMessageLimit := by
    decide
  exact ⟨t, hreplay, hrows, orderly_turns_keep_answers turns sessions (Table.empty _) 0 dense_start
    hlimit newIds_turns (Transition.Reachable.replayWithin .refl hreplay)⟩

/-- The second question is stored before the first is answered. -/
def overtaking : List (ChatEvent Bool) :=
  asks false ++ asks true ++ .produce false reply :: List.replicate 2 (.advance false)

/-- **An answer is lost when another question takes its position**, though no call was stopped. -/
theorem overtaken_answer_is_lost : ¬ ∀ history t,
    Transition.Run (Step turns) (start sessions (Table.empty _) 0 Bool) history t →
      (∀ visited ∈ history, ∀ i, visited.2 ≠ .stop i) → Kept turns t := by
  intro hall
  have hrun : (Transition.replay (next turns) [] (start sessions (Table.empty _) 0 Bool)
      overtaking).map (fun result => (result.2.phase false, result.1.map Prod.snd)) =
        some (.unanswered ((turns false).questionRow session 0), overtaking.reverse) := by
    decide
  obtain ⟨⟨history, t⟩, hreplay, hresult⟩ := Option.map_eq_some_iff.mp hrun
  obtain ⟨hphase, hevents⟩ := Prod.mk.inj hresult
  have hnostop : ∀ event ∈ overtaking.reverse, ∀ i, event ≠ .stop i := by decide
  refine (hall history t (Transition.Run.replay .refl hreplay) fun visited hvisited => ?_).owed
    false _ hphase
  exact hnostop visited.2 (hevents ▸ mem_map_of_mem hvisited)

end ChatSample

end ContentAutomation
