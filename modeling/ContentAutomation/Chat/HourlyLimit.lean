import Mathlib.Data.Fintype.Basic
import ContentAutomation.Chat.Sequences
import ContentAutomation.Jobs.OperationLimits

/-!
# The limit on questions

A turn counts the questions of the last hour before it stores its own, in another transaction. A
question that was admitted and is not yet stored is not among those that the next turn counts, and
neither is one whose conversation has been deleted.
-/

namespace ContentAutomation

open Relational List Function OperationRace

/-- The conversations, with every question that a turn has stored. -/
structure QuestionLog (ι : Type*) [DecidableEq ι] where
  chat : ChatSystem ι
  stored : List ChatMessage

/-- What happens next. -/
inductive QuestionEvent (ι : Type*)
  /-- An event of a turn. -/
  | turn (event : ChatEvent ι)
  /-- A `deleteChatSession` commits. -/
  | delete (context : WorkspaceContext) (sessionId : String)

/-- A question of a workspace that was stored at a time or later. -/
def isQuestionSince (workspaceId : String) (since : ℤ) (row : ChatMessage) : Bool :=
  decide (since ≤ row.createdAt) && row.workspaceId == workspaceId

/-- When the question of a turn was admitted, until it is stored. -/
def TurnPhase.admittedAt? : TurnPhase → Option ℤ
  | .admitted countedAt => some countedAt
  | .inserting append | .updating append | .committing append =>
    match append.kind with
    | .question countedAt => some countedAt
    | .answer _ => none
  | _ => none

/-- The turn is about to count the recent questions. -/
def TurnPhase.isCounting : TurnPhase → Bool
  | .counting => true
  | _ => false

namespace QuestionLog

variable {ι : Type*} [DecidableEq ι]

/-- The conversations before any turn has begun. -/
def start (sessions : Table chatSessionSchema) (messages : Table chatMessageSchema) (clock : ℤ)
    (ι : Type*) [DecidableEq ι] : QuestionLog ι where
  chat := ChatSystem.start sessions messages clock ι
  stored := []

/-- The message that a turn inserts refers to a session that is gone. -/
def dangles (s : QuestionLog ι) : ChatEvent ι → Option ι
  | .advance i =>
    match s.chat.phase i with
    | .inserting append =>
      if (s.chat.sessions.committed.lookup ChatSession.id append.message.chatSessionId).any
          fun session => session.workspaceId == append.message.workspaceId then none
      else some i
    | _ => none
  | _ => none

/-- The questions that an event stores. -/
def stores (s : QuestionLog ι) : ChatEvent ι → List ChatMessage
  | .advance i =>
    match s.chat.phase i with
    | .committing append =>
      match append.kind with
      | .question _ => [append.message]
      | .answer _ => []
    | _ => []
  | _ => []

/-- An open transaction has written to a conversation. -/
def isLocked (s : QuestionLog ι) (sessionId : String) : Bool :=
  (s.chat.messages.pending.any fun entry => entry.2.chatSessionId == sessionId) ||
    s.chat.sessions.versions.any fun entry => entry.2.id == sessionId

/-- The conversations without one of them. -/
def without (s : QuestionLog ι) (context : WorkspaceContext) (sessionId : String) :
    ChatSystem ι where
  sessions := s.chat.sessions.deleteRows fun row =>
    row.id == sessionId && row.workspaceId == context.workspaceId
  messages := s.chat.messages.deleteRows fun row =>
    row.chatSessionId == sessionId && row.workspaceId == context.workspaceId
  clock := s.chat.clock
  phase := s.chat.phase

/-- `deleteChatSession`; `none` while it has to wait for an open transaction. -/
def delete (s : QuestionLog ι) (context : WorkspaceContext) (sessionId : String) :
    Option (QuestionLog ι) :=
  if isUuidV7 sessionId then
    match s.chat.sessions.committed.findFirst fun row =>
        row.id == sessionId && row.workspaceId == context.workspaceId with
    | none => some s
    | some _ =>
      if s.isLocked sessionId then none else some { s with chat := s.without context sessionId }
  else some s

/-- What an event makes of the conversations. -/
def next (turns : ι → ChatTurn) (s : QuestionLog ι) : QuestionEvent ι → Option (QuestionLog ι)
  | .turn event =>
    match s.dangles event with
    | some i => some { s with chat := s.chat.throw i }
    | none => (s.chat.next turns event).map fun chat => ⟨chat, s.stored ++ s.stores event⟩
  | .delete context sessionId => s.delete context sessionId

/-- The steps of turns and deletions. -/
def Step (turns : ι → ChatTurn) (s : QuestionLog ι) (event : QuestionEvent ι)
    (t : QuestionLog ι) : Prop := s.next turns event = some t

/-- No workspace has stored more questions than the limit in any hour. -/
def WithinLimit (s : QuestionLog ι) : Prop :=
  ∀ (workspaceId : String) (x : ℤ),
    s.stored.countP (fun row => isQuestionSince workspaceId x row &&
      decide (row.createdAt ≤ x + oneHourMs)) ≤ chatWorkspaceHourlyTurnLimit

/-- When a turn counts, the question of no other turn of its workspace is on its way; and no
question of the last hour is deleted. -/
def CountsAll (turns : ι → ChatTurn) (s : QuestionLog ι) : QuestionEvent ι → Prop
  | .turn (.advance i) => (s.chat.phase i).isCounting = true → ∀ j, j ≠ i →
      (turns j).context = (turns i).context → (s.chat.phase j).admittedAt? = none
  | .delete context sessionId => ∀ row ∈ s.chat.messages.committed.rows,
      row.chatSessionId = sessionId → row.workspaceId = context.workspaceId → row.role = .user →
        row.createdAt < s.chat.clock - oneHourMs
  | _ => True

instance [Fintype ι] (turns : ι → ChatTurn) (s : QuestionLog ι) (event : QuestionEvent ι) :
    Decidable (CountsAll turns s event) := by
  unfold CountsAll
  split <;> infer_instance

/-! ### The invariant -/

variable {turns : ι → ChatTurn} {s t : QuestionLog ι} {event : QuestionEvent ι} {i j : ι}
  {stored : List ChatMessage} {clock : ℤ} {turn : ChatTurn} {phase : TurnPhase}
  {own : List ChatMessage}

/-- What is known of a turn whose question may be on its way. -/
structure Waiting (stored : List ChatMessage) (clock : ℤ) (turn : ChatTurn) (phase : TurnPhase)
    (own : List ChatMessage) : Prop where
  /-- When the question was admitted, the limit was not reached, and it still is not. -/
  admitted : ∀ countedAt, phase.admittedAt? = some countedAt → countedAt ≤ clock ∧
    stored.countP (isQuestionSince turn.context.workspaceId (countedAt - oneHourMs)) <
      chatWorkspaceHourlyTurnLimit
  /-- The question is later than its count. -/
  message : ∀ append countedAt, phase.append? = some append → append.kind = .question countedAt →
    append.message.role = .user ∧ append.message.workspaceId = turn.context.workspaceId ∧
      countedAt ≤ append.message.createdAt
  /-- An inserted message is the turn's own. -/
  inserted : ∀ append, phase = .updating append ∨ phase = .committing append →
    append.message ∈ own

/-- The invariant. -/
structure Inv (turns : ι → ChatTurn) (s : QuestionLog ι) : Prop where
  waiting : ∀ i, Waiting s.stored s.chat.clock (turns i) (s.chat.phase i) (s.chat.messages.own i)
  /-- One question of a workspace is on its way at a time. -/
  alone : ∀ i j, i ≠ j → (turns i).context = (turns j).context →
    (s.chat.phase i).admittedAt? ≠ none → (s.chat.phase j).admittedAt? = none
  /-- The questions of the last hour are there for everyone. -/
  remembered : ∀ context since, s.chat.clock - oneHourMs ≤ since →
    s.stored.countP (isQuestionSince context.workspaceId since) ≤
      countRecentChatQuestions s.chat.messages.committed.rows context since
  within : s.WithinLimit

theorem Waiting.idle (hadmitted : phase.admittedAt? = none) (happend : phase.append? = none) :
    Waiting stored clock turn phase own where
  admitted := by simp [hadmitted]
  message := by simp [happend]
  inserted := by
    rintro append (rfl | rfl) <;> cases happend

theorem Waiting.answer {append : Append} {asked : ChatMessage}
    (hkind : append.kind = .answer asked) :
    Waiting stored clock turn (.inserting append) own where
  admitted := by simp [TurnPhase.admittedAt?, hkind]
  message := by
    intro append' countedAt happend hkind'
    cases happend
    rw [hkind] at hkind'
    cases hkind'
  inserted := by rintro _ (⟨⟨⟩⟩ | ⟨⟨⟩⟩)

theorem Waiting.goOn {phase' : TurnPhase} {own' : List ChatMessage}
    {append : Append} (h : Waiting stored clock turn phase own) (happend : phase.append? = some append)
    (hadmitted : phase'.admittedAt? = phase.admittedAt?) (happend' : phase'.append? = some append)
    (hown : append.message ∈ own') : Waiting stored clock turn phase' own' where
  admitted := by rw [hadmitted]; exact h.admitted
  message := by rw [happend', ← happend]; exact h.message
  inserted := by
    rintro append' (rfl | rfl) <;> cases happend' <;> exact hown

theorem Waiting.later {clock' : ℤ}
    (h : Waiting stored clock turn phase own) (hle : clock ≤ clock') :
    Waiting stored clock' turn phase own where
  admitted countedAt hphase :=
    ⟨(h.admitted countedAt hphase).1.trans hle, (h.admitted countedAt hphase).2⟩
  message := h.message
  inserted := h.inserted

/-- The questions stored so far, of a workspace that stores no other, are as many as before. -/
theorem countP_append_of_ne {workspaceId : String} {message : ChatMessage}
    (hne : message.workspaceId ≠ workspaceId) (since : ℤ) :
    (stored ++ [message]).countP (isQuestionSince workspaceId since) =
      stored.countP (isQuestionSince workspaceId since) := by
  simp [countP_append, isQuestionSince, hne]

/-- The invariant, after a turn has entered another phase, and perhaps inserted a message. -/
theorem Inv.enter (hinv : Inv turns s) {messages : OpenTable chatMessageSchema ι}
    {sessions : LockedTable chatSessionSchema ChatSession.id ι}
    (hcommitted : messages.committed = s.chat.messages.committed)
    (hothers : ∀ j, j ≠ i → messages.own j = s.chat.messages.own j)
    (hwaiting : Waiting s.stored s.chat.clock (turns i) phase (messages.own i))
    (halone : phase.admittedAt? ≠ none → ∀ j, j ≠ i → (turns j).context = (turns i).context →
      (s.chat.phase j).admittedAt? = none) :
    Inv turns { s with chat := { s.chat with messages, sessions }.enter i phase } where
  waiting := by
    intro j
    by_cases hj : j = i
    · subst hj
      simpa only [ChatSystem.enter, update_self] using hwaiting
    · simp only [ChatSystem.enter, update_of_ne hj, hothers j hj]
      exact hinv.waiting j
  alone := by
    intro j k hne hsame hj
    simp only [ChatSystem.enter] at hj ⊢
    by_cases hji : j = i
    · subst hji
      rw [update_self] at hj
      rw [update_of_ne (Ne.symm hne)]
      exact halone hj k (Ne.symm hne) hsame.symm
    · rw [update_of_ne hji] at hj
      by_cases hki : k = i
      · subst hki
        rw [update_self]
        by_contra hphase
        exact hj (halone hphase j hji hsame)
      · rw [update_of_ne hki]
        exact hinv.alone j k hne hsame hj
  remembered := by
    simp only [ChatSystem.enter, hcommitted]
    exact hinv.remembered
  within := hinv.within

/-- The invariant, after a turn has thrown. -/
theorem Inv.throw (hinv : Inv turns s) (i : ι) :
    Inv turns { s with chat := s.chat.throw i } where
  waiting := by
    intro j
    by_cases hj : j = i
    · subst hj
      simp only [ChatSystem.throw, update_self]
      have hphase : (s.chat.phase j).thrown.admittedAt? = none ∧
          (s.chat.phase j).thrown.append? = none := by
        cases s.chat.phase j <;> simp only [TurnPhase.thrown] <;> try exact ⟨rfl, rfl⟩
        all_goals split <;> exact ⟨rfl, rfl⟩
      exact .idle hphase.1 hphase.2
    · simp only [ChatSystem.throw, update_of_ne hj,
        OpenTable.rollBack_own_of_ne (Ne.symm hj)]
      exact hinv.waiting j
  alone := by
    have hphase : ∀ j, ((s.chat.throw i).phase j).admittedAt? ≠ none →
        (s.chat.phase j).admittedAt? ≠ none := by
      intro j hj
      by_cases heq : j = i
      · subst heq
        simp only [ChatSystem.throw, update_self] at hj
        cases hthrown : s.chat.phase j <;> rw [hthrown] at hj <;>
          simp only [TurnPhase.thrown] at hj <;> try exact absurd rfl hj
        all_goals
          split at hj <;> exact absurd rfl hj
      · simpa only [ChatSystem.throw, update_of_ne heq] using hj
    intro j k hne hsame hj
    by_contra hk
    exact hphase k hk (hinv.alone j k hne hsame (hphase j hj))
  remembered := hinv.remembered
  within := hinv.within

private theorem countRecentChatQuestions_append (messages messages' : List ChatMessage)
    (context : WorkspaceContext) (since : ℤ) :
    countRecentChatQuestions (messages ++ messages') context since =
      countRecentChatQuestions messages context since +
        countRecentChatQuestions messages' context since := by
  unfold countRecentChatQuestions
  exact countP_append

private theorem Inv.admit (hinv : Inv turns s)
    (hcount : countRecentChatQuestions (s.chat.messages.visible i).rows (turns i).context
      (s.chat.clock - oneHourMs) < chatWorkspaceHourlyTurnLimit)
    (halone : ∀ j, j ≠ i → (turns j).context = (turns i).context →
      (s.chat.phase j).admittedAt? = none) :
    Inv turns { s with chat := s.chat.enter i (.admitted s.chat.clock) } := by
  refine hinv.enter rfl (fun j _ => rfl) ⟨?_, by rintro _ _ ⟨⟩, by rintro _ (⟨⟨⟩⟩ | ⟨⟨⟩⟩)⟩
    fun _ => halone
  rintro countedAt ⟨⟩
  refine ⟨le_refl _, ?_⟩
  have hremembered := hinv.remembered (turns i).context _ (le_refl _)
  rw [OpenTable.visible_rows, countRecentChatQuestions_append] at hcount
  omega

private theorem workspaceId_ne {context context' : WorkspaceContext} (hne : context ≠ context') :
    context.workspaceId ≠ context'.workspaceId := by
  intro heq
  cases context
  cases context'
  exact hne (congrArg WorkspaceContext.mk heq)

/-- A question that is stored keeps the limit. -/
theorem WithinLimit.append (hwithin : s.WithinLimit) {workspaceId : String} {countedAt : ℤ}
    {message : ChatMessage} (hworkspace : message.workspaceId = workspaceId)
    (hlater : countedAt ≤ message.createdAt)
    (hcount : s.stored.countP (isQuestionSince workspaceId (countedAt - oneHourMs)) <
      chatWorkspaceHourlyTurnLimit) :
    WithinLimit { s with stored := s.stored ++ [message] } := by
  intro workspaceId' x
  have hbefore := hwithin workspaceId' x
  simp only [countP_append, countP_singleton]
  split
  · next hinside =>
    -- the window reaches back to the count of the question at most
    simp only [isQuestionSince, hworkspace, Bool.and_eq_true, decide_eq_true_eq,
      beq_iff_eq] at hinside
    obtain ⟨⟨-, hsame⟩, hhigh⟩ := hinside
    have hle : s.stored.countP (fun row => isQuestionSince workspaceId' x row &&
        decide (row.createdAt ≤ x + oneHourMs)) ≤
        s.stored.countP (isQuestionSince workspaceId (countedAt - oneHourMs)) := by
      refine countP_mono_left fun row _ hrow => ?_
      simp only [isQuestionSince, Bool.and_eq_true, decide_eq_true_eq, beq_iff_eq] at hrow ⊢
      exact ⟨by omega, hrow.1.2.trans hsame.symm⟩
    omega
  · omega

private theorem admittedAt?_commit (append : Append) :
    ((s.chat.commit i append).phase i).admittedAt? = none ∧
      ((s.chat.commit i append).phase i).append? = none := by
  cases hkind : append.kind <;>
    simp [ChatSystem.commit, hkind, TurnPhase.admittedAt?, TurnPhase.append?]

private theorem Inv.alone_commit (hinv : Inv turns s) (append : Append) (j k : ι) (hne : j ≠ k)
    (hsame : (turns j).context = (turns k).context)
    (hj : ((s.chat.commit i append).phase j).admittedAt? ≠ none) :
    ((s.chat.commit i append).phase k).admittedAt? = none := by
  have hji : j ≠ i := by
    rintro rfl
    exact hj (admittedAt?_commit append).1
  have hothers : ∀ j, j ≠ i → (s.chat.commit i append).phase j = s.chat.phase j :=
    fun j hj => update_of_ne hj _ _
  rw [hothers j hji] at hj
  by_cases hki : k = i
  · subst hki
    exact (admittedAt?_commit append).1
  · rw [hothers k hki]
    exact hinv.alone j k hne hsame hj

/-- The invariant, after the transaction of a question has committed. -/
theorem Inv.commit_question (hinv : Inv turns s) {append : Append} {countedAt : ℤ}
    (hphase : s.chat.phase i = .committing append) (hkind : append.kind = .question countedAt) :
    Inv turns ⟨s.chat.commit i append, s.stored ++ [append.message]⟩ := by
  have hadmitted : (s.chat.phase i).admittedAt? = some countedAt := by
    rw [hphase]
    simp [TurnPhase.admittedAt?, hkind]
  have happend : (s.chat.phase i).append? = some append := by
    rw [hphase]
    rfl
  obtain ⟨-, hcount⟩ := (hinv.waiting i).admitted countedAt hadmitted
  obtain ⟨hrole, hworkspace, hlater⟩ := (hinv.waiting i).message append countedAt happend hkind
  have hown := (hinv.waiting i).inserted append (.inr hphase)
  have hothers : ∀ j, j ≠ i → (s.chat.commit i append).phase j = s.chat.phase j :=
    fun j hj => update_of_ne hj _ _
  constructor
  · intro j
    by_cases hj : j = i
    · subst hj
      exact .idle (admittedAt?_commit append).1 (admittedAt?_commit append).2
    · have hwaiting := hinv.waiting j
      have hsame : (s.chat.commit i append).messages.own j = s.chat.messages.own j :=
        OpenTable.commit_own_of_ne (Ne.symm hj)
      simp only [hothers j hj, hsame]
      refine ⟨fun c hc => ?_, hwaiting.message, hwaiting.inserted⟩
      have hcontext : (turns i).context ≠ (turns j).context := by
        intro heq
        rw [hinv.alone i j (Ne.symm hj) heq (by simp [hadmitted])] at hc
        cases hc
      rw [countP_append_of_ne (hworkspace ▸ workspaceId_ne hcontext)]
      exact hwaiting.admitted c hc
  · exact hinv.alone_commit append
  · intro context since hsince
    have hbefore := hinv.remembered context since hsince
    change _ ≤ countRecentChatQuestions
      (s.chat.messages.committed.rows ++ s.chat.messages.own i) context since
    rw [countRecentChatQuestions_append, countP_append, countP_singleton]
    split
    · next hquestion =>
      simp only [isQuestionSince, Bool.and_eq_true, decide_eq_true_eq, beq_iff_eq] at hquestion
      have hpositive : 0 < countRecentChatQuestions (s.chat.messages.own i) context since := by
        refine countP_pos_iff.mpr ⟨append.message, hown, ?_⟩
        simp [hquestion, hrole]
      omega
    · omega
  · exact hinv.within.append hworkspace hlater hcount

private theorem Inv.commit_answer (hinv : Inv turns s) (append : Append) :
    Inv turns ⟨s.chat.commit i append, s.stored⟩ := by
  have hothers : ∀ j, j ≠ i → (s.chat.commit i append).phase j = s.chat.phase j :=
    fun j hj => update_of_ne hj _ _
  constructor
  · intro j
    by_cases hj : j = i
    · subst hj
      exact .idle (admittedAt?_commit append).1 (admittedAt?_commit append).2
    · have hsame : (s.chat.commit i append).messages.own j = s.chat.messages.own j :=
        OpenTable.commit_own_of_ne (Ne.symm hj)
      simp only [hothers j hj, hsame]
      exact hinv.waiting j
  · exact hinv.alone_commit append
  · intro context since hsince
    have hbefore := hinv.remembered context since hsince
    change _ ≤ countRecentChatQuestions
      (s.chat.messages.committed.rows ++ s.chat.messages.own i) context since
    rw [countRecentChatQuestions_append]
    simp only
    omega
  · exact hinv.within

/-- The invariant, after a conversation without questions of the last hour has been deleted. -/
theorem Inv.without (hinv : Inv turns s) {context : WorkspaceContext} {sessionId : String}
    (hold : ∀ row ∈ s.chat.messages.committed.rows, row.chatSessionId = sessionId →
      row.workspaceId = context.workspaceId → row.role = .user →
        row.createdAt < s.chat.clock - oneHourMs) :
    Inv turns { s with chat := s.without context sessionId } where
  waiting := hinv.waiting
  alone := hinv.alone
  remembered := by
    intro context' since hsince
    refine (hinv.remembered context' since hsince).trans (le_of_eq ?_)
    change _ = List.countP _ (List.filter _ s.chat.messages.committed.rows)
    rw [countP_filter]
    refine countP_congr fun row hrow => ?_
    simp only [Bool.and_eq_true, decide_eq_true_eq, beq_iff_eq, Bool.not_eq_true',
      Bool.and_eq_false_iff, beq_eq_false_iff_ne]
    refine ⟨fun hquestion => ⟨hquestion, ?_⟩, And.left⟩
    by_contra hselected
    push Not at hselected
    have hbefore := hold row hrow hselected.1 hselected.2 hquestion.1.2
    have hrecent : since ≤ row.createdAt := hquestion.1.1
    change s.chat.clock - oneHourMs ≤ since at hsince
    omega
  within := hinv.within

private theorem cases_of_turn {event : ChatEvent ι} (hstep : Step turns s (.turn event) t) :
    (∃ i, t = { s with chat := s.chat.throw i }) ∨
      t.stored = s.stored ++ s.stores event ∧ ChatSystem.Move turns s.chat event t.chat := by
  unfold Step next at hstep
  simp only at hstep
  split at hstep
  · next i hdangles =>
    cases hstep
    exact .inl ⟨i, rfl⟩
  · obtain ⟨chat, hnext, rfl⟩ := Option.map_eq_some_iff.mp hstep
    exact .inr ⟨rfl, ChatSystem.move_of_step hnext⟩

private theorem stores_eq_nil (hphase : ∀ append, s.chat.phase i ≠ .committing append) :
    s.stores (.advance i) = [] := by
  unfold stores
  cases h : s.chat.phase i with
  | committing append => exact absurd h (hphase append)
  | _ => simp only [h]

/-- Every move of a turn whose count sees all keeps the invariant. -/
theorem Inv.after_move (hinv : Inv turns s) {event : ChatEvent ι} {chat : ChatSystem ι}
    (hcounts : CountsAll turns s (.turn event)) (hmove : ChatSystem.Move turns s.chat event chat) :
    Inv turns ⟨chat, s.stored ++ s.stores event⟩ := by
  have hidle : ∀ {i : ι} {phase : TurnPhase}, phase.admittedAt? = none → phase.append? = none →
      Inv turns { s with chat := s.chat.enter i phase } := by
    intro i phase hadmitted happend
    exact hinv.enter rfl (fun j _ => rfl) (.idle hadmitted happend)
      (fun h => absurd hadmitted h)
  have halone : ∀ {i : ι} {phase : TurnPhase},
      phase.admittedAt? = (s.chat.phase i).admittedAt? → phase.admittedAt? ≠ none →
        ∀ j, j ≠ i → (turns j).context = (turns i).context →
          (s.chat.phase j).admittedAt? = none := by
    intro i phase hsame hadmitted j hne hcontext
    exact hinv.alone i j (Ne.symm hne) hcontext.symm (hsame ▸ hadmitted)
  cases hmove with
  | loads hphase =>
    rw [stores_eq_nil (by simp [hphase]), append_nil]
    exact hidle rfl rfl
  | refuses hphase =>
    rw [stores_eq_nil (by rcases hphase with h | h | ⟨c, h⟩ <;> simp [h]), append_nil]
    exact hidle rfl rfl
  | admits hphase hcount =>
    rw [stores_eq_nil (by simp [hphase]), append_nil]
    exact hinv.admit hcount (hcounts (by rw [hphase]; rfl))
  | @readsForQuestion i c session hphase hsession hlimit =>
    rw [stores_eq_nil (by simp [hphase]), append_nil]
    have hwaiting := hinv.waiting i
    have hadmitted : (s.chat.phase i).admittedAt? = some c := by rw [hphase]; rfl
    refine hinv.enter rfl (fun j _ => rfl) ⟨?_, ?_, by rintro _ (⟨⟨⟩⟩ | ⟨⟨⟩⟩)⟩
      (halone hadmitted.symm)
    · intro countedAt hcountedAt
      exact hwaiting.admitted countedAt (hadmitted.trans hcountedAt)
    · rintro append countedAt ⟨⟩ ⟨⟩
      exact ⟨rfl, rfl, (hwaiting.admitted c hadmitted).1⟩
  | produces hphase =>
    rw [show s.stores _ = [] from rfl, append_nil]
    exact hidle rfl rfl
  | readsForAnswer hphase hsession =>
    rw [stores_eq_nil (by simp [hphase]), append_nil]
    exact hinv.enter rfl (fun j _ => rfl) (.answer rfl) (fun h => absurd rfl h)
  | loses hphase =>
    rw [stores_eq_nil (by simp [hphase]), append_nil]
    exact hidle rfl rfl
  | @inserts i append messages hphase hdone =>
    rw [stores_eq_nil (by simp [hphase]), append_nil]
    obtain ⟨hcommitted, hown, hothers⟩ := OpenTable.of_insertRow_done hdone
    have hsame : (TurnPhase.updating append).admittedAt? = (s.chat.phase i).admittedAt? := by
      rw [hphase]
      rfl
    refine hinv.enter hcommitted hothers ?_ (halone hsame)
    refine (hinv.waiting i).goOn (by rw [hphase]; rfl) hsame rfl ?_
    simp [hown]
  | @updates i append row sessions hphase hdone =>
    rw [stores_eq_nil (by simp [hphase]), append_nil]
    have hsame : (TurnPhase.committing append).admittedAt? = (s.chat.phase i).admittedAt? := by
      rw [hphase]
      rfl
    refine hinv.enter rfl (fun j _ => rfl) ?_ (halone hsame)
    exact (hinv.waiting i).goOn (by rw [hphase]; rfl) hsame rfl
      ((hinv.waiting i).inserted append (.inl hphase))
  | @misses i append hphase hmissing =>
    rw [stores_eq_nil (by simp [hphase]), append_nil]
    have hsame : (TurnPhase.committing append).admittedAt? = (s.chat.phase i).admittedAt? := by
      rw [hphase]
      rfl
    refine hinv.enter rfl (fun j _ => rfl) ?_ (halone hsame)
    exact (hinv.waiting i).goOn (by rw [hphase]; rfl) hsame rfl
      ((hinv.waiting i).inserted append (.inl hphase))
  | @commits i append hphase =>
    cases hkind : append.kind with
    | question countedAt =>
      have hstores : s.stores (.advance i) = [append.message] := by simp [stores, hphase, hkind]
      rw [hstores]
      exact hinv.commit_question hphase hkind
    | answer asked =>
      have hstores : s.stores (.advance i) = [] := by simp [stores, hphase, hkind]
      rw [hstores, append_nil]
      exact hinv.commit_answer append
  | @fails i append violation hphase =>
    rw [stores_eq_nil (by rcases hphase with ⟨h, -⟩ | ⟨h, -⟩ <;> simp [h]), append_nil]
    exact hinv.throw i
  | stops =>
    rw [show s.stores _ = [] from rfl, append_nil]
    exact hinv.throw _
  | @passes elapsed =>
    rw [show s.stores _ = [] from rfl, append_nil]
    have hle : s.chat.clock ≤ s.chat.clock + elapsed := Int.le_add_of_nonneg_right (by omega)
    exact ⟨fun i => (hinv.waiting i).later hle, hinv.alone,
      fun context since hsince => hinv.remembered context since (by simp only at hsince; omega),
      hinv.within⟩

theorem Inv.after (hinv : Inv turns s) (hcounts : CountsAll turns s event)
    (hstep : Step turns s event t) : Inv turns t := by
  cases event with
  | turn event =>
    rcases cases_of_turn hstep with ⟨i, rfl⟩ | ⟨hstored, hmove⟩
    · exact hinv.throw i
    · have hafter := hinv.after_move hcounts hmove
      rwa [← hstored] at hafter
  | delete context sessionId =>
    change s.delete context sessionId = some t at hstep
    unfold delete at hstep
    split at hstep
    · split at hstep
      · cases hstep
        exact hinv
      · split at hstep <;> cases hstep
        exact hinv.without hcounts
    · cases hstep
      exact hinv

theorem inv_start (sessions : Table chatSessionSchema) (messages : Table chatMessageSchema)
    (clock : ℤ) : Inv turns (start sessions messages clock ι) where
  waiting := fun _ => .idle rfl rfl
  alone := fun _ _ _ _ h => absurd rfl h
  remembered := fun _ _ _ => Nat.zero_le _
  within := fun _ _ => Nat.zero_le _

/-- **The hourly limit holds as long as every count sees all.** -/
theorem withinLimit_of_reachable {sessions : Table chatSessionSchema}
    {messages : Table chatMessageSchema} {clock : ℤ}
    (h : Transition.Reachable (Transition.Restricted (Step turns) (CountsAll turns))
      (start sessions messages clock ι) t) : t.WithinLimit := by
  have hinv : Inv turns t := by
    refine h.invariant (inv_start sessions messages clock) ?_
    rintro s t event hinv ⟨hcounts, hstep⟩
    exact hinv.after hcounts hstep
  exact hinv.within

end QuestionLog

/-- **Limits hold as long as every count sees all.** Where each command that counts finds the
earlier ones of its kind, user and window committed, no more than the limit pass in any window;
where no other question of a workspace is on its way when a turn counts, and no question of the
last hour is deleted, no more than the limit are stored in any hour. -/
theorem limits_hold_when_counts_see_all {ι κ : Type} [DecidableEq ι] [DecidableEq κ]
    (calls : ι → OperationCall) (auditEvents : Table auditEventSchema)
    (internalUsers : List InternalUser) (turns : κ → ChatTurn)
    (sessions : Table chatSessionSchema) (messages : Table chatMessageSchema) (clock : ℤ)
    {race : OperationRace ι} {log : QuestionLog κ}
    (hrace : Transition.Reachable
      (Transition.Restricted (OperationRace.Step calls) (OperationRace.CountsAll calls))
      (OperationRace.start auditEvents internalUsers ι) race)
    (hlog : Transition.Reachable
      (Transition.Restricted (QuestionLog.Step turns) (QuestionLog.CountsAll turns))
      (QuestionLog.start sessions messages clock κ) log) :
    OperationRace.WithinLimit calls race ∧ log.WithinLimit :=
  ⟨withinLimit_of_reachable hrace, QuestionLog.withinLimit_of_reachable hlog⟩

/-! ### Six retries at once -/

namespace LimitSample

def operator : InternalUser where
  id := "operator"
  workspaceId := "workspace"
  status := .active
  role := .admin
  sessionVersion := 1
  workspaceStatus := .active

/-- A retry, with the identifier of its audit event. -/
def retry (auditId : String) : OperationCall where
  prepared :=
    { correlationId := "0192f2a0-0000-7000-8000-0000000000c2"
      jobId := "0192f2a0-0000-7000-8000-0000000000c3"
      operationAt := 0
      principal := ⟨"operator", 1, "workspace"⟩
      reasonCode := "OPERATOR_RETRY"
      validJobId := true
      safeReasonCode := by decide }
  action := .retry
  auditId := auditId

/-- Two retries. -/
def two (second : Bool) : OperationCall := retry (if second then "a2" else "a1")

/-- The second retry begins when the first one has committed. -/
def inTurn : List (OperationEvent Bool) :=
  [.advance false, .advance false, .work false ⟨.refused, "JOB_NOT_FAILED_ATTENTION"⟩,
    .advance false, .advance false, .advance true, .advance true]

def question : List (QuestionEvent Bool) :=
  (ChatSample.asks false).map .turn

/-- Retries that wait for each other, and a question, keep the limits. -/
theorem retries_in_turn_keep_limits : ∃ race log,
    Transition.replayWithin (OperationRace.next two) (OperationRace.CountsAll two)
      (OperationRace.start (Table.empty auditEventSchema) [operator] Bool) inTurn = some race ∧
    Transition.replayWithin (QuestionLog.next ChatSample.turns)
      (QuestionLog.CountsAll ChatSample.turns)
      (QuestionLog.start ChatSample.sessions (Table.empty _) 0 Bool) question = some log ∧
    ((race.phase true).passed = true ∧ log.stored.length = 1) ∧
      OperationRace.WithinLimit two race ∧ log.WithinLimit := by
  have hrace : (Transition.replayWithin (next two) (CountsAll two)
      (start (Table.empty auditEventSchema) [operator] Bool) inTurn).map
        (fun race => (race.phase true).passed) = some true := by
    decide
  have hlog : (Transition.replayWithin (QuestionLog.next ChatSample.turns)
      (QuestionLog.CountsAll ChatSample.turns)
      (QuestionLog.start ChatSample.sessions (Table.empty _) 0 Bool) question).map
        (fun log => log.stored.length) = some 1 := by
    decide
  obtain ⟨race, hrace, hpassed⟩ := Option.map_eq_some_iff.mp hrace
  obtain ⟨log, hlog, hstored⟩ := Option.map_eq_some_iff.mp hlog
  exact ⟨race, log, hrace, hlog, ⟨hpassed, hstored⟩,
    limits_hold_when_counts_see_all two (Table.empty _) [operator] ChatSample.turns
      ChatSample.sessions (Table.empty _) 0 (Transition.Reachable.replayWithin .refl hrace)
      (Transition.Reachable.replayWithin .refl hlog)⟩

/-- Six retries. -/
def six (i : Fin 6) : OperationCall := retry (String.ofList (List.replicate (i + 1) 'a'))

def atOnce : List (OperationEvent (Fin 6)) :=
  (List.finRange 6).flatMap fun i => [.advance i, .advance i]

/-- **Six retries that run at once all pass**, though the limit is five. -/
theorem six_retries_pass : ¬ ∀ race,
    Transition.Reachable (OperationRace.Step six)
      (OperationRace.start (Table.empty auditEventSchema) [operator] (Fin 6)) race →
    OperationRace.WithinLimit six race := by
  intro hall
  have hrun : (Transition.replay (next six) []
      (start (Table.empty auditEventSchema) [operator] (Fin 6)) atOnce).map
        (fun result => decide (∀ i, (result.2.phase i).passed = true)) = some true := by
    decide
  obtain ⟨⟨history, race⟩, hreplay, hpassed⟩ := Option.map_eq_some_iff.mp hrun
  have hwithin := hall race ⟨history, Transition.Run.replay .refl hreplay⟩ .retry
    ("operator", "workspace") 0 Finset.univ
    fun i _ => ⟨of_decide_eq_true hpassed i, rfl, rfl, le_refl _,
      (by decide : (0 : ℤ) ≤ 0 + operationWindowMs)⟩
  exact absurd hwithin (by decide)

end LimitSample

end ContentAutomation
