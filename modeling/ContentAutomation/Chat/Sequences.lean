import ContentAutomation.Chat.Turns

/-!
# Positions of messages

A question takes its position from the counter of its session, an answer from its question, and
the unique index lets one message have a position. A position that is free and at most the
counter is the counter itself, so that the positions stay without gaps.
-/

namespace ContentAutomation

open Relational List Function

/-- The positions of the messages of each session are those below its counter, each used once. -/
def Dense (sessions : Table chatSessionSchema) (messages : Table chatMessageSchema) : Prop :=
  ∀ session ∈ sessions.rows,
    ((messages.rows.filter fun row => row.chatSessionId == session.id).map
      ChatMessage.sequence).Perm (List.range session.messageCount)

/-- The message that the transaction of a turn appends. -/
def TurnPhase.append? : TurnPhase → Option Append
  | .inserting append | .updating append | .committing append => some append
  | _ => none

/-- The question whose answer is to come. -/
def TurnPhase.asked? : TurnPhase → Option ChatMessage
  | .asking asked | .answering asked _ => some asked
  | _ => none

namespace ChatSystem

/-- A message of the session of a turn, at a position that the counter of the session bounds. -/
structure Bounded (sessions : Table chatSessionSchema) (turn : ChatTurn) (message : ChatMessage)
    (below : ℕ → ℕ → Prop) : Prop where
  session : message.chatSessionId = turn.sessionId
  row : ∃ row, sessions.lookup ChatSession.id turn.sessionId = some row ∧
    below message.sequence row.messageCount

/-- Where a turn stands: what it has written and not yet committed, with the sessions as everyone
sees them. -/
inductive Standing (sessions : Table chatSessionSchema) (turn : ChatTurn) :
    TurnPhase → List ChatMessage → List ChatSession → Prop
  | idle {phase : TurnPhase} (happend : phase.append? = none)
      (hasked : ∀ asked, phase.asked? = some asked → Bounded sessions turn asked (· < ·)) :
      Standing sessions turn phase [] []
  | inserting {append : Append} (hplace : Bounded sessions turn append.message (· ≤ ·)) :
      Standing sessions turn (.inserting append) [] []
  | updating {append : Append} (hplace : Bounded sessions turn append.message (· ≤ ·)) :
      Standing sessions turn (.updating append) [append.message] []
  | committing {append : Append} {row : ChatSession}
      (hsession : append.message.chatSessionId = turn.sessionId)
      (hrow : sessions.lookup ChatSession.id turn.sessionId = some row)
      (hplace : append.message.sequence ≤ row.messageCount) :
      Standing sessions turn (.committing append) [append.message] [append.updated row]

variable {ι : Type*} [DecidableEq ι] {turns : ι → ChatTurn} {s t : ChatSystem ι}
  {event : ChatEvent ι} {i j : ι} {append : Append}

/-- The invariant: every turn stands where its statements have brought it. -/
def Inv (turns : ι → ChatTurn) (s : ChatSystem ι) : Prop :=
  ∀ i, Standing s.sessions.committed (turns i) (s.phase i) (s.messages.own i) (s.sessions.own i)

/-! ### What a turn has written -/

theorem Inv.own_of_idle (hinv : Inv turns s) (happend : (s.phase i).append? = none) :
    s.messages.own i = [] ∧ s.sessions.own i = [] := by
  have hstanding := hinv i
  generalize s.messages.own i = messages, s.sessions.own i = sessions,
    s.phase i = phase at hstanding happend ⊢
  cases hstanding <;> first | exact ⟨rfl, rfl⟩ | cases happend

theorem Inv.own_of_inserting (hinv : Inv turns s) (hphase : s.phase i = .inserting append) :
    s.messages.own i = [] ∧ s.sessions.own i = [] ∧
      Bounded s.sessions.committed (turns i) append.message (· ≤ ·) := by
  have hstanding := hinv i
  rw [hphase] at hstanding
  generalize s.messages.own i = messages, s.sessions.own i = sessions at hstanding ⊢
  cases hstanding with
  | idle happend => cases happend
  | inserting hplace => exact ⟨rfl, rfl, hplace⟩

theorem Inv.own_of_updating (hinv : Inv turns s) (hphase : s.phase i = .updating append) :
    s.messages.own i = [append.message] ∧ s.sessions.own i = [] ∧
      Bounded s.sessions.committed (turns i) append.message (· ≤ ·) := by
  have hstanding := hinv i
  rw [hphase] at hstanding
  generalize s.messages.own i = messages, s.sessions.own i = sessions at hstanding ⊢
  cases hstanding with
  | idle happend => cases happend
  | updating hplace => exact ⟨rfl, rfl, hplace⟩

/-- A turn that is about to commit has written its message and the new version of its session. -/
theorem Inv.own_of_committing (hinv : Inv turns s) (hphase : s.phase i = .committing append) :
    ∃ row, s.messages.own i = [append.message] ∧ s.sessions.own i = [append.updated row] ∧
      append.message.chatSessionId = (turns i).sessionId ∧
      s.sessions.committed.lookup ChatSession.id (turns i).sessionId = some row ∧
      append.message.sequence ≤ row.messageCount := by
  have hstanding := hinv i
  rw [hphase] at hstanding
  generalize s.messages.own i = messages, s.sessions.own i = sessions at hstanding ⊢
  cases hstanding with
  | idle happend => cases happend
  | committing hsession hrow hplace => exact ⟨_, rfl, rfl, hsession, hrow, hplace⟩

theorem visible_sessions (hown : s.sessions.own i = []) :
    s.sessions.visible i = s.sessions.committed := by
  apply Table.ext
  simp [LockedTable.visible, hown]

theorem lookup_of_session? {turn : ChatTurn} {session : ChatSession}
    (hown : s.sessions.own i = []) (h : s.session? turn i = some session) :
    s.sessions.committed.lookup ChatSession.id turn.sessionId = some session := by
  unfold session? at h
  split at h
  · rw [visible_sessions hown] at h
    have hfound := List.find?_some h
    simp only [Bool.and_eq_true, beq_iff_eq] at hfound
    exact (Table.lookup_eq_some chatSessionSchema_keyedBy_id).mpr
      ⟨mem_of_find?_eq_some h, hfound.1⟩
  · cases h

/-! ### What a commit does -/

theorem Inv.messages_commit (hinv : Inv turns s) (hphase : s.phase i = .committing append) :
    (s.commit i append).messages.committed.rows = s.messages.committed.rows ++ [append.message] := by
  obtain ⟨row, hmessages, -⟩ := hinv.own_of_committing hphase
  change s.messages.committed.rows ++ s.messages.own i = _
  rw [hmessages]

/-- A commit replaces the session of the turn, and no other. -/
theorem Inv.lookup_commit (hinv : Inv turns s) (hphase : s.phase i = .committing append)
    (id : String) : (s.commit i append).sessions.committed.lookup ChatSession.id id =
      (s.sessions.committed.lookup ChatSession.id id).map fun row =>
        if id = (turns i).sessionId then append.updated row else row := by
  obtain ⟨row, -, hsessions, -, hrow, -⟩ := hinv.own_of_committing hphase
  change (s.sessions.visible i).lookup ChatSession.id id = _
  rw [LockedTable.visible_lookup, hsessions]
  cases hfound : s.sessions.committed.lookup ChatSession.id id with
  | none => rfl
  | some found =>
    have hid := (Table.lookup_spec hfound).2
    have hid' := (Table.lookup_spec hrow).2
    rw [Option.map_some, Option.map_some, currentVersion_singleton]
    by_cases hsame : id = (turns i).sessionId
    · subst hsame
      rw [hrow] at hfound
      cases hfound
      have hid'' : (append.updated row).id = row.id := rfl
      rw [if_pos hid'', if_pos rfl]
    · have hne : ¬ (append.updated row).id = found.id := by
        change ¬ row.id = found.id
        rw [hid, hid']
        exact Ne.symm hsame
      rw [if_neg hne, if_neg hsame]

theorem Bounded.after {sessions sessions' : Table chatSessionSchema} {turn : ChatTurn}
    {message : ChatMessage} {below : ℕ → ℕ → Prop} (h : Bounded sessions turn message below)
    (hbelow : ∀ {position count}, below position count → below position (count + 1))
    {sessionId : String}
    (hsessions : ∀ id, sessions'.lookup ChatSession.id id =
      (sessions.lookup ChatSession.id id).map fun row =>
        if id = sessionId then append.updated row else row) :
    Bounded sessions' turn message below := by
  obtain ⟨row, hrow, hplace⟩ := h.row
  refine ⟨h.session, _, by rw [hsessions, hrow, Option.map_some], ?_⟩
  split
  · exact hbelow hplace
  · exact hplace

/-! ### The invariant -/

theorem Inv.enter (hinv : Inv turns s) {phase : TurnPhase}
    (hstanding : Standing s.sessions.committed (turns i) phase (s.messages.own i)
      (s.sessions.own i)) : Inv turns (s.enter i phase) := by
  intro j
  by_cases hj : j = i
  · subst hj
    simp only [ChatSystem.enter, update_self]
    exact hstanding
  · simp only [ChatSystem.enter, update_of_ne hj]
    exact hinv j

private theorem Inv.enter_idle (hinv : Inv turns s) {phase : TurnPhase}
    (hbefore : (s.phase i).append? = none) (hafter : phase.append? = none)
    (hasked : ∀ asked, phase.asked? = some asked →
      Bounded s.sessions.committed (turns i) asked (· < ·)) : Inv turns (s.enter i phase) := by
  apply hinv.enter
  rw [(hinv.own_of_idle hbefore).1, (hinv.own_of_idle hbefore).2]
  exact .idle hafter hasked

theorem Inv.asked (hinv : Inv turns s) {asked : ChatMessage} (h : (s.phase i).asked? = some asked) :
    Bounded s.sessions.committed (turns i) asked (· < ·) := by
  have hstanding := hinv i
  generalize s.messages.own i = messages, s.sessions.own i = sessions,
    s.phase i = phase at hstanding h
  cases hstanding with
  | idle happend hasked => exact hasked asked h
  | _ => cases h

theorem Inv.throw (hinv : Inv turns s) : Inv turns (s.throw i) := by
  intro j
  by_cases hj : j = i
  · subst hj
    simp only [ChatSystem.throw, update_self, OpenTable.rollBack_own_self,
      LockedTable.rollBack_own_self]
    have hphase : (s.phase j).thrown.append? = none ∧ (s.phase j).thrown.asked? = none := by
      cases s.phase j <;> simp only [TurnPhase.thrown] <;> try exact ⟨rfl, rfl⟩
      all_goals split <;> exact ⟨rfl, rfl⟩
    refine .idle hphase.1 fun asked hasked => ?_
    rw [hphase.2] at hasked
    cases hasked
  · simp only [ChatSystem.throw, update_of_ne hj,
      OpenTable.rollBack_own_of_ne (Ne.symm hj), LockedTable.rollBack_own_of_ne (Ne.symm hj)]
    exact hinv j

/-- The invariant, after a turn has committed. -/
theorem Inv.commit (hinv : Inv turns s) (hphase : s.phase i = .committing append) :
    Inv turns (s.commit i append) := by
  have hlookup := hinv.lookup_commit hphase
  obtain ⟨row, -, hsessions, hsession, hrow, hplace⟩ := hinv.own_of_committing hphase
  intro j
  by_cases hj : j = i
  · subst hj
    have hown : (s.commit j append).messages.own j = [] ∧
        (s.commit j append).sessions.own j = [] :=
      ⟨OpenTable.commit_own_self, LockedTable.commit_own_self⟩
    rw [hown.1, hown.2]
    simp only [ChatSystem.commit, update_self]
    refine .idle (by cases append.kind <;> rfl) fun asked hasked => ?_
    have hasked : append.message = asked := by
      cases hkind : append.kind <;> rw [hkind] at hasked <;> cases hasked
      rfl
    subst hasked
    have hafter := hlookup (turns j).sessionId
    rw [hrow, Option.map_some, if_pos rfl] at hafter
    exact ⟨hsession, _, hafter, Nat.lt_succ_of_le hplace⟩
  · have hstanding := hinv j
    have hown : (s.commit i append).messages.own j = s.messages.own j ∧
        (s.commit i append).sessions.own j = s.sessions.own j :=
      ⟨OpenTable.commit_own_of_ne (Ne.symm hj), LockedTable.commit_own_of_ne (Ne.symm hj)⟩
    have hphase' : (s.commit i append).phase j = s.phase j := update_of_ne hj _ _
    rw [hown.1, hown.2, hphase']
    generalize s.messages.own j = messages, s.phase j = phase,
      hsessions' : s.sessions.own j = sessions at hstanding
    cases hstanding with
    | idle happend hasked =>
      exact .idle happend fun asked h =>
        (hasked asked h).after (fun hlt => Nat.lt_succ_of_lt hlt) hlookup
    | inserting hplace => exact .inserting (hplace.after (fun hle => Nat.le_succ_of_le hle) hlookup)
    | updating hplace => exact .updating (hplace.after (fun hle => Nat.le_succ_of_le hle) hlookup)
    | @committing append' row' hsession' hrow' hplace' =>
      -- the session that the other turn holds is not the one that is committed
      have hne : (append.updated row).id ≠ (append'.updated row').id :=
        LockedTable.key_ne_of_own (Ne.symm hj) (hsessions ▸ mem_singleton_self _)
          (hsessions' ▸ mem_singleton_self _)
      have hid : row.id ≠ row'.id := hne
      rw [(Table.lookup_spec hrow).2, (Table.lookup_spec hrow').2] at hid
      refine .committing hsession' ?_ hplace'
      rw [hlookup, hrow', Option.map_some, if_neg (Ne.symm hid)]

/-- Every move keeps the invariant. -/
theorem Inv.after (hinv : Inv turns s) (hmove : Move turns s event t) : Inv turns t := by
  cases hmove with
  | loads hphase =>
    exact hinv.enter_idle (by rw [hphase]; rfl) rfl (by rintro _ ⟨⟩)
  | refuses hphase =>
    refine hinv.enter_idle ?_ rfl (by rintro _ ⟨⟩)
    rcases hphase with hphase | hphase | ⟨c, hphase⟩ <;> rw [hphase] <;> rfl
  | admits hphase => exact hinv.enter_idle (by rw [hphase]; rfl) rfl (by rintro _ ⟨⟩)
  | @readsForQuestion i c session hphase hsession hlimit =>
    have hown := hinv.own_of_idle (i := i) (by rw [hphase]; rfl)
    apply hinv.enter
    rw [hown.1, hown.2]
    exact .inserting ⟨rfl, session, lookup_of_session? hown.2 hsession, le_refl _⟩
  | @produces i asked answer hphase =>
    have hasked : Bounded s.sessions.committed (turns i) asked (· < ·) :=
      hinv.asked (by rw [hphase]; rfl)
    refine hinv.enter_idle (by rw [hphase]; rfl) rfl ?_
    rintro _ ⟨⟩
    exact hasked
  | @readsForAnswer i asked answer session hphase hsession =>
    have hown := hinv.own_of_idle (i := i) (by rw [hphase]; rfl)
    have hasked : Bounded s.sessions.committed (turns i) asked (· < ·) :=
      hinv.asked (by rw [hphase]; rfl)
    apply hinv.enter
    rw [hown.1, hown.2]
    obtain ⟨row, hrow, hplace⟩ := hasked.row
    exact .inserting ⟨rfl, row, hrow, hplace⟩
  | loses hphase => exact hinv.enter_idle (by rw [hphase]; rfl) rfl (by rintro _ ⟨⟩)
  | @inserts i append messages hphase hdone =>
    obtain ⟨hmessages, hsessions, hplace⟩ := hinv.own_of_inserting hphase
    obtain ⟨-, hown, hothers⟩ := OpenTable.of_insertRow_done hdone
    intro j
    by_cases hj : j = i
    · subst hj
      simp only [ChatSystem.enter, update_self, hown, hmessages, hsessions,
        nil_append]
      exact .updating hplace
    · simp only [ChatSystem.enter, update_of_ne hj, hothers j hj]
      exact hinv j
  | @updates i append row sessions hphase hdone =>
    obtain ⟨hmessages, hsessions, hplace⟩ := hinv.own_of_updating hphase
    obtain ⟨found, hfound, rfl, hcommitted, hown, hothers, -⟩ := LockedTable.of_update_done hdone
    rw [visible_sessions hsessions] at hfound
    intro j
    by_cases hj : j = i
    · subst hj
      obtain ⟨row, hrow, hle⟩ := hplace.row
      rw [hfound] at hrow
      cases hrow
      simp only [ChatSystem.enter, update_self, hown, hmessages, hsessions, hcommitted]
      exact .committing hplace.session hfound hle
    · simp only [ChatSystem.enter, update_of_ne hj, hothers j hj, hcommitted]
      exact hinv j
  | @misses i append hphase hmissing =>
    -- a session that was read is still there
    obtain ⟨-, hsessions, hplace⟩ := hinv.own_of_updating hphase
    obtain ⟨row, hrow, -⟩ := hplace.row
    rw [← visible_sessions hsessions] at hrow
    unfold LockedTable.update at hmissing
    rw [hrow] at hmissing
    simp only at hmissing
    split at hmissing
    · split at hmissing
      · cases hmissing
      · split at hmissing
        · split at hmissing <;> cases hmissing
        · cases hmissing
    · cases hmissing
  | commits hphase => exact hinv.commit hphase
  | fails => exact hinv.throw
  | stops => exact hinv.throw
  | passes => exact hinv

theorem inv_start (sessions : Table chatSessionSchema) (messages : Table chatMessageSchema)
    (clock : ℤ) : Inv turns (start sessions messages clock ι) :=
  fun _ => .idle rfl (by rintro _ ⟨⟩)

/-! ### Density -/

theorem Inv.sequence_eq (hinv : Inv turns s) (hphase : s.phase i = .committing append)
    {row : ChatSession}
    (hrow : s.sessions.committed.lookup ChatSession.id (turns i).sessionId = some row)
    (hdense : Dense s.sessions.committed s.messages.committed) :
    append.message.sequence = row.messageCount := by
  obtain ⟨found, hmessages, -, hsession, hfound, hle⟩ := hinv.own_of_committing hphase
  rw [hrow] at hfound
  cases hfound
  obtain ⟨hmem, hid⟩ := Table.lookup_spec hrow
  refine le_antisymm hle (not_lt.mp fun hlt => ?_)
  -- a position below the counter is taken
  have htaken := (hdense row hmem).mem_iff.mpr (mem_range.mpr hlt)
  obtain ⟨other, hother, hsame⟩ := mem_map.mp htaken
  obtain ⟨hother, hsession'⟩ := mem_filter.mp hother
  refine OpenTable.key_ne_of_committed chatMessageSchema_keyedBy_place hother
    (hmessages ▸ mem_singleton_self append.message) ?_
  have hsession' : other.chatSessionId = row.id := beq_iff_eq.mp hsession'
  rw [ChatMessage.place, ChatMessage.place, hsame, hsession', hsession, hid]

/-- A commit keeps the positions without gaps. -/
theorem Inv.dense_commit (hinv : Inv turns s) (hphase : s.phase i = .committing append)
    (hdense : Dense s.sessions.committed s.messages.committed) :
    Dense (s.commit i append).sessions.committed (s.commit i append).messages.committed := by
  obtain ⟨row, -, -, hsession, hrow, -⟩ := hinv.own_of_committing hphase
  intro session hmem
  have hlookup := hinv.lookup_commit hphase session.id
  rw [(Table.lookup_eq_some chatSessionSchema_keyedBy_id).mpr ⟨hmem, rfl⟩] at hlookup
  obtain ⟨old, hold, hversion⟩ := Option.map_eq_some_iff.mp hlookup.symm
  obtain ⟨holdMem, holdId⟩ := Table.lookup_spec hold
  have hbefore := hdense old holdMem
  rw [holdId] at hbefore
  rw [hinv.messages_commit hphase, filter_append, map_append]
  by_cases hsame : session.id = (turns i).sessionId
  · have hold' : old = row := by
      rw [hsame, hrow] at hold
      exact (Option.some.inj hold).symm
    have hcount : session.messageCount = row.messageCount + 1 := by
      rw [← hversion, if_pos hsame, hold']
      rfl
    have hnew : [append.message].filter (fun row => row.chatSessionId == session.id) =
        [append.message] := by
      simp [hsession, hsame]
    rw [hnew, map_singleton, hinv.sequence_eq hphase hrow hdense, hcount, range_succ]
    rw [hold'] at hbefore
    exact hbefore.append_right _
  · have hcount : session.messageCount = old.messageCount := by rw [← hversion, if_neg hsame]
    have hnone : [append.message].filter (fun row => row.chatSessionId == session.id) = [] := by
      simp [hsession, Ne.symm hsame]
    rw [hnone, map_nil, append_nil, hcount]
    exact hbefore

theorem Inv.dense_after (hinv : Inv turns s) (hmove : Move turns s event t)
    (hdense : Dense s.sessions.committed s.messages.committed) :
    Dense t.sessions.committed t.messages.committed := by
  cases hmove with
  | inserts hphase hdone =>
    obtain ⟨hcommitted, -⟩ := OpenTable.of_insertRow_done hdone
    simp only [ChatSystem.enter, hcommitted]
    exact hdense
  | updates hphase hdone =>
    obtain ⟨-, -, -, hcommitted, -⟩ := LockedTable.of_update_done hdone
    simp only [ChatSystem.enter, hcommitted]
    exact hdense
  | commits hphase => exact hinv.dense_commit hphase hdense
  | _ => exact hdense

end ChatSystem

open ChatSystem in
/-- **Positions stay without gaps.** In every state that any number of turns reach, the positions
of the messages of each session are those below its counter, each used once. -/
theorem chat_sequences_are_dense {ι : Type} [DecidableEq ι] (turns : ι → ChatTurn)
    (sessions : Table chatSessionSchema) (messages : Table chatMessageSchema) (clock : ℤ)
    (hstart : Dense sessions messages) {t : ChatSystem ι}
    (h : Transition.Reachable (Step turns) (start sessions messages clock ι) t) :
    Dense t.sessions.committed t.messages.committed := by
  have hboth : Inv turns t ∧ Dense t.sessions.committed t.messages.committed := by
    refine h.invariant (I := fun t => Inv turns t ∧ Dense t.sessions.committed t.messages.committed)
      ⟨inv_start sessions messages clock, hstart⟩ ?_
    rintro s t event ⟨hinv, hdense⟩ hstep
    have hmove := move_of_step hstep
    exact ⟨hinv.after hmove, hinv.dense_after hmove hdense⟩
  exact hboth.2

/-! ### Two questions at once -/

namespace ChatSample

open ChatSystem

def session : ChatSession where
  id := "0192f2a0-0000-7000-8000-0000000000c1"
  workspaceId := "workspace"
  title := []
  titleSetByUser := false
  messageCount := 0
  lastMessageAt := none

def sessions : Table chatSessionSchema := ⟨[session], by decide⟩

/-- Two turns of the conversation. -/
def turns (second : Bool) : ChatTurn where
  context := ⟨"workspace"⟩
  question := [0x57, 0x68, 0x79, 0x3F]
  sessionId := session.id
  questionId := if second then "q2" else "q1"
  answerId := if second then "a2" else "a1"

theorem dense_start : Dense sessions (Table.empty chatMessageSchema) := by
  intro row hrow
  obtain rfl := mem_singleton.mp hrow
  exact .refl _

/-- The statements of a question, up to its commit. -/
def asks (second : Bool) : List (ChatEvent Bool) := List.replicate 6 (.advance second)

/-- What a replay of events comes to. -/
def after (events : List (ChatEvent Bool)) : Option (ChatSystem Bool) :=
  (Transition.replay (next turns) [] (start sessions (Table.empty _) 0 Bool) events).map Prod.snd

/-- Both turns read the counter, and one of them stores its question. -/
def racing : List (ChatEvent Bool) :=
  [.advance false, .advance true, .advance false, .advance true, .advance false, .advance true,
    .advance false, .advance false, .advance false, .advance true]

theorem reachable_of_after {events : List (ChatEvent Bool)} {t : ChatSystem Bool}
    (h : after events = some t) :
    Transition.Reachable (Step turns) (start sessions (Table.empty _) 0 Bool) t := by
  obtain ⟨⟨history, last⟩, hreplay, rfl⟩ := Option.map_eq_some_iff.mp h
  exact ⟨history, Transition.Run.replay .refl hreplay⟩

/-- **One of two racing questions fails, and the positions have no gap.** -/
theorem racing_questions_are_dense : ∃ t, after racing = some t ∧ t.phase true = .failed ∧
    Dense t.sessions.committed t.messages.committed := by
  have hrun : (after racing).map (fun t => t.phase true) = some .failed := by decide
  obtain ⟨t, hafter, hphase⟩ := Option.map_eq_some_iff.mp hrun
  exact ⟨t, hafter, hphase, chat_sequences_are_dense turns sessions (Table.empty _) 0 dense_start
    (reachable_of_after hafter)⟩

end ChatSample

end ContentAutomation
