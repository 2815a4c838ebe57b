import ContentAutomation.Library.Transaction
import ContentAutomation.Library.Transition

/-!
# Clients of a database

A client runs a program of statements. Those it sends in its transaction take effect
together, when the transaction commits at the end; those it sends on a connection of
their own take effect at once. In between the client may crash, and others may change
what everyone sees, as long as the open transaction's statements still stand.
-/

namespace Relational

/-- What a statement is sent on. -/
inductive Connection
  /-- The transaction of the client. -/
  | transaction
  /-- A connection of its own. -/
  | own

/-- A statement of a client. -/
structure Statement (σ ε : Type) where
  connection : Connection
  body : Transaction σ ε Unit

namespace Transaction

variable {σ ε : Type}

/-- Statements one after another. -/
def sequence : List (Transaction σ ε Unit) → Transaction σ ε Unit
  | [] => pure ()
  | body :: bodies => do
    body
    sequence bodies

/-- What the first statement establishes and the others keep holds at the end. -/
theorem ensures_sequence_cons {body : Transaction σ ε Unit} {bodies : List (Transaction σ ε Unit)}
    {P : σ → Prop} {s : σ} (hfirst : body.Ensures (fun _ => P) (fun _ => True) s)
    (hkept : ∀ other ∈ bodies, ∀ s, P s → other.Ensures (fun _ => P) (fun _ => True) s) :
    (sequence (body :: bodies)).Ensures (fun _ => P) (fun _ => True) s := by
  unfold sequence
  rw [ensures_bind]
  refine hfirst.mono (fun _ s' h => ?_) fun _ _ => trivial
  induction bodies generalizing s' with
  | nil => exact h
  | cons other bodies ih =>
    unfold sequence
    rw [ensures_bind]
    refine (hkept other List.mem_cons_self s' h).mono (fun _ s'' h' => ?_) fun _ _ => trivial
    exact ih (fun later hlater => hkept later (List.mem_cons_of_mem _ hlater)) s'' h'

end Transaction

/-- How far a client has come. -/
inductive ClientStatus
  | running | committed | rolledBack
  deriving DecidableEq

/-- A client and what everyone sees of the database. -/
structure Client (σ ε : Type) where
  visible : σ
  /-- The executed statements of the open transaction. -/
  sent : List (Transaction σ ε Unit)
  rest : List (Statement σ ε)
  status : ClientStatus

/-- What may happen to a client. -/
inductive ClientEvent (σ : Type)
  /-- Its next statement, or the commit of its transaction. -/
  | advance
  | crash
  /-- Others change what everyone sees. -/
  | interfere (visible : σ)

/-- The event is the client's own, and not of others. -/
def ClientEvent.IsOwn {σ : Type} : ClientEvent σ → Prop
  | .advance | .crash => True
  | .interfere _ => False

namespace Client

variable {σ ε : Type} {client next : Client σ ε} {program : List (Statement σ ε)}

/-- The client before its first statement. -/
def start (visible : σ) (program : List (Statement σ ε)) : Client σ ε where
  visible := visible
  sent := []
  rest := program
  status := .running

/-- The open transaction's statements can be executed on what everyone sees. -/
def stands (client : Client σ ε) (visible : σ) : Bool :=
  match (Transaction.sequence client.sent).run visible with
  | .ok _ => true
  | .error _ => false

/-- The next statement of a running client, or its commit. -/
def advance (client : Client σ ε) : Client σ ε :=
  match client.rest with
  | [] =>
    match (Transaction.sequence client.sent).run client.visible with
    | .ok (_, visible) => { client with visible, status := .committed }
    | .error _ => { client with status := .rolledBack }
  | ⟨.transaction, body⟩ :: rest =>
    match (Transaction.sequence (client.sent ++ [body])).run client.visible with
    | .ok _ => { client with sent := client.sent ++ [body], rest }
    | .error _ => { client with status := .rolledBack }
  | ⟨.own, body⟩ :: rest =>
    match body.run client.visible with
    | .ok (_, visible) => { client with visible, rest }
    | .error _ => { client with status := .rolledBack }

/-- One step, if the event can happen. -/
def step (client : Client σ ε) : ClientEvent σ → Option (Client σ ε)
  | .advance => if client.status = .running then some client.advance else none
  | .crash => if client.status = .running then some { client with status := .rolledBack } else none
  | .interfere visible =>
    if client.status = .running ∧ client.stands visible = false then none
    else some { client with visible }

/-- The steps of a client. -/
def Step (client : Client σ ε) (event : ClientEvent σ) (next : Client σ ε) : Prop :=
  client.step event = some next

/-- The statements that a program sends in the transaction. -/
def transactional (program : List (Statement σ ε)) : List (Transaction σ ε Unit) :=
  program.filterMap fun statement =>
    match statement.connection with
    | .transaction => some statement.body
    | .own => none

theorem mem_transactional {body : Transaction σ ε Unit} :
    body ∈ transactional program ↔ ⟨.transaction, body⟩ ∈ program := by
  unfold transactional
  rw [List.mem_filterMap]
  constructor
  · rintro ⟨⟨connection, body'⟩, hmem, hsame⟩
    cases connection with
    | transaction =>
      cases hsame
      exact hmem
    | own => cases hsame
  · intro hmem
    exact ⟨_, hmem, rfl⟩

/-- A running client is on its way through its program. -/
structure Follows (program : List (Statement σ ε)) (client : Client σ ε) : Prop where
  sent : client.status = .running →
    client.sent ++ transactional client.rest = transactional program
  rest : ∀ statement ∈ client.rest, statement ∈ program

/-- The client commits in this step: everyone sees what the transaction has done. -/
def Commits (program : List (Statement σ ε)) (client next : Client σ ε) : Prop :=
  client.status = .running ∧ next.status = .committed ∧
    (Transaction.sequence (transactional program)).run client.visible = .ok ((), next.visible)

theorem follows_start (visible : σ) (program : List (Statement σ ε)) :
    (start visible program).Follows program :=
  ⟨fun _ => rfl, fun _ h => h⟩

theorem Follows.advance (h : client.Follows program) (hrunning : client.status = .running) :
    client.advance.Follows program := by
  have hsent := h.sent hrunning
  have hmem := h.rest
  unfold Client.advance
  cases hrest : client.rest with
  | nil =>
    dsimp only
    split
    · refine ⟨fun hstatus => ?_, ?_⟩
      · cases hstatus
      · simp
    · refine ⟨fun hstatus => ?_, ?_⟩
      · cases hstatus
      · simp
  | cons statement rest =>
    obtain ⟨connection, body⟩ := statement
    rw [hrest] at hsent hmem
    have hlater : ∀ statement ∈ rest, statement ∈ program := fun statement hstatement =>
      hmem statement (List.mem_cons_of_mem _ hstatement)
    cases connection with
    | transaction =>
      dsimp only
      split
      · refine ⟨fun _ => ?_, hlater⟩
        rw [← hsent]
        simp [transactional]
      · refine ⟨fun hstatus => ?_, ?_⟩
        · cases hstatus
        · simpa [hrest] using hmem
    | own =>
      dsimp only
      split
      · refine ⟨fun _ => ?_, hlater⟩
        rw [← hsent]
        simp [transactional]
      · refine ⟨fun hstatus => ?_, ?_⟩
        · cases hstatus
        · simpa [hrest] using hmem

theorem Follows.step {event : ClientEvent σ} (h : client.Follows program)
    (hstep : client.Step event next) : next.Follows program := by
  unfold Step Client.step at hstep
  cases event with
  | advance =>
    dsimp only at hstep
    split at hstep
    · next hrunning =>
      cases hstep
      exact h.advance hrunning
    · cases hstep
  | crash =>
    dsimp only at hstep
    split at hstep
    · cases hstep
      refine ⟨fun hstatus => ?_, h.rest⟩
      cases hstatus
    · cases hstep
  | interfere visible =>
    dsimp only at hstep
    split at hstep
    · cases hstep
    · cases hstep
      exact ⟨h.sent, h.rest⟩

/-- **What a client shows.** Advancing changes what everyone sees only by the commit
of the whole transaction, or by a statement on a connection of its own. -/
theorem Follows.advance_cases (h : client.Follows program) (hrunning : client.status = .running) :
    client.advance.visible = client.visible ∧ client.advance.status ≠ .committed ∨
      Commits program client client.advance ∨
      ∃ body rest, client.rest = ⟨.own, body⟩ :: rest ∧ client.advance.status = .running ∧
        body.run client.visible = .ok ((), client.advance.visible) := by
  have hsent := h.sent hrunning
  unfold Client.advance
  cases hrest : client.rest with
  | nil =>
    rw [hrest] at hsent
    have hall : client.sent = transactional program := by simpa [transactional] using hsent
    dsimp only
    split
    · next visible hrun =>
      right
      left
      rw [hall] at hrun
      exact ⟨hrunning, rfl, hrun⟩
    · left
      exact ⟨rfl, by simp⟩
  | cons statement rest =>
    obtain ⟨connection, body⟩ := statement
    cases connection with
    | transaction =>
      left
      dsimp only
      split
      · exact ⟨rfl, by simp [hrunning]⟩
      · exact ⟨rfl, by simp⟩
    | own =>
      dsimp only
      split
      · next visible hrun =>
        right
        right
        exact ⟨body, rest, rfl, hrunning, hrun⟩
      · left
        exact ⟨rfl, by simp⟩

end Client

end Relational
