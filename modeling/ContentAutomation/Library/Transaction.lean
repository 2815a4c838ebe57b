import Mathlib.Tactic.Common

/-!
# Atomic transactions

A transaction reads and writes a state of type `σ` and either returns a value
or raises an exception of type `ε`. Committing it replaces the state on success
and keeps the old state on an exception, so no intermediate state is ever
visible. The rules compute what a transaction ensures, statement by statement.
-/

namespace Relational

/-- The body of a database transaction. -/
abbrev Transaction (σ ε : Type) := StateT σ (Except ε)

namespace Transaction

variable {σ ε α β : Type}

/-- Run a transaction as one atomic step, rolling back when it raises. -/
def commit (body : Transaction σ ε α) (s : σ) : Except ε α × σ :=
  match body.run s with
  | .ok (value, s') => (.ok value, s')
  | .error exception => (.error exception, s)

variable {exception : ε} {select : σ → α} {next : α → Transaction σ ε β} {replace : ε → ε}

theorem commit_eq_error {body : Transaction σ ε α} {s s' : σ}
    (h : body.commit s = (.error exception, s')) : s' = s := by
  unfold commit at h
  split at h <;> cases h
  rfl

/-- Read from the state. -/
def read (select : σ → α) : Transaction σ ε α := fun s => .ok (select s, s)

/-- Raise an exception. -/
def raise (exception : ε) : Transaction σ ε α := fun _ => .error exception

/-- Replace the exception of a transaction (`catch` and throw again). -/
def rethrow (replace : ε → ε) (body : Transaction σ ε α) : Transaction σ ε α := fun s =>
  match body.run s with
  | .ok result => .ok result
  | .error exception => .error (replace exception)

/-- Started in `s`, the transaction either returns with the postcondition or
raises an exception that satisfies the exceptional one. -/
def Ensures (body : Transaction σ ε α) (post : α → σ → Prop) (exceptional : ε → Prop) (s : σ) :
    Prop :=
  match body.run s with
  | .ok (value, s') => post value s'
  | .error exception => exceptional exception

section Rules

variable {post : α → σ → Prop} {exceptional : ε → Prop} {s : σ}

theorem ensures_pure {value : α} :
    Ensures (pure value) post exceptional s ↔ post value s := Iff.rfl

theorem ensures_read :
    Ensures (read select) post exceptional s ↔ post (select s) s := Iff.rfl

theorem ensures_raise :
    Ensures (raise exception) post exceptional s ↔ exceptional exception := Iff.rfl

variable {body : Transaction σ ε α}

/-- **The sequence rule.** The first statement establishes what the second needs. -/
theorem ensures_bind {post : β → σ → Prop} : Ensures (body >>= next) post exceptional s ↔
      Ensures body (fun value s' => Ensures (next value) post exceptional s') exceptional s := by
  unfold Ensures
  rw [StateT.run_bind]
  cases body.run s with
  | error exception => rfl
  | ok result => rfl

theorem ensures_rethrow :
    Ensures (rethrow replace body) post exceptional s ↔
      Ensures body post (fun exception => exceptional (replace exception)) s := by
  unfold Ensures rethrow
  simp only [StateT.run]
  cases body s with
  | error exception => rfl
  | ok result => rfl

/-- **The consequence rule.** -/
theorem Ensures.mono {post' : α → σ → Prop} {exceptional' : ε → Prop}
    (h : Ensures body post exceptional s) (hpost : ∀ value s', post value s' → post' value s')
    (hexceptional : ∀ exception, exceptional exception → exceptional' exception) :
    Ensures body post' exceptional' s := by
  unfold Ensures at h ⊢
  cases hrun : body.run s with
  | error exception =>
    rw [hrun] at h
    exact hexceptional exception h
  | ok result =>
    rw [hrun] at h
    exact hpost result.1 result.2 h

theorem Ensures.of_forall (hpost : ∀ value s', post value s')
    (hexceptional : ∀ exception, exceptional exception) : Ensures body post exceptional s := by
  unfold Ensures
  cases body.run s with
  | error exception => exact hexceptional exception
  | ok result => exact hpost result.1 result.2

/-- **The conjunction rule.** -/
theorem Ensures.and {post' : α → σ → Prop} {exceptional' : ε → Prop}
    (h : Ensures body post exceptional s) (h' : Ensures body post' exceptional' s) :
    Ensures body (fun value s' => post value s' ∧ post' value s')
      (fun exception => exceptional exception ∧ exceptional' exception) s := by
  unfold Ensures at h h' ⊢
  cases hrun : body.run s with
  | error exception =>
    rw [hrun] at h h'
    exact ⟨h, h'⟩
  | ok result =>
    rw [hrun] at h h'
    exact ⟨h, h'⟩

/-- What a transaction ensures, its commit has done: either it returned and the
state is the new one, or it raised and nothing changed. -/
theorem Ensures.commit_cases (h : Ensures body post exceptional s) :
    (∃ value s', body.commit s = (.ok value, s') ∧ post value s') ∨
      ∃ exception, body.commit s = (.error exception, s) ∧ exceptional exception := by
  unfold Ensures at h
  unfold commit
  cases hrun : body.run s with
  | error exception =>
    rw [hrun] at h
    exact Or.inr ⟨exception, rfl, h⟩
  | ok result =>
    rw [hrun] at h
    exact Or.inl ⟨result.1, result.2, rfl, h⟩

theorem Ensures.of_run {s' : σ} {value : α}
    (h : body.Ensures post exceptional s) (hrun : body.run s = .ok (value, s')) : post value s' := by
  unfold Ensures at h
  rw [hrun] at h
  exact h

end Rules

/-! ### Runs that return -/

section Returns

variable {s s' : σ} {value : α}

theorem run_bind_eq_ok {body : Transaction σ ε α}
    {result : β × σ} : (body >>= next).run s = .ok result ↔
      ∃ value s', body.run s = .ok (value, s') ∧ (next value).run s' = .ok result := by
  rw [StateT.run_bind]
  cases body.run s with
  | error exception => simp [Bind.bind, Except.bind]
  | ok first => simp [Bind.bind, Except.bind, Prod.ext_iff]

theorem run_raise_ne {result : α × σ} :
    (raise exception : Transaction σ ε α).run s ≠ .ok result := nofun

theorem commit_eq_ok {body : Transaction σ ε α} :
    body.commit s = (.ok value, s') ↔ body.run s = .ok (value, s') := by
  unfold commit
  cases body.run s with
  | error exception => simp
  | ok result => simp [Prod.ext_iff]

end Returns

/-! ### Frames -/

/-- The transaction leaves a part of the state alone. -/
def Keeps {τ : Type} (part : σ → τ) (body : Transaction σ ε α) : Prop :=
  ∀ s, body.Ensures (fun _ s' => part s' = part s) (fun _ => True) s

section Frames

variable {τ : Type} {part : σ → τ} {body : Transaction σ ε α}

theorem keeps_pure {value : α} : Keeps part (pure value : Transaction σ ε α) := fun _ => rfl

theorem keeps_read : Keeps part (read select : Transaction σ ε α) := fun _ => rfl

theorem keeps_raise : Keeps part (raise exception : Transaction σ ε α) :=
  fun _ => trivial

theorem Keeps.bind (h : Keeps part body)
    (hnext : ∀ value, Keeps part (next value)) : Keeps part (body >>= next) := by
  intro s
  rw [ensures_bind]
  refine (h s).mono (fun value s' hsame => ?_) fun _ _ => trivial
  refine (hnext value s').mono (fun _ s'' hsame' => ?_) fun _ _ => trivial
  exact hsame'.trans hsame

theorem Keeps.ite {condition : Prop} [Decidable condition] {body' : Transaction σ ε α}
    (h : Keeps part body) (h' : Keeps part body') :
    Keeps part (if condition then body else body') := by
  split
  · exact h
  · exact h'

/-- **The frame rule.** After a statement that keeps a part, the rest sees the part as it was. -/
theorem Keeps.ensures_bind {post : β → σ → Prop} {s : σ} (h : Keeps part body)
    (hnext : ∀ value s', part s' = part s → (next value).Ensures post (fun _ => True) s') :
    (body >>= next).Ensures post (fun _ => True) s := by
  rw [Transaction.ensures_bind]
  exact (h s).mono hnext fun _ _ => trivial

theorem Keeps.rethrow (h : Keeps part body) :
    Keeps part (rethrow replace body) := by
  intro s
  rw [ensures_rethrow]
  exact h s

theorem Keeps.commit (h : Keeps part body) (s : σ) :
    part (body.commit s).2 = part s := by
  rcases (h s).commit_cases with ⟨value, s', hcommit, hsame⟩ | ⟨exception, hcommit, -⟩
  · rw [hcommit]
    exact hsame
  · rw [hcommit]

end Frames

/-! ### Invariants -/

/-- The transaction keeps an invariant. -/
def Preserves (I : σ → Prop) (body : Transaction σ ε α) : Prop :=
  ∀ s, I s → body.Ensures (fun _ s' => I s') (fun _ => True) s

section Invariants

variable {I : σ → Prop} {body : Transaction σ ε α}

theorem preserves_pure {value : α} : Preserves I (pure value : Transaction σ ε α) := fun _ h => h

theorem preserves_read : Preserves I (read select : Transaction σ ε α) :=
  fun _ h => h

theorem preserves_raise : Preserves I (raise exception : Transaction σ ε α) :=
  fun _ _ => trivial

theorem Preserves.bind (h : Preserves I body) (hnext : ∀ value, Preserves I (next value)) :
    Preserves I (body >>= next) := by
  intro s hs
  rw [ensures_bind]
  exact (h s hs).mono (fun value s' hs' => hnext value s' hs') fun _ _ => trivial

theorem Preserves.ite {condition : Prop} [Decidable condition] {body' : Transaction σ ε α}
    (h : Preserves I body) (h' : Preserves I body') :
    Preserves I (if condition then body else body') := by
  split
  · exact h
  · exact h'

theorem Preserves.rethrow (h : Preserves I body) :
    Preserves I (rethrow replace body) := by
  intro s hs
  rw [ensures_rethrow]
  exact h s hs

theorem keeps_of_preserves {τ : Type} {part : σ → τ}
    (h : ∀ value, Preserves (fun s => part s = value) body) : Keeps part body :=
  fun s => h (part s) s rfl

theorem Keeps.preserves {τ : Type} {part : σ → τ} {J : τ → Prop} (h : Keeps part body) :
    Preserves (fun s => J (part s)) body := by
  intro s hs
  refine (h s).mono (fun _ s' hsame => ?_) fun _ _ => trivial
  show J (part s')
  rw [hsame]
  exact hs

theorem Preserves.commit (h : Preserves I body) {s : σ} (hs : I s) :
    I (body.commit s).2 := by
  rcases (h s hs).commit_cases with ⟨value, s', hcommit, hafter⟩ | ⟨exception, hcommit, -⟩
  · rw [hcommit]
    exact hafter
  · rw [hcommit]
    exact hs

end Invariants

end Transaction

end Relational
