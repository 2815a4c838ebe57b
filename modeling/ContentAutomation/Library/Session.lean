import ContentAutomation.Library.Transaction
import Mathlib.Data.List.Nodup
import Mathlib.Algebra.Group.Basic

/-!
# Sessions

A session runs one transaction after another on a shared state. Each transaction
is atomic, but the session is not: what it has committed stays when a later
transaction raises. A sweep visits a list of items one by one; when each visit
concerns the part of the state under one key only, the sweep does to every key
what its own visit does.
-/

namespace Relational

open List

/-- A program of transactions that stops at the first exception. -/
def Session (σ ε α : Type) := σ → Except ε α × σ

namespace Session

variable {σ ε α β : Type}

/-- Return a value. -/
def pure (value : α) : Session σ ε α := fun s => (.ok value, s)

/-- Go on with the answer, unless there is none. -/
def bind (body : Session σ ε α) (next : α → Session σ ε β) : Session σ ε β := fun s =>
  match body s with
  | (.ok value, s') => next value s'
  | (.error exception, s') => (.error exception, s')

instance : Monad (Session σ ε) where
  pure := Session.pure
  bind := Session.bind

/-- Raise an exception. -/
def raise (exception : ε) : Session σ ε α := fun s => (.error exception, s)

/-- Run one transaction, which may depend on the state it finds. -/
def commit (body : σ → Transaction σ ε α) : Session σ ε α := fun s => (body s).commit s

/-- Started in `s`, the session either returns with the postcondition or raises
with the exceptional one. -/
def Ensures (body : Session σ ε α) (post : α → σ → Prop) (exceptional : ε → σ → Prop) (s : σ) :
    Prop :=
  match body s with
  | (.ok value, s') => post value s'
  | (.error exception, s') => exceptional exception s'

section Rules

variable {post : α → σ → Prop} {exceptional : ε → σ → Prop} {s s' : σ}

theorem ensures_pure {value : α} :
    Ensures (Pure.pure value : Session σ ε α) post exceptional s ↔ post value s := Iff.rfl

variable {body : Session σ ε α} {next : α → Session σ ε β}

/-- **The sequence rule.** -/
theorem ensures_bind {post : β → σ → Prop} :
    Ensures (body >>= next) post exceptional s ↔
      Ensures body (fun value s' => Ensures (next value) post exceptional s') exceptional s := by
  show Ensures (Session.bind body next) post exceptional s ↔ _
  unfold Ensures Session.bind
  rcases body s with ⟨_ | _, _⟩ <;> rfl

/-- **The consequence rule.** -/
theorem Ensures.mono {post' : α → σ → Prop} {exceptional' : ε → σ → Prop}
    (h : Ensures body post exceptional s) (hpost : ∀ value s', post value s' → post' value s')
    (hexceptional : ∀ exception s', exceptional exception s' → exceptional' exception s') :
    Ensures body post' exceptional' s := by
  unfold Ensures at h ⊢
  rcases hrun : body s with ⟨_ | _, _⟩ <;> rw [hrun] at h
  · exact hexceptional _ _ h
  · exact hpost _ _ h

theorem ensures_commit {body : σ → Transaction σ ε α} {exceptional' : ε → Prop}
    (h : (body s).Ensures post exceptional' s)
    (hexceptional : ∀ exception, exceptional' exception → exceptional exception s) :
    Ensures (commit body) post exceptional s := by
  unfold Ensures commit
  rcases h.commit_cases with ⟨value, s', hcommit, hpost⟩ | ⟨exception, hcommit, hraised⟩
  · rw [hcommit]
    exact hpost
  · rw [hcommit]
    exact hexceptional exception hraised

theorem bind_of_ok {value : α}
    (h : body s = (.ok value, s')) : (body >>= next) s = next value s' := by
  show Session.bind body next s = _
  unfold Session.bind
  rw [h]

theorem ok_of_bind {value : β} (h : (body >>= next) s = (.ok value, s')) :
    ∃ first t, body s = (.ok first, t) ∧ next first t = (.ok value, s') := by
  change Session.bind body next s = _ at h
  unfold Session.bind at h
  rcases hbody : body s with ⟨exception | first, t⟩
  · rw [hbody] at h
    cases h
  · rw [hbody] at h
    exact ⟨first, t, rfl, h⟩

theorem Ensures.of_ok {value : α} (h : Ensures body post exceptional s)
    (hrun : body s = (.ok value, s')) : post value s' := by
  unfold Ensures at h
  rwa [hrun] at h

end Rules

/-! ### Sweeps -/

section Sweep

variable {ι κ τ ω : Type} [AddMonoid ω]

/-- Visit the items one after another and add up the answers. -/
def sweep (visit : ι → Session σ ε ω) : List ι → Session σ ε ω
  | [] => Pure.pure 0
  | item :: items => do
    let answer ← visit item
    let answers ← sweep visit items
    Pure.pure (answer + answers)

variable {visit : ι → Session σ ε ω} {items : List ι} {s : σ}

theorem sweep_nil : sweep visit [] = Pure.pure 0 := rfl

private theorem sweep_cons (item : ι) : sweep visit (item :: items) = (do
    let answer ← visit item
    let answers ← sweep visit items
    Pure.pure (answer + answers)) := rfl

/-- **The rule of independent visits.** When a visit that finds the precondition
under its key moves the state under that key only, a sweep over items with
distinct keys moves exactly their keys. -/
theorem ensures_sweep (key : ι → κ) (view : σ → κ → τ) (ready : ι → τ → Prop)
    (effect : ι → τ → τ → Prop) {exceptional : ε → σ → Prop} {keep : σ → σ → Prop}
    (hrefl : ∀ s, keep s s) (htrans : ∀ {s t u}, keep s t → keep t u → keep s u)
    (hvisit : ∀ item ∈ items, ∀ t, keep s t → ready item (view t (key item)) →
      (visit item).Ensures (fun _ t' => effect item (view t (key item)) (view t' (key item)) ∧
        (∀ k, k ≠ key item → view t' k = view t k) ∧ keep t t') exceptional t)
    (hdistinct : (items.map key).Nodup) (hready : ∀ item ∈ items, ready item (view s (key item))) :
    (sweep visit items).Ensures (fun _ s' =>
      (∀ item ∈ items, effect item (view s (key item)) (view s' (key item))) ∧
        (∀ k, k ∉ items.map key → view s' k = view s k) ∧ keep s s') exceptional s := by
  induction items generalizing s with
  | nil =>
    rw [sweep_nil, ensures_pure]
    exact ⟨fun item hitem => absurd hitem not_mem_nil, fun _ _ => rfl, hrefl s⟩
  | cons item items ih =>
    obtain ⟨hnew, hrest⟩ := nodup_cons.mp hdistinct
    rw [sweep_cons, ensures_bind]
    refine (hvisit item mem_cons_self s (hrefl s) (hready item mem_cons_self)).mono
      (fun answer t hpost => ?_) fun _ _ herror => herror
    obtain ⟨heffect, hother, hkeep⟩ := hpost
    have hsame : ∀ other ∈ items, view t (key other) = view s (key other) := by
      intro other hmem
      refine hother _ fun heq => hnew ?_
      rw [← heq]
      exact mem_map_of_mem hmem
    rw [ensures_bind]
    refine (ih (s := t) ?_ hrest ?_).mono (fun answers u hpost => ?_) fun _ _ herror => herror
    · intro other hmem u hkept
      exact hvisit other (mem_cons_of_mem _ hmem) u (htrans hkeep hkept)
    · intro other hmem
      rw [hsame other hmem]
      exact hready other (mem_cons_of_mem _ hmem)
    · rw [ensures_pure]
      obtain ⟨heffects, hothers, hkeeps⟩ := hpost
      refine ⟨?_, ?_, htrans hkeep hkeeps⟩
      · intro other hmem
        rcases mem_cons.mp hmem with rfl | hmem
        · rw [hothers _ hnew]
          exact heffect
        · rw [← hsame other hmem]
          exact heffects other hmem
      · intro k hk
        rw [map_cons, mem_cons, not_or] at hk
        rw [hothers k hk.2, hother k hk.1]

theorem sweep_cons_of_ok {item : ι} {answer answers : ω} {t u : σ}
    (h : visit item s = (.ok answer, t)) (hrest : sweep visit items t = (.ok answers, u)) :
    sweep visit (item :: items) s = (.ok (answer + answers), u) := by
  rw [sweep_cons, bind_of_ok h, bind_of_ok hrest]
  rfl

theorem ensures_sweep_cons {item : ι} {post : σ → Prop} {exceptional : ε → σ → Prop}
    (h : (visit item).Ensures (fun _ t => (sweep visit items).Ensures (fun _ u => post u)
      exceptional t) exceptional s) :
    (sweep visit (item :: items)).Ensures (fun _ u => post u) exceptional s := by
  rw [sweep_cons, ensures_bind]
  refine h.mono (fun answer t hrest => ?_) fun _ _ herror => herror
  rw [ensures_bind]
  exact hrest.mono (fun _ _ hpost => hpost) fun _ _ herror => herror

/-- What every visit keeps up, whether it returns or raises, a sweep keeps up. -/
theorem ensures_sweep_keep {keep : σ → σ → Prop} (hrefl : ∀ s, keep s s)
    (htrans : ∀ {s t u}, keep s t → keep t u → keep s u)
    (hvisit : ∀ item ∈ items, ∀ t, (visit item).Ensures (fun _ t' => keep t t')
      (fun _ t' => keep t t') t) :
    (sweep visit items).Ensures (fun _ s' => keep s s') (fun _ s' => keep s s') s := by
  induction items generalizing s with
  | nil =>
    rw [sweep_nil, ensures_pure]
    exact hrefl s
  | cons item items ih =>
    rw [sweep_cons, ensures_bind]
    refine (hvisit item mem_cons_self s).mono (fun answer t hkept => ?_) fun _ _ hkept => hkept
    rw [ensures_bind]
    refine (ih (s := t) fun other hmem => hvisit other (mem_cons_of_mem _ hmem)).mono
      (fun answers u hkept' => ?_) fun _ _ hkept' => htrans hkept hkept'
    rw [ensures_pure]
    exact htrans hkept hkept'

theorem sweep_of_idle (hidle : ∀ item ∈ items, visit item s = (.ok 0, s)) :
    sweep visit items s = (.ok 0, s) := by
  induction items with
  | nil => rfl
  | cons item items ih =>
    have hrest := ih fun other hmem => hidle other (mem_cons_of_mem _ hmem)
    rw [sweep_cons_of_ok (hidle item mem_cons_self) hrest, add_zero]

end Sweep

end Session

end Relational
