import Mathlib.Data.List.Basic
import Mathlib.Data.List.TakeWhile

/-!
# Sections under heads

A list in sections, each of which has a head that is marked and then items that are not. The
heads are what is marked in the list, and the sections can be told from it.
-/

namespace Headed

open List

variable {α β : Type*} {head : α → β} {rest : α → List β} {mark : β → Prop} [DecidablePred mark]

theorem filter_flatMap (hhead : ∀ x, mark (head x)) (hrest : ∀ x, ∀ y ∈ rest x, ¬ mark y)
    (xs : List α) : (xs.flatMap fun x => head x :: rest x).filter mark = xs.map head := by
  induction xs with
  | nil => rfl
  | cons x xs ih =>
    have hnone : (rest x).filter mark = [] :=
      filter_eq_nil_iff.mpr fun y hy => by simpa using hrest x y hy
    rw [flatMap_cons, filter_append, filter_cons_of_pos (by simpa using hhead x),
      hnone, ih, map_cons, singleton_append]

/-- The sections of a list are told apart. -/
theorem flatMap_injective (hhead : ∀ x, mark (head x)) (hrest : ∀ x, ∀ y ∈ rest x, ¬ mark y)
    (hinj : ∀ x x', head x = head x' → rest x = rest x' → x = x') :
    Function.Injective fun xs : List α => xs.flatMap fun x => head x :: rest x := by
  -- what follows a head up to the next marked item is its section
  have hsection (x : α) (xs : List α) :
      ((rest x ++ xs.flatMap fun x => head x :: rest x).takeWhile fun y => ¬ mark y) = rest x := by
    rw [takeWhile_append_of_pos fun y hy => by simpa using hrest x y hy]
    cases xs with
    | nil => simp
    | cons next xs => simp [hhead next]
  intro xs
  induction xs with
  | nil =>
    intro xs' h
    cases xs' with
    | nil => rfl
    | cons x' xs' => simp at h
  | cons x xs ih =>
    intro xs' h
    cases xs' with
    | nil => simp at h
    | cons x' xs' =>
      simp only [flatMap_cons, cons_append, List.cons.injEq] at h
      obtain ⟨hheads, htails⟩ := h
      have hrests : rest x = rest x' := by rw [← hsection x xs, htails, hsection x' xs']
      rw [hrests, append_cancel_left_eq] at htails
      rw [hinj x x' hheads hrests, ih htails]

end Headed
