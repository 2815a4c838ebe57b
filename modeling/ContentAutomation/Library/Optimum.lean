import Mathlib.Data.List.Sort

/-!
# The best of a list

A member of a list that every member may stand behind. Sorting a list brings it to the front, and
a fold that keeps the winner so far ends with it. Which member it is does not depend on the order
of the list as long as no two members may stand behind each other.
-/

namespace Optimum

open List

variable {α : Type*} {r : α → α → Prop} {rows others : List α} {best other : α}

/-- A member that stands before every member. -/
structure IsBest (r : α → α → Prop) (rows : List α) (best : α) : Prop where
  mem : best ∈ rows
  before : ∀ other ∈ rows, r best other

/-- Which members are best does not depend on the order of a list. -/
theorem IsBest.congr (h : IsBest r rows best) (hsame : ∀ row, row ∈ rows ↔ row ∈ others) :
    IsBest r others best where
  mem := (hsame best).mp h.mem
  before other hother := h.before other ((hsame other).mpr hother)

/-- There is one best member where no two may stand behind each other. -/
theorem IsBest.eq (h : IsBest r rows best) (hother : IsBest r rows other)
    (hties : ∀ other ∈ rows, r best other → r other best → best = other) : best = other :=
  hties other hother.mem (h.before other hother.mem) (hother.before best h.mem)

/-! ### Sorting -/

/-- Sorting brings a best member to the front. -/
theorem isBest_of_head_insertionSort [DecidableRel r] [Std.Total r] [IsTrans α r]
    (h : (rows.insertionSort r).head? = some best) : IsBest r rows best := by
  obtain ⟨rest, hsorted⟩ := List.head?_eq_some_iff.mp h
  have hpairwise := pairwise_insertionSort r rows
  rw [hsorted, pairwise_cons] at hpairwise
  have hmem (row : α) : row ∈ rows ↔ row ∈ best :: rest := by
    rw [← hsorted, mem_insertionSort]
  refine ⟨(hmem best).mpr mem_cons_self, fun row hrow => ?_⟩
  rcases mem_cons.mp ((hmem row).mp hrow) with rfl | hrest
  · exact (Std.Total.total row row).elim id id
  · exact hpairwise.1 row hrest

/-! ### Folding -/

/-- **The winner of a fold.** A step that chooses one of two, and never the worse, ends with a best
member. -/
theorem isBest_foldl [IsTrans α r] [Std.Refl r] {step : α → α → α}
    (hchooses : ∀ winner row, step winner row = winner ∨ step winner row = row)
    (hwinner : ∀ winner row, r (step winner row) winner)
    (hrow : ∀ winner row, r (step winner row) row)
    (winner : α) (rows : List α) : IsBest r (winner :: rows) (rows.foldl step winner) := by
  induction rows generalizing winner with
  | nil =>
    refine ⟨mem_cons_self, fun row hmem => ?_⟩
    obtain rfl := mem_singleton.mp hmem
    exact Std.Refl.refl row
  | cons row rows ih =>
    obtain ⟨hmem, hbefore⟩ := ih (step winner row)
    have hstep : r (rows.foldl step (step winner row)) (step winner row) :=
      hbefore _ mem_cons_self
    refine ⟨?_, fun other hother => ?_⟩
    · rcases mem_cons.mp hmem with heq | hrest
      · rw [foldl_cons, heq]
        rcases hchooses winner row with hkept | hnew
        · rw [hkept]
          exact mem_cons_self
        · rw [hnew]
          exact mem_cons_of_mem _ mem_cons_self
      · exact mem_cons_of_mem _ (mem_cons_of_mem _ hrest)
    · rw [foldl_cons]
      rcases mem_cons.mp hother with rfl | hother
      · exact Trans.trans hstep (hwinner other row)
      · rcases mem_cons.mp hother with rfl | hrest
        · exact Trans.trans hstep (hrow winner other)
        · exact hbefore other (mem_cons_of_mem _ hrest)

end Optimum
