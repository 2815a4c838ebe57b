import Mathlib.Data.List.Sort

/-!
# Parts of a sorted list

Sorting by insertion is stable, so that what a test selects of a sorted list is what it selects of
the list, sorted. Where a list is sorted by a number, what has at most a number stands before what
has the next one.
-/

namespace SortedParts

open List

variable {α : Type*} {r : α → α → Prop} [DecidableRel r] {p : α → Bool} {a : α} {rows : List α}

private theorem filter_orderedInsert [IsTrans α r] (hsorted : rows.Pairwise r) :
    (rows.orderedInsert r a).filter p =
      if p a = true then (rows.filter p).orderedInsert r a else rows.filter p := by
  induction rows with
  | nil => cases hp : p a <;> simp [hp]
  | cons b rows ih =>
    obtain ⟨hb, hsorted⟩ := pairwise_cons.mp hsorted
    rw [orderedInsert_cons]
    by_cases hab : r a b
    · rw [if_pos hab, filter_cons]
      split_ifs with hp
      · -- everything that is selected comes after the insertion
        have hfirst : ∀ c ∈ (b :: rows).filter p, r a c := by
          intro c hc
          rcases mem_cons.mp (mem_of_mem_filter hc) with rfl | hc
          · exact hab
          · exact IsTrans.trans _ _ _ hab (hb c hc)
        cases hselected : (b :: rows).filter p with
        | nil => rfl
        | cons c selected =>
          rw [hselected] at hfirst
          rw [orderedInsert_cons, if_pos (hfirst c mem_cons_self)]
      · rfl
    · rw [if_neg hab, filter_cons, ih hsorted, filter_cons]
      cases hpb : p b <;> split_ifs <;> simp_all

theorem filter_insertionSort [IsTrans α r] [Std.Total r] (rows : List α) :
    (rows.insertionSort r).filter p = (rows.filter p).insertionSort r := by
  induction rows with
  | nil => rfl
  | cons a rows ih =>
    rw [insertionSort_cons, filter_orderedInsert (pairwise_insertionSort r rows), ih,
      filter_cons]
    split_ifs <;> rfl

/-- In a list in the order of a number, what has at most a number stands before what has the
next. -/
theorem filter_le_succ {f : α → ℕ} (hsorted : rows.Pairwise fun a b => f a ≤ f b) (n : ℕ) :
    rows.filter (fun a => decide (f a < n + 1)) =
      rows.filter (fun a => decide (f a < n)) ++ rows.filter fun a => decide (f a = n) := by
  induction rows with
  | nil => rfl
  | cons a rows ih =>
    obtain ⟨ha, hsorted⟩ := pairwise_cons.mp hsorted
    simp only [filter_cons, ih hsorted, decide_eq_true_eq]
    rcases lt_trichotomy (f a) n with hlt | heq | hgt
    · rw [if_pos (by omega), if_pos hlt, if_neg (by omega), cons_append]
    · have hnone : rows.filter (fun b => decide (f b < n)) = [] := by
        rw [filter_eq_nil_iff]
        intro b hb
        have := ha b hb
        simp only [decide_eq_true_eq]
        omega
      rw [if_pos (by omega), if_neg (by omega), if_pos heq, hnone]
      rfl
    · rw [if_neg (by omega), if_neg (by omega), if_neg (by omega)]

/-- In a list in the order of a number, what has less than a number stands before the rest. -/
theorem filter_lt_append {f : α → ℕ} (hsorted : rows.Pairwise fun a b => f a ≤ f b) (n : ℕ) :
    rows.filter (fun a => decide (f a < n)) ++ rows.filter (fun a => decide (n ≤ f a)) = rows := by
  induction rows with
  | nil => rfl
  | cons a rows ih =>
    obtain ⟨ha, hsorted⟩ := pairwise_cons.mp hsorted
    simp only [filter_cons, decide_eq_true_eq]
    by_cases hlt : f a < n
    · rw [if_pos hlt, if_neg (by omega), cons_append, ih hsorted]
    · have hnone : rows.filter (fun b => decide (f b < n)) = [] := by
        rw [filter_eq_nil_iff]
        intro b hb
        have := ha b hb
        simp only [decide_eq_true_eq]
        omega
      have hall := ih hsorted
      rw [hnone, nil_append] at hall
      rw [if_neg hlt, if_pos (by omega), hnone, hall, nil_append]

end SortedParts
