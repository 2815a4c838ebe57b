import Mathlib.Algebra.GroupWithZero.Nat
import Mathlib.Data.List.Basic

/-!
# Filling a budget in order

Items with costs are taken in order while their total stays within a budget. At an item that
does not fit one may stop, or pass over it and go on with smaller ones. This file has both
ways, and tells when they take the same items.
-/

namespace FirstFit

variable {α : Type*} (fits : ℕ → Prop) [DecidablePred fits] (cost : α → ℕ)

/-- The items before the first one that does not fit. -/
def leading : ℕ → List α → List α
  | _, [] => []
  | total, item :: items =>
    if fits (total + cost item) then item :: leading (total + cost item) items else []

/-- The items that are taken when those that do not fit are passed over. -/
def taken : ℕ → List α → List α
  | _, [] => []
  | total, item :: items =>
    if fits (total + cost item) then item :: taken (total + cost item) items
    else taken total items

/-- The items that are passed over. -/
def passed : ℕ → List α → List α
  | _, [] => []
  | total, item :: items =>
    if fits (total + cost item) then passed (total + cost item) items
    else item :: passed total items

variable {fits cost} {total : ℕ} {items : List α}

theorem taken_sublist (total : ℕ) (items : List α) :
    (taken fits cost total items).Sublist items := by
  induction items generalizing total with
  | nil => exact List.Sublist.refl []
  | cons item items ih =>
    rw [taken]
    split_ifs with hfits
    · exact (ih (total + cost item)).cons_cons item
    · exact (ih total).cons item

private theorem taken_eq_nil_iff :
    taken fits cost total items = [] ↔ ∀ item ∈ items, ¬ fits (total + cost item) := by
  induction items with
  | nil => simp [taken]
  | cons item items ih =>
    rw [taken, List.forall_mem_cons]
    split_ifs with hfits
    · simp [hfits]
    · rw [ih]
      exact (and_iff_right hfits).symm

/-- **Passing over takes what stopping takes** exactly when none of the items after the stop
fits any more. -/
theorem taken_eq_leading_iff :
    taken fits cost total items = leading fits cost total items ↔
      ∀ item ∈ items.drop (leading fits cost total items).length,
        ¬ fits (total + ((leading fits cost total items).map cost).sum + cost item) := by
  induction items generalizing total with
  | nil => simp [taken, leading]
  | cons item items ih =>
    by_cases hfits : fits (total + cost item)
    · rw [taken, leading, if_pos hfits, if_pos hfits, List.cons.injEq, ih]
      simp only [true_and, List.length_cons, List.drop_succ_cons, List.map_cons, List.sum_cons,
        Nat.add_assoc]
    · rw [leading, if_neg hfits, taken_eq_nil_iff]
      simp

theorem leading_append_passed (h : taken fits cost total items = leading fits cost total items) :
    leading fits cost total items ++ passed fits cost total items = items := by
  have hrest (total : ℕ) (items : List α) (hnone : taken fits cost total items = []) :
      passed fits cost total items = items := by
    induction items with
    | nil => rfl
    | cons item items ih =>
      rw [taken] at hnone
      split_ifs at hnone with hfits
      rw [passed, if_neg hfits, ih hnone]
  induction items generalizing total with
  | nil => rfl
  | cons item items ih =>
    by_cases hfits : fits (total + cost item)
    · rw [taken, leading, if_pos hfits, if_pos hfits, List.cons.injEq] at h
      rw [leading, passed, if_pos hfits, if_pos hfits, List.cons_append, ih h.2]
    · rw [leading, if_neg hfits] at h ⊢
      rw [List.nil_append, hrest total (item :: items) h]

end FirstFit
