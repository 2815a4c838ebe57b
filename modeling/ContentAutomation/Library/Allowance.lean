import Mathlib.Tactic.Common

/-!
# An allowance for one use

Several parties share an allowance for one use. A party takes the allowance, if it has
not been spent, and later uses what it has taken; between the two it holds it. As long
as nobody takes an allowance that is spent, it is used at most once.
-/

/-- The parties that hold the allowance, the number of its uses, and whether it is
spent: it has been used at most once, and it is spent as soon as it is taken. -/
structure Allowance {ι : Type*} (holds : ι → Prop) (uses : ℕ) (spent : Prop) : Prop where
  uses_le : uses ≤ 1
  unique : ∀ {i j}, holds i → holds j → i = j
  unused : ∀ {i}, holds i → uses = 0
  spent_of_holds : ∀ {i}, holds i → spent
  spent_of_uses : 0 < uses → spent

namespace Allowance

variable {ι : Type*} {holds holds' : ι → Prop} {uses : ℕ} {spent spent' : Prop} {i : ι}

theorem fresh (h : ∀ i, ¬ holds i) : Allowance holds 0 spent := by
  constructor
  · omega
  · intro i j hi
    exact absurd hi (h i)
  · intro i hi
    rfl
  · intro i hi
    exact absurd hi (h i)
  · intro huses
    omega

theorem mono (h : Allowance holds uses spent) (hholds : ∀ i, holds' i → holds i)
    (hspent : spent → spent') : Allowance holds' uses spent' := by
  constructor
  · exact h.uses_le
  · intro i j hi hj
    exact h.unique (hholds i hi) (hholds j hj)
  · intro i hi
    exact h.unused (hholds i hi)
  · intro i hi
    exact hspent (h.spent_of_holds (hholds i hi))
  · intro huses
    exact hspent (h.spent_of_uses huses)

/-- **Taking.** An allowance that is not spent may be taken, which spends it. -/
theorem take (h : Allowance holds uses spent) (hfree : ¬ spent)
    (hholds : ∀ j, holds' j → holds j ∨ j = i) (hspent : spent') :
    Allowance holds' uses spent' := by
  have hnobody : ∀ j, ¬ holds j := fun j hj => hfree (h.spent_of_holds hj)
  have hunused : uses = 0 := by
    by_contra huses
    exact hfree (h.spent_of_uses (by omega))
  have honly : ∀ j, holds' j → j = i := by
    intro j hj
    rcases hholds j hj with hbefore | hnew
    · exact absurd hbefore (hnobody j)
    · exact hnew
  constructor
  · omega
  · intro j k hj hk
    rw [honly j hj, honly k hk]
  · intro j _
    exact hunused
  · intro j _
    exact hspent
  · intro _
    exact hspent

/-- **Using.** Who holds the allowance may use it, and then holds it no longer. -/
theorem use (h : Allowance holds uses spent) (hi : holds i)
    (hholds : ∀ j, holds' j → holds j ∧ j ≠ i) (hspent : spent → spent') :
    Allowance holds' (uses + 1) spent' := by
  have hunused := h.unused hi
  have hnobody : ∀ j, ¬ holds' j := by
    intro j hj
    obtain ⟨hbefore, hne⟩ := hholds j hj
    exact hne (h.unique hbefore hi)
  constructor
  · omega
  · intro j k hj
    exact absurd hj (hnobody j)
  · intro j hj
    exact absurd hj (hnobody j)
  · intro j hj
    exact absurd hj (hnobody j)
  · intro _
    exact hspent (h.spent_of_holds hi)

end Allowance
