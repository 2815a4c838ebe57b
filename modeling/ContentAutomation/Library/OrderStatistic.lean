import Mathlib.Data.List.GetD
import Mathlib.Data.List.Sort
import Mathlib.Data.Rat.Floor

/-!
# Order statistics

The values of a list in their order, and the values between two ranks. The order in which a list
was written is of no account, and how a value at a rank compares with a bound is told by how many
values there are up to the bound.
-/

namespace OrderStatistic

open List

/-! ### Values in their order -/

/-- **One order.** Lists of the same members are sorted alike, if no two members are of the same
rank. -/
theorem insertionSort_eq_of_perm {α : Type*} {r : α → α → Prop} [DecidableRel r] [Std.Total r]
    [IsTrans α r] [Std.Antisymm r] {members others : List α} (h : members.Perm others) :
    members.insertionSort r = others.insertionSort r := by
  have hperm : (members.insertionSort r).Perm (others.insertionSort r) :=
    (perm_insertionSort r members).trans (h.trans (perm_insertionSort r others).symm)
  exact Perm.eq_of_pairwise' (pairwise_insertionSort r members)
    (pairwise_insertionSort r others) hperm

section Order

variable {K : Type*} [LinearOrder K]

/-- The values, the least first. -/
def ascending (values : List K) : List K := values.insertionSort (· ≤ ·)

variable (values : List K)

theorem ascending_perm : (ascending values).Perm values :=
  perm_insertionSort (· ≤ ·) values

@[simp] theorem length_ascending : (ascending values).length = values.length :=
  (ascending_perm values).length_eq

theorem ascending_pairwise : (ascending values).Pairwise (· ≤ ·) :=
  pairwise_insertionSort (· ≤ ·) values

variable {values others : List K} {rank : ℕ}

theorem ascending_eq_of_perm (h : values.Perm others) :
    ascending values = ascending others :=
  insertionSort_eq_of_perm h

/-- In an ascending list, the value at a rank is below a cut when there are more values below the
cut than ranks before it. -/
theorem getElem_below_iff_of_pairwise (hsorted : values.Pairwise (· ≤ ·))
    (below : K → Bool) (hbelow : ∀ value other, value ≤ other → below other → below value) (hrank : rank < values.length) :
    below values[rank] ↔ rank < values.countP below := by
  induction values generalizing rank with
  | nil => cases hrank
  | cons value values ih =>
    obtain ⟨hfirst, hrest⟩ := pairwise_cons.mp hsorted
    by_cases hvalue : below value = true
    · rw [countP_cons_of_pos hvalue]
      cases rank with
      | zero => simpa using hvalue
      | succ rank =>
        have hlater : rank < values.length := by simpa using hrank
        rw [getElem_cons_succ, ih hrest hlater]
        omega
    · -- no later value is below the cut
      have hnone : ∀ other ∈ value :: values, ¬ below other = true := by
        intro other hother
        rcases mem_cons.mp hother with rfl | hother
        · exact hvalue
        · exact fun h => hvalue (hbelow _ _ (hfirst other hother) h)
      rw [countP_eq_zero.mpr hnone]
      exact iff_of_false (hnone _ (getElem_mem hrank)) (Nat.not_lt_zero _)

/-- **A value by counting.** The value at a rank is below a cut when there are more values below
the cut than ranks before it. -/
theorem getElem_ascending_below_iff (below : K → Bool)
    (hbelow : ∀ value other, value ≤ other → below other → below value)
    (hrank : rank < (ascending values).length) :
    below (ascending values)[rank] ↔ rank < values.countP below := by
  rw [getElem_below_iff_of_pairwise (ascending_pairwise values) below hbelow hrank,
    (ascending_perm values).countP_eq]

private theorem le_bound_of_le (bound : K) : ∀ value other : K, value ≤ other →
    decide (other ≤ bound) → decide (value ≤ bound) :=
  fun _ _ hle hother => decide_eq_true (hle.trans (of_decide_eq_true hother))

/-- **Greater values.** When the values of a list are raised, so is the value at each rank. -/
theorem getD_ascending_mono (h : List.Forall₂ (· ≤ ·) values others) (rank : ℕ) (fallback : K) :
    (ascending values).getD rank fallback ≤ (ascending others).getD rank fallback := by
  have hlength : (ascending values).length = (ascending others).length := by
    rw [length_ascending, length_ascending, h.length_eq]
  by_cases hrank : rank < (ascending others).length
  · have hrank' : rank < (ascending values).length := hlength ▸ hrank
    rw [getD_eq_getElem _ _ hrank', getD_eq_getElem _ _ hrank]
    set bound := (ascending others)[rank] with hbound
    have hothers : rank < others.countP (· ≤ bound) :=
      (getElem_ascending_below_iff _ (le_bound_of_le bound) hrank).mp (decide_eq_true hbound.ge)
    -- no fewer values are up to the bound before they are raised
    have hcount : others.countP (· ≤ bound) ≤ values.countP (· ≤ bound) := by
      clear_value bound
      clear hothers hbound hrank hrank' hlength
      induction h with
      | nil => exact le_rfl
      | @cons value other values others hle _ ih =>
        rw [countP_cons, countP_cons]
        have hone := le_bound_of_le bound value other hle
        split_ifs with hother hvalue hvalue
        · omega
        · exact absurd (hone hother) hvalue
        · omega
        · omega
    exact of_decide_eq_true ((getElem_ascending_below_iff _ (le_bound_of_le bound) hrank').mpr
      (hothers.trans_le hcount))
  · rw [getD_eq_default _ _ (by omega), getD_eq_default _ _ (by omega)]

private theorem getD_le_getD {sorted : List K} (hsorted : sorted.Pairwise (· ≤ ·)) {later : ℕ}
    (hle : rank ≤ later) (hlater : later < sorted.length) (fallback : K) :
    sorted.getD rank fallback ≤ sorted.getD later fallback := by
  rw [getD_eq_getElem _ _ (lt_of_le_of_lt hle hlater), getD_eq_getElem _ _ hlater]
  rcases Nat.lt_or_eq_of_le hle with hlt | heq
  · exact pairwise_iff_getElem.mp hsorted _ _ _ _ hlt
  · simp only [heq, le_refl]

theorem min?_eq_of_perm (h : values.Perm others) :
    values.min? = others.min? := by
  cases hmin : others.min? with
  | none =>
    rw [List.min?_eq_none_iff] at hmin ⊢
    exact Perm.eq_nil (hmin ▸ h)
  | some least =>
    rw [List.min?_eq_some_iff] at hmin ⊢
    exact ⟨h.mem_iff.mpr hmin.1, fun value hvalue => hmin.2 value (h.mem_iff.mp hvalue)⟩

theorem max?_eq_of_perm (h : values.Perm others) :
    values.max? = others.max? := by
  cases hmax : others.max? with
  | none =>
    rw [List.max?_eq_none_iff] at hmax ⊢
    exact Perm.eq_nil (hmax ▸ h)
  | some greatest =>
    rw [List.max?_eq_some_iff] at hmax ⊢
    exact ⟨h.mem_iff.mpr hmax.1, fun value hvalue => hmax.2 value (h.mem_iff.mp hvalue)⟩

end Order

/-! ### Values between ranks -/

section Interpolation

variable {K : Type*} [Field K] [LinearOrder K] [IsStrictOrderedRing K] [FloorRing K]

/-- The value at a position: of the values at the ranks around it, as far from each as the position
is from its rank. -/
def valueAt (sorted : List K) (position : K) : K :=
  let lower := ⌊position⌋₊
  let upper := ⌈position⌉₊
  let value := sorted.getD lower 0
  if lower = upper then value
  else value + (sorted.getD upper 0 - value) * (position - lower)

variable {sorted : List K} {position : K}

private theorem valueAt_mem_Icc (hsorted : sorted.Pairwise (· ≤ ·))
    (hposition : 0 ≤ position) (hupper : ⌈position⌉₊ < sorted.length) :
    sorted.getD ⌊position⌋₊ 0 ≤ valueAt sorted position ∧
      valueAt sorted position ≤ sorted.getD ⌈position⌉₊ 0 := by
  have hranks : ⌊position⌋₊ ≤ ⌈position⌉₊ := Nat.floor_le_ceil position
  have hvalues : sorted.getD ⌊position⌋₊ 0 ≤ sorted.getD ⌈position⌉₊ 0 :=
    getD_le_getD hsorted hranks hupper 0
  by_cases heq : ⌊position⌋₊ = ⌈position⌉₊
  · simp only [valueAt, if_pos heq]
    exact ⟨le_rfl, hvalues⟩
  · have hfraction : 0 ≤ position - ⌊position⌋₊ := sub_nonneg.mpr (Nat.floor_le hposition)
    have hwhole : position - ⌊position⌋₊ ≤ 1 := by
      have := (Nat.lt_floor_add_one position).le
      linarith
    simp only [valueAt, if_neg heq]
    constructor
    · have := mul_nonneg (sub_nonneg.mpr hvalues) hfraction
      linarith
    · have := mul_le_of_le_one_right (sub_nonneg.mpr hvalues) hwhole
      linarith

/-- **Values between ranks ascend** with their positions. -/
theorem valueAt_mono (hsorted : sorted.Pairwise (· ≤ ·)) {later : K}
    (hposition : 0 ≤ position) (hle : position ≤ later) (hupper : ⌈later⌉₊ < sorted.length) :
    valueAt sorted position ≤ valueAt sorted later := by
  have hceil : ⌈position⌉₊ ≤ ⌈later⌉₊ := Nat.ceil_mono hle
  by_cases hsplit : ⌈position⌉₊ ≤ ⌊later⌋₊
  · -- a rank is between the positions
    have hfloor : ⌊later⌋₊ < sorted.length := lt_of_le_of_lt (Nat.floor_le_ceil later) hupper
    calc valueAt sorted position ≤ sorted.getD ⌈position⌉₊ 0 :=
          (valueAt_mem_Icc hsorted hposition (lt_of_le_of_lt hceil hupper)).2
      _ ≤ sorted.getD ⌊later⌋₊ 0 := getD_le_getD hsorted hsplit hfloor 0
      _ ≤ valueAt sorted later := (valueAt_mem_Icc hsorted (hposition.trans hle) hupper).1
  · -- the positions are between the same two ranks
    have hstrict : ⌊later⌋₊ < ⌈position⌉₊ := not_le.mp hsplit
    have hfloors : ⌊position⌋₊ = ⌊later⌋₊ := by
      have := Nat.floor_mono hle
      have := Nat.ceil_le_floor_add_one position
      omega
    have hceils : ⌈position⌉₊ = ⌈later⌉₊ := by
      have := Nat.ceil_le_floor_add_one later
      omega
    have hne : ⌊later⌋₊ ≠ ⌈later⌉₊ := by omega
    have hvalues : sorted.getD ⌊later⌋₊ 0 ≤ sorted.getD ⌈later⌉₊ 0 :=
      getD_le_getD hsorted (Nat.floor_le_ceil later) hupper 0
    simp only [valueAt, hfloors, hceils, if_neg hne]
    have hstep := mul_le_mul_of_nonneg_left (sub_le_sub_right hle (⌊later⌋₊ : K))
      (sub_nonneg.mpr hvalues)
    linarith

@[simp] theorem valueAt_natCast (sorted : List K) (rank : ℕ) :
    valueAt sorted rank = sorted.getD rank 0 := by
  simp [valueAt]

theorem valueAt_le_valueAt {others : List K} (h : ∀ rank, sorted.getD rank 0 ≤ others.getD rank 0)
    (hposition : 0 ≤ position) : valueAt sorted position ≤ valueAt others position := by
  have hfraction : 0 ≤ position - ⌊position⌋₊ := sub_nonneg.mpr (Nat.floor_le hposition)
  have hwhole : 0 ≤ 1 - (position - ⌊position⌋₊) := by
    have := (Nat.lt_floor_add_one position).le
    linarith
  by_cases heq : ⌊position⌋₊ = ⌈position⌉₊
  · simp only [valueAt, if_pos heq]
    exact h _
  · simp only [valueAt, if_neg heq]
    have hlower := mul_le_mul_of_nonneg_right (h ⌊position⌋₊) hwhole
    have hupper := mul_le_mul_of_nonneg_right (h ⌈position⌉₊) hfraction
    linarith

theorem valueAt_ascending_le {values : List K} {bound : K} (hposition : 0 ≤ position)
    (hupper : ⌈position⌉₊ < values.length) (hcount : ⌈position⌉₊ < values.countP (· ≤ bound)) :
    valueAt (ascending values) position ≤ bound := by
  have hlength : ⌈position⌉₊ < (ascending values).length := by simpa using hupper
  refine (valueAt_mem_Icc (ascending_pairwise values) hposition hlength).2.trans ?_
  rw [getD_eq_getElem _ _ hlength]
  exact of_decide_eq_true
    ((getElem_ascending_below_iff _ (le_bound_of_le bound) hlength).mpr hcount)

theorem le_valueAt_ascending {values : List K} {bound : K} (hposition : 0 ≤ position)
    (hupper : ⌈position⌉₊ < values.length) (hcount : values.countP (· < bound) ≤ ⌊position⌋₊) :
    bound ≤ valueAt (ascending values) position := by
  have hlength : ⌈position⌉₊ < (ascending values).length := by simpa using hupper
  have hlower : ⌊position⌋₊ < (ascending values).length :=
    lt_of_le_of_lt (Nat.floor_le_ceil position) hlength
  have hbelow : ∀ value other : K, value ≤ other → decide (other < bound) = true →
      decide (value < bound) = true := by
    intro value other hle hother
    exact decide_eq_true (lt_of_le_of_lt hle (of_decide_eq_true hother))
  refine le_trans ?_ (valueAt_mem_Icc (ascending_pairwise values) hposition hlength).1
  rw [getD_eq_getElem _ _ hlower, ← not_lt]
  intro hlt
  have := (getElem_ascending_below_iff _ hbelow hlower).mp (decide_eq_true hlt)
  omega

end Interpolation

end OrderStatistic
