import Mathlib.Data.Int.Log
import Mathlib.Data.Rat.Floor

/-!
# Numbers of the runtime

The program's numbers are binary floating point numbers of 64 bits, used here
through the rationals that they denote. This file defines the number that a
decimal stands for, the nearest one with 53 significant bits, and how far away it
can be.
-/

namespace Binary64

/-- The nearest integer, a tie going to the even one. -/
def roundHalfEven (value : ℚ) : ℤ :=
  if value - ⌊value⌋ < 1 / 2 then ⌊value⌋
  else if 1 / 2 < value - ⌊value⌋ then ⌊value⌋ + 1
  else if ⌊value⌋ % 2 = 0 then ⌊value⌋
  else ⌊value⌋ + 1

/-- The distance between neighbouring numbers around a value. -/
def spacing (value : ℚ) : ℚ := 2 ^ (max (Int.log 2 |value|) (-1022) - 52)

/-- The number nearest to a value that is below the overflow threshold. -/
def nearest (value : ℚ) : ℚ := roundHalfEven (value / spacing value) * spacing value

/-- The value is at or above the threshold from which a result is infinite. -/
def overflows (value : ℚ) : Bool := decide (2 ^ 1024 - 2 ^ 970 ≤ |value|)

/-- The result of an operation whose exact value is given; `none` is infinite. -/
def rounded (value : ℚ) : Option ℚ := if overflows value then none else some (nearest value)

private theorem abs_roundHalfEven_sub_le (value : ℚ) :
    |(roundHalfEven value : ℚ) - value| ≤ 1 / 2 := by
  have hlow := Int.floor_le value
  have hhigh := Int.lt_floor_add_one value
  unfold roundHalfEven
  rw [abs_le]
  split_ifs <;> push_cast <;> constructor <;> linarith

private theorem roundHalfEven_intCast (n : ℤ) : roundHalfEven n = n := by
  unfold roundHalfEven
  rw [Int.floor_intCast, sub_self, if_pos (by norm_num)]

private theorem spacing_pos (value : ℚ) : 0 < spacing value := zpow_pos (by norm_num) _

private theorem abs_nearest_sub_le (value : ℚ) : |nearest value - value| ≤ spacing value / 2 := by
  have hpos := spacing_pos value
  have hround := abs_roundHalfEven_sub_le (value / spacing value)
  have hscaled : nearest value - value =
      (roundHalfEven (value / spacing value) - value / spacing value) * spacing value := by
    unfold nearest
    field_simp
  rw [hscaled, abs_mul, abs_of_pos hpos]
  nlinarith

variable {value : ℚ}

private theorem spacing_le_of_abs_le_one (h : |value| ≤ 1) : spacing value ≤ 2 ^ (-52 : ℤ) := by
  have hlog : Int.log 2 |value| ≤ 0 := by
    rcases eq_or_lt_of_le (abs_nonneg value) with hzero | hpos
    · rw [← hzero, Int.log_zero_right]
    · have hone : Int.log 2 (1 : ℚ) = 0 := Int.log_one_right 2
      rw [← hone]
      exact Int.log_mono_right hpos h
  unfold spacing
  exact zpow_le_zpow_right₀ (by norm_num) (by omega)

theorem abs_nearest_sub_lt (h : |value| ≤ 1) :
    |nearest value - value| < 1 / 1000000000 := by
  have hnear := abs_nearest_sub_le value
  have hpos := spacing_pos value
  have hsmall : spacing value < 1 / 1000000000 :=
    lt_of_le_of_lt (spacing_le_of_abs_le_one h) (by norm_num)
  linarith

private theorem nearest_eq_self {k : ℤ} (h : value = k * spacing value) :
    nearest value = value := by
  have hquotient : value / spacing value = k := by
    rw [div_eq_iff (spacing_pos value).ne']
    exact h
  unfold nearest
  rw [hquotient, roundHalfEven_intCast]
  exact h.symm

/-- An integer of at most 53 bits is a number. -/
theorem nearest_intCast {n : ℤ} (h : |n| < 2 ^ 53) : nearest n = n := by
  rcases eq_or_ne n 0 with rfl | hzero
  · exact nearest_eq_self (k := 0) (by simp)
  have habs : |(n : ℚ)| = (|n| : ℤ) := (Int.cast_abs).symm
  have hone : 1 ≤ |n| := Int.one_le_abs hzero
  have hlow : 0 ≤ Int.log 2 |(n : ℚ)| := by
    have hlog : Int.log 2 (1 : ℚ) ≤ Int.log 2 |(n : ℚ)| :=
      Int.log_mono_right (by norm_num) (by rw [habs]; exact_mod_cast hone)
    rwa [Int.log_one_right] at hlog
  have hpow : (2 : ℚ) ^ Int.log 2 |(n : ℚ)| < 2 ^ (53 : ℤ) := by
    have hpos : 0 < |(n : ℚ)| := by
      rw [habs]
      exact_mod_cast hone
    have hle : (2 : ℚ) ^ Int.log 2 |(n : ℚ)| ≤ |(n : ℚ)| := by
      exact_mod_cast Int.zpow_log_le_self (b := 2) (by norm_num) hpos
    refine hle.trans_lt ?_
    rw [habs]
    exact_mod_cast h
  have hhigh : Int.log 2 |(n : ℚ)| < 53 := (zpow_lt_zpow_iff_right₀ (by norm_num)).mp hpow
  have hspacing : spacing (n : ℚ) = 2 ^ (Int.log 2 |(n : ℚ)| - 52) := by
    unfold spacing
    rw [max_eq_left (by omega)]
  -- The spacing divides one, so every integer is a whole multiple of it.
  refine nearest_eq_self (k := n * 2 ^ (52 - Int.log 2 |(n : ℚ)|).toNat) ?_
  rw [hspacing]
  push_cast
  rw [mul_assoc, ← zpow_natCast, ← zpow_add₀ (by norm_num), Int.toNat_of_nonneg (by omega)]
  simp

private theorem nearest_nonneg (h : 0 ≤ value) : 0 ≤ nearest value := by
  have hpos := spacing_pos value
  have hfloor : 0 ≤ ⌊value / spacing value⌋ := Int.floor_nonneg.mpr (div_nonneg h hpos.le)
  have hround : 0 ≤ roundHalfEven (value / spacing value) := by
    unfold roundHalfEven
    split_ifs <;> omega
  exact mul_nonneg (by exact_mod_cast hround) hpos.le

private theorem spacing_le_of_abs_lt (h : |value| < 2 ^ (1024 : ℤ)) :
    spacing value ≤ 2 ^ (971 : ℤ) := by
  have hlog : Int.log 2 |value| ≤ 1023 := by
    rcases eq_or_lt_of_le (abs_nonneg value) with hzero | hpos
    · rw [← hzero, Int.log_zero_right]
      omega
    · have hle : (2 : ℚ) ^ Int.log 2 |value| ≤ |value| := by
        exact_mod_cast Int.zpow_log_le_self (b := 2) (by norm_num) hpos
      have hlt := (zpow_lt_zpow_iff_right₀ (by norm_num)).mp (hle.trans_lt h)
      omega
  unfold spacing
  exact zpow_le_zpow_right₀ (by norm_num) (by omega)

theorem rounded_spec {result : ℚ} (h : rounded value = some result) (hvalue : 0 ≤ value) :
    0 ≤ result ∧ result < 2 ^ 1024 := by
  unfold rounded at h
  split_ifs at h with hoverflows
  obtain rfl := Option.some.inj h
  have hbelow : |value| < 2 ^ 1024 - 2 ^ 970 := by
    rw [← not_le]
    exact of_decide_eq_false (Bool.eq_false_of_not_eq_true hoverflows)
  have hspacing : spacing value ≤ 2 ^ 971 := by
    have hlt : |value| < 2 ^ (1024 : ℤ) := hbelow.trans_le (by norm_num)
    exact_mod_cast spacing_le_of_abs_lt hlt
  have hnear := abs_nearest_sub_le value
  rw [abs_le] at hnear
  rw [abs_of_nonneg hvalue] at hbelow
  refine ⟨nearest_nonneg hvalue, ?_⟩
  have hhalf : (2 : ℚ) ^ 971 / 2 = 2 ^ 970 := by
    rw [pow_succ, mul_div_assoc, div_self two_ne_zero, mul_one]
  calc nearest value ≤ value + spacing value / 2 := by linarith
    _ ≤ value + 2 ^ 971 / 2 := by gcongr
    _ = value + 2 ^ 970 := by rw [hhalf]
    _ < 2 ^ 1024 - 2 ^ 970 + 2 ^ 970 := by gcongr
    _ = 2 ^ 1024 := sub_add_cancel _ _

end Binary64
