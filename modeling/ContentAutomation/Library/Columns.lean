import Mathlib.Data.Int.Notation
import Mathlib.Tactic.Common

/-!
# Columns

What the types of columns take of the values that are written to them.
-/

namespace Relational

/-- A text without the code point zero, which no column takes. -/
def takesText (text : String) : Bool := !text.toList.contains (Char.ofNat 0)

/-- A text of at most so many characters. -/
def takesVarChar (limit : ℕ) (text : String) : Bool :=
  takesText text && text.toList.length ≤ limit

/-- A whole number of 32 bits. -/
def takesInteger (value : ℤ) : Bool := -2147483648 ≤ value && value ≤ 2147483647

theorem takesInteger_natCast {n : ℕ} (h : n ≤ 2147483647) : takesInteger (n : ℤ) = true := by
  simp only [takesInteger, Bool.and_eq_true, decide_eq_true_eq]
  omega

end Relational
