import Mathlib.Algebra.Group.Nat.Defs
import Mathlib.Data.List.Basic

/-!
# Dates as text

Instants are counted in milliseconds from the epoch. Their text is that of
`Date.prototype.toISOString`; its first ten characters depend on the day alone.
-/

namespace Calendar

open List

def dayMilliseconds : ℤ := 86400000

/-- A date of the proleptic Gregorian calendar. -/
structure Date where
  year : ℤ
  month : ℕ
  day : ℕ
  deriving DecidableEq

/-- The date of a day, counted from the epoch. Years are taken to begin in March, so that
the leap day is their last one, and 400 of them are an era of 146097 days. -/
def dateOf (days : ℤ) : Date :=
  let shifted := days + 719468
  let dayOfEra := (shifted % 146097).toNat
  let yearOfEra := (dayOfEra - dayOfEra / 1460 + dayOfEra / 36524 - dayOfEra / 146096) / 365
  let dayOfYear := dayOfEra - (365 * yearOfEra + yearOfEra / 4 - yearOfEra / 100)
  let month := (5 * dayOfYear + 2) / 153
  { year := shifted / 146097 * 400 + yearOfEra + if month < 10 then 0 else 1
    month := if month < 10 then month + 3 else month - 9
    day := dayOfYear - (153 * month + 2) / 5 + 1 }

/-- The decimal digits of a number, with zeros in front of them up to a width. -/
def padded (width number : ℕ) : String :=
  String.ofList (List.replicate (width - (Nat.toDigits 10 number).length) '0' ++
    Nat.toDigits 10 number)

/-- The text of a year: four digits, or a sign and six. -/
def yearText (year : ℤ) : String :=
  if 0 ≤ year ∧ year ≤ 9999 then padded 4 year.toNat
  else if year < 0 then "-" ++ padded 6 year.natAbs
  else "+" ++ padded 6 year.natAbs

/-- The text of a date. -/
def Date.text (date : Date) : String :=
  yearText date.year ++ "-" ++ padded 2 date.month ++ "-" ++ padded 2 date.day

/-- The text of a time of day, given in milliseconds. -/
def timeText (milliseconds : ℕ) : String :=
  padded 2 (milliseconds / 3600000) ++ ":" ++ padded 2 (milliseconds / 60000 % 60) ++ ":" ++
    padded 2 (milliseconds / 1000 % 60) ++ "." ++ padded 3 (milliseconds % 1000)

/-- `Date.prototype.toISOString`. -/
def toISOString (instant : ℤ) : String :=
  (dateOf (instant / dayMilliseconds)).text ++ "T" ++
    timeText (instant % dayMilliseconds).toNat ++ "Z"

/-- `text.slice(0, count)`. -/
def sliceFirst (count : ℕ) (text : String) : String := String.ofList (text.toList.take count)

theorem isDigit_of_mem_padded {width number : ℕ} {c : Char}
    (h : c ∈ (padded width number).toList) : c.isDigit := by
  unfold padded at h
  rw [String.toList_ofList, mem_append, mem_replicate] at h
  rcases h with ⟨-, rfl⟩ | hdigit
  · decide
  · exact Nat.isDigit_of_mem_toDigits (by omega) (by omega) hdigit

theorem Date.mem_text {date : Date} {c : Char} (h : c ∈ date.text.toList) :
    c.isDigit ∨ c = '-' ∨ c = '+' := by
  have hyear : c ∈ (yearText date.year).toList → c.isDigit = true ∨ c = '-' ∨ c = '+' := by
    intro hmem
    unfold yearText at hmem
    split_ifs at hmem
    · exact .inl (isDigit_of_mem_padded hmem)
    · rw [String.toList_append, mem_append] at hmem
      rcases hmem with hsign | hdigit
      · exact .inr (.inl (mem_singleton.mp hsign))
      · exact .inl (isDigit_of_mem_padded hdigit)
    · rw [String.toList_append, mem_append] at hmem
      rcases hmem with hsign | hdigit
      · exact .inr (.inr (mem_singleton.mp hsign))
      · exact .inl (isDigit_of_mem_padded hdigit)
  unfold Date.text at h
  simp only [String.toList_append, mem_append] at h
  rcases h with (((hmem | hdash) | hmonth) | hdash) | hday
  · exact hyear hmem
  · exact .inr (.inl (mem_singleton.mp hdash))
  · exact .inl (isDigit_of_mem_padded hmonth)
  · exact .inr (.inl (mem_singleton.mp hdash))
  · exact .inl (isDigit_of_mem_padded hday)

example : toISOString 1772323199999 = "2026-02-28T23:59:59.999Z" := by decide

example : dateOf (-719529) = ⟨-1, 12, 31⟩ := by decide

end Calendar
