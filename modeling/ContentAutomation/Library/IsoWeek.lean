import ContentAutomation.Library.CalendarText
import Mathlib.Data.Int.ConditionallyCompleteOrder
import Mathlib.Order.SuccPred.IntervalSucc
import Mathlib.Tactic.Linarith

/-!
# Weeks

Weeks run from Monday to Sunday, and belong to the calendar year that their Thursday is in. The
first days of a year can be in the last week of the year before it, and its last days in the first
week of the next one.
-/

namespace Calendar

/-! ### The days of a year -/

/-- The first of March of a year. -/
def marchFirst (year : ℤ) : ℤ := year / 400 * 146097 + yearStart (year % 400).toNat - 719468

/-- The first of January of a year. -/
def newYear (year : ℤ) : ℤ := daysOf ⟨year, 1, 1⟩

private theorem marchFirst_succ (year : ℤ) :
    marchFirst (year + 1) = marchFirst year + 365 ∨
      marchFirst (year + 1) = marchFirst year + 366 := by
  unfold marchFirst yearStart
  by_cases hlast : year % 400 = 399
  · have hmod : (year + 1) % 400 = 0 := by omega
    have hdiv : (year + 1) / 400 = year / 400 + 1 := by omega
    rw [hmod, hdiv, hlast]
    omega
  · have hmod : ((year + 1) % 400).toNat = (year % 400).toNat + 1 := by omega
    have hdiv : (year + 1) / 400 = year / 400 := by omega
    rw [hmod, hdiv]
    omega

private theorem newYear_eq (year : ℤ) : newYear year = marchFirst (year - 1) + 306 := by
  unfold newYear daysOf marchFirst
  dsimp only
  rw [if_neg (by decide), if_neg (by decide)]
  omega

theorem newYear_succ (year : ℤ) :
    newYear (year + 1) = newYear year + 365 ∨ newYear (year + 1) = newYear year + 366 := by
  have hmarch := marchFirst_succ (year - 1)
  rw [sub_add_cancel] at hmarch
  rw [newYear_eq, newYear_eq, add_sub_cancel_right]
  omega

theorem le_newYear_add_two (year : ℤ) : newYear (year + 1) + 365 ≤ newYear (year + 2) := by
  have hsucc := newYear_succ (year + 1)
  have htwo : year + 1 + 1 = year + 2 := by omega
  rw [htwo] at hsucc
  omega

theorem newYear_strictMono : StrictMono newYear :=
  strictMono_int_of_lt_succ fun year => by
    have hsucc := newYear_succ year
    omega

theorem year_spec (day : ℤ) :
    newYear (dateOf day).year ≤ day ∧ day < newYear ((dateOf day).year + 1) := by
  have hera : ((day + 719468) % 146097).toNat < 146097 := by omega
  obtain ⟨hyear, hstart, hday⟩ := yearOfEra_spec hera
  have hsplit : (day + 719468) / 146097 * 146097 + ((day + 719468) % 146097).toNat =
      day + 719468 := by omega
  rw [newYear_eq, newYear_eq, add_sub_cancel_right]
  unfold dateOf
  dsimp only
  rw [← yearOfEra, ← yearStart]
  generalize ((day + 719468) % 146097).toNat = dayOfEra at *
  generalize (day + 719468) / 146097 = era at *
  generalize hyear' : yearOfEra dayOfEra = year at *
  have hmarch : marchFirst (era * 400 + year) = era * 146097 + yearStart year - 719468 := by
    have hdiv : (era * 400 + year) / 400 = era := by omega
    have hmod : ((era * 400 + year) % 400).toNat = year := by omega
    rw [marchFirst, hdiv, hmod]
  have hbefore := marchFirst_succ (era * 400 + year - 1)
  have hafter := marchFirst_succ (era * 400 + year)
  rw [sub_add_cancel] at hbefore
  by_cases hspring : (5 * (dayOfEra - yearStart year) + 2) / 153 < 10
  · rw [if_pos hspring, add_zero]
    omega
  · rw [if_neg hspring, add_sub_cancel_right]
    omega

private theorem year_eq_iff {day year : ℤ} :
    (dateOf day).year = year ↔ newYear year ≤ day ∧ day < newYear (year + 1) := by
  constructor
  · rintro rfl
    exact year_spec day
  · rintro ⟨hstart, hend⟩
    obtain ⟨hstart', hend'⟩ := year_spec day
    have hle : year < (dateOf day).year + 1 := newYear_strictMono.lt_iff_lt.mp (by omega)
    have hge : (dateOf day).year < year + 1 := newYear_strictMono.lt_iff_lt.mp (by omega)
    omega

/-- A date is as far into the year that begins in March in whatever year it is taken. -/
theorem exists_dayOfYear (day : ℤ) : ∃ dayOfYear : ℕ, dayOfYear < 366 ∧ ∀ year,
    daysOf { dateOf day with year } =
      marchFirst (if dayOfYear < 306 then year else year - 1) + dayOfYear := by
  have hera : ((day + 719468) % 146097).toNat < 146097 := by omega
  obtain ⟨-, -, hday⟩ := yearOfEra_spec hera
  obtain ⟨hmonth, hfirst⟩ := month_spec hday
  refine ⟨_, hday, fun year => ?_⟩
  unfold dateOf
  dsimp only
  rw [← yearOfEra, ← yearStart]
  generalize ((day + 719468) % 146097).toNat - yearStart
    (yearOfEra ((day + 719468) % 146097).toNat) = dayOfYear at *
  generalize hmonth' : (5 * dayOfYear + 2) / 153 = month at *
  by_cases hspring : month < 10
  · have hmarch : 2 < month + 3 := by omega
    have hearly : dayOfYear < 306 := by omega
    unfold daysOf marchFirst
    simp only [if_pos hspring, if_pos hmarch, if_pos hearly]
    omega
  · have hjanuary : ¬ 2 < month - 9 := by omega
    have hlate : ¬ dayOfYear < 306 := by omega
    unfold daysOf marchFirst
    simp only [if_neg hspring, if_neg hjanuary, if_neg hlate]
    omega

theorem year_daysOf_withYear (day year : ℤ) :
    (dateOf (daysOf { dateOf day with year })).year = year := by
  obtain ⟨dayOfYear, hlt, hdays⟩ := exists_dayOfYear day
  have hbefore := marchFirst_succ (year - 1)
  rw [sub_add_cancel] at hbefore
  rw [year_eq_iff, newYear_eq, newYear_eq, add_sub_cancel_right, hdays]
  split <;> omega

/-- Dates of one year keep their distance when they are taken in another one, up to its leap
day. -/
theorem distance_daysOf_withYear {day other : ℤ} (h : (dateOf day).year = (dateOf other).year)
    (year : ℤ) : |daysOf { dateOf day with year } - daysOf { dateOf other with year } -
      (day - other)| ≤ 1 := by
  obtain ⟨dayOfYear, hlt, hdays⟩ := exists_dayOfYear day
  obtain ⟨dayOfYear', hlt', hdays'⟩ := exists_dayOfYear other
  have hday := hdays (dateOf day).year
  have hother := hdays' (dateOf day).year
  rw [daysOf_dateOf] at hday
  rw [h, daysOf_dateOf] at hother
  have hyear := marchFirst_succ (year - 1)
  have hsame := marchFirst_succ ((dateOf other).year - 1)
  rw [sub_add_cancel] at hyear hsame
  rw [h] at hday
  rw [hdays, hdays', abs_le]
  split_ifs at * <;> omega

/-! ### Weeks -/

/-- The week of a day, counted from that of the epoch, which was a Thursday. -/
def weekOf (day : ℤ) : ℤ := (day + 3) / 7

/-- The Thursday of a day's week. -/
def thursday (day : ℤ) : ℤ := 7 * weekOf day

/-- The year that a day's week belongs to. -/
def weekYear (day : ℤ) : ℤ := (dateOf (thursday day)).year

/-- The number of a day's week in the year it belongs to. -/
def weekNumber (day : ℤ) : ℤ := (thursday day - newYear (weekYear day) + 7) / 7

/-- The day is outside the year that its week belongs to. -/
def OutsideWeekYear (day : ℤ) : Prop := (dateOf day).year ≠ weekYear day

instance (day : ℤ) : Decidable (OutsideWeekYear day) := inferInstanceAs (Decidable (_ ≠ _))

theorem thursday_spec (day : ℤ) : thursday day - 3 ≤ day ∧ day ≤ thursday day + 3 := by
  unfold thursday weekOf
  omega

private theorem thursday_eq_iff {day other : ℤ} : thursday day = thursday other ↔
    weekOf day = weekOf other := by
  unfold thursday
  omega

theorem weekYear_congr {day other : ℤ} (h : weekOf day = weekOf other) :
    weekYear day = weekYear other := by
  rw [weekYear, weekYear, thursday_eq_iff.mpr h]

theorem weekOf_eq_iff {day other : ℤ} : weekOf day = weekOf other ↔
    weekYear day = weekYear other ∧ weekNumber day = weekNumber other := by
  constructor
  · intro h
    refine ⟨weekYear_congr h, ?_⟩
    rw [weekNumber, weekNumber, thursday_eq_iff.mpr h, weekYear_congr h]
  · rintro ⟨hyear, hnumber⟩
    unfold weekNumber thursday at hnumber
    rw [hyear] at hnumber
    omega

/-- A day is in the year of its week, in the last days of the year before or in the first days of
the year after. -/
theorem year_cases (day : ℤ) :
    ¬ OutsideWeekYear day ∧ (dateOf day).year = weekYear day ∨
      OutsideWeekYear day ∧ (dateOf day).year + 1 = weekYear day ∧
        newYear (weekYear day) - 3 ≤ day ∧ thursday day < newYear (weekYear day) + 3 ∨
      OutsideWeekYear day ∧ (dateOf day).year = weekYear day + 1 ∧
        newYear (weekYear day + 1) - 3 ≤ thursday day := by
  unfold OutsideWeekYear
  obtain ⟨hstart, hend⟩ := year_spec day
  obtain ⟨hweek, hweek'⟩ : newYear (weekYear day) ≤ thursday day ∧
      thursday day < newYear (weekYear day + 1) := year_spec (thursday day)
  obtain ⟨hbefore, hafter⟩ := thursday_spec day
  rcases lt_trichotomy (dateOf day).year (weekYear day) with hless | hsame | hmore
  · have hle : newYear ((dateOf day).year + 1) ≤ newYear (weekYear day) :=
      newYear_strictMono.monotone (by omega)
    have hnear : weekYear day < (dateOf day).year + 2 := by
      have hnext := le_newYear_add_two (dateOf day).year
      exact newYear_strictMono.lt_iff_lt.mp (by omega)
    refine Or.inr (Or.inl ⟨hless.ne, by omega, by omega, by omega⟩)
  · exact Or.inl ⟨fun h => h hsame, hsame⟩
  · have hle : newYear (weekYear day + 1) ≤ newYear (dateOf day).year :=
      newYear_strictMono.monotone (by omega)
    have hnear : (dateOf day).year < weekYear day + 2 := by
      have hnext := le_newYear_add_two (weekYear day)
      exact newYear_strictMono.lt_iff_lt.mp (by omega)
    refine Or.inr (Or.inr ⟨hmore.ne', by omega, by omega⟩)

end Calendar
