import ContentAutomation.Library.IsoWeek
import ContentAutomation.Library.Joined
import ContentAutomation.Strategy.Candidates

/-!
# Publication weeks

The weeks in which posts were published are told apart by the calendar year of a post and the
number of its week. A week with New Year in it has two such keys, and a year that begins or ends
within a week can give two of its weeks the same one.
-/

namespace ContentAutomation

open Calendar List

/-! ### Keys -/

/-- The day of an instant. -/
def dayOf (instant : ℤ) : ℤ := instant / dayMilliseconds

/-- The number of weeks that some dates of publication are counted as. -/
def countPublicationWeeks (dates : List ℤ) : ℕ := distinct (dates.map publicationWeek)

/-- The years that `Date.UTC` takes to be of the twentieth century. -/
def TwoDigit (year : ℤ) : Prop := 0 ≤ year ∧ year ≤ 99

instance (year : ℤ) : Decidable (TwoDigit year) := inferInstanceAs (Decidable (_ ∧ _))

/-- The day that `Date.UTC` makes of the date of a day. -/
def readDay (day : ℤ) : ℤ := utcDays (dateOf day)

/-- The year that a day is read in. -/
def readYear (year : ℤ) : ℤ := if TwoDigit year then 1900 + year else year

/-- The number that the week of a day is given. -/
def keyNumber (day : ℤ) : ℤ := (thursday day - utcDays ⟨weekYear day, 1, 1⟩ + 7) / 7

private theorem readDay_eq (day : ℤ) :
    readDay day = daysOf { dateOf day with year := readYear (dateOf day).year } := rfl

private theorem utcDays_newYear (year : ℤ) : utcDays ⟨year, 1, 1⟩ = newYear (readYear year) := rfl

private theorem year_readDay (day : ℤ) : (dateOf (readDay day)).year = readYear (dateOf day).year :=
  year_daysOf_withYear day _

private theorem not_twoDigit_readDay (day : ℤ) : ¬ TwoDigit (dateOf (readDay day)).year := by
  rw [year_readDay]
  unfold readYear
  split_ifs with hdigits
  · unfold TwoDigit at *
    omega
  · exact hdigits

private theorem isoWeekNumber_eq (instant : ℤ) :
    isoWeekNumber instant = keyNumber (readDay (dayOf instant)) := by
  have hthursday : thursday (readDay (dayOf instant)) = readDay (dayOf instant) + 4 -
      if (readDay (dayOf instant) + 4) % 7 = 0 then 7 else (readDay (dayOf instant) + 4) % 7 := by
    unfold thursday weekOf
    split <;> omega
  unfold keyNumber weekYear
  rw [hthursday]
  rfl

private theorem publicationWeek_eq_iff {instant other : ℤ} :
    publicationWeek instant = publicationWeek other ↔
      (dateOf (dayOf instant)).year = (dateOf (dayOf other)).year ∧
        keyNumber (readDay (dayOf instant)) = keyNumber (readDay (dayOf other)) := by
  unfold publicationWeek
  rw [isoWeekNumber_eq, isoWeekNumber_eq]
  constructor
  · exact JoinedText.hyphenated_inj
  · rintro ⟨hyear, hnumber⟩
    rw [hnumber]
    exact congrArg (fun year => toString year ++ "-" ++ _) hyear

/-! ### Days of one calendar year -/

/-- A day outside the year that its week belongs to, whose week has the number of a week of its
own year. -/
def SharesNumber (day other : ℤ) : Prop :=
  OutsideWeekYear day ∧ ¬ OutsideWeekYear other ∧ weekNumber day = weekNumber other ∧
    ¬ TwoDigit (weekYear day)

section OneYear

variable {day other : ℤ}

private theorem keyNumber_eq (h : ¬ TwoDigit (weekYear day)) : keyNumber day = weekNumber day := by
  unfold keyNumber weekNumber
  rw [utcDays_newYear, readYear, if_neg h]

private theorem keyNumber_neg (h : TwoDigit (weekYear day)) : keyNumber day < 0 := by
  have hlong : newYear (weekYear day + 1) + 365 ≤ newYear (1900 + weekYear day) := by
    have htwo := le_newYear_add_two (weekYear day)
    have hmono : newYear (weekYear day + 2) ≤ newYear (1900 + weekYear day) :=
      newYear_strictMono.monotone (by omega)
    omega
  have hbefore : thursday day < newYear (weekYear day + 1) := (year_spec (thursday day)).2
  unfold keyNumber
  rw [utcDays_newYear, readYear, if_pos h]
  omega

private theorem weekNumber_pos (day : ℤ) : 0 < weekNumber day := by
  have hstart : newYear (weekYear day) ≤ thursday day := (year_spec (thursday day)).1
  unfold weekNumber
  omega

/-- The first days of a year can be in a week of the year before it, whose number is 52 or
more, and its last days in the first week of the year after it. -/
theorem weekNumber_of_outside (h : OutsideWeekYear day) :
    weekYear day = (dateOf day).year + 1 ∧ weekNumber day = 1 ∧
        newYear ((dateOf day).year + 1) - 3 ≤ day ∨
      weekYear day = (dateOf day).year - 1 ∧ 52 ≤ weekNumber day ∧
        day < newYear (dateOf day).year + 3 := by
  have hstart : newYear (weekYear day) ≤ thursday day := (year_spec (thursday day)).1
  have hend : thursday day < newYear (weekYear day + 1) := (year_spec (thursday day)).2
  have hnear := thursday_spec day
  rcases year_cases day with ⟨hinside, -⟩ | ⟨-, hyear, hday, hthursday⟩ | ⟨-, hyear, hthursday⟩
  · exact absurd h hinside
  · refine .inl ⟨hyear.symm, ?_, ?_⟩
    · unfold weekNumber
      omega
    · rw [hyear]
      exact hday
  · have hlength := newYear_succ (weekYear day)
    rw [← hyear] at hthursday hend hlength
    refine .inr ⟨by omega, ?_, by omega⟩
    unfold weekNumber
    omega

private theorem weekYear_of_not_outside (h : ¬ OutsideWeekYear day) :
    weekYear day = (dateOf day).year :=
  (not_not.mp h).symm

variable (hyear : (dateOf day).year = (dateOf other).year)

include hyear

/-- Of a year without two digits, days outside the years of their weeks share the number that is
given to their weeks only within a week. -/
theorem keyNumber_eq_iff_of_outside (hdigits : ¬ TwoDigit (dateOf day).year)
    (hday : OutsideWeekYear day) (hother : OutsideWeekYear other) :
    keyNumber day = keyNumber other ↔ weekOf day = weekOf other := by
  have hsame (h : weekYear day = weekYear other) :
      keyNumber day = keyNumber other ↔ weekOf day = weekOf other := by
    unfold keyNumber thursday
    rw [h]
    omega
  have hnotboth (hearly : TwoDigit ((dateOf day).year - 1)) :
      ¬ TwoDigit ((dateOf day).year + 1) := by
    unfold TwoDigit at *
    omega
  have hdifferent {first last : ℤ} (hfirst : weekYear first = (dateOf day).year - 1)
      (hnumber : 52 ≤ weekNumber first) (hlast : weekYear last = (dateOf day).year + 1)
      (hone : weekNumber last = 1) : keyNumber first ≠ keyNumber last := by
    intro hkey
    by_cases hearly : TwoDigit (weekYear first)
    · have hneg := keyNumber_neg hearly
      rw [hfirst] at hearly
      rw [hkey, keyNumber_eq (by rw [hlast]; exact hnotboth hearly)] at hneg
      omega
    · rw [keyNumber_eq hearly] at hkey
      by_cases hlate : TwoDigit (weekYear last)
      · have hneg := keyNumber_neg hlate
        omega
      · rw [keyNumber_eq hlate] at hkey
        omega
  rcases weekNumber_of_outside hday with ⟨hweek, hone, -⟩ | ⟨hweek, hnumber, -⟩ <;>
    rcases weekNumber_of_outside hother with ⟨hweek', hone', -⟩ | ⟨hweek', hnumber', -⟩ <;>
    rw [← hyear] at hweek'
  · exact hsame (hweek.trans hweek'.symm)
  · refine iff_of_false (hdifferent hweek' hnumber' hweek hone).symm fun h => ?_
    have hyears := weekYear_congr h
    omega
  · refine iff_of_false (hdifferent hweek hnumber hweek' hone') fun h => ?_
    have hyears := weekYear_congr h
    omega
  · exact hsame (hweek.trans hweek'.symm)

private theorem weekOf_ne_of_outside (hday : OutsideWeekYear day)
    (hother : ¬ OutsideWeekYear other) :
    weekOf day ≠ weekOf other := by
  intro h
  have hweek := weekYear_of_not_outside hother
  rw [← weekYear_congr h, ← hyear] at hweek
  exact hday hweek.symm

private theorem keyNumber_eq_iff_sharesNumber (hdigits : ¬ TwoDigit (dateOf day).year)
    (hday : OutsideWeekYear day) (hother : ¬ OutsideWeekYear other) :
    keyNumber day = keyNumber other ↔ SharesNumber day other := by
  have hkey : keyNumber other = weekNumber other := by
    refine keyNumber_eq ?_
    rw [weekYear_of_not_outside hother, ← hyear]
    exact hdigits
  by_cases hweek : TwoDigit (weekYear day)
  · have hneg := keyNumber_neg hweek
    have hpos := weekNumber_pos other
    exact iff_of_false (by omega) fun h => h.2.2.2 hweek
  · rw [hkey, keyNumber_eq hweek]
    exact ⟨fun h => ⟨hday, hother, h, hweek⟩, fun h => h.2.2.1⟩

/-- Days of one year without two digits have weeks of the same number given to them when they are
in the same week, or when one is outside the year of its week and its number is a number of the
other's. -/
theorem keyNumber_eq_iff (hdigits : ¬ TwoDigit (dateOf day).year) :
    keyNumber day = keyNumber other ↔
      weekOf day = weekOf other ∨ SharesNumber day other ∨ SharesNumber other day := by
  have hdigits' : ¬ TwoDigit (dateOf other).year := by rwa [← hyear]
  by_cases hday : OutsideWeekYear day <;> by_cases hother : OutsideWeekYear other
  · rw [keyNumber_eq_iff_of_outside hyear hdigits hday hother]
    refine ⟨.inl, fun h => h.elim id fun h => ?_⟩
    rcases h with hshares | hshares
    · exact absurd hother hshares.2.1
    · exact absurd hday hshares.2.1
  · rw [keyNumber_eq_iff_sharesNumber hyear hdigits hday hother]
    have hweek := weekOf_ne_of_outside hyear hday hother
    exact ⟨fun h => .inr (.inl h), fun h => h.elim (fun h => absurd h hweek) fun h =>
      h.elim id fun h => absurd h.1 hother⟩
  · rw [eq_comm, keyNumber_eq_iff_sharesNumber hyear.symm hdigits' hother hday]
    have hweek := weekOf_ne_of_outside hyear.symm hother hday
    exact ⟨fun h => .inr (.inr h), fun h => h.elim (fun h => absurd h.symm hweek) fun h =>
      h.elim (fun h => absurd h.1 hday) id⟩
  · have hweekYear : weekYear day = weekYear other := by
      rw [weekYear_of_not_outside hday, weekYear_of_not_outside hother, hyear]
    rw [keyNumber_eq (by rwa [weekYear_of_not_outside hday]),
      keyNumber_eq (by rwa [weekYear_of_not_outside hother]), weekOf_eq_iff]
    exact ⟨fun h => .inl ⟨hweekYear, h⟩, fun h => h.elim And.right fun h =>
      h.elim (fun h => absurd h.1 hday) fun h => absurd h.1 hother⟩

theorem SharesNumber.apart (h : SharesNumber day other) : 300 < |day - other| := by
  obtain ⟨hday, hother, hnumber, -⟩ := h
  have hweek := weekYear_of_not_outside hother
  have hlength := newYear_succ (dateOf day).year
  have hnear := thursday_spec other
  unfold weekNumber at hnumber
  rw [hweek, ← hyear] at hnumber
  rcases weekNumber_of_outside hday with ⟨-, hone, hlast⟩ | ⟨-, hmany, hfirst⟩
  · unfold weekNumber at hone
    refine lt_of_lt_of_le ?_ (le_abs_self _)
    omega
  · unfold weekNumber at hmany
    refine lt_of_lt_of_le ?_ (neg_le_abs _)
    omega

end OneYear

private theorem weekOf_ne_of_sharesNumber {day other : ℤ}
    (hyear : (dateOf day).year = (dateOf other).year)
    (h : SharesNumber (readDay day) (readDay other)) : weekOf day ≠ weekOf other := by
  have hread : (dateOf (readDay day)).year = (dateOf (readDay other)).year := by
    rw [year_readDay, year_readDay, hyear]
  have hapart := h.apart hread
  have hclose := distance_daysOf_withYear hyear (readYear (dateOf day).year)
  rw [readDay_eq, readDay_eq, ← hyear] at hapart
  intro hsame
  unfold weekOf at hsame
  rw [abs_le] at hclose
  rw [lt_abs] at hapart
  omega

/-! ### Counting -/

/-- What tells two dates of publication apart when they are counted, by their days. -/
structure Unconfused (day other : ℤ) : Prop where
  /-- New Year is not between days of one week. -/
  newYear : weekOf day = weekOf other → (dateOf day).year = (dateOf other).year
  /-- No day outside the year of its week shares its number with a day of its calendar year. -/
  number : (dateOf day).year = (dateOf other).year → ¬ SharesNumber (readDay day) (readDay other)
  /-- The weeks of a year of two digits are those of the year of the twentieth century. -/
  century : (dateOf day).year = (dateOf other).year →
    (weekOf (readDay day) = weekOf (readDay other) ↔ weekOf day = weekOf other)

/-- Lists of keys that tell the same entries apart have as many distinct ones. -/
theorem distinct_map_congr {T U V : Type*} [DecidableEq U] [DecidableEq V] {key : T → U}
    {week : T → V} {entries : List T}
    (h : ∀ entry ∈ entries, ∀ other ∈ entries, key entry = key other ↔ week entry = week other) :
    distinct (entries.map key) = distinct (entries.map week) := by
  unfold distinct
  induction entries with
  | nil => rfl
  | cons entry entries ih =>
    have hrest := ih fun entry hentry other hother =>
      h entry (mem_cons_of_mem _ hentry) other (mem_cons_of_mem _ hother)
    have hmem : key entry ∈ entries.map key ↔ week entry ∈ entries.map week := by
      simp only [mem_map]
      refine exists_congr fun other => and_congr_right fun hother => ?_
      exact h other (mem_cons_of_mem _ hother) entry mem_cons_self
    rw [map_cons, map_cons]
    by_cases hkey : key entry ∈ entries.map key
    · rw [dedup_cons_of_mem hkey, dedup_cons_of_mem (hmem.mp hkey), hrest]
    · rw [dedup_cons_of_notMem hkey, dedup_cons_of_notMem (hmem.not.mp hkey),
        length_cons, length_cons, hrest]

/-- The keys of two dates are the same just when their weeks are, both ways round, exactly when
they are unconfused. -/
theorem keys_iff_unconfused (instant other : ℤ) :
    (publicationWeek instant = publicationWeek other ↔
        weekOf (dayOf instant) = weekOf (dayOf other)) ↔
      Unconfused (dayOf instant) (dayOf other) ∧ Unconfused (dayOf other) (dayOf instant) := by
  rw [publicationWeek_eq_iff]
  generalize dayOf instant = day
  generalize dayOf other = other
  by_cases hyear : (dateOf day).year = (dateOf other).year
  · have hread : (dateOf (readDay day)).year = (dateOf (readDay other)).year := by
      rw [year_readDay, year_readDay, hyear]
    rw [keyNumber_eq_iff hread (not_twoDigit_readDay day)]
    constructor
    · rintro ⟨hto, hfrom⟩
      have hto := fun hkey => hto ⟨hyear, hkey⟩
      have hday : ¬ SharesNumber (readDay day) (readDay other) := fun hshares =>
        weekOf_ne_of_sharesNumber hyear hshares (hto (.inr (.inl hshares)))
      have hother : ¬ SharesNumber (readDay other) (readDay day) := fun hshares =>
        weekOf_ne_of_sharesNumber hyear.symm hshares (hto (.inr (.inr hshares))).symm
      have hweek : weekOf (readDay day) = weekOf (readDay other) ↔ weekOf day = weekOf other := by
        refine ⟨fun hsame => hto (.inl hsame), fun hsame => ?_⟩
        exact (hfrom hsame).2.elim id fun h => h.elim (absurd · hday) (absurd · hother)
      exact ⟨⟨fun _ => hyear, fun _ => hday, fun _ => hweek⟩,
        ⟨fun _ => hyear.symm, fun _ => hother, fun _ => by rw [eq_comm, hweek, eq_comm]⟩⟩
    · rintro ⟨hday, hother⟩
      have hweek := hday.century hyear
      constructor
      · rintro ⟨-, hsame | hshares | hshares⟩
        · exact hweek.mp hsame
        · exact absurd hshares (hday.number hyear)
        · exact absurd hshares (hother.number hyear.symm)
      · exact fun hsame => ⟨hyear, .inl (hweek.mpr hsame)⟩
  · constructor
    · intro h
      have hweek : weekOf day ≠ weekOf other := fun hsame => hyear (h.mpr hsame).1
      exact ⟨⟨fun hsame => absurd hsame hweek, fun h => absurd h hyear, fun h => absurd h hyear⟩,
        ⟨fun hsame => absurd hsame.symm hweek, fun h => absurd h.symm hyear,
          fun h => absurd h.symm hyear⟩⟩
    · rintro ⟨hday, -⟩
      exact ⟨fun h => absurd h.1 hyear, fun hsame => absurd (hday.newYear hsame) hyear⟩

/-- **Weeks as counted.** The dates of any list are counted by the weeks they are in, no week being
counted twice and no two weeks as one, exactly when any two of the dates are unconfused. -/
theorem countPublicationWeeks_iff (dates : List ℤ) :
    (countPublicationWeeks dates = distinct (dates.map fun date => weekOf (dayOf date)) ∧
        ∀ date ∈ dates, ∀ other ∈ dates,
          (publicationWeek date = publicationWeek other ↔
            weekOf (dayOf date) = weekOf (dayOf other))) ↔
      ∀ date ∈ dates, ∀ other ∈ dates, Unconfused (dayOf date) (dayOf other) := by
  constructor
  · rintro ⟨-, hkeys⟩ date hdate other hother
    exact ((keys_iff_unconfused date other).mp (hkeys date hdate other hother)).1
  · intro h
    have hkeys : ∀ date ∈ dates, ∀ other ∈ dates, (publicationWeek date = publicationWeek other ↔
        weekOf (dayOf date) = weekOf (dayOf other)) := fun date hdate other hother =>
      (keys_iff_unconfused date other).mpr ⟨h date hdate other hother, h other hother date hdate⟩
    exact ⟨distinct_map_congr hkeys, hkeys⟩

/-- **A week that is counted twice.** The last day of 2025 and the first of 2026 are in one week,
and are counted as two. -/
theorem week_is_counted_twice : ¬ ∀ dates : List ℤ,
    countPublicationWeeks dates = distinct (dates.map fun date => weekOf (dayOf date)) ∧
      ∀ date ∈ dates, ∀ other ∈ dates, (publicationWeek date = publicationWeek other ↔
        weekOf (dayOf date) = weekOf (dayOf other)) := by
  intro h
  have htwice : countPublicationWeeks [1767182400000, 1767268800000] = 2 := by decide
  have hone : distinct ([1767182400000, 1767268800000].map fun date => weekOf (dayOf date)) = 1 := by
    decide
  have hsame := (h [1767182400000, 1767268800000]).1
  omega

-- the first of January and the 30th of December 2024 are both in a first week
example : countPublicationWeeks [1704110400000, 1735560000000] = 1 := by decide

end ContentAutomation
