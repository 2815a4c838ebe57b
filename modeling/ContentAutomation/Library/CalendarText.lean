import ContentAutomation.Library.Calendar
import ContentAutomation.Library.Utf16
import Mathlib.Data.Bool.AllAny

/-!
# Dates read from text

`new Date(text)`. The texts that `toISOString` writes are read as the instants they were written
for; what the others stand for is left to a parameter.
-/

namespace Calendar

open Utf16 List

/-! ### The day of a date -/

/-- The day on which a year of an era begins. -/
def yearStart (year : ℕ) : ℕ := 365 * year + year / 4 - year / 100

/-- The day of a date, counted from the epoch. -/
def daysOf (date : Date) : ℤ :=
  let year := if 2 < date.month then date.year else date.year - 1
  let month := if 2 < date.month then date.month - 3 else date.month + 9
  let dayOfYear := (153 * month + 2) / 5 + date.day - 1
  year / 400 * 146097 + (yearStart (year % 400).toNat + dayOfYear : ℕ) - 719468

/-- The year of an era that a day of it is in. -/
def yearOfEra (dayOfEra : ℕ) : ℕ :=
  (dayOfEra - dayOfEra / 1460 + dayOfEra / 36524 - dayOfEra / 146096) / 365

/-- A day of an era is in one of its centuries, in four years of that, and in one of these; the
last of four years has a leap day unless the century ends with it, which the last one may. -/
theorem exists_dayOfEra {dayOfEra : ℕ} (h : dayOfEra < 146097) :
    ∃ century four year day, century < 4 ∧ four < 25 ∧ year < 4 ∧
      (day < 365 ∨ (day = 365 ∧ year = 3 ∧ (four < 24 ∨ century = 3))) ∧
      dayOfEra = 36524 * century + 1461 * four + 365 * year + day := by
  let century := min 3 (dayOfEra / 36524)
  let dayOfCentury := dayOfEra - 36524 * century
  let year := min 3 (dayOfCentury % 1461 / 365)
  refine ⟨century, dayOfCentury / 1461, year, dayOfCentury % 1461 - 365 * year, ?_⟩
  omega

private theorem yearStart_eq {century four year : ℕ} (hfour : four < 25) (hyear : year < 4) :
    yearStart (100 * century + 4 * four + year) =
      36524 * century + 1461 * four + 365 * year := by
  unfold yearStart
  omega

private theorem yearOfEra_eq {century four year day : ℕ} (hcentury : century < 4)
    (hfour : four < 25)
    (hyear : year < 4) (hday : day < 365 ∨ (day = 365 ∧ year = 3 ∧ (four < 24 ∨ century = 3))) :
    yearOfEra (36524 * century + 1461 * four + 365 * year + day) =
      100 * century + 4 * four + year := by
  -- The era's last day is the one that its centuries of equal length leave over.
  have hcenturies : (36524 * century + 1461 * four + 365 * year + day) / 36524 =
      if day = 365 ∧ century = 3 ∧ four = 24 then 4 else century := by
    split <;> omega
  have hera : (36524 * century + 1461 * four + 365 * year + day) / 146096 =
      if day = 365 ∧ century = 3 ∧ four = 24 then 1 else 0 := by
    split <;> omega
  have hfours : (36524 * century + 1461 * four + 365 * year + day) / 1460 =
      25 * century + four +
        (if 1460 ≤ 24 * century + four + 365 * year + day then 1 else 0) := by
    split <;> omega
  unfold yearOfEra
  rw [hcenturies, hera, hfours]
  split_ifs <;> omega

theorem yearOfEra_spec {dayOfEra : ℕ} (h : dayOfEra < 146097) :
    yearOfEra dayOfEra < 400 ∧ yearStart (yearOfEra dayOfEra) ≤ dayOfEra ∧
      dayOfEra - yearStart (yearOfEra dayOfEra) < 366 := by
  obtain ⟨century, four, year, day, hcentury, hfour, hyear, hday, rfl⟩ := exists_dayOfEra h
  rw [yearOfEra_eq hcentury hfour hyear hday, yearStart_eq hfour hyear]
  omega

theorem month_spec {dayOfYear : ℕ} (h : dayOfYear < 366) :
    (5 * dayOfYear + 2) / 153 < 12 ∧ (153 * ((5 * dayOfYear + 2) / 153) + 2) / 5 ≤ dayOfYear := by
  omega

theorem daysOf_dateOf (days : ℤ) : daysOf (dateOf days) = days := by
  have hera : ((days + 719468) % 146097).toNat < 146097 := by omega
  obtain ⟨hyear, hstart, hday⟩ := yearOfEra_spec hera
  obtain ⟨hmonth, hfirst⟩ := month_spec hday
  have hsplit : (days + 719468) / 146097 * 146097 + ((days + 719468) % 146097).toNat =
      days + 719468 := by omega
  unfold dateOf
  dsimp only
  rw [← yearOfEra, ← yearStart]
  generalize ((days + 719468) % 146097).toNat = dayOfEra at *
  generalize (days + 719468) / 146097 = era at *
  generalize hyear' : yearOfEra dayOfEra = year at *
  generalize hmonth' : (5 * (dayOfEra - yearStart year) + 2) / 153 = month at *
  by_cases hspring : month < 10
  · have hmarch : 2 < month + 3 := by omega
    have hdiv : (era * 400 + year + 0) / 400 = era := by omega
    have hmod : ((era * 400 + year + 0) % 400).toNat = year := by omega
    unfold daysOf
    simp only [if_pos hspring, if_pos hmarch, hdiv, hmod]
    omega
  · have hjanuary : ¬ 2 < month - 9 := by omega
    have hdiv : (era * 400 + year + 1 - 1) / 400 = era := by omega
    have hmod : ((era * 400 + year + 1 - 1) % 400).toNat = year := by omega
    unfold daysOf
    simp only [if_neg hspring, if_neg hjanuary, hdiv, hmod]
    omega

/-! ### Reading -/

/-- The number that some of the characters are the digits of. -/
def numberAt (start count : ℕ) (text : List Char) : ℕ :=
  Nat.ofDigitChars 10 ((text.drop start).take count) 0

/-- The year that a text begins with, and the text after it. -/
def readYear (text : List Char) : ℤ × List Char :=
  if text.head? = some '-' then (-numberAt 1 6 text, text.drop 7)
  else if text.head? = some '+' then (numberAt 1 6 text, text.drop 7)
  else (numberAt 0 4 text, text.drop 4)

/-- Numbers of given widths, one behind the other, each with a mark before it. -/
def readFields : List ℕ → List Char → List ℕ
  | [], _ => []
  | width :: widths, text => numberAt 1 width text :: readFields widths (text.drop (width + 1))

/-- The instant of a text, if `toISOString` wrote it. -/
def readInstant (text : List Char) : ℤ :=
  let (year, text) := readYear text
  match readFields [2, 2, 2, 2, 2, 3] text with
  | [month, day, hour, minute, second, millisecond] =>
    daysOf { year, month, day } * dayMilliseconds +
      (hour * 3600000 + minute * 60000 + second * 1000 + millisecond : ℕ)
  | _ => 0

/-- The instants that a date of the runtime can have. -/
def IsInstant (instant : ℤ) : Prop := instant.natAbs ≤ 8640000000000000

instance (instant : ℤ) : Decidable (IsInstant instant) := inferInstanceAs (Decidable (_ ≤ _))

/-- `new Date(text).getTime()`, `none` being `NaN`; `other` reads the texts that `toISOString`
does not write. -/
def parseDate (other : Utf16 → Option ℤ) (text : Utf16) : Option ℤ :=
  let instant := readInstant (text.map fun unit => Char.ofNat unit.toNat)
  if IsInstant instant ∧ ofString (toISOString instant) = text then some instant else other text

/-! ### Reading what was written -/

private theorem length_padded {width number : ℕ} (hwidth : 0 < width) (h : number < 10 ^ width) :
    (padded width number).toList.length = width := by
  have hdigits := (Nat.length_toDigits_le_iff (by omega) hwidth).mpr h
  unfold padded
  rw [String.toList_ofList, length_append, length_replicate]
  omega

private theorem ofDigitChars_padded (width number : ℕ) :
    Nat.ofDigitChars 10 (padded width number).toList 0 = number := by
  unfold padded
  rw [String.toList_ofList, Nat.ofDigitChars_append, Nat.ofDigitChars_replicate_zero, Nat.mul_zero,
    Nat.ofDigitChars_ten_toDigits]

private theorem numberAt_padded {width number : ℕ} (hwidth : 0 < width) (h : number < 10 ^ width)
    (after : List Char) : numberAt 0 width ((padded width number).toList ++ after) = number := by
  unfold numberAt
  rw [drop_zero, take_left' (length_padded hwidth h), ofDigitChars_padded]

private theorem numberAt_field {width number : ℕ} (hwidth : 0 < width) (h : number < 10 ^ width)
    (mark : Char) (after : List Char) :
    numberAt 1 width (mark :: ((padded width number).toList ++ after)) = number :=
  numberAt_padded hwidth h after

private theorem drop_field {width number : ℕ} (hwidth : 0 < width) (h : number < 10 ^ width)
    (mark : Char) (after : List Char) :
    (mark :: ((padded width number).toList ++ after)).drop (width + 1) = after :=
  drop_left' (length_padded hwidth h)

/-- The text of numbers, each with a mark before it, in its width. -/
def fieldsText : List (Char × ℕ × ℕ) → List Char
  | [] => []
  | (mark, width, number) :: fields =>
    mark :: ((padded width number).toList ++ fieldsText fields)

variable {fields : List (Char × ℕ × ℕ)}

private theorem readFields_fieldsText
    (h : ∀ field ∈ fields, 0 < field.2.1 ∧ field.2.2 < 10 ^ field.2.1) (rest : List Char) :
    readFields (fields.map fun field => field.2.1) (fieldsText fields ++ rest) =
      fields.map fun field => field.2.2 := by
  induction fields with
  | nil => rfl
  | cons field fields ih =>
    obtain ⟨mark, width, number⟩ := field
    obtain ⟨hwidth, hnumber⟩ := h _ mem_cons_self
    have hfields := ih fun field hfield => h field (mem_cons_of_mem _ hfield)
    rw [fieldsText, cons_append, append_assoc, map_cons, map_cons, readFields,
      numberAt_field hwidth hnumber, drop_field hwidth hnumber, hfields]

private theorem readYear_yearText {year : ℤ} (h : year.natAbs < 1000000) (rest : List Char) :
    readYear ((yearText year).toList ++ rest) = (year, rest) := by
  have hwide : year.natAbs < 10 ^ 6 := h
  unfold yearText
  split_ifs with hplain hnegative
  · have hyear : year.toNat < 10 ^ 4 := by omega
    have hlength := length_padded (by omega) hyear
    have hhead {c : Char} (hc : ((padded 4 year.toNat).toList ++ rest).head? = some c) :
        c.isDigit = true := by
      cases htext : (padded 4 year.toNat).toList with
      | nil => rw [htext] at hlength; cases hlength
      | cons first digits =>
        rw [htext, cons_append, List.head?_cons, Option.some.injEq] at hc
        subst hc
        exact isDigit_of_mem_padded (htext ▸ mem_cons_self)
    unfold readYear
    rw [if_neg (fun hminus => by cases hhead hminus), if_neg (fun hplus => by cases hhead hplus),
      numberAt_padded (by omega) hyear, drop_left' hlength]
    exact Prod.ext (by omega) rfl
  · have hminus : "-".toList = ['-'] := rfl
    rw [String.toList_append, append_assoc, hminus, singleton_append]
    unfold readYear
    rw [if_pos List.head?_cons, numberAt_field (by omega) hwide, drop_field (by omega) hwide]
    exact Prod.ext (by omega) rfl
  · have hplus : "+".toList = ['+'] := rfl
    rw [String.toList_append, append_assoc, hplus, singleton_append]
    unfold readYear
    rw [if_neg (by rw [List.head?_cons]; decide), if_pos List.head?_cons,
      numberAt_field (by omega) hwide, drop_field (by omega) hwide]
    exact Prod.ext (by omega) rfl

private theorem dateOf_spec {days : ℤ} (h : days.natAbs ≤ 100000000) :
    (dateOf days).year.natAbs < 1000000 ∧ (dateOf days).month < 100 ∧ (dateOf days).day < 100 := by
  have hera : ((days + 719468) % 146097).toNat < 146097 := by omega
  obtain ⟨hyear, hstart, hday⟩ := yearOfEra_spec hera
  obtain ⟨hmonth, hfirst⟩ := month_spec hday
  unfold dateOf
  dsimp only
  rw [← yearOfEra, ← yearStart]
  refine ⟨?_, ?_, ?_⟩
  · split <;> omega
  · split <;> omega
  · omega

/-- What follows the year in an instant's text. -/
def fieldsOf (date : Date) (time : ℕ) : List (Char × ℕ × ℕ) :=
  [('-', 2, date.month), ('-', 2, date.day), ('T', 2, time / 3600000),
    (':', 2, time / 60000 % 60), (':', 2, time / 1000 % 60), ('.', 3, time % 1000)]

private theorem toList_toISOString (instant : ℤ) : (toISOString instant).toList =
    (yearText (dateOf (instant / dayMilliseconds)).year).toList ++
      (fieldsText (fieldsOf (dateOf (instant / dayMilliseconds))
        (instant % dayMilliseconds).toNat) ++ ['Z']) := by
  unfold toISOString Date.text timeText fieldsOf
  simp only [String.toList_append, append_assoc, fieldsText, cons_append, nil_append]
  rfl

private theorem readInstant_toISOString {instant : ℤ} (h : IsInstant instant) :
    readInstant (toISOString instant).toList = instant := by
  have hdays : (instant / dayMilliseconds).natAbs ≤ 100000000 := by
    unfold IsInstant at h
    unfold dayMilliseconds
    omega
  have htime : (instant % dayMilliseconds).toNat < 86400000 := by
    unfold dayMilliseconds
    omega
  have hsplit : instant / dayMilliseconds * dayMilliseconds +
      ((instant % dayMilliseconds).toNat : ℤ) = instant := by
    unfold dayMilliseconds
    omega
  obtain ⟨hyear, hmonth, hday⟩ := dateOf_spec hdays
  have hback := daysOf_dateOf (instant / dayMilliseconds)
  rw [toList_toISOString]
  generalize dateOf (instant / dayMilliseconds) = date at *
  generalize (instant % dayMilliseconds).toNat = time at *
  have hfields : ∀ field ∈ fieldsOf date time, 0 < field.2.1 ∧ field.2.2 < 10 ^ field.2.1 := by
    unfold fieldsOf
    simp only [forall_mem_cons, not_mem_nil, false_implies, implies_true, and_true]
    omega
  have hread : readFields [2, 2, 2, 2, 2, 3] (fieldsText (fieldsOf date time) ++ ['Z']) =
      [date.month, date.day, time / 3600000, time / 60000 % 60, time / 1000 % 60, time % 1000] :=
    readFields_fieldsText hfields ['Z']
  unfold readInstant
  rw [readYear_yearText hyear]
  dsimp only
  rw [hread]
  dsimp only
  rw [hback]
  omega

private theorem mem_fieldsText {c : Char} (h : c ∈ fieldsText fields) :
    c.isDigit ∨ c ∈ fields.map Prod.fst := by
  induction fields with
  | nil => cases h
  | cons field fields ih =>
    obtain ⟨mark, width, number⟩ := field
    rw [fieldsText, mem_cons, mem_append] at h
    rw [map_cons, mem_cons]
    rcases h with hmark | hdigit | hrest
    · exact .inr (.inl hmark)
    · exact .inl (isDigit_of_mem_padded hdigit)
    · exact (ih hrest).imp_right .inr

private theorem lt_of_isDigit {c : Char} (h : c.isDigit) : c.toNat < 0x80 := by
  calc c.toNat ≤ '9'.toNat := (Char.isDigit_iff_toNat.mp h).2
    _ < 0x80 := by decide

private theorem lt_of_mem_toISOString {instant : ℤ} {c : Char}
    (h : c ∈ (toISOString instant).toList) :
    c.toNat < 0x80 := by
  have hmarks : ∀ mark ∈ ['-', '-', 'T', ':', ':', '.', 'Z', '+'], mark.toNat < 0x80 :=
    all_iff_forall_prop.mp (by decide)
  rw [toList_toISOString, mem_append, mem_append, mem_singleton] at h
  rcases h with hyear | hfield | rfl
  · have hdate : c ∈ (dateOf (instant / dayMilliseconds)).text.toList := by
      unfold Date.text
      simp only [String.toList_append, append_assoc]
      exact mem_append_left _ hyear
    rcases Date.mem_text hdate with hdigit | rfl | rfl
    · exact lt_of_isDigit hdigit
    · exact hmarks _ (by decide)
    · exact hmarks _ (by decide)
  · rcases mem_fieldsText hfield with hdigit | hmark
    · exact lt_of_isDigit hdigit
    · exact hmarks c (mem_append_left ['Z', '+'] hmark)
  · exact hmarks _ (by decide)

private theorem map_ofString {text : String} (h : ∀ c ∈ text.toList, c.toNat < 0x80) :
    (ofString text).map (fun unit => Char.ofNat unit.toNat) = text.toList := by
  unfold ofString
  generalize text.toList = chars at *
  induction chars with
  | nil => rfl
  | cons c chars ih =>
    have hc := h c mem_cons_self
    have hunit : (UInt16.ofNat c.toNat).toNat = c.toNat :=
      UInt16.toNat_ofNat_of_lt' (Nat.lt_trans hc (by decide))
    have hchars := ih fun c hc => h c (mem_cons_of_mem _ hc)
    rw [flatMap_cons, codeUnits, if_pos (by omega), map_append, map_singleton, hunit,
      Char.ofNat_toNat, hchars]
    rfl

theorem parseDate_toISOString (other : Utf16 → Option ℤ) {instant : ℤ} (h : IsInstant instant) :
    parseDate other (ofString (toISOString instant)) = some instant := by
  unfold parseDate
  rw [map_ofString fun c hc => lt_of_mem_toISOString hc, readInstant_toISOString h]
  exact if_pos ⟨h, rfl⟩

end Calendar
