import ContentAutomation.Library.JsonText
import ContentAutomation.Library.JsonValue

/-!
# Written values are told apart

The text of a value of JSON tells what was written: the first code unit tells what kind of
value it is, a string ends at its quote, a numeral where its characters end, and an array or a
record at its bracket. The text is also well-formed, so that encoding it loses nothing.
-/

namespace Json

open Utf16 List

/-! ### Numerals -/

/-- A character that numerals are made of. -/
def isNumeralUnit (unit : UInt16) : Bool :=
  isDecimal unit || unit == 0x2B || unit == 0x2D || unit == 0x2E || unit == 0x65

/-- How the language writes finite numbers: different numbers differently, with digits, signs,
a decimal point and an `e`. -/
structure Numerals (numeral : ℚ → Utf16) : Prop where
  injective : Function.Injective numeral
  nonempty : ∀ number, numeral number ≠ []
  units : ∀ number, ∀ unit ∈ numeral number, isNumeralUnit unit = true

/-- A text does not go on with a numeral. -/
def Ends (rest : Utf16) : Prop := ∀ unit ∈ rest.head?, isNumeralUnit unit = false

private theorem ends_cons {unit : UInt16} (h : isNumeralUnit unit = false) (rest : Utf16) :
    Ends (unit :: rest) := by
  intro first hfirst
  rw [List.head?_cons, Option.mem_some_iff] at hfirst
  rwa [← hfirst]

variable {numeral : ℚ → Utf16} {rest rest' : Utf16} {value : Json}

theorem Numerals.append_inj (spec : Numerals numeral) {number number' : ℚ} (hrest : Ends rest)
    (hrest' : Ends rest') (h : numeral number ++ rest = numeral number' ++ rest') :
    number = number' ∧ rest = rest' := by
  have hnumeral (number : ℚ) {rest : Utf16} (hrest : Ends rest) :
      (numeral number ++ rest).takeWhile isNumeralUnit = numeral number := by
    rw [takeWhile_append_of_pos (spec.units number)]
    cases rest with
    | nil => simp
    | cons unit rest => simp [hrest unit rfl]
  have hsame : numeral number = numeral number' := by
    rw [← hnumeral number hrest, h, hnumeral number' hrest']
  rw [hsame, append_cancel_left_eq] at h
  exact ⟨spec.injective hsame, h⟩

private theorem quote_append_inj {text text' : Utf16}
    (h : quote text ++ rest = quote text' ++ rest') :
    text = text' ∧ rest = rest' := by
  rw [quote_append, quote_append, List.cons.injEq] at h
  have hread := congrArg unquote h.2
  rw [unquote_quoteUnits, unquote_quoteUnits] at hread
  exact Prod.mk.inj (Option.some.inj hread)

mutual

private theorem stringify_written (value : Json) :
    stringify numeral value.written = stringify numeral value := by
  cases value with
  | number value => cases value <;> rfl
  | array items => rw [written, stringify, stringify, stringifyItems_written items]
  | object fields => rw [written, stringify, stringify, stringifyFields_written fields]
  | _ => rfl

private theorem stringifyItems_written (items : List Json) :
    stringifyItems numeral (writtenItems items) = stringifyItems numeral items := by
  cases items with
  | nil => rfl
  | cons item items =>
    rw [writtenItems, stringifyItems, stringifyItems, stringify_written item,
      stringifyItems_written items]

private theorem stringifyFields_written (fields : List (Utf16 × Json)) :
    stringifyFields numeral (writtenFields fields) = stringifyFields numeral fields := by
  cases fields with
  | nil => rfl
  | cons field fields =>
    rw [writtenFields, stringifyFields, stringifyFields, stringify_written field.2,
      stringifyFields_written fields]

end

/-! ### The kind of a value -/

/-- The first code unit of a text, a digit zero standing for all that numerals are made of. -/
def leadingMark : Utf16 → UInt16
  | [] => 0
  | unit :: _ => if isNumeralUnit unit then 0x30 else unit

/-- The mark that the text of a value begins with. -/
def kindMark : Json → UInt16
  | .null => 0x6E
  | .boolean true => 0x74
  | .boolean false => 0x66
  | .number (.finite _) => 0x30
  | .number _ => 0x6E
  | .string _ => 0x22
  | .array _ => 0x5B
  | .object _ => 0x7B

private theorem leadingMark_stringify (spec : Numerals numeral) (value : Json) (rest : Utf16) :
    leadingMark (stringify numeral value ++ rest) = kindMark value := by
  cases value with
  | null => rfl
  | boolean value => cases value <;> rfl
  | number value =>
    cases value with
    | finite value =>
      obtain ⟨unit, units, hunits⟩ := exists_cons_of_ne_nil (spec.nonempty value)
      have hunit : isNumeralUnit unit = true :=
        spec.units value unit (by rw [hunits]; exact mem_cons_self)
      rw [stringify, hunits, cons_append, leadingMark, if_pos hunit, kindMark]
    | infinite negative => rfl
    | notANumber => rfl
  | string text =>
    rw [stringify, quote_append]
    rfl
  | array items => rfl
  | object fields => rfl

private theorem stringify_append_ne (spec : Numerals numeral) {mark : UInt16} (value : Json)
    (hmark : mark = 0x5D ∨ mark = 0x7D ∨ mark = 0x2C) :
    stringify numeral value ++ rest ≠ mark :: rest' := by
  intro h
  have hkind := congrArg leadingMark h
  rw [leadingMark_stringify spec] at hkind
  have hleading : leadingMark (mark :: rest') = mark := by
    rcases hmark with rfl | rfl | rfl <;> rfl
  rw [hleading] at hkind
  have hnone : mark ∉ ([0x6E, 0x74, 0x66, 0x30, 0x22, 0x5B, 0x7B] : List UInt16) := by
    rcases hmark with rfl | rfl | rfl <;> decide
  refine hnone ?_
  rw [← hkind]
  cases value with
  | boolean value => cases value <;> decide
  | number value => cases value <;> simp [kindMark]
  | _ => simp [kindMark]

/-! ### Lists in brackets -/

/-- The texts after the first one, each with a comma before it, and the closing bracket. -/
def closing (bracket : UInt16) : List Utf16 → Utf16
  | [] => [bracket]
  | text :: texts => 0x2C :: (text ++ closing bracket texts)

private theorem intercalate_append_bracket (bracket : UInt16) (text : Utf16) (texts : List Utf16) :
    (ofString ",").intercalate (text :: texts) ++ [bracket] = text ++ closing bracket texts := by
  have hcomma : ofString "," = [0x2C] := by decide
  induction texts generalizing text with
  | nil => simp [closing]
  | cons next texts ih =>
    rw [intercalate_cons_cons, append_assoc, ih next, closing, hcomma,
      append_assoc, singleton_append]

private theorem ends_closing {bracket : UInt16} (h : isNumeralUnit bracket = false)
    (texts : List Utf16) (rest : Utf16) : Ends (closing bracket texts ++ rest) := by
  cases texts with
  | nil => exact ends_cons h rest
  | cons text texts => exact ends_cons (by decide) _

private theorem stringify_array (items : List Json) (rest : Utf16) :
    stringify numeral (.array items) ++ rest =
      match items with
      | [] => 0x5B :: 0x5D :: rest
      | item :: items => 0x5B :: (stringify numeral item ++
          (closing 0x5D (stringifyItems numeral items) ++ rest)) := by
  have hopen : ofString "[" = [0x5B] := by decide
  have hclose : ofString "]" = [0x5D] := by decide
  rw [stringify, hopen, hclose]
  cases items with
  | nil => rfl
  | cons item items =>
    rw [stringifyItems, append_assoc [0x5B], intercalate_append_bracket, append_assoc,
      append_assoc]
    rfl

private theorem stringify_object (fields : List (Utf16 × Json)) (rest : Utf16) :
    stringify numeral (.object fields) ++ rest =
      match fields with
      | [] => 0x7B :: 0x7D :: rest
      | (key, inner) :: fields => 0x7B :: (quote key ++ 0x3A :: (stringify numeral inner ++
          (closing 0x7D (stringifyFields numeral fields) ++ rest))) := by
  have hopen : ofString "\x7b" = [0x7B] := by decide
  have hclose : ofString "\x7d" = [0x7D] := by decide
  have hcolon : ofString ":" = [0x3A] := by decide
  rw [stringify, hopen, hclose]
  cases fields with
  | nil => rfl
  | cons field fields =>
    obtain ⟨key, inner⟩ := field
    rw [stringifyFields, append_assoc [0x7B], intercalate_append_bracket, hcolon]
    simp only [append_assoc, cons_append, nil_append]

/-! ### Values of one kind -/

private theorem written_of_kindMark_null (numeral : ℚ → Utf16) (h : kindMark value = 0x6E) :
    value.written = .null ∧ stringify numeral value = ofString "null" := by
  cases value with
  | null => exact ⟨rfl, rfl⟩
  | number value =>
    cases value with
    | finite value => exact absurd h (by simp [kindMark])
    | infinite negative => exact ⟨rfl, rfl⟩
    | notANumber => exact ⟨rfl, rfl⟩
  | boolean value => cases value <;> exact absurd h (by decide)
  | _ => exact absurd h (by simp [kindMark])

private theorem eq_boolean_of_kindMark {truth : Bool}
    (h : kindMark value = kindMark (.boolean truth)) : value = .boolean truth := by
  cases truth <;> cases value with
  | boolean value => cases value <;> first | rfl | exact absurd h (by decide)
  | number value => cases value <;> exact absurd h (by simp [kindMark])
  | _ => exact absurd h (by simp [kindMark])

private theorem exists_finite_of_kindMark (h : kindMark value = 0x30) :
    ∃ number, value = .number (.finite number) := by
  cases value with
  | number value =>
    cases value with
    | finite value => exact ⟨value, rfl⟩
    | infinite negative => exact absurd h (by simp [kindMark])
    | notANumber => exact absurd h (by simp [kindMark])
  | boolean value => cases value <;> exact absurd h (by decide)
  | _ => exact absurd h (by simp [kindMark])

private theorem exists_string_of_kindMark (h : kindMark value = 0x22) :
    ∃ text, value = .string text := by
  cases value with
  | string text => exact ⟨text, rfl⟩
  | number value => cases value <;> exact absurd h (by simp [kindMark])
  | boolean value => cases value <;> exact absurd h (by decide)
  | _ => exact absurd h (by simp [kindMark])

private theorem exists_array_of_kindMark (h : kindMark value = 0x5B) :
    ∃ items, value = .array items := by
  cases value with
  | array items => exact ⟨items, rfl⟩
  | number value => cases value <;> exact absurd h (by simp [kindMark])
  | boolean value => cases value <;> exact absurd h (by decide)
  | _ => exact absurd h (by simp [kindMark])

private theorem exists_object_of_kindMark (h : kindMark value = 0x7B) :
    ∃ fields, value = .object fields := by
  cases value with
  | object fields => exact ⟨fields, rfl⟩
  | number value => cases value <;> exact absurd h (by simp [kindMark])
  | boolean value => cases value <;> exact absurd h (by decide)
  | _ => exact absurd h (by simp [kindMark])

/-! ### Values are told apart -/

mutual

/-- A value, as it is written, is told from what follows its text. -/
theorem stringify_append_inj (spec : Numerals numeral) {one other : Json} {rest rest' : Utf16}
    (hrest : Ends rest) (hrest' : Ends rest')
    (h : stringify numeral one ++ rest = stringify numeral other ++ rest') :
    one.written = other.written ∧ rest = rest' := by
  have hkind : kindMark other = kindMark one := by
    rw [← leadingMark_stringify spec one rest, h, leadingMark_stringify spec]
  cases one with
  | null =>
    obtain ⟨hwritten, htext⟩ := written_of_kindMark_null numeral hkind
    rw [htext] at h
    exact ⟨hwritten.symm, append_cancel_left h⟩
  | boolean truth =>
    obtain rfl := eq_boolean_of_kindMark hkind
    exact ⟨rfl, append_cancel_left h⟩
  | number value =>
    cases value with
    | finite number =>
      obtain ⟨number', rfl⟩ := exists_finite_of_kindMark hkind
      obtain ⟨rfl, hrests⟩ := spec.append_inj hrest hrest' h
      exact ⟨rfl, hrests⟩
    | infinite negative =>
      obtain ⟨hwritten, htext⟩ := written_of_kindMark_null numeral hkind
      rw [htext] at h
      exact ⟨hwritten.symm, append_cancel_left h⟩
    | notANumber =>
      obtain ⟨hwritten, htext⟩ := written_of_kindMark_null numeral hkind
      rw [htext] at h
      exact ⟨hwritten.symm, append_cancel_left h⟩
  | string text =>
    obtain ⟨text', rfl⟩ := exists_string_of_kindMark hkind
    obtain ⟨rfl, hrests⟩ := quote_append_inj h
    exact ⟨rfl, hrests⟩
  | array items =>
    obtain ⟨items', rfl⟩ := exists_array_of_kindMark hkind
    rw [stringify_array, stringify_array] at h
    cases items with
    | nil =>
      cases items' with
      | nil => exact ⟨rfl, by simpa using h⟩
      | cons item' items' =>
        exact absurd (List.cons.inj h).2.symm (stringify_append_ne spec item' (by simp))
    | cons item items =>
      cases items' with
      | nil => exact absurd (List.cons.inj h).2 (stringify_append_ne spec item (by simp))
      | cons item' items' =>
        obtain ⟨hitem, htail⟩ := stringify_append_inj spec (ends_closing (by decide) _ _)
          (ends_closing (by decide) _ _) (List.cons.inj h).2
        obtain ⟨hitems, hrests⟩ := closing_stringifyItems_inj spec hrest hrest' htail
        rw [written, written, writtenItems, writtenItems, hitem, hitems]
        exact ⟨rfl, hrests⟩
  | object fields =>
    obtain ⟨fields', rfl⟩ := exists_object_of_kindMark hkind
    rw [stringify_object, stringify_object] at h
    cases fields with
    | nil =>
      cases fields' with
      | nil => exact ⟨rfl, by simpa using h⟩
      | cons field' fields' =>
        have hopen := (List.cons.inj h).2
        rw [quote_append] at hopen
        exact absurd (List.cons.inj hopen).1 (by decide)
    | cons field fields =>
      obtain ⟨key, inner⟩ := field
      cases fields' with
      | nil =>
        have hopen := (List.cons.inj h).2
        rw [quote_append] at hopen
        exact absurd (List.cons.inj hopen).1 (by decide)
      | cons field' fields' =>
        obtain ⟨key', inner'⟩ := field'
        obtain ⟨hkey, hvalue⟩ := quote_append_inj (List.cons.inj h).2
        obtain ⟨hinner, htail⟩ := stringify_append_inj spec (ends_closing (by decide) _ _)
          (ends_closing (by decide) _ _) (List.cons.inj hvalue).2
        obtain ⟨hfields, hrests⟩ := closing_stringifyFields_inj spec hrest hrest' htail
        rw [written, written, writtenFields, writtenFields, hkey, hinner, hfields]
        exact ⟨rfl, hrests⟩
termination_by structural one

/-- The items of an array, as they are written, are told from what follows the bracket. -/
theorem closing_stringifyItems_inj (spec : Numerals numeral) {items items' : List Json}
    {rest rest' : Utf16} (hrest : Ends rest) (hrest' : Ends rest')
    (h : closing 0x5D (stringifyItems numeral items) ++ rest =
      closing 0x5D (stringifyItems numeral items') ++ rest') :
    writtenItems items = writtenItems items' ∧ rest = rest' := by
  cases items with
  | nil =>
    cases items' with
    | nil => exact ⟨rfl, (List.cons.inj h).2⟩
    | cons item' items' => exact absurd (List.cons.inj h).1 (by decide)
  | cons item items =>
    cases items' with
    | nil => exact absurd (List.cons.inj h).1 (by decide)
    | cons item' items' =>
      simp only [stringifyItems, closing, cons_append, append_assoc, List.cons.injEq,
        true_and] at h
      obtain ⟨hitem, htail⟩ := stringify_append_inj spec (ends_closing (by decide) _ _)
        (ends_closing (by decide) _ _) h
      obtain ⟨hothers, hrests⟩ := closing_stringifyItems_inj spec hrest hrest' htail
      rw [writtenItems, writtenItems, hitem, hothers]
      exact ⟨rfl, hrests⟩
termination_by structural items

/-- The fields of a record, as they are written, are told from what follows the bracket. -/
theorem closing_stringifyFields_inj (spec : Numerals numeral)
    {fields fields' : List (Utf16 × Json)} {rest rest' : Utf16} (hrest : Ends rest)
    (hrest' : Ends rest') (h : closing 0x7D (stringifyFields numeral fields) ++ rest =
      closing 0x7D (stringifyFields numeral fields') ++ rest') :
    writtenFields fields = writtenFields fields' ∧ rest = rest' := by
  cases fields with
  | nil =>
    cases fields' with
    | nil => exact ⟨rfl, (List.cons.inj h).2⟩
    | cons field' fields' => exact absurd (List.cons.inj h).1 (by decide)
  | cons field fields =>
    obtain ⟨key, inner⟩ := field
    cases fields' with
    | nil => exact absurd (List.cons.inj h).1 (by decide)
    | cons field' fields' =>
      obtain ⟨key', inner'⟩ := field'
      have hcolon : ofString ":" = [0x3A] := by decide
      simp only [stringifyFields, closing, hcolon, cons_append, append_assoc,
        List.cons.injEq, true_and] at h
      obtain ⟨hkey, hvalue⟩ := quote_append_inj h
      obtain ⟨hinner, htail⟩ := stringify_append_inj spec (ends_closing (by decide) _ _)
        (ends_closing (by decide) _ _) (List.cons.inj hvalue).2
      obtain ⟨hothers, hrests⟩ := closing_stringifyFields_inj spec hrest hrest' htail
      rw [writtenFields, writtenFields, hkey, hinner, hothers]
      exact ⟨rfl, hrests⟩
termination_by structural fields

end

/-- **Values have one text** exactly when they are written as the same value. -/
theorem stringify_eq_iff (spec : Numerals numeral) {one other : Json} :
    stringify numeral one = stringify numeral other ↔ one.written = other.written := by
  constructor
  · intro h
    have hends : Ends [] := by simp [Ends]
    refine (stringify_append_inj spec hends hends ?_).1
    rw [h]
  · intro h
    rw [← stringify_written one, h, stringify_written other]

/-! ### Texts are well-formed -/

section WellFormed

open Utf8

theorem Numerals.wellFormed (spec : Numerals numeral) (number : ℚ) :
    WellFormed (numeral number) := by
  refine wellFormed_of_lt fun unit hunit => ?_
  have hnumeral := spec.units number unit hunit
  simp only [isNumeralUnit, isDecimal, Bool.or_eq_true, Bool.and_eq_true, decide_eq_true_eq,
    beq_iff_eq] at hnumeral
  rcases hnumeral with (((hdigit | rfl) | rfl) | rfl) | rfl
  · have hlast := UInt16.le_iff_toNat_le.mp hdigit.2
    have hnine : (0x39 : UInt16).toNat = 0x39 := rfl
    omega
  all_goals decide

private theorem wellFormed_intercalate_comma {texts : List Utf16}
    (h : ∀ text ∈ texts, WellFormed text) : WellFormed ((ofString ",").intercalate texts) := by
  have hcomma : WellFormed (ofString ",") := wellFormed_of_all (by decide)
  induction texts with
  | nil => exact .nil
  | cons text texts ih =>
    rw [forall_mem_cons] at h
    cases texts with
    | nil =>
      rw [intercalate_singleton]
      exact h.1
    | cons next texts =>
      rw [intercalate_cons_cons]
      exact (h.1.append hcomma).append (ih h.2)

mutual

private theorem wellFormed_stringify (spec : Numerals numeral) (value : Json) :
    WellFormed (stringify numeral value) := by
  have hnull : WellFormed (ofString "null") := wellFormed_of_all (by decide)
  cases value with
  | null => exact hnull
  | boolean truth =>
    have htrue : WellFormed (ofString "true") := wellFormed_of_all (by decide)
    have hfalse : WellFormed (ofString "false") := wellFormed_of_all (by decide)
    cases truth with
    | true => exact htrue
    | false => exact hfalse
  | number value =>
    cases value with
    | finite value => exact spec.wellFormed value
    | infinite negative => exact hnull
    | notANumber => exact hnull
  | string text => exact wellFormed_quote text
  | array items =>
    have hitems := wellFormed_intercalate_comma (wellFormed_stringifyItems spec items)
    exact ((wellFormed_of_all (by decide)).append hitems).append (wellFormed_of_all (by decide))
  | object fields =>
    have hfields := wellFormed_intercalate_comma (wellFormed_stringifyFields spec fields)
    exact ((wellFormed_of_all (by decide)).append hfields).append (wellFormed_of_all (by decide))

private theorem wellFormed_stringifyItems (spec : Numerals numeral) (items : List Json) :
    ∀ text ∈ stringifyItems numeral items, WellFormed text := by
  cases items with
  | nil => exact forall_mem_nil _
  | cons item items =>
    exact forall_mem_cons.mpr
      ⟨wellFormed_stringify spec item, wellFormed_stringifyItems spec items⟩

private theorem wellFormed_stringifyFields (spec : Numerals numeral)
    (fields : List (Utf16 × Json)) :
    ∀ text ∈ stringifyFields numeral fields, WellFormed text := by
  cases fields with
  | nil => exact forall_mem_nil _
  | cons field fields =>
    have hcolon : WellFormed (ofString ":") := wellFormed_of_all (by decide)
    exact forall_mem_cons.mpr
      ⟨((wellFormed_quote field.1).append hcolon).append (wellFormed_stringify spec field.2),
        wellFormed_stringifyFields spec fields⟩

end

/-- **Values have one encoded text** exactly when they are written as the same value. -/
theorem encode_stringify_eq_iff (spec : Numerals numeral) {one other : Json} :
    encode (stringify numeral one) = encode (stringify numeral other) ↔
      one.written = other.written := by
  rw [← stringify_eq_iff spec]
  constructor
  · intro h
    have hsame := toWellFormed_eq_of_encode_eq h
    rwa [(wellFormed_stringify spec one).toWellFormed_eq,
      (wellFormed_stringify spec other).toWellFormed_eq] at hsame
  · intro h
    rw [h]

end WellFormed

end Json
