import ContentAutomation.Library.Json
import ContentAutomation.Library.Utf8

/-!
# Reading a value of JSON

The grammar of `JSON.parse` on code units, lone surrogates included. A record of strings that was
written is read back.
-/

namespace Json

open Utf16 List

/-! ### The grammar -/

/-- White space between the parts of a text. -/
def isBlank (unit : UInt16) : Bool :=
  unit == 0x20 || unit == 0x09 || unit == 0x0A || unit == 0x0D

/-- The text after its white space. -/
def skipBlanks (text : Utf16) : Utf16 := text.dropWhile isBlank

/-- The text after a mark, which may have white space before it. -/
def expect? (mark : UInt16) (text : Utf16) : Option Utf16 :=
  match skipBlanks text with
  | [] => none
  | unit :: text => if unit = mark then some text else none

/-- The number of a hexadecimal digit. -/
def hexValue? (unit : UInt16) : Option ℕ :=
  let n := unit.toNat
  if 0x30 ≤ n ∧ n ≤ 0x39 then some (n - 0x30)
  else if 0x61 ≤ n ∧ n ≤ 0x66 then some (n - 0x57)
  else if 0x41 ≤ n ∧ n ≤ 0x46 then some (n - 0x37)
  else none

/-- The code unit of a character after a backslash. -/
def escapeValue? (unit : UInt16) : Option UInt16 :=
  if unit = 0x22 ∨ unit = 0x5C ∨ unit = 0x2F then some unit
  else if unit = 0x62 then some 0x08
  else if unit = 0x66 then some 0x0C
  else if unit = 0x6E then some 0x0A
  else if unit = 0x72 then some 0x0D
  else if unit = 0x74 then some 0x09
  else none

/-- What is being read inside quotes: a code unit, what follows a backslash, or the digits of a
number, of which some are missing. -/
inductive Reading
  | plain
  | escaped
  | unicode (missing value : ℕ)

/-- A string with one more code unit in front. -/
def prepend (unit : UInt16) (result : Option (Utf16 × Utf16)) : Option (Utf16 × Utf16) :=
  result.map fun result => (unit :: result.1, result.2)

/-- The string that ends with the next quote, and the text after it. -/
def unquoteFrom : Reading → Utf16 → Option (Utf16 × Utf16)
  | _, [] => none
  | .plain, unit :: text =>
    if unit = 0x22 then some ([], text)
    else if unit = 0x5C then unquoteFrom .escaped text
    else if unit < 0x20 then none
    else prepend unit (unquoteFrom .plain text)
  | .escaped, unit :: text =>
    if unit = 0x75 then unquoteFrom (.unicode 4 0) text
    else
      match escapeValue? unit with
      | none => none
      | some value => prepend value (unquoteFrom .plain text)
  | .unicode missing value, unit :: text =>
    match hexValue? unit with
    | none => none
    | some digit =>
      if missing = 1 then prepend (.ofNat (value * 0x10 + digit)) (unquoteFrom .plain text)
      else unquoteFrom (.unicode (missing - 1) (value * 0x10 + digit)) text

/-- The string that ends with the next quote, and the text after it. -/
def unquote (text : Utf16) : Option (Utf16 × Utf16) := unquoteFrom .plain text

/-- A decimal digit. -/
def isDecimal (unit : UInt16) : Bool := 0x30 ≤ unit && unit ≤ 0x39

/-- Digits of which there has to be one. -/
def digits? (text : Utf16) : Option (Utf16 × Utf16) :=
  if text.takeWhile isDecimal = [] then none
  else some (text.takeWhile isDecimal, text.dropWhile isDecimal)

/-- The integer that a text begins with. -/
def integer? (text : Utf16) : Option (Utf16 × Utf16) :=
  match text with
  | 0x2D :: text => (digits? text).map fun result => (0x2D :: result.1, result.2)
  | text => digits? text

/-- The exponent that a text begins with, if it begins with one. -/
def exponent? (text : Utf16) : Option (Utf16 × Utf16) :=
  match text with
  | mark :: text =>
    if mark = 0x65 ∨ mark = 0x45 then
      match text with
      | sign :: text =>
        if sign = 0x2B ∨ sign = 0x2D then
          (digits? text).map fun result => (mark :: sign :: result.1, result.2)
        else (digits? (sign :: text)).map fun result => (mark :: result.1, result.2)
      | [] => none
    else some ([], mark :: text)
  | [] => some ([], [])

/-- The fraction that a text begins with, if it begins with one. -/
def fraction? (text : Utf16) : Option (Utf16 × Utf16) :=
  match text with
  | 0x2E :: text => (digits? text).map fun result => (0x2E :: result.1, result.2)
  | text => some ([], text)

/-- The digits of an integer begin with a zero only when there are no others. -/
def isInteger (digits : Utf16) : Bool :=
  match digits with
  | 0x30 :: _ :: _ | 0x2D :: 0x30 :: _ :: _ => false
  | _ => true

/-- The number that a text begins with, as it is written. -/
def numeral? (text : Utf16) : Option (Utf16 × Utf16) := do
  let (whole, text) ← integer? text
  if isInteger whole then
    let (fraction, text) ← fraction? text
    let (exponent, text) ← exponent? text
    pure (whole ++ fraction ++ exponent, text)
  else none

/-- The literal that a text begins with. -/
def literal? (text : Utf16) : Option (Json × Utf16) :=
  if ofString "null" <+: text then some (.null, text.drop 4)
  else if ofString "true" <+: text then some (.boolean true, text.drop 4)
  else if ofString "false" <+: text then some (.boolean false, text.drop 5)
  else none

/-- A field of a record; the last of one key holds, in the place of the first. -/
def setField (fields : List (Utf16 × Json)) (key : Utf16) (value : Json) : List (Utf16 × Json) :=
  if fields.any fun field => field.1 == key then
    fields.map fun field => if field.1 = key then (key, value) else field
  else fields ++ [(key, value)]

section Parse

variable (number : Utf16 → JsNumber)

mutual

/-- The value that a text begins with, and the text after it; `number` reads a numeral. -/
def parseValue : ℕ → Utf16 → Option (Json × Utf16)
  | 0, _ => none
  | fuel + 1, text =>
    match skipBlanks text with
    | [] => none
    | mark :: text =>
      if mark = 0x22 then (unquote text).map fun result => (.string result.1, result.2)
      else if mark = 0x7B then
        match expect? 0x7D text with
        | some text => some (.object [], text)
        | none => parseFields fuel [] text
      else if mark = 0x5B then
        match expect? 0x5D text with
        | some text => some (.array [], text)
        | none => parseItems fuel [] text
      else
        match literal? (mark :: text) with
        | some result => some result
        | none => (numeral? (mark :: text)).map fun result => (.number (number result.1), result.2)

/-- The other items of an array. -/
def parseItems : ℕ → List Json → Utf16 → Option (Json × Utf16)
  | 0, _, _ => none
  | fuel + 1, items, text =>
    match parseValue fuel text with
    | none => none
    | some (item, text) =>
      match expect? 0x2C text with
      | some text => parseItems fuel (items ++ [item]) text
      | none => (expect? 0x5D text).map fun text => (.array (items ++ [item]), text)

/-- The other fields of a record. -/
def parseFields : ℕ → List (Utf16 × Json) → Utf16 → Option (Json × Utf16)
  | 0, _, _ => none
  | fuel + 1, fields, text =>
    match (expect? 0x22 text).bind unquote with
    | none => none
    | some (key, text) =>
      match (expect? 0x3A text).bind (parseValue fuel) with
      | none => none
      | some (value, text) =>
        match expect? 0x2C text with
        | some text => parseFields fuel (setField fields key value) text
        | none => (expect? 0x7D text).map fun text => (.object (setField fields key value), text)

end

/-- `JSON.parse`, `none` being the exception. -/
def parse (text : Utf16) : Option Json :=
  match parseValue number (2 * text.length + 2) text with
  | none => none
  | some (value, rest) => if skipBlanks rest = [] then some value else none

end Parse

/-! ### Reading what was written -/

variable {unit : UInt16}

private theorem unquote_plain (hquote : unit ≠ 0x22) (hslash : unit ≠ 0x5C)
    (hlow : ¬ unit < 0x20) (text : Utf16) : unquote (unit :: text) = prepend unit (unquote text) := by
  rw [unquote, unquoteFrom, if_neg hquote, if_neg hslash, if_neg hlow]
  rfl

private theorem unquote_escape {escape value : UInt16} (hescape : escape ≠ 0x75)
    (h : escapeValue? escape = some value) (text : Utf16) :
    unquote (0x5C :: escape :: text) = prepend value (unquote text) := by
  rw [unquote, unquoteFrom, if_neg (by decide), if_pos rfl, unquoteFrom, if_neg hescape, h]
  rfl

theorem hexValue?_hexDigit {digit : ℕ} (h : digit < 16) : hexValue? (hexDigit digit) = some digit := by
  revert digit
  decide

private theorem unquoteFrom_digit {missing value digit : ℕ} (hmissing : missing ≠ 1)
    (h : digit < 16)
    (text : Utf16) : unquoteFrom (.unicode missing value) (hexDigit digit :: text) =
      unquoteFrom (.unicode (missing - 1) (value * 0x10 + digit)) text := by
  rw [unquoteFrom, hexValue?_hexDigit h]
  dsimp only
  rw [if_neg hmissing]

private theorem unquoteFrom_last {value digit : ℕ} (h : digit < 16) (text : Utf16) :
    unquoteFrom (.unicode 1 value) (hexDigit digit :: text) =
      prepend (.ofNat (value * 0x10 + digit)) (unquote text) := by
  rw [unquoteFrom, hexValue?_hexDigit h]
  rfl

private theorem unquote_unicodeEscape (unit : UInt16) (text : Utf16) :
    unquote (unicodeEscape unit ++ text) = prepend unit (unquote text) := by
  have hlt := unit.toNat_lt
  have hvalue : (((0 * 0x10 + unit.toNat / 0x1000) * 0x10 + unit.toNat / 0x100 % 0x10) * 0x10 +
      unit.toNat / 0x10 % 0x10) * 0x10 + unit.toNat % 0x10 = unit.toNat := by omega
  change unquoteFrom .plain (0x5C :: 0x75 :: _ :: _ :: _ :: _ :: text) = _
  rw [unquoteFrom, if_neg (by decide), if_pos rfl, unquoteFrom, if_pos rfl,
    unquoteFrom_digit (by omega) (by omega), unquoteFrom_digit (by omega) (by omega),
    unquoteFrom_digit (by omega) (by omega), unquoteFrom_last (by omega), hvalue, UInt16.ofNat_toNat]

private theorem unquote_quoteUnit (unit : UInt16) (text : Utf16) :
    unquote (quoteUnit unit ++ text) = prepend unit (unquote text) := by
  unfold quoteUnit
  split_ifs with hb ht hn hf hr hquote hslash hescape
  · subst hb
    exact @unquote_escape 0x62 _ (by decide) rfl text
  · subst ht
    exact @unquote_escape 0x74 _ (by decide) rfl text
  · subst hn
    exact @unquote_escape 0x6E _ (by decide) rfl text
  · subst hf
    exact @unquote_escape 0x66 _ (by decide) rfl text
  · subst hr
    exact @unquote_escape 0x72 _ (by decide) rfl text
  · subst hquote
    exact @unquote_escape 0x22 _ (by decide) rfl text
  · subst hslash
    exact @unquote_escape 0x5C _ (by decide) rfl text
  · exact unquote_unicodeEscape unit text
  · rw [Bool.not_eq_true, Bool.or_eq_false_iff, Bool.or_eq_false_iff] at hescape
    exact unquote_plain hquote hslash (of_decide_eq_false hescape.1.1) text

private theorem unquote_surrogate (h : (isLeading unit || isTrailing unit) = true)
    (text : Utf16) : unquote (unit :: text) = prepend unit (unquote text) := by
  have hrange : 0xD800 ≤ unit.toNat := by
    rcases Bool.or_eq_true_iff.mp h with hleading | htrailing
    · exact (Utf8.isLeading_iff.mp hleading).1
    · have htrailing := Utf8.isTrailing_iff.mp htrailing
      omega
  refine unquote_plain ?_ ?_ ?_ text
  · rintro rfl
    exact absurd hrange (by decide)
  · rintro rfl
    exact absurd hrange (by decide)
  · intro hlow
    have hlow := UInt16.lt_iff_toNat_lt.mp hlow
    have htwenty : (0x20 : UInt16).toNat = 0x20 := rfl
    omega

/-- **A quoted string is read back.** -/
theorem unquote_quoteUnits (text rest : Utf16) :
    unquote (quoteUnits text ++ 0x22 :: rest) = some (text, rest) := by
  induction text using quoteUnits.induct with
  | case1 => rfl
  | case2 unit =>
    rw [quoteUnits, unquote_quoteUnit]
    rfl
  | case3 first second text hpair ih =>
    rw [Bool.and_eq_true] at hpair
    rw [quoteUnits, hpair.1, hpair.2, Bool.true_and, if_pos rfl, cons_append, cons_append,
      unquote_surrogate (by rw [hpair.1, Bool.true_or]),
      unquote_surrogate (by rw [hpair.2, Bool.or_true]), ih]
    rfl
  | case4 first second text hpair ih =>
    rw [quoteUnits, if_neg hpair, append_assoc, unquote_quoteUnit, ih]
    rfl

/-- A record of strings. -/
def ofStrings (fields : List (Utf16 × Utf16)) : Json :=
  .object (fields.map fun field => (field.1, .string field.2))

private theorem skipBlanks_cons (h : isBlank unit = false) (text : Utf16) :
    skipBlanks (unit :: text) = unit :: text :=
  dropWhile_cons_of_neg (by simp [h])

theorem expect?_cons {mark : UInt16} (h : isBlank mark = false) (text : Utf16) :
    expect? mark (mark :: text) = some text := by
  rw [expect?, skipBlanks_cons h]
  exact if_pos rfl

theorem expect?_cons_ne {mark : UInt16} (h : isBlank unit = false) (hne : unit ≠ mark)
    (text : Utf16) : expect? mark (unit :: text) = none := by
  rw [expect?, skipBlanks_cons h]
  exact if_neg hne

theorem quote_append (text rest : Utf16) :
    quote text ++ rest = 0x22 :: (quoteUnits text ++ 0x22 :: rest) := by
  change 0x22 :: ((quoteUnits text ++ [0x22]) ++ rest) = _
  rw [append_assoc, singleton_append]

section Records

variable (number : Utf16 → JsNumber) (numeral : ℚ → Utf16) {fields : List (Utf16 × Utf16)}

private theorem parseValue_quote (fuel : ℕ) (text rest : Utf16) :
    parseValue number (fuel + 1) (quote text ++ rest) = some (.string text, rest) := by
  rw [quote_append, parseValue, skipBlanks_cons (by decide)]
  dsimp only
  rw [if_pos rfl, unquote_quoteUnits]
  rfl

private theorem setField_new {fields : List (Utf16 × Json)} {key : Utf16} (value : Json)
    (h : key ∉ fields.map Prod.fst) : setField fields key value = fields ++ [(key, value)] := by
  have hnone : (fields.any fun field => field.1 == key) = false := by
    rw [any_eq_false]
    intro field hfield heq
    exact h (beq_iff_eq.mp heq ▸ mem_map_of_mem hfield)
  rw [setField, hnone, if_neg Bool.false_ne_true]

/-- The text of a field of a string. -/
def fieldText (field : Utf16 × Utf16) : Utf16 := quote field.1 ++ ofString ":" ++ quote field.2

private theorem stringifyFields_strings (fields : List (Utf16 × Utf16)) :
    stringifyFields numeral (fields.map fun field => (field.1, Json.string field.2)) =
      fields.map fieldText := by
  induction fields with
  | nil => rfl
  | cons field fields ih => rw [map_cons, stringifyFields, ih, stringify, map_cons, fieldText]

private theorem parseFields_field (fuel : ℕ) (known : List (Utf16 × Json)) (field : Utf16 × Utf16)
    (rest : Utf16) (hnew : field.1 ∉ known.map Prod.fst) :
    parseFields number (fuel + 2) known (fieldText field ++ rest) =
      match expect? 0x2C rest with
      | some text => parseFields number (fuel + 1) (known ++ [(field.1, .string field.2)]) text
      | none => (expect? 0x7D rest).map fun text =>
          (.object (known ++ [(field.1, .string field.2)]), text) := by
  have hcolon : fieldText field ++ rest =
      0x22 :: (quoteUnits field.1 ++ 0x22 :: 0x3A :: (quote field.2 ++ rest)) := by
    rw [fieldText, append_assoc, append_assoc, quote_append]
    rfl
  rw [hcolon, parseFields, expect?_cons (by decide), Option.bind_some, unquote_quoteUnits]
  dsimp only
  rw [expect?_cons (by decide), Option.bind_some, parseValue_quote]
  dsimp only
  rw [setField_new _ hnew]

private theorem parseFields_strings (hne : fields ≠ []) {fuel : ℕ}
    (hfuel : fields.length + 1 ≤ fuel) {known : List (Utf16 × Json)}
    (hnodup : (known.map Prod.fst ++ fields.map Prod.fst).Nodup) (rest : Utf16) :
    parseFields number fuel known
        ((ofString ",").intercalate (fields.map fieldText) ++ 0x7D :: rest) =
      some (.object (known ++ fields.map fun field => (field.1, .string field.2)), rest) := by
  induction fields generalizing fuel known with
  | nil => exact absurd rfl hne
  | cons field fields ih =>
    obtain ⟨fuel, rfl⟩ : ∃ n, fuel = n + 2 :=
      Nat.exists_eq_add_of_le' (by rw [length_cons] at hfuel; omega)
    have hnew : field.1 ∉ known.map Prod.fst := by
      rw [map_cons, nodup_append] at hnodup
      exact fun hmem => hnodup.2.2 _ hmem _ mem_cons_self rfl
    cases fields with
    | nil =>
      rw [map_cons, map_nil, intercalate_singleton, parseFields_field _ _ _ _ _ hnew,
        expect?_cons_ne (by decide) (by decide), expect?_cons (by decide)]
      rfl
    | cons second fields =>
      have htext : (ofString ",").intercalate ((field :: second :: fields).map fieldText) ++
          0x7D :: rest = fieldText field ++ (0x2C ::
            ((ofString ",").intercalate ((second :: fields).map fieldText) ++ 0x7D :: rest)) := by
        simp [List.intercalate, append_assoc]
        rfl
      rw [htext, parseFields_field _ _ _ _ _ hnew, expect?_cons (by decide)]
      dsimp only
      rw [ih (cons_ne_nil _ _) (by simp only [length_cons] at hfuel ⊢; omega) ?_]
      · rw [append_assoc]
        rfl
      · rw [map_append]
        simpa [append_assoc] using hnodup

private theorem le_length_intercalate (separator : Utf16) {texts : List Utf16}
    (h : ∀ text ∈ texts, text ≠ []) : texts.length ≤ (separator.intercalate texts).length := by
  induction texts with
  | nil => exact Nat.zero_le _
  | cons text texts ih =>
    have htext := length_pos_of_ne_nil (h text mem_cons_self)
    cases texts with
    | nil =>
      rw [intercalate_singleton]
      exact htext
    | cons second texts =>
      have hrest := ih fun other hother => h other (mem_cons_of_mem _ hother)
      rw [intercalate_cons_cons, length_append, length_append, length_cons]
      omega

/-- **A record of strings that was written is read back.** -/
theorem parse_stringify_ofStrings (hne : fields ≠ [])
    (hnodup : (fields.map Prod.fst).Nodup) :
    parse number (stringify numeral (ofStrings fields)) = some (ofStrings fields) := by
  have htext : stringify numeral (ofStrings fields) =
      0x7B :: ((ofString ",").intercalate (fields.map fieldText) ++ [0x7D]) := by
    rw [ofStrings, stringify, stringifyFields_strings]
    rfl
  obtain ⟨text, hquote⟩ : ∃ text, (ofString ",").intercalate (fields.map fieldText) ++ [0x7D] =
      0x22 :: text := by
    cases fields with
    | nil => exact absurd rfl hne
    | cons field others =>
      cases others with
      | nil => exact ⟨_, rfl⟩
      | cons second others => exact ⟨_, rfl⟩
  have hlength : fields.length ≤ ((ofString ",").intercalate (fields.map fieldText)).length := by
    have hnonempty : ∀ text ∈ fields.map fieldText, text ≠ [] := fun text hmem => by
      obtain ⟨field, -, rfl⟩ := mem_map.mp hmem
      exact cons_ne_nil _ _
    have h := le_length_intercalate (ofString ",") hnonempty
    rwa [length_map] at h
  have hfuel : fields.length + 1 ≤ 2 * (stringify numeral (ofStrings fields)).length + 1 := by
    rw [htext, length_cons, length_append]
    omega
  have hfields := @parseFields_strings number fields hne _ hfuel [] hnodup []
  rw [parse, parseValue, htext, skipBlanks_cons (by decide)]
  dsimp only
  rw [if_neg (by decide), if_pos rfl, hquote, expect?_cons_ne (by decide) (by decide), ← hquote,
    ← htext, hfields]
  rfl

/-! ### Written texts are well-formed -/

open Utf8 in
private theorem hexDigit_lt {digit : ℕ} (h : digit < 16) : (hexDigit digit).toNat < 0xD800 := by
  revert digit
  decide

open Utf8 in
private theorem wellFormed_quoteUnit (unit : UInt16) : WellFormed (quoteUnit unit) := by
  unfold quoteUnit
  split_ifs with _ _ _ _ _ _ _ hescape
  iterate 7 exact wellFormed_of_all (by decide)
  · have hlt := unit.toNat_lt
    have hstart : WellFormed (ofString "\\u") := wellFormed_of_all (by decide)
    refine hstart.append (wellFormed_of_lt ?_)
    simp only [mem_cons, not_mem_nil, or_false, forall_eq_or_imp, forall_eq]
    exact ⟨hexDigit_lt (by omega), hexDigit_lt (by omega), hexDigit_lt (by omega),
      hexDigit_lt (by omega)⟩
  · rw [Bool.not_eq_true, Bool.or_eq_false_iff, Bool.or_eq_false_iff] at hescape
    exact .unit (by rw [hescape.1.2, hescape.2, Bool.or_self]) .nil

open Utf8 in
private theorem wellFormed_quoteUnits (text : Utf16) : WellFormed (quoteUnits text) := by
  induction text using quoteUnits.induct with
  | case1 => exact .nil
  | case2 unit => exact wellFormed_quoteUnit unit
  | case3 first second text hpair ih =>
    rw [Bool.and_eq_true] at hpair
    rw [quoteUnits, hpair.1, hpair.2, Bool.true_and, if_pos rfl]
    exact .pair hpair.1 hpair.2 ih
  | case4 first second text hpair ih =>
    rw [quoteUnits, if_neg hpair]
    exact (wellFormed_quoteUnit first).append ih

open Utf8 in
theorem wellFormed_quote (text : Utf16) : WellFormed (quote text) := by
  have hmark : WellFormed (ofString "\"") := wellFormed_of_all (by decide)
  exact (hmark.append (wellFormed_quoteUnits text)).append hmark

open Utf8 in
theorem wellFormed_stringify_ofStrings (fields : List (Utf16 × Utf16)) :
    WellFormed (stringify numeral (ofStrings fields)) := by
  have hcomma : WellFormed (ofString ",") := wellFormed_of_all (by decide)
  have hcolon : WellFormed (ofString ":") := wellFormed_of_all (by decide)
  have hfields : WellFormed ((ofString ",").intercalate (fields.map fieldText)) := by
    induction fields with
    | nil => exact .nil
    | cons field fields ih =>
      have hfield : WellFormed (fieldText field) :=
        ((wellFormed_quote field.1).append hcolon).append (wellFormed_quote field.2)
      cases fields with
      | nil =>
        rw [map_cons, map_nil, intercalate_singleton]
        exact hfield
      | cons second fields =>
        rw [map_cons, map_cons, intercalate_cons_cons]
        exact (hfield.append hcomma).append ih
  rw [ofStrings, stringify, stringifyFields_strings]
  exact ((wellFormed_of_all (by decide)).append hfields).append (wellFormed_of_all (by decide))

end Records

end Json
