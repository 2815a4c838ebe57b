import ContentAutomation.Library.Utf16
import Mathlib.Data.List.Sort
import Mathlib.Data.Rat.Defs

/-!
# Values of JSON

What `JSON.parse` returns, with the strings in it as code units, how such a value
is written again, and which texts it holds.
-/

/-- A number of the runtime. -/
inductive JsNumber
  | finite (value : ℚ)
  | infinite (negative : Bool)
  | notANumber
  deriving DecidableEq

/-- A value that `JSON.parse` returns. -/
inductive Json
  | null
  | boolean (value : Bool)
  | number (value : JsNumber)
  | string (value : Utf16)
  | array (items : List Json)
  | object (fields : List (Utf16 × Json))

namespace Json

open Utf16 List

/-- The fields of a record; the function `isRecord` of the program tells which values have them. -/
def fields? : Json → Option (List (Utf16 × Json))
  | .object fields => some fields
  | _ => none

/-- `record[key]`, `none` being `undefined`. -/
def field? (fields : List (Utf16 × Json)) (key : String) : Option Json :=
  fields.lookup (ofString key)

/-- The value as a string, if it is one. -/
def string? : Json → Option Utf16
  | .string value => some value
  | _ => none

/-- The value as a number, if it is one. -/
def number? : Json → Option JsNumber
  | .number value => some value
  | _ => none

/-- The value as an array, if it is one. -/
def array? : Json → Option (List Json)
  | .array items => some items
  | _ => none

mutual

/-- The strings in a value, the keys of its records included. -/
def strings : Json → List Utf16
  | .string value => [value]
  | .array items => stringsOfItems items
  | .object fields => stringsOfFields fields
  | _ => []

/-- The strings in the items of an array. -/
def stringsOfItems : List Json → List Utf16
  | [] => []
  | item :: items => strings item ++ stringsOfItems items

/-- The strings in the fields of a record. -/
def stringsOfFields : List (Utf16 × Json) → List Utf16
  | [] => []
  | (key, value) :: fields => key :: (strings value ++ stringsOfFields fields)

end

/-- No string of a value has the code point zero. -/
def ZeroFree (value : Json) : Prop := ∀ text ∈ value.strings, 0 ∉ text

instance (value : Json) : Decidable value.ZeroFree :=
  inferInstanceAs (Decidable (∀ text ∈ value.strings, 0 ∉ text))

variable {fields : List (Utf16 × Json)}

/-- A record has no code point zero when no key and no value has one. -/
theorem zeroFree_object_iff :
    (object fields).ZeroFree ↔ ∀ field ∈ fields, 0 ∉ field.1 ∧ field.2.ZeroFree := by
  unfold ZeroFree
  rw [strings]
  induction fields with
  | nil => simp [stringsOfFields]
  | cons field fields ih =>
    simp only [stringsOfFields, forall_mem_cons, forall_mem_append, ih, and_assoc]

/-! ### Writing a value -/

/-- A hexadecimal digit. -/
def hexDigit (digit : ℕ) : UInt16 :=
  if digit < 10 then .ofNat (0x30 + digit) else .ofNat (0x57 + digit)

/-- `\uXXXX`. -/
def unicodeEscape (unit : UInt16) : Utf16 :=
  ofString "\\u" ++ [hexDigit (unit.toNat / 0x1000), hexDigit (unit.toNat / 0x100 % 0x10),
    hexDigit (unit.toNat / 0x10 % 0x10), hexDigit (unit.toNat % 0x10)]

/-- One code unit inside quotes, which is not part of a surrogate pair. -/
def quoteUnit (unit : UInt16) : Utf16 :=
  if unit = 0x08 then ofString "\\b"
  else if unit = 0x09 then ofString "\\t"
  else if unit = 0x0A then ofString "\\n"
  else if unit = 0x0C then ofString "\\f"
  else if unit = 0x0D then ofString "\\r"
  else if unit = 0x22 then ofString "\\\""
  else if unit = 0x5C then ofString "\\\\"
  else if unit < 0x20 || isLeading unit || isTrailing unit then unicodeEscape unit
  else [unit]

/-- The text of a string inside quotes. -/
def quoteUnits : Utf16 → Utf16
  | [] => []
  | [unit] => quoteUnit unit
  | first :: second :: text =>
    if isLeading first && isTrailing second then first :: second :: quoteUnits text
    else quoteUnit first ++ quoteUnits (second :: text)

/-- A quoted string. -/
def quote (text : Utf16) : Utf16 := ofString "\"" ++ quoteUnits text ++ ofString "\""

section Stringify

variable (numeral : ℚ → Utf16)

mutual

/-- `JSON.stringify`, where `numeral` writes the finite numbers. -/
def stringify : Json → Utf16
  | .null => ofString "null"
  | .boolean true => ofString "true"
  | .boolean false => ofString "false"
  | .number (.finite value) => numeral value
  | .number _ => ofString "null"
  | .string value => quote value
  | .array items =>
    ofString "[" ++ (ofString ",").intercalate (stringifyItems items) ++ ofString "]"
  | .object fields =>
    ofString "\x7b" ++ (ofString ",").intercalate (stringifyFields fields) ++ ofString "\x7d"

/-- The texts of the items of an array. -/
def stringifyItems : List Json → List Utf16
  | [] => []
  | item :: items => stringify item :: stringifyItems items

/-- The texts of the fields of a record. -/
def stringifyFields : List (Utf16 × Json) → List Utf16
  | [] => []
  | (key, value) :: fields =>
    (quote key ++ ofString ":" ++ stringify value) :: stringifyFields fields

end

end Stringify

section Canonicalise

/-- A key that is an array index, which a record lists before its other keys: a decimal
numeral below `2^32 - 1`, without a leading zero. -/
def arrayIndex? (key : Utf16) : Option ℕ :=
  let index := key.foldl (fun index unit => 10 * index + (unit.toNat - 0x30)) 0
  if key = ofString (toString index) ∧ index < 4294967295 then some index else none

/-- The fields of a record in the order in which it lists them, when they were assigned in
this order: the array indices ascending, then the others as they were assigned. -/
def ownOrder (fields : List (Utf16 × Json)) : List (Utf16 × Json) :=
  (fields.filter fun field => (arrayIndex? field.1).isSome).insertionSort
      (fun field other => (arrayIndex? field.1).getD 0 ≤ (arrayIndex? other.1).getD 0) ++
    fields.filter fun field => (arrayIndex? field.1).isNone

/-- The key `__proto__`. What is assigned to it becomes the prototype of a record, or is
ignored; it never becomes a field. -/
def protoKey : Utf16 := ofString "__proto__"

/-- The fields of a record that is built by assigning these in the order of their keys. -/
def assigned (fields : List (Utf16 × Json)) : List (Utf16 × Json) :=
  ownOrder (fields.insertionSort fun field other => field.1 ≤ other.1)

variable (dropped : List Utf16)

mutual

/-- The value with its records built anew, field by field in the order of the keys, but for
the fields that are dropped. -/
def canonicalise : Json → Json
  | .array items => .array (canonicaliseItems items)
  | .object fields => .object (assigned (canonicaliseFields fields))
  | value => value

/-- The canonical items of an array. -/
def canonicaliseItems : List Json → List Json
  | [] => []
  | item :: items => canonicalise item :: canonicaliseItems items

/-- The canonical fields of a record, in their order. -/
def canonicaliseFields : List (Utf16 × Json) → List (Utf16 × Json)
  | [] => []
  | (key, value) :: fields =>
    if key = protoKey ∨ key ∈ dropped then canonicaliseFields fields
    else (key, canonicalise value) :: canonicaliseFields fields

end

end Canonicalise

/-! ### The strings of parts -/

private theorem mem_stringsOfFields {key : String} {value : Json}
    (h : field? fields key = some value) {text : Utf16} (htext : text ∈ value.strings) :
    text ∈ stringsOfFields fields := by
  induction fields with
  | nil => simp [field?] at h
  | cons head fields ih =>
    obtain ⟨name, first⟩ := head
    rw [field?, lookup_cons] at h
    rw [stringsOfFields, mem_cons, mem_append]
    split at h
    · cases h
      exact Or.inr (Or.inl htext)
    · exact Or.inr (Or.inr (ih h))

private theorem mem_stringsOfItems {items : List Json} {item : Json} (h : item ∈ items)
    {text : Utf16} (htext : text ∈ item.strings) : text ∈ stringsOfItems items := by
  induction items with
  | nil => simp at h
  | cons head items ih =>
    rw [stringsOfItems, mem_append]
    rcases mem_cons.mp h with rfl | hrest
    · exact Or.inl htext
    · exact Or.inr (ih hrest)

theorem ZeroFree.field {value part : Json} {key : String}
    (h : value.ZeroFree) (hfields : value.fields? = some fields)
    (hpart : field? fields key = some part) : part.ZeroFree := by
  intro text htext
  cases value with
  | object own =>
    cases hfields
    exact h text (mem_stringsOfFields hpart htext)
  | _ => cases hfields

theorem ZeroFree.item {value part : Json} {items : List Json} (h : value.ZeroFree)
    (hitems : value.array? = some items) (hpart : part ∈ items) : part.ZeroFree := by
  intro text htext
  cases value with
  | array own =>
    cases hitems
    exact h text (mem_stringsOfItems hpart htext)
  | _ => cases hitems

end Json
