import ContentAutomation.Library.Json
import ContentAutomation.Library.Utf8
import ContentAutomation.Library.Vocabulary

/-!
# Shapes of values

A schema of the program parses a value of JSON: it gives the typed value back where the value has
the shape that it asks for. A record is strict: it has each of its properties, and no others.
A typed value that is written is parsed back where it is within the bounds of its shape.
-/

/-- What a schema parses of a value. -/
abbrev Shape (T : Type) := Json → Option T

namespace Shape

open Utf16 List

variable {T U : Type}

/-- The string whose code units are the characters of a text in ASCII. -/
def asciiString (text : Utf16) : String := String.ofList (text.map fun unit => Char.ofNat unit.toNat)

/-- `z.string()`, with the checks on it. -/
def string (accepts : Utf16 → Bool) : Shape Utf16
  | .string text => if accepts text then some text else none
  | _ => none

/-- `z.string().regex(..)`, of a pattern whose characters are in ASCII. -/
def pattern (accepts : String → Bool) : Shape String
  | .string text => if accepts (asciiString text) then some (asciiString text) else none
  | _ => none

/-- `z.literal(..)`. -/
def literal (expected : String) : Shape Unit
  | .string text => if text = ofString expected then some () else none
  | _ => none

/-- `z.enum(..)`. -/
def oneOf (T : Type) [Vocabulary T] : Shape T
  | .string text => (Vocabulary.all : List T).find? fun member =>
      ofString (Vocabulary.word member) == text
  | _ => none

/-- `z.number().int().min(lower).max(upper)`. -/
def integer (lower upper : ℤ) : Shape ℤ
  | .number (.finite value) =>
    if value.den = 1 ∧ lower ≤ value.num ∧ value.num ≤ upper then some value.num else none
  | _ => none

/-- `z.number()`, with the checks on it. -/
def number (accepts : ℚ → Bool) : Shape ℚ
  | .number (.finite value) => if accepts value then some value else none
  | _ => none

/-- `z.boolean()`. -/
def boolean : Shape Bool
  | .boolean value => some value
  | _ => none

/-- `shape.nullable()`. -/
def nullable (shape : Shape T) : Shape (Option T)
  | .null => some none
  | value => (shape value).map some

/-- `z.array(shape).min(least).max(most)`. -/
def array (shape : Shape T) (least most : ℕ) : Shape (List T)
  | .array items =>
    if least ≤ items.length ∧ items.length ≤ most then items.mapM shape else none
  | _ => none

/-- The fields of a record that has no properties but these. -/
def strictObject (properties : List String) : Shape (List (Utf16 × Json))
  | .object fields =>
    if fields.all fun field => properties.any fun name => ofString name == field.1 then some fields
    else none
  | _ => none

/-- A property of a record. -/
def property (fields : List (Utf16 × Json)) (name : String) (shape : Shape T) : Option T :=
  (Json.field? fields name).bind shape

/-! ### What is written is parsed back -/

/-- The fields of a record with the properties, as they are written. -/
def written (properties : List (String × Json)) : List (Utf16 × Json) :=
  properties.map fun property => (ofString property.1, property.2)

/-- A record with the properties, as it is written. -/
def record (properties : List (String × Json)) : Json := .object (written properties)

/-- A value or null, as it is written. -/
def orNull (write : T → Json) : Option T → Json
  | none => .null
  | some value => write value

/-- A string, as it is written. -/
def writeString (text : String) : Json := .string (ofString text)

/-- A number, as it is written. -/
def writeInteger (value : ℤ) : Json := .number (.finite value)

variable {shape : Shape T} {write : T → Json} {value : T} {fields : List (String × Json)}

@[simp] theorem string_eq {accepts : Utf16 → Bool} {text : Utf16} (h : accepts text) :
    string accepts (.string text) = some text := by
  simp [string, h]

private theorem asciiString_ofString {text : String} (h : ∀ c ∈ text.toList, c.toNat < 0x80) :
    asciiString (ofString text) = text := by
  have hunits : ∀ cs : List Char, (∀ c ∈ cs, c.toNat < 0x80) →
      (cs.flatMap codeUnits).map (fun unit => Char.ofNat unit.toNat) = cs := by
    intro cs hcs
    induction cs with
    | nil => rfl
    | cons c cs ih =>
      have hc := hcs c mem_cons_self
      have hunit : codeUnits c = [UInt16.ofNat c.toNat] := if_pos (by omega)
      have hnat : (UInt16.ofNat c.toNat).toNat = c.toNat := by
        rw [UInt16.toNat_ofNat']
        omega
      rw [flatMap_cons, hunit, map_append, map_singleton, hnat, Char.ofNat_toNat,
        ih fun other hother => hcs other (mem_cons_of_mem _ hother), singleton_append]
  unfold asciiString ofString
  rw [hunits _ h, String.ofList_toList]

theorem pattern_eq {accepts : String → Bool} {text : String}
    (hascii : ∀ c ∈ text.toList, c.toNat < 0x80) (h : accepts text) :
    pattern accepts (writeString text) = some text := by
  simp only [pattern, writeString, asciiString_ofString hascii, h, if_true]

@[simp] theorem number_eq {accepts : ℚ → Bool} {value : ℚ} (h : accepts value) :
    number accepts (.number (.finite value)) = some value := by
  simp [number, h]

@[simp] theorem literal_eq (expected : String) :
    literal expected (writeString expected) = some () := by
  simp [literal, writeString]

@[simp] theorem oneOf_word [Vocabulary T] (member : T) :
    oneOf T (writeString (Vocabulary.word member)) = some member := by
  have hfound : ((Vocabulary.all : List T).find? fun other =>
      ofString (Vocabulary.word other) == ofString (Vocabulary.word member)) =
      Vocabulary.ofWord? (Vocabulary.word member) := by
    unfold Vocabulary.ofWord?
    congr 1
    funext other
    rw [Bool.eq_iff_iff, beq_iff_eq, beq_iff_eq, Utf8.ofString_injective.eq_iff]
  exact hfound.trans (Vocabulary.ofWord?_word member)

@[simp] theorem integer_eq {lower upper value : ℤ} (h : lower ≤ value ∧ value ≤ upper) :
    integer lower upper (writeInteger value) = some value := by
  simp [integer, writeInteger, h]

@[simp] theorem boolean_eq (value : Bool) : boolean (.boolean value) = some value := rfl

theorem nullable_eq {value : Option T} (hwritten : ∀ inner, write inner ≠ .null)
    (h : ∀ inner ∈ value, shape (write inner) = some inner) :
    nullable shape (orNull write value) = some value := by
  cases value with
  | none => rfl
  | some inner =>
    have hinner := h inner rfl
    have hnull := hwritten inner
    unfold orNull nullable
    split
    · contradiction
    · rw [hinner, Option.map_some]

theorem array_eq {values : List T} {least most : ℕ}
    (hbounds : least ≤ values.length ∧ values.length ≤ most)
    (h : ∀ value ∈ values, shape (write value) = some value) :
    array shape least most (.array (values.map write)) = some values := by
  have hitems : (values.map write).mapM shape = some values := by
    clear hbounds
    induction values with
    | nil => rfl
    | cons value values ih =>
      rw [map_cons, mapM_cons, h value mem_cons_self,
        ih fun other hother => h other (mem_cons_of_mem _ hother)]
      rfl
  simp only [array, length_map, hbounds, and_self, if_true, hitems]

theorem property_written {name other : String} {inner : Json} :
    property (written ((other, inner) :: fields)) name shape =
      if name = other then shape inner else property (written fields) name shape := by
  unfold property Json.field? written
  rw [map_cons, lookup_cons]
  by_cases heq : name = other
  · subst heq
    rw [beq_self_eq_true, if_pos rfl]
    rfl
  · have hne : (ofString name == ofString other) = false := by
      rw [beq_eq_false_iff_ne]
      exact fun h => heq (Utf8.ofString_injective h)
    rw [hne, if_neg heq]

theorem bind_property {name : String} {inner : Json}
    {rest : T → Option U} {result : U} (hlookup : fields.lookup name = some inner)
    (hvalue : shape inner = some value) (hrest : rest value = some result) :
    (property (written fields) name shape >>= rest) = some result := by
  have hproperty : property (written fields) name shape = shape inner := by
    induction fields with
    | nil => cases hlookup
    | cons field fields ih =>
      rw [property_written]
      rw [lookup_cons] at hlookup
      by_cases heq : name = field.1
      · rw [heq, beq_self_eq_true] at hlookup
        rw [if_pos heq, Option.some.inj hlookup]
      · rw [beq_eq_false_iff_ne.mpr heq] at hlookup
        rw [if_neg heq, ih hlookup]
  rw [hproperty, hvalue, Option.bind_eq_bind, Option.bind_some, hrest]

theorem strictObject_record {properties : List String} (h : fields.map Prod.fst = properties) :
    strictObject properties (record fields) = some (written fields) := by
  subst h
  have hall : (written fields).all fun field =>
      (fields.map Prod.fst).any fun name => ofString name == field.1 := by
    rw [all_eq_true]
    intro field hfield
    obtain ⟨entry, hentry, rfl⟩ := mem_map.mp hfield
    rw [any_eq_true]
    exact ⟨entry.1, mem_map_of_mem hentry, beq_self_eq_true _⟩
  simp only [strictObject, record, hall, if_true]

theorem bind_strictObject {properties : List String} {rest : List (Utf16 × Json) → Option U}
    {result : U} (h : fields.map Prod.fst = properties)
    (hrest : rest (written fields) = some result) :
    (strictObject properties (record fields) >>= rest) = some result := by
  rw [strictObject_record h, Option.bind_eq_bind, Option.bind_some, hrest]

end Shape
