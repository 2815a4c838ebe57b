import ContentAutomation.Library.Json
import Mathlib.Data.List.Perm.Lattice

/-!
# What a value of JSON says

A record of JSON maps keys to values, in whatever order its fields stand. This file has such
values without an order, and what becomes of them when a value is built anew with its fields
sorted: values are built to the same result exactly when they say the same, but for the
fields that are left out on the way.
-/

/-- A value of JSON in which the fields of a record have no order. -/
inductive JsonValue
  | null
  | boolean (value : Bool)
  | number (value : JsNumber)
  | string (value : Utf16)
  | array (items : List JsonValue)
  | object (field : Utf16 → Option JsonValue)

namespace JsonValue

section Without

variable (dropped : List Utf16)

mutual

/-- The value without some fields, in its records at every depth. -/
def without : JsonValue → JsonValue
  | .null => .null
  | .boolean value => .boolean value
  | .number value => .number value
  | .string value => .string value
  | .array items => .array (withoutItems items)
  | .object field => .object fun key => if key ∈ dropped then none else withoutField (field key)

/-- The items of an array without some fields. -/
def withoutItems : List JsonValue → List JsonValue
  | [] => []
  | item :: items => without item :: withoutItems items

/-- What is under a key, without some fields. -/
def withoutField : Option JsonValue → Option JsonValue
  | none => none
  | some value => some (without value)

end

end Without

mutual

/-- The value with null for the numbers that are not finite. -/
def finite : JsonValue → JsonValue
  | .null => .null
  | .boolean value => .boolean value
  | .number (.finite value) => .number (.finite value)
  | .number _ => .null
  | .string value => .string value
  | .array items => .array (finiteItems items)
  | .object field => .object fun key => finiteField (field key)

/-- The items of an array with null for the numbers that are not finite. -/
def finiteItems : List JsonValue → List JsonValue
  | [] => []
  | item :: items => finite item :: finiteItems items

/-- What is under a key, with null for the numbers that are not finite. -/
def finiteField : Option JsonValue → Option JsonValue
  | none => none
  | some value => some (finite value)

end

mutual

/-- Fields that are left out in two steps are left out in one. -/
theorem without_finite_without (first rest : List Utf16) (value : JsonValue) :
    without first (finite (without rest value)) = without (first ++ rest) (finite value) := by
  cases value with
  | null => rfl
  | boolean value => rfl
  | number value =>
    cases value with
    | finite value => rfl
    | infinite negative => rfl
    | notANumber => rfl
  | string value => rfl
  | array items =>
    rw [without, finite, without, finite, without, withoutItems_finiteItems_withoutItems]
  | object field =>
    rw [without, finite, without, finite, without]
    congr 1
    funext key
    by_cases hfirst : key ∈ first
    · rw [if_pos hfirst, if_pos (List.mem_append_left rest hfirst)]
    · by_cases hrest : key ∈ rest
      · rw [if_neg hfirst, if_pos hrest, if_pos (List.mem_append_right first hrest)]
        rfl
      · rw [if_neg hfirst, if_neg hrest, if_neg (by simp [hfirst, hrest]),
          withoutField_finiteField_withoutField first rest (field key)]

private theorem withoutItems_finiteItems_withoutItems (first rest : List Utf16)
    (items : List JsonValue) : withoutItems first (finiteItems (withoutItems rest items)) =
      withoutItems (first ++ rest) (finiteItems items) := by
  cases items with
  | nil => rfl
  | cons item items =>
    rw [withoutItems, finiteItems, withoutItems, finiteItems, withoutItems,
      without_finite_without first rest item, withoutItems_finiteItems_withoutItems first rest items]

private theorem withoutField_finiteField_withoutField (first rest : List Utf16)
    (field : Option JsonValue) : withoutField first (finiteField (withoutField rest field)) =
      withoutField (first ++ rest) (finiteField field) := by
  cases field with
  | none => rfl
  | some value =>
    rw [withoutField, finiteField, withoutField, finiteField, withoutField,
      without_finite_without first rest value]

end

end JsonValue

open JsonValue

namespace Json

open Utf16 List

/-! ### What a value says -/

mutual

/-- What a value says. -/
def value : Json → JsonValue
  | .null => .null
  | .boolean value => .boolean value
  | .number value => .number value
  | .string value => .string value
  | .array items => .array (valueItems items)
  | .object fields => .object fun key => valueAt fields key

/-- What the items of an array say. -/
def valueItems : List Json → List JsonValue
  | [] => []
  | item :: items => value item :: valueItems items

/-- What is said under a key. -/
def valueAt : List (Utf16 × Json) → Utf16 → Option JsonValue
  | [], _ => none
  | (key, inner) :: fields, other => if other = key then some (value inner) else valueAt fields other

end

mutual

/-- The keys of every record in the value are distinct, as those of a record of the program
are. -/
def Keyed : Json → Prop
  | .array items => KeyedItems items
  | .object fields => (fields.map Prod.fst).Nodup ∧ KeyedFields fields
  | _ => True

/-- The keys of the records in the items of an array are distinct. -/
def KeyedItems : List Json → Prop
  | [] => True
  | item :: items => Keyed item ∧ KeyedItems items

/-- The keys of the records under the keys of a record are distinct. -/
def KeyedFields : List (Utf16 × Json) → Prop
  | [] => True
  | (_, inner) :: fields => Keyed inner ∧ KeyedFields fields

end

mutual

/-- The value with null for the numbers that are not finite, which is how they are written. -/
def written : Json → Json
  | .number (.finite value) => .number (.finite value)
  | .number _ => .null
  | .array items => .array (writtenItems items)
  | .object fields => .object (writtenFields fields)
  | value => value

/-- The items of an array as they are written. -/
def writtenItems : List Json → List Json
  | [] => []
  | item :: items => written item :: writtenItems items

/-- The fields of a record as they are written. -/
def writtenFields : List (Utf16 × Json) → List (Utf16 × Json)
  | [] => []
  | (key, inner) :: fields => (key, written inner) :: writtenFields fields

end

variable {fields fields' : List (Utf16 × Json)} {key : Utf16} {inner : Json}

private theorem KeyedFields.of_mem (h : KeyedFields fields) (hmem : (key, inner) ∈ fields) :
    Keyed inner := by
  induction fields with
  | nil => cases hmem
  | cons field fields ih =>
    obtain ⟨hfirst, hrest⟩ := h
    rcases mem_cons.mp hmem with rfl | htail
    · exact hfirst
    · exact ih hrest htail

/-- Where the values under the keys have distinct keys, those of the record do. -/
theorem keyedFields_of_forall (h : ∀ field ∈ fields, Keyed field.2) : KeyedFields fields := by
  induction fields with
  | nil => trivial
  | cons field fields ih =>
    rw [forall_mem_cons] at h
    exact ⟨h.1, ih h.2⟩

private theorem valueAt_of_mem (h : (fields.map Prod.fst).Nodup) (hmem : (key, inner) ∈ fields) :
    valueAt fields key = some (value inner) := by
  induction fields with
  | nil => cases hmem
  | cons field fields ih =>
    obtain ⟨name, first⟩ := field
    rw [map_cons, nodup_cons] at h
    rw [valueAt]
    rcases mem_cons.mp hmem with heq | htail
    · obtain ⟨rfl, rfl⟩ := Prod.mk.inj heq
      rw [if_pos rfl]
    · have hne : key ≠ name := by
        rintro rfl
        exact h.1 (mem_map.mpr ⟨(key, inner), htail, rfl⟩)
      rw [if_neg hne, ih h.2 htail]

private theorem exists_mem_of_valueAt {said : JsonValue} (h : valueAt fields key = some said) :
    ∃ inner, (key, inner) ∈ fields ∧ value inner = said := by
  induction fields with
  | nil => cases h
  | cons field fields ih =>
    obtain ⟨name, first⟩ := field
    rw [valueAt] at h
    split_ifs at h with heq
    · obtain rfl := Option.some.inj h
      exact ⟨first, by rw [heq]; exact mem_cons_self, rfl⟩
    · obtain ⟨inner, hmem, hsaid⟩ := ih h
      exact ⟨inner, mem_cons_of_mem _ hmem, hsaid⟩

/-- The order of fields with distinct keys does not change what a record says. -/
theorem valueAt_perm (hperm : fields.Perm fields') (h : (fields.map Prod.fst).Nodup)
    (key : Utf16) : valueAt fields key = valueAt fields' key := by
  have h' : (fields'.map Prod.fst).Nodup := (hperm.map Prod.fst).nodup_iff.mp h
  cases hsaid : valueAt fields key with
  | none =>
    cases hother : valueAt fields' key with
    | none => rfl
    | some said =>
      obtain ⟨inner, hmem, -⟩ := exists_mem_of_valueAt hother
      rw [valueAt_of_mem h (hperm.mem_iff.mpr hmem)] at hsaid
      cases hsaid
  | some said =>
    obtain ⟨inner, hmem, rfl⟩ := exists_mem_of_valueAt hsaid
    rw [valueAt_of_mem h' (hperm.mem_iff.mp hmem)]

/-! ### The order in which fields are assigned -/

private theorem perm_ownOrder (fields : List (Utf16 × Json)) : (ownOrder fields).Perm fields := by
  have hsplit := filter_append_perm (fun field => (arrayIndex? field.1).isSome) fields
  have hnone : fields.filter (fun field => (arrayIndex? field.1).isNone) =
      fields.filter fun field => !(arrayIndex? field.1).isSome := by
    refine filter_congr fun field _ => ?_
    cases arrayIndex? field.1 with
    | none => rfl
    | some index => rfl
  rw [ownOrder, hnone]
  exact ((perm_insertionSort _ _).append_right _).trans hsplit

private theorem perm_assigned (fields : List (Utf16 × Json)) : (assigned fields).Perm fields :=
  (perm_ownOrder _).trans (perm_insertionSort _ fields)

private theorem assigned_eq_of_perm (hperm : fields.Perm fields')
    (h : (fields.map Prod.fst).Nodup) :
    assigned fields = assigned fields' := by
  have hkept (fields : List (Utf16 × Json)) :
      (fields.insertionSort fun field other => field.1 ≤ other.1).Perm fields :=
    perm_insertionSort _ fields
  have hsorted : fields.insertionSort (fun field other => field.1 ≤ other.1) =
      fields'.insertionSort fun field other => field.1 ≤ other.1 := by
    refine Perm.eq_of_pairwise ?_ (pairwise_insertionSort _ _)
      (pairwise_insertionSort _ _) (((hkept fields).trans hperm).trans (hkept fields').symm)
    intro field other hfield hother hle hge
    have hmem := (hkept fields).mem_iff.mp hfield
    have hmem' := hperm.mem_iff.mpr ((hkept fields').mem_iff.mp hother)
    exact inj_on_of_nodup_map h hmem hmem' (List.le_antisymm hle hge)
  rw [assigned, assigned, hsorted]

private theorem assigned_map (change : Json → Json) (fields : List (Utf16 × Json)) :
    assigned (fields.map fun field => (field.1, change field.2)) =
      (assigned fields).map fun field => (field.1, change field.2) := by
  have hkeys : (fields.map fun field => (field.1, change field.2)).insertionSort
      (fun field other => field.1 ≤ other.1) =
        (fields.insertionSort fun field other => field.1 ≤ other.1).map fun field =>
          (field.1, change field.2) := by
    refine (map_insertionSort _ _ _ _ ?_).symm
    intro _ _ _ _
    exact Iff.rfl
  have hindices (fields : List (Utf16 × Json)) :
      (fields.map fun field => (field.1, change field.2)).insertionSort (fun field other =>
        (arrayIndex? field.1).getD 0 ≤ (arrayIndex? other.1).getD 0) =
        (fields.insertionSort fun field other =>
          (arrayIndex? field.1).getD 0 ≤ (arrayIndex? other.1).getD 0).map fun field =>
          (field.1, change field.2) := by
    refine (map_insertionSort _ _ _ _ ?_).symm
    intro _ _ _ _
    exact Iff.rfl
  simp only [assigned, ownOrder, hkeys, List.filter_map, map_append, ← hindices]
  rfl

/-! ### Values that are built anew -/

variable (dropped : List Utf16)

private theorem writtenFields_eq (fields : List (Utf16 × Json)) :
    writtenFields fields = fields.map fun field => (field.1, written field.2) := by
  induction fields with
  | nil => rfl
  | cons field fields ih => rw [writtenFields, ih, map_cons]

private theorem canonicaliseFields_eq (fields : List (Utf16 × Json)) :
    canonicaliseFields dropped fields =
      (fields.filter fun field => ¬ (field.1 = protoKey ∨ field.1 ∈ dropped)).map fun field =>
        (field.1, canonicalise dropped field.2) := by
  induction fields with
  | nil => rfl
  | cons field fields ih =>
    obtain ⟨key, inner⟩ := field
    rw [canonicaliseFields, ih, filter_cons]
    by_cases hlost : key = protoKey ∨ key ∈ dropped
    · rw [if_pos hlost, if_neg (by rw [decide_eq_true_eq, not_not]; exact hlost)]
    · rw [if_neg hlost, if_pos (by simpa using hlost), map_cons]

private theorem nodup_canonicaliseFields {fields : List (Utf16 × Json)}
    (h : (fields.map Prod.fst).Nodup) :
    ((canonicaliseFields dropped fields).map Prod.fst).Nodup := by
  rw [canonicaliseFields_eq, map_map]
  exact h.sublist (filter_sublist.map Prod.fst)

mutual

theorem Keyed.canonicalise {value : Json} (h : Keyed value) : Keyed (value.canonicalise dropped) := by
  cases value with
  | array items => exact KeyedItems.canonicaliseItems h
  | object fields =>
    obtain ⟨hnodup, hfields⟩ := h
    have hperm := perm_assigned (canonicaliseFields dropped fields)
    refine ⟨(hperm.map Prod.fst).nodup_iff.mpr (nodup_canonicaliseFields dropped hnodup), ?_⟩
    refine keyedFields_of_forall fun field hfield => ?_
    exact (KeyedFields.canonicaliseFields hfields).of_mem (hperm.mem_iff.mp hfield)
  | _ => exact h

theorem KeyedItems.canonicaliseItems {items : List Json} (h : KeyedItems items) :
    KeyedItems (canonicaliseItems dropped items) := by
  cases items with
  | nil => exact h
  | cons item items => exact ⟨Keyed.canonicalise h.1, KeyedItems.canonicaliseItems h.2⟩

theorem KeyedFields.canonicaliseFields {fields : List (Utf16 × Json)} (h : KeyedFields fields) :
    KeyedFields (canonicaliseFields dropped fields) := by
  cases fields with
  | nil => exact h
  | cons field fields =>
    obtain ⟨key, inner⟩ := field
    rw [Json.canonicaliseFields]
    split_ifs with hlost
    · exact KeyedFields.canonicaliseFields h.2
    · exact ⟨Keyed.canonicalise h.1, KeyedFields.canonicaliseFields h.2⟩

end

mutual

/-- **A value that is built anew says what it said**, but for the fields that are left out. -/
theorem value_canonicalise {value : Json} (h : Keyed value) :
    (value.canonicalise dropped).value = value.value.without (protoKey :: dropped) := by
  cases value with
  | array items => rw [canonicalise, Json.value, Json.value, without,
      valueItems_canonicaliseItems h]
  | object fields =>
    rw [canonicalise, Json.value, Json.value, without]
    congr 1
    funext key
    rw [valueAt_perm (perm_assigned _) (((perm_assigned _).map Prod.fst).nodup_iff.mpr
      (nodup_canonicaliseFields dropped h.1)), valueAt_canonicaliseFields h.2]
  | _ => rfl

/-- The items of an array that are built anew say what they said, but for what is left out. -/
theorem valueItems_canonicaliseItems {items : List Json} (h : KeyedItems items) :
    valueItems (canonicaliseItems dropped items) =
      withoutItems (protoKey :: dropped) (valueItems items) := by
  cases items with
  | nil => rfl
  | cons item items =>
    rw [canonicaliseItems, valueItems, valueItems, withoutItems, value_canonicalise h.1,
      valueItems_canonicaliseItems h.2]

/-- The fields that are built anew say what they said, but for what is left out. -/
theorem valueAt_canonicaliseFields {fields : List (Utf16 × Json)} (h : KeyedFields fields)
    {key : Utf16} : valueAt (canonicaliseFields dropped fields) key =
      if key ∈ protoKey :: dropped then none
      else withoutField (protoKey :: dropped) (valueAt fields key) := by
  cases fields with
  | nil =>
    rw [canonicaliseFields, valueAt]
    split_ifs <;> rfl
  | cons field fields =>
    obtain ⟨name, inner⟩ := field
    have hrest : valueAt (canonicaliseFields dropped fields) key = _ :=
      valueAt_canonicaliseFields h.2
    rw [canonicaliseFields]
    by_cases hlost : name = protoKey ∨ name ∈ dropped
    · rw [if_pos hlost, hrest, valueAt]
      by_cases hsame : key = name
      · rw [if_pos (by simpa [hsame] using hlost), if_pos (by simpa [hsame] using hlost)]
      · rw [if_neg hsame]
    · rw [if_neg hlost, valueAt, valueAt]
      by_cases hsame : key = name
      · rw [if_pos hsame, if_pos hsame, if_neg (by simpa [hsame] using hlost),
          value_canonicalise h.1, withoutField]
      · rw [if_neg hsame, if_neg hsame, hrest]

end

mutual

theorem Keyed.written {value : Json} (h : Keyed value) : Keyed value.written := by
  cases value with
  | number value =>
    cases value with
    | finite value => trivial
    | infinite negative => trivial
    | notANumber => trivial
  | array items => exact KeyedItems.written h
  | object fields =>
    refine ⟨?_, KeyedFields.written h.2⟩
    rw [writtenFields_eq, map_map]
    exact h.1
  | _ => exact h

theorem KeyedItems.written {items : List Json} (h : KeyedItems items) :
    KeyedItems (writtenItems items) := by
  cases items with
  | nil => exact h
  | cons item items => exact ⟨Keyed.written h.1, KeyedItems.written h.2⟩

theorem KeyedFields.written {fields : List (Utf16 × Json)} (h : KeyedFields fields) :
    KeyedFields (writtenFields fields) := by
  cases fields with
  | nil => exact h
  | cons field fields => exact ⟨Keyed.written h.1, KeyedFields.written h.2⟩

end

mutual

theorem value_written (value : Json) : value.written.value = value.value.finite := by
  cases value with
  | number value =>
    cases value with
    | finite value => rfl
    | infinite negative => rfl
    | notANumber => rfl
  | array items => rw [written, Json.value, Json.value, finite, valueItems_writtenItems]
  | object fields =>
    rw [written, Json.value, Json.value, finite]
    congr 1
    funext key
    exact valueAt_writtenFields fields key
  | _ => rfl

private theorem valueItems_writtenItems (items : List Json) :
    valueItems (writtenItems items) = finiteItems (valueItems items) := by
  cases items with
  | nil => rfl
  | cons item items =>
    rw [writtenItems, valueItems, valueItems, finiteItems, value_written item,
      valueItems_writtenItems items]

private theorem valueAt_writtenFields (fields : List (Utf16 × Json)) (key : Utf16) :
    valueAt (writtenFields fields) key = finiteField (valueAt fields key) := by
  cases fields with
  | nil => rfl
  | cons field fields =>
    obtain ⟨name, inner⟩ := field
    rw [writtenFields, valueAt, valueAt, valueAt_writtenFields fields key, value_written inner]
    split_ifs <;> rfl

end

mutual

theorem written_canonicalise (value : Json) :
    (value.canonicalise dropped).written = value.written.canonicalise dropped := by
  cases value with
  | number value =>
    cases value with
    | finite value => rfl
    | infinite negative => rfl
    | notANumber => rfl
  | array items => rw [canonicalise, written, written, canonicalise, writtenItems_canonicaliseItems]
  | object fields =>
    rw [canonicalise, written, written, canonicalise, ← writtenFields_canonicaliseFields,
      writtenFields_eq, writtenFields_eq, assigned_map]
  | _ => rfl

private theorem writtenItems_canonicaliseItems (items : List Json) :
    writtenItems (canonicaliseItems dropped items) =
      canonicaliseItems dropped (writtenItems items) := by
  cases items with
  | nil => rfl
  | cons item items =>
    rw [canonicaliseItems, writtenItems, writtenItems, canonicaliseItems,
      written_canonicalise item, writtenItems_canonicaliseItems items]

/-- It does not matter whether fields are written before or after they are built anew. -/
theorem writtenFields_canonicaliseFields (fields : List (Utf16 × Json)) :
    writtenFields (canonicaliseFields dropped fields) =
      canonicaliseFields dropped (writtenFields fields) := by
  cases fields with
  | nil => rfl
  | cons field fields =>
    obtain ⟨key, inner⟩ := field
    rw [canonicaliseFields, writtenFields, canonicaliseFields]
    split_ifs with hlost
    · exact writtenFields_canonicaliseFields fields
    · rw [writtenFields, written_canonicalise inner, writtenFields_canonicaliseFields fields]

end

/-! ### Values in order -/

mutual

/-- The fields of every record in the value stand in the order in which they are assigned. -/
def Ordered : Json → Prop
  | .array items => OrderedItems items
  | .object fields => assigned fields = fields ∧ OrderedFields fields
  | _ => True

/-- The fields of the records in the items of an array stand in order. -/
def OrderedItems : List Json → Prop
  | [] => True
  | item :: items => Ordered item ∧ OrderedItems items

/-- The fields of the records under the keys of a record stand in order. -/
def OrderedFields : List (Utf16 × Json) → Prop
  | [] => True
  | (_, inner) :: fields => Ordered inner ∧ OrderedFields fields

end

private theorem OrderedFields.of_mem (h : OrderedFields fields) (hmem : (key, inner) ∈ fields) :
    Ordered inner := by
  induction fields with
  | nil => cases hmem
  | cons field fields ih =>
    obtain ⟨hfirst, hrest⟩ := h
    rcases mem_cons.mp hmem with rfl | htail
    · exact hfirst
    · exact ih hrest htail

private theorem orderedFields_of_forall (h : ∀ field ∈ fields, Ordered field.2) :
    OrderedFields fields := by
  induction fields with
  | nil => trivial
  | cons field fields ih =>
    rw [forall_mem_cons] at h
    exact ⟨h.1, ih h.2⟩

mutual

private theorem Keyed.ordered_canonicalise {value : Json} (h : Keyed value) :
    Ordered (value.canonicalise dropped) := by
  cases value with
  | array items => exact KeyedItems.ordered_canonicaliseItems h
  | object fields =>
    have hperm := perm_assigned (canonicaliseFields dropped fields)
    refine ⟨assigned_eq_of_perm hperm ((hperm.map Prod.fst).nodup_iff.mpr
      (nodup_canonicaliseFields dropped h.1)), orderedFields_of_forall fun field hfield => ?_⟩
    exact (KeyedFields.ordered_canonicaliseFields h.2).of_mem (hperm.mem_iff.mp hfield)
  | _ => trivial

private theorem KeyedItems.ordered_canonicaliseItems {items : List Json} (h : KeyedItems items) :
    OrderedItems (canonicaliseItems dropped items) := by
  cases items with
  | nil => trivial
  | cons item items =>
    exact ⟨Keyed.ordered_canonicalise h.1, KeyedItems.ordered_canonicaliseItems h.2⟩

private theorem KeyedFields.ordered_canonicaliseFields {fields : List (Utf16 × Json)}
    (h : KeyedFields fields) : OrderedFields (canonicaliseFields dropped fields) := by
  cases fields with
  | nil => trivial
  | cons field fields =>
    obtain ⟨key, inner⟩ := field
    rw [canonicaliseFields]
    split_ifs with hlost
    · exact KeyedFields.ordered_canonicaliseFields h.2
    · exact ⟨Keyed.ordered_canonicalise h.1, KeyedFields.ordered_canonicaliseFields h.2⟩

end

mutual

/-- **Values in order that say the same are the same.** -/
theorem eq_of_value_eq {one other : Json} (hkeyed : Keyed one) (hkeyed' : Keyed other)
    (hordered : Ordered one) (hordered' : Ordered other) (h : one.value = other.value) :
    one = other := by
  cases one with
  | array items =>
    cases other with
    | array items' =>
      rw [eq_of_valueItems_eq hkeyed hkeyed' hordered hordered' (JsonValue.array.inj h)]
    | _ => cases h
  | object fields =>
    cases other with
    | object fields' =>
      have hsays := JsonValue.object.inj h
      have hsame {key : Utf16} {inner inner' : Json} (hmem : (key, inner) ∈ fields)
          (hmem' : (key, inner') ∈ fields') (hvalue : inner.value = inner'.value) :
          inner = inner' :=
        eq_of_mem_of_value_eq hkeyed.2 hkeyed'.2 hordered.2 hordered'.2 hmem hmem' hvalue
      have hperm : fields.Perm fields' := by
        refine (perm_ext_iff_of_nodup (.of_map Prod.fst hkeyed.1)
          (.of_map Prod.fst hkeyed'.1)).mpr fun field => ?_
        obtain ⟨key, inner⟩ := field
        constructor
        · intro hmem
          have hsaid := valueAt_of_mem hkeyed.1 hmem
          rw [congrFun hsays key] at hsaid
          obtain ⟨inner', hmem', hvalue⟩ := exists_mem_of_valueAt hsaid
          rw [hsame hmem hmem' hvalue.symm]
          exact hmem'
        · intro hmem'
          have hsaid := valueAt_of_mem hkeyed'.1 hmem'
          rw [← congrFun hsays key] at hsaid
          obtain ⟨inner', hmem, hvalue⟩ := exists_mem_of_valueAt hsaid
          rw [← hsame hmem hmem' hvalue]
          exact hmem
      rw [← hordered.1, ← hordered'.1, assigned_eq_of_perm hperm hkeyed.1]
    | _ => cases h
  | null =>
    cases other with
    | null => rfl
    | _ => cases h
  | boolean value =>
    cases other with
    | boolean value' => rw [JsonValue.boolean.inj h]
    | _ => cases h
  | number value =>
    cases other with
    | number value' => rw [JsonValue.number.inj h]
    | _ => cases h
  | string value =>
    cases other with
    | string value' => rw [JsonValue.string.inj h]
    | _ => cases h
termination_by structural one

private theorem eq_of_valueItems_eq {items items' : List Json} (hkeyed : KeyedItems items)
    (hkeyed' : KeyedItems items') (hordered : OrderedItems items)
    (hordered' : OrderedItems items') (h : valueItems items = valueItems items') :
    items = items' := by
  cases items with
  | nil =>
    cases items' with
    | nil => rfl
    | cons item' items' => cases h
  | cons item items =>
    cases items' with
    | nil => cases h
    | cons item' items' =>
      obtain ⟨hfirst, hrest⟩ := List.cons.inj h
      rw [eq_of_value_eq hkeyed.1 hkeyed'.1 hordered.1 hordered'.1 hfirst,
        eq_of_valueItems_eq hkeyed.2 hkeyed'.2 hordered.2 hordered'.2 hrest]
termination_by structural items

private theorem eq_of_mem_of_value_eq {fields fields' : List (Utf16 × Json)}
    (hkeyed : KeyedFields fields) (hkeyed' : KeyedFields fields') (hordered : OrderedFields fields)
    (hordered' : OrderedFields fields') {key : Utf16} {inner inner' : Json}
    (hmem : (key, inner) ∈ fields) (hmem' : (key, inner') ∈ fields')
    (h : inner.value = inner'.value) : inner = inner' := by
  cases fields with
  | nil => cases hmem
  | cons field fields =>
    obtain ⟨name, first⟩ := field
    by_cases hfirst : (key, inner) = (name, first)
    · rw [(Prod.mk.inj hfirst).2] at h ⊢
      exact eq_of_value_eq hkeyed.1 (hkeyed'.of_mem hmem') hordered.1 (hordered'.of_mem hmem') h
    · exact eq_of_mem_of_value_eq hkeyed.2 hkeyed' hordered.2 hordered'
        ((mem_cons.mp hmem).resolve_left hfirst) hmem' h
termination_by structural fields

end

/-- **Values with distinct keys are built to the same result** exactly when they say the same,
but for what is left out. -/
theorem canonicalise_eq_iff {one other : Json} (h : Keyed one) (h' : Keyed other) :
    one.canonicalise dropped = other.canonicalise dropped ↔
      one.value.without (protoKey :: dropped) = other.value.without (protoKey :: dropped) := by
  rw [← value_canonicalise dropped h, ← value_canonicalise dropped h']
  constructor
  · intro hsame
    rw [hsame]
  · exact eq_of_value_eq (h.canonicalise dropped) (h'.canonicalise dropped)
      (h.ordered_canonicalise dropped) (h'.ordered_canonicalise dropped)

end Json
