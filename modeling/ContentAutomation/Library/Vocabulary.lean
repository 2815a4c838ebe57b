import Mathlib.Data.List.Nodup

/-!
# Closed vocabularies

An enumeration whose members are words, and the enumerated types of a database, whose
values are declared labels. A member is found again by its word; the values of an
enumerated type are ordered as their labels were declared.
-/

/-- An enumeration, with a word of its own for each of its members. -/
class Vocabulary (T : Type*) where
  word : T → String
  all : List T
  complete : ∀ member, member ∈ all
  distinct : (all.map word).Nodup

namespace Vocabulary

variable {T : Type*} [Vocabulary T]

/-- The member of a word. -/
def ofWord? (text : String) : Option T := (all : List T).find? fun member => word member == text

theorem word_injective : Function.Injective (word : T → String) := fun first second h =>
  List.inj_on_of_nodup_map distinct (complete first) (complete second) h

@[simp] theorem ofWord?_word (member : T) : ofWord? (word member) = some member := by
  unfold ofWord?
  cases hfound : (all : List T).find? fun other => word other == word member with
  | none => simpa using List.find?_eq_none.mp hfound member (complete member)
  | some other =>
    have hsame := List.find?_some hfound
    rw [word_injective (beq_iff_eq.mp hsame)]

theorem mapM_ofWord? (members : List T) :
    (members.map word).mapM (ofWord? (T := T)) = some members := by
  induction members with
  | nil => rfl
  | cons member members ih => simp [ih]

end Vocabulary

/-- A value of an enumerated type: one of its labels. -/
structure EnumLabel (labels : List String) where
  text : String
  declared : text ∈ labels
  deriving DecidableEq

namespace EnumLabel

variable {labels : List String}

/-- The value that a text denotes. -/
def ofText? (labels : List String) (text : String) : Option (EnumLabel labels) :=
  if h : text ∈ labels then some ⟨text, h⟩ else none

/-- Where the label of a value stands in the declaration. -/
def position (value : EnumLabel labels) : ℕ := labels.idxOf value.text

theorem text_of_ofText? {text : String} {value : EnumLabel labels}
    (h : ofText? labels text = some value) : value.text = text := by
  unfold ofText? at h
  split at h
  · cases h
    rfl
  · cases h

end EnumLabel
