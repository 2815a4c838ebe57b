import Mathlib.Data.List.Basic
import Mathlib.Tactic.IntervalCases

/-!
# Anchored text patterns

The validation patterns of the program are anchored regular expressions of two
shapes: one leading character followed by a bounded number of characters of a
second class, and a fixed sequence of character classes. Both are decided on
the list of code points.
-/

namespace Text

open List

/-- `^[first][rest]{0,limit}$`. -/
def leadingThenBounded (first rest : Char → Bool) (limit : ℕ) (text : String) : Bool :=
  match text.toList with
  | [] => false
  | head :: tail => first head && decide (tail.length ≤ limit) && tail.all rest

/-- `^` followed by one character of each class, followed by `$`. -/
def sequenceOf : List (Char → Bool) → List Char → Bool
  | [], [] => true
  | accepts :: classes, c :: cs => accepts c && sequenceOf classes cs
  | _, _ => false

/-- `[a-z]`. -/
def isLower (c : Char) : Bool := 'a' ≤ c && c ≤ 'z'

/-- `[A-Z]`. -/
def isUpper (c : Char) : Bool := 'A' ≤ c && c ≤ 'Z'

/-- `[0-9]`. -/
def isDigit (c : Char) : Bool := '0' ≤ c && c ≤ '9'

/-- `[A-Za-z0-9]`. -/
def isAlphanumeric (c : Char) : Bool := isLower c || isUpper c || isDigit c

/-- `[0-9a-f]`, ignoring case. -/
def isHex (c : Char) : Bool := isDigit c || ('a' ≤ c && c ≤ 'f') || ('A' ≤ c && c ≤ 'F')

/-- The space characters that `String.prototype.trim` strips. -/
def isTrimmed (c : Char) : Bool :=
  [0x9, 0xA, 0xB, 0xC, 0xD, 0x20, 0xA0, 0x1680, 0x2000, 0x2001, 0x2002, 0x2003, 0x2004, 0x2005,
    0x2006, 0x2007, 0x2008, 0x2009, 0x200A, 0x2028, 0x2029, 0x202F, 0x205F, 0x3000, 0xFEFF].contains
    c.toNat

/-- `String.prototype.trim`. -/
def trim (text : String) : String :=
  String.ofList ((text.toList.dropWhile isTrimmed).reverse.dropWhile isTrimmed).reverse

/-- A UUID whose version digit satisfies `version`, ignoring case:
`^[0-9a-f]{8}-[0-9a-f]{4}-V[0-9a-f]{3}-[89ab][0-9a-f]{3}-[0-9a-f]{12}$`. -/
def isUuid (version : Char → Bool) (text : String) : Bool :=
  sequenceOf
    (List.replicate 8 isHex ++ [(· == '-')] ++ List.replicate 4 isHex ++ [(· == '-'), version] ++
      List.replicate 3 isHex ++ [(· == '-'), fun c => "89abAB".toList.contains c] ++
      List.replicate 3 isHex ++ [(· == '-')] ++ List.replicate 12 isHex)
    text.toList

/-- A text of a pattern with more characters of its second class is one of the pattern with a
higher limit. -/
theorem leadingThenBounded_append {first rest : Char → Bool} {limit : ℕ} {text : String}
    (more : ℕ) (added : String) (h : leadingThenBounded first rest limit text)
    (hadded : ∀ c ∈ added.toList, rest c) (hlength : added.toList.length ≤ more) :
    leadingThenBounded first rest (limit + more) (text ++ added) := by
  unfold leadingThenBounded at h ⊢
  rw [String.toList_append]
  cases hchars : text.toList with
  | nil => simp [hchars] at h
  | cons head tail =>
    simp only [hchars, Bool.and_eq_true, decide_eq_true_eq, all_eq_true] at h
    simp only [cons_append, length_append, all_append, Bool.and_eq_true,
      decide_eq_true_eq, all_eq_true]
    exact ⟨⟨h.1.1, by omega⟩, h.2, hadded⟩

/-- A class of characters that is left neither by going over to lower case, which
is done at once, nor by trimming. -/
def IsSteady (accepts : Char → Bool) : Prop :=
  ∀ c, accepts c = true →
    accepts c.toLower = true ∧ isTrimmed c.toLower = false ∧ c.toLower.toLower = c.toLower

private theorem isSteady_isHex : IsSteady isHex := by
  intro c hc
  have hrange : 48 ≤ c.toNat ∧ c.toNat ≤ 102 := by
    simp only [isHex, isDigit, Bool.or_eq_true, Bool.and_eq_true, decide_eq_true_eq, Char.le_def,
      UInt32.le_iff_toNat_le] at hc
    have hnat : c.toNat = c.val.toNat := rfl
    rcases hc with (⟨hlow, hhigh⟩ | ⟨hlow, hhigh⟩) | ⟨hlow, hhigh⟩ <;>
      simp at hlow hhigh <;> omega
  obtain ⟨hlow, hhigh⟩ := hrange
  rw [← Char.ofNat_toNat c] at hc ⊢
  generalize c.toNat = n at hc hlow hhigh ⊢
  interval_cases n <;> revert hc <;> decide

private theorem isSteady_contains {chars : List Char}
    (h : (chars.all fun c => decide (chars.contains c.toLower ∧
      isTrimmed c.toLower = false ∧ c.toLower.toLower = c.toLower))) :
    IsSteady fun c => chars.contains c := by
  intro c hc
  exact of_decide_eq_true (all_eq_true.mp h c (by simpa using hc))

/-- A sequence of steady classes accepts the text in lower case, none of whose
characters is trimmed or changed again. -/
theorem sequenceOf_toLower {classes : List (Char → Bool)} {cs : List Char}
    (hsteady : ∀ accepts ∈ classes, IsSteady accepts) (h : sequenceOf classes cs) :
    sequenceOf classes (cs.map Char.toLower) ∧
      ∀ c ∈ cs.map Char.toLower, isTrimmed c = false ∧ c.toLower = c := by
  induction classes generalizing cs with
  | nil =>
    cases cs with
    | nil => simp [sequenceOf]
    | cons c cs => simp [sequenceOf] at h
  | cons accepts classes ih =>
    cases cs with
    | nil => simp [sequenceOf] at h
    | cons c cs =>
      simp only [sequenceOf, Bool.and_eq_true] at h
      obtain ⟨hlower, hstays⟩ := hsteady accepts mem_cons_self c h.1
      obtain ⟨hrest, huntrimmed⟩ := ih (fun other hother =>
        hsteady other (mem_cons_of_mem _ hother)) h.2
      refine ⟨by simp [sequenceOf, hlower, hrest], ?_⟩
      rw [map_cons, forall_mem_cons]
      exact ⟨hstays, huntrimmed⟩

theorem trim_eq_self {text : String} (h : ∀ c ∈ text.toList, isTrimmed c = false) :
    trim text = text := by
  have hkeep : ∀ cs : List Char, (∀ c ∈ cs, isTrimmed c = false) →
      cs.dropWhile isTrimmed = cs := by
    intro cs hcs
    cases cs with
    | nil => rfl
    | cons c cs => simp [hcs c mem_cons_self]
  unfold trim
  rw [hkeep _ h, hkeep _ fun c hc => h c (mem_reverse.mp hc), reverse_reverse,
    String.ofList_toList]

theorem isUuid_toLower {version : Char → Bool} (hversion : IsSteady version) {text lower : String}
    (h : isUuid version text) (hlower : lower.toList = text.toList.map Char.toLower) :
    isUuid version lower ∧ trim lower = lower ∧
      lower.toList.map Char.toLower = lower.toList := by
  have hdash : IsSteady (· == '-') := by
    intro c hc
    rw [beq_iff_eq] at hc
    subst hc
    decide
  have hvariant : IsSteady fun c => "89abAB".toList.contains c :=
    isSteady_contains (by decide)
  unfold isUuid at h ⊢
  obtain ⟨hsequence, hstays⟩ := sequenceOf_toLower (fun accepts haccepts => by
    simp only [mem_append, mem_replicate, mem_cons, not_mem_nil,
      or_false] at haccepts
    rcases haccepts with (((((((⟨-, rfl⟩ | rfl) | ⟨-, rfl⟩) | rfl | rfl) | ⟨-, rfl⟩) | rfl | rfl) |
      ⟨-, rfl⟩) | rfl) | ⟨-, rfl⟩ <;>
      first
        | exact isSteady_isHex
        | exact hdash
        | exact hversion
        | exact hvariant) h
  rw [← hlower] at hsequence hstays
  refine ⟨hsequence, trim_eq_self fun c hc => (hstays c hc).1, ?_⟩
  exact (map_congr_left fun c hc => (hstays c hc).2).trans (map_id _)

example : isUuid (· == '7') "01900000-0000-7000-8000-000000000001" = true := by decide

end Text
