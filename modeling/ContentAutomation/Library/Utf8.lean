import ContentAutomation.Library.Utf16
import Mathlib.Data.Bool.AllAny

/-!
# Text as bytes

The encoding of code units in UTF-8 and the decoding of any bytes, where what is
malformed becomes the replacement character. Decoding gives a text back, but for its lone
surrogates.
-/

namespace Utf8

open Utf16 List

def replacement : ℕ := 0xFFFD

/-- A code point that is no surrogate. -/
def IsScalar (point : ℕ) : Prop := point < 0xD800 ∨ (0xE000 ≤ point ∧ point < 0x110000)

/-- The code point of a code unit that is not part of a surrogate pair. -/
def loneValue (unit : UInt16) : ℕ :=
  if isLeading unit || isTrailing unit then replacement else unit.toNat

/-- The code point of a surrogate pair. -/
def pairValue (first second : UInt16) : ℕ :=
  0x10000 + (first.toNat - 0xD800) * 0x400 + (second.toNat - 0xDC00)

/-- The code points of a text; a lone surrogate is replaced. -/
def scalars : Utf16 → List ℕ
  | [] => []
  | [unit] => [loneValue unit]
  | first :: second :: text =>
    if isLeading first && isTrailing second then pairValue first second :: scalars text
    else loneValue first :: scalars (second :: text)

/-- The code units of a code point. -/
def unitsOf (point : ℕ) : Utf16 :=
  if point < 0x10000 then [UInt16.ofNat point]
  else
    [UInt16.ofNat (0xD800 + (point - 0x10000) / 0x400),
      UInt16.ofNat (0xDC00 + (point - 0x10000) % 0x400)]

/-- `text.toWellFormed()`. -/
def toWellFormed (text : Utf16) : Utf16 := (scalars text).flatMap unitsOf

/-- The bytes of a code point. -/
def encodePoint (point : ℕ) : List UInt8 :=
  if point < 0x80 then [UInt8.ofNat point]
  else if point < 0x800 then
    [UInt8.ofNat (0xC0 + point / 0x40), UInt8.ofNat (0x80 + point % 0x40)]
  else if point < 0x10000 then
    [UInt8.ofNat (0xE0 + point / 0x1000), UInt8.ofNat (0x80 + point / 0x40 % 0x40),
      UInt8.ofNat (0x80 + point % 0x40)]
  else
    [UInt8.ofNat (0xF0 + point / 0x40000), UInt8.ofNat (0x80 + point / 0x1000 % 0x40),
      UInt8.ofNat (0x80 + point / 0x40 % 0x40), UInt8.ofNat (0x80 + point % 0x40)]

/-- `Buffer.from(text, "utf8")`. -/
def encode (text : Utf16) : List UInt8 := (scalars text).flatMap encodePoint

/-- A sequence of bytes that is not complete: how many are missing, what is known of the code
point, and the bounds of the next byte. -/
structure Partial where
  needed : ℕ
  point : ℕ
  lower : ℕ
  upper : ℕ

/-- What the first byte of a sequence says: the code point, or what is missing. -/
def begin (byte : ℕ) : ℕ ⊕ Partial :=
  if byte < 0x80 then .inl byte
  else if byte < 0xC2 then .inl replacement
  else if byte < 0xE0 then .inr ⟨1, byte - 0xC0, 0x80, 0xBF⟩
  else if byte < 0xF0 then
    .inr ⟨2, byte - 0xE0, if byte = 0xE0 then 0xA0 else 0x80, if byte = 0xED then 0x9F else 0xBF⟩
  else if byte < 0xF5 then
    .inr ⟨3, byte - 0xF0, if byte = 0xF0 then 0x90 else 0x80, if byte = 0xF4 then 0x8F else 0xBF⟩
  else .inl replacement

/-- The code points of bytes, after a sequence that is not complete. What cannot be
continued is replaced, and its next byte begins anew. -/
def decodeFrom : Option Partial → List UInt8 → List ℕ
  | none, [] => []
  | some _, [] => [replacement]
  | none, byte :: bytes =>
    match begin byte.toNat with
    | .inl point => point :: decodeFrom none bytes
    | .inr state => decodeFrom (some state) bytes
  | some state, byte :: bytes =>
    if state.lower ≤ byte.toNat ∧ byte.toNat ≤ state.upper then
      let point := state.point * 0x40 + byte.toNat % 0x40
      if state.needed = 1 then point :: decodeFrom none bytes
      else decodeFrom (some ⟨state.needed - 1, point, 0x80, 0xBF⟩) bytes
    else
      replacement ::
        match begin byte.toNat with
        | .inl point => point :: decodeFrom none bytes
        | .inr state => decodeFrom (some state) bytes

/-- `buffer.toString("utf8")`. -/
def decode (bytes : List UInt8) : Utf16 := (decodeFrom none bytes).flatMap unitsOf

/-! ### Decoding what was encoded -/

theorem toNat_ofNat {n : ℕ} (h : n < 256) : (UInt8.ofNat n).toNat = n := by
  rw [UInt8.toNat_ofNat', Nat.mod_eq_of_lt h]

variable {point : ℕ} {unit : UInt16} {text : Utf16}

private theorem decodeFrom_continue {needed lower upper n : ℕ} {bytes : List UInt8} (h : n < 256)
    (hlower : lower ≤ n) (hupper : n ≤ upper) (hneeded : needed ≠ 1) :
    decodeFrom (some ⟨needed, point, lower, upper⟩) (UInt8.ofNat n :: bytes) =
      decodeFrom (some ⟨needed - 1, point * 0x40 + n % 0x40, 0x80, 0xBF⟩) bytes := by
  rw [decodeFrom, toNat_ofNat h, if_pos ⟨hlower, hupper⟩, if_neg hneeded]

private theorem decodeFrom_complete {lower upper n : ℕ} {bytes : List UInt8} (h : n < 256)
    (hlower : lower ≤ n) (hupper : n ≤ upper) :
    decodeFrom (some ⟨1, point, lower, upper⟩) (UInt8.ofNat n :: bytes) =
      (point * 0x40 + n % 0x40) :: decodeFrom none bytes := by
  rw [decodeFrom, toNat_ofNat h, if_pos ⟨hlower, hupper⟩, if_pos rfl]

private theorem decodeFrom_encodePoint (h : IsScalar point) (bytes : List UInt8) :
    decodeFrom none (encodePoint point ++ bytes) = point :: decodeFrom none bytes := by
  unfold IsScalar at h
  unfold encodePoint
  split
  · next hone =>
    rw [singleton_append, decodeFrom, toNat_ofNat (by omega), begin, if_pos hone]
  · split
    · next hone htwo =>
      rw [cons_append, singleton_append, decodeFrom, toNat_ofNat (by omega), begin,
        if_neg (by omega), if_neg (by omega), if_pos (by omega)]
      dsimp only
      rw [decodeFrom_complete (by omega) (by omega) (by omega)]
      congr 1
      omega
    · split
      · next hone htwo hthree =>
        rw [cons_append, cons_append, singleton_append, decodeFrom,
          toNat_ofNat (by omega), begin, if_neg (by omega), if_neg (by omega), if_neg (by omega),
          if_pos (by omega)]
        dsimp only
        rw [decodeFrom_continue (by omega) (by split <;> omega) (by split <;> omega) (by omega),
          decodeFrom_complete (by omega) (by omega) (by omega)]
        congr 1
        omega
      · next hone htwo hthree =>
        rw [cons_append, cons_append, cons_append, singleton_append, decodeFrom,
          toNat_ofNat (by omega), begin, if_neg (by omega), if_neg (by omega), if_neg (by omega),
          if_neg (by omega), if_pos (by omega)]
        dsimp only
        rw [decodeFrom_continue (by omega) (by split <;> omega) (by split <;> omega) (by omega),
          decodeFrom_continue (by omega) (by omega) (by omega) (by omega),
          decodeFrom_complete (by omega) (by omega) (by omega)]
        congr 1
        omega

theorem isLeading_iff :
    isLeading unit ↔ 0xD800 ≤ unit.toNat ∧ unit.toNat ≤ 0xDBFF := by
  simp [isLeading, UInt16.le_iff_toNat_le]

theorem isTrailing_iff :
    isTrailing unit ↔ 0xDC00 ≤ unit.toNat ∧ unit.toNat ≤ 0xDFFF := by
  simp [isTrailing, UInt16.le_iff_toNat_le]

theorem surrogate_eq_false_iff : (isLeading unit || isTrailing unit) = false ↔
    unit.toNat < 0xD800 ∨ 0xE000 ≤ unit.toNat := by
  rw [← Bool.not_eq_true, Bool.or_eq_true, isLeading_iff, isTrailing_iff]
  omega

private theorem isScalar_loneValue (unit : UInt16) : IsScalar (loneValue unit) := by
  unfold loneValue
  split
  · unfold replacement IsScalar
    omega
  · next h =>
    have hlt := unit.toNat_lt
    rcases surrogate_eq_false_iff.mp (Bool.eq_false_iff.mpr h) with hlow | hhigh
    · exact .inl hlow
    · exact .inr ⟨hhigh, by omega⟩

private theorem isScalar_pairValue {first second : UInt16} (hfirst : isLeading first)
    (hsecond : isTrailing second) : IsScalar (pairValue first second) := by
  rw [isLeading_iff] at hfirst
  rw [isTrailing_iff] at hsecond
  unfold pairValue IsScalar
  omega

private theorem isScalar_of_mem_scalars (h : point ∈ scalars text) :
    IsScalar point := by
  induction text using scalars.induct with
  | case1 => cases h
  | case2 unit =>
    rw [scalars, mem_singleton] at h
    exact h ▸ isScalar_loneValue unit
  | case3 first second text hpair ih =>
    rw [scalars, if_pos hpair, mem_cons] at h
    rw [Bool.and_eq_true] at hpair
    rcases h with heq | hrest
    · rw [heq]
      exact isScalar_pairValue hpair.1 hpair.2
    · exact ih hrest
  | case4 first second text hpair ih =>
    rw [scalars, if_neg hpair, mem_cons] at h
    rcases h with heq | hrest
    · rw [heq]
      exact isScalar_loneValue first
    · exact ih hrest

private theorem decodeFrom_flatMap {points : List ℕ} (h : ∀ point ∈ points, IsScalar point) :
    decodeFrom none (points.flatMap encodePoint) = points := by
  induction points with
  | nil => rfl
  | cons point points ih =>
    rw [flatMap_cons, decodeFrom_encodePoint (h point mem_cons_self),
      ih fun other hother => h other (mem_cons_of_mem _ hother)]

/-- **The round trip.** Bytes that were made of a text are read as the text, with its lone
surrogates replaced. -/
theorem decode_encode (text : Utf16) : decode (encode text) = toWellFormed text := by
  rw [decode, encode, decodeFrom_flatMap fun _ => isScalar_of_mem_scalars, toWellFormed]

/-! ### Well-formed texts -/

/-- Every surrogate of a text is in a pair. -/
inductive WellFormed : Utf16 → Prop
  | nil : WellFormed []
  | unit {unit : UInt16} {text : Utf16} (hunit : (isLeading unit || isTrailing unit) = false)
      (htext : WellFormed text) : WellFormed (unit :: text)
  | pair {first second : UInt16} {text : Utf16} (hfirst : isLeading first = true)
      (hsecond : isTrailing second = true) (htext : WellFormed text) :
      WellFormed (first :: second :: text)

theorem WellFormed.append {rest : Utf16} (h : WellFormed text) (hrest : WellFormed rest) :
    WellFormed (text ++ rest) := by
  induction h with
  | nil => exact hrest
  | unit hunit _ ih => exact ih.unit hunit
  | pair hfirst hsecond _ ih => exact ih.pair hfirst hsecond

theorem wellFormed_of_lt (h : ∀ unit ∈ text, unit.toNat < 0xD800) :
    WellFormed text := by
  induction text with
  | nil => exact .nil
  | cons unit text ih =>
    refine .unit (surrogate_eq_false_iff.mpr (.inl (h unit mem_cons_self))) ?_
    exact ih fun other hother => h other (mem_cons_of_mem _ hother)

theorem wellFormed_of_all (h : text.all (fun unit => unit.toNat < 0xD800)) :
    WellFormed text :=
  wellFormed_of_lt (all_iff_forall_prop.mp h)

private theorem scalars_cons (h : isLeading unit = false) (text : Utf16) :
    scalars (unit :: text) = loneValue unit :: scalars text := by
  cases text with
  | nil => rfl
  | cons second text => rw [scalars, h, Bool.false_and, if_neg Bool.false_ne_true]

private theorem unitsOf_loneValue (h : (isLeading unit || isTrailing unit) = false) :
    unitsOf (loneValue unit) = [unit] := by
  have hlt := unit.toNat_lt
  rw [loneValue, h, if_neg Bool.false_ne_true, unitsOf, if_pos (by omega), UInt16.ofNat_toNat]

private theorem unitsOf_pairValue {first second : UInt16} (hfirst : isLeading first)
    (hsecond : isTrailing second) : unitsOf (pairValue first second) = [first, second] := by
  rw [isLeading_iff] at hfirst
  rw [isTrailing_iff] at hsecond
  unfold pairValue
  rw [unitsOf, if_neg (by omega)]
  have hhigh : 0xD800 + (0x10000 + (first.toNat - 0xD800) * 0x400 + (second.toNat - 0xDC00) -
      0x10000) / 0x400 = first.toNat := by omega
  have hlow : 0xDC00 + (0x10000 + (first.toNat - 0xD800) * 0x400 + (second.toNat - 0xDC00) -
      0x10000) % 0x400 = second.toNat := by omega
  rw [hhigh, hlow, UInt16.ofNat_toNat, UInt16.ofNat_toNat]

theorem WellFormed.toWellFormed_eq (h : WellFormed text) :
    toWellFormed text = text := by
  induction h with
  | nil => rfl
  | unit hunit _ ih =>
    unfold toWellFormed at ih ⊢
    rw [scalars_cons (Bool.or_eq_false_iff.mp hunit).1, flatMap_cons, ih,
      unitsOf_loneValue hunit, singleton_append]
  | pair hfirst hsecond _ ih =>
    unfold toWellFormed at ih ⊢
    rw [scalars, hfirst, hsecond, Bool.true_and, if_pos rfl, flatMap_cons, ih,
      unitsOf_pairValue hfirst hsecond]
    rfl

private theorem unitsOf_loneValue_of_surrogate (h : (isLeading unit || isTrailing unit)) :
    unitsOf (loneValue unit) = [0xFFFD] := by
  rw [loneValue, if_pos h]
  rfl

/-- Where no replacement character comes out, nothing was replaced. -/
theorem toWellFormed_eq_of_notMem (h : 0xFFFD ∉ toWellFormed text) :
    toWellFormed text = text := by
  have hlone : ∀ {unit : UInt16}, 0xFFFD ∉ unitsOf (loneValue unit) →
      (isLeading unit || isTrailing unit) = false := by
    intro unit hnot
    rw [Bool.eq_false_iff]
    intro hsurrogate
    rw [unitsOf_loneValue_of_surrogate hsurrogate] at hnot
    exact hnot (mem_singleton_self _)
  unfold toWellFormed at h ⊢
  induction text using scalars.induct with
  | case1 => rfl
  | case2 unit =>
    rw [scalars, flatMap_cons, flatMap_nil, append_nil] at h ⊢
    exact unitsOf_loneValue (hlone h)
  | case3 first second text hpair ih =>
    rw [scalars, if_pos hpair, flatMap_cons] at h ⊢
    rw [Bool.and_eq_true] at hpair
    rw [ih fun hmem => h (mem_append_right _ hmem), unitsOf_pairValue hpair.1 hpair.2]
    rfl
  | case4 first second text hpair ih =>
    rw [scalars, if_neg hpair, flatMap_cons] at h ⊢
    rw [ih fun hmem => h (mem_append_right _ hmem),
      unitsOf_loneValue (hlone fun hmem => h (mem_append_left _ hmem)), singleton_append]

@[simp] theorem length_toWellFormed (text : Utf16) : (toWellFormed text).length = text.length := by
  have hlone (unit : UInt16) : (unitsOf (loneValue unit)).length = 1 := by
    cases hunit : isLeading unit || isTrailing unit with
    | true => rw [unitsOf_loneValue_of_surrogate hunit]; rfl
    | false => rw [unitsOf_loneValue hunit]; rfl
  unfold toWellFormed
  induction text using scalars.induct with
  | case1 => rfl
  | case2 unit => simpa [scalars] using hlone unit
  | case3 first second text hpair ih =>
    rw [scalars, if_pos hpair, flatMap_cons, length_append, ih]
    rw [Bool.and_eq_true] at hpair
    rw [unitsOf_pairValue hpair.1 hpair.2]
    exact Nat.add_comm _ _
  | case4 first second text hpair ih =>
    rw [scalars, if_neg hpair, flatMap_cons, length_append, ih, hlone]
    exact Nat.add_comm _ _

@[simp] theorem toWellFormed_eq_nil : toWellFormed text = [] ↔ text = [] := by
  rw [← length_eq_zero_iff, length_toWellFormed, length_eq_zero_iff]

/-- What holds only of texts with neither surrogates nor replacement characters is not affected by
replacing lone surrogates. -/
theorem toWellFormed_iff {P : Utf16 → Prop} (h : ∀ text, P text → ∀ unit ∈ text,
    unit ≠ 0xFFFD ∧ (isLeading unit || isTrailing unit) = false) (text : Utf16) :
    P (toWellFormed text) ↔ P text := by
  constructor
  · intro hformed
    rwa [toWellFormed_eq_of_notMem fun hmem => (h _ hformed _ hmem).1 rfl] at hformed
  · intro htext
    have hwell : ∀ text : Utf16, (∀ unit ∈ text, (isLeading unit || isTrailing unit) = false) →
        WellFormed text := by
      intro text hunits
      induction text with
      | nil => exact .nil
      | cons unit text ih =>
        exact .unit (hunits unit mem_cons_self)
          (ih fun other hother => hunits other (mem_cons_of_mem _ hother))
    rwa [(hwell text fun unit hunit => (h text htext unit hunit).2).toWellFormed_eq]

theorem toWellFormed_eq_of_encode_eq {other : Utf16} (h : encode text = encode other) :
    toWellFormed text = toWellFormed other := by
  rw [← decode_encode, ← decode_encode, h]

/-- A text with the bytes of a well-formed text without the replacement character is that
text. -/
theorem eq_of_encode_eq {other : Utf16} (h : encode text = encode other)
    (hother : WellFormed other) (hnot : 0xFFFD ∉ other) : text = other := by
  have hsame := toWellFormed_eq_of_encode_eq h
  rw [hother.toWellFormed_eq] at hsame
  rw [← hsame, toWellFormed_eq_of_notMem (hsame ▸ hnot)]

/-! ### Literals -/

private theorem scalars_pair {first second : UInt16} (hfirst : isLeading first)
    (hsecond : isTrailing second) (text : Utf16) :
    scalars (first :: second :: text) = pairValue first second :: scalars text := by
  rw [scalars, hfirst, hsecond, Bool.true_and, if_pos rfl]

private theorem scalars_units {high low : ℕ} (h : 0x10000 ≤ point) (hlt : point < 0x110000)
    (hhigh : high = 0xD800 + (point - 0x10000) / 0x400)
    (hlow : low = 0xDC00 + (point - 0x10000) % 0x400) (text : Utf16) :
    scalars (UInt16.ofNat high :: UInt16.ofNat low :: text) = point :: scalars text := by
  have hhighLt : high < UInt16.size := show high < 65536 by omega
  have hlowLt : low < UInt16.size := show low < 65536 by omega
  have hfirst : (UInt16.ofNat high).toNat = high := UInt16.toNat_ofNat_of_lt' hhighLt
  have hsecond : (UInt16.ofNat low).toNat = low := UInt16.toNat_ofNat_of_lt' hlowLt
  have hvalue : pairValue (UInt16.ofNat high) (UInt16.ofNat low) = point := by
    unfold pairValue
    omega
  rw [scalars_pair (isLeading_iff.mpr (by omega)) (isTrailing_iff.mpr (by omega)), hvalue]

private theorem scalars_codeUnits (c : Char) (text : Utf16) :
    scalars (codeUnits c ++ text) = c.toNat :: scalars text := by
  have hscalar : c.toNat < 0xD800 ∨ (0xDFFF < c.toNat ∧ c.toNat < 0x110000) := c.valid
  unfold codeUnits
  split_ifs with hsmall
  · have hunit : (UInt16.ofNat c.toNat).toNat = c.toNat := UInt16.toNat_ofNat_of_lt' hsmall
    have hplain : (isLeading (UInt16.ofNat c.toNat) || isTrailing (UInt16.ofNat c.toNat)) = false :=
      surrogate_eq_false_iff.mpr (by rw [hunit]; omega)
    rw [singleton_append, scalars_cons (Bool.or_eq_false_iff.mp hplain).1, loneValue, hplain,
      if_neg Bool.false_ne_true, hunit]
  · exact scalars_units (by omega) (by omega) rfl rfl text

private theorem scalars_ofString (text : String) :
    scalars (ofString text) = text.toList.map Char.toNat := by
  unfold ofString
  induction text.toList with
  | nil => rfl
  | cons c chars ih => rw [flatMap_cons, scalars_codeUnits, ih, map_cons]

@[simp] theorem toWellFormed_ofString (text : String) :
    toWellFormed (ofString text) = ofString text := by
  rw [toWellFormed, scalars_ofString, flatMap_map]
  rfl

theorem ofString_injective : Function.Injective ofString := by
  intro text other h
  have hchars := congrArg scalars h
  rw [scalars_ofString, scalars_ofString] at hchars
  exact String.toList_inj.mp (map_injective_iff.mpr (fun _ _ => Char.toNat_inj.mp) hchars)

end Utf8
