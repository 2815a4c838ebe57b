import ContentAutomation.Library.Utf16

/-!
# Bytes as base64

The encoding of bytes, for URLs without padding and in the standard alphabet with padding, and
the decoding of any text, which leaves out what is in neither alphabet. Decoding gives encoded
bytes back.
-/

namespace Base64

open Utf16 List

/-- The character of a six-bit number. -/
def digit (value : ℕ) : UInt16 :=
  if value < 26 then .ofNat (0x41 + value)
  else if value < 52 then .ofNat (0x61 + (value - 26))
  else if value < 62 then .ofNat (0x30 + (value - 52))
  else if value = 62 then 0x2D
  else 0x5F

/-- The six-bit number of a character, of either alphabet. -/
def value? (unit : UInt16) : Option ℕ :=
  let n := unit.toNat
  if 0x41 ≤ n ∧ n ≤ 0x5A then some (n - 0x41)
  else if 0x61 ≤ n ∧ n ≤ 0x7A then some (n - 0x61 + 26)
  else if 0x30 ≤ n ∧ n ≤ 0x39 then some (n - 0x30 + 52)
  else if n = 0x2D ∨ n = 0x2B then some 62
  else if n = 0x5F ∨ n = 0x2F then some 63
  else none

/-- The six-bit numbers of bytes. -/
def toSextets : List UInt8 → List ℕ
  | [] => []
  | [a] => [a.toNat / 4, a.toNat % 4 * 16]
  | [a, b] => [a.toNat / 4, a.toNat % 4 * 16 + b.toNat / 16, b.toNat % 16 * 4]
  | a :: b :: c :: bytes =>
    a.toNat / 4 :: (a.toNat % 4 * 16 + b.toNat / 16) :: (b.toNat % 16 * 4 + c.toNat / 64) ::
      c.toNat % 64 :: toSextets bytes

/-- The bytes of six-bit numbers. -/
def ofSextets : List ℕ → List UInt8
  | [] | [_] => []
  | [a, b] => [.ofNat (a * 4 + b / 16)]
  | [a, b, c] => [.ofNat (a * 4 + b / 16), .ofNat (b % 16 * 16 + c / 4)]
  | a :: b :: c :: d :: rest =>
    .ofNat (a * 4 + b / 16) :: .ofNat (b % 16 * 16 + c / 4) :: .ofNat (c % 4 * 64 + d) ::
      ofSextets rest

/-- `buffer.toString("base64url")`. -/
def encode (bytes : List UInt8) : Utf16 := (toSextets bytes).map digit

/-- `Buffer.from(text, "base64url")`. -/
def decode (text : Utf16) : List UInt8 := ofSextets (text.filterMap value?)

/-- A character of the alphabet. -/
def IsDigit (unit : UInt16) : Prop := ∃ value < 64, unit = digit value

variable {value : ℕ}

theorem value?_digit (h : value < 64) : value? (digit value) = some value := by
  revert value
  decide

/-- No character of the alphabet is a dot, or beyond the first 128 characters. -/
theorem digit_spec (h : value < 64) : digit value ≠ 0x2E ∧ digit value < 0x80 := by
  revert value
  decide

/-- The numbers of bytes have six bits. -/
theorem lt_of_mem_toSextets {bytes : List UInt8} (h : value ∈ toSextets bytes) :
    value < 64 := by
  have hbyte : ∀ a : UInt8, a.toNat < 256 := fun a => a.toNat_lt
  induction bytes using toSextets.induct with
  | case1 => cases h
  | case2 a =>
    have ha := hbyte a
    simp only [toSextets, mem_cons, not_mem_nil, or_false] at h
    omega
  | case3 a b =>
    have ha := hbyte a
    have hb := hbyte b
    simp only [toSextets, mem_cons, not_mem_nil, or_false] at h
    omega
  | case4 a b c bytes ih =>
    have ha := hbyte a
    have hb := hbyte b
    have hc := hbyte c
    simp only [toSextets, mem_cons] at h
    rcases h with h | h | h | h | h
    · omega
    · omega
    · omega
    · omega
    · exact ih h

theorem isDigit_of_mem_encode {bytes : List UInt8} {unit : UInt16} (h : unit ∈ encode bytes) :
    IsDigit unit := by
  obtain ⟨value, hvalue, rfl⟩ := mem_map.mp h
  exact ⟨value, lt_of_mem_toSextets hvalue, rfl⟩

private theorem ofNat_eq (a : UInt8) {n : ℕ} (h : n = a.toNat) : UInt8.ofNat n = a := by
  rw [h, UInt8.ofNat_toNat]

variable (bytes : List UInt8)

private theorem ofSextets_toSextets : ofSextets (toSextets bytes) = bytes := by
  have hbyte : ∀ a : UInt8, a.toNat < 256 := fun a => a.toNat_lt
  induction bytes using toSextets.induct with
  | case1 => rfl
  | case2 a =>
    rw [toSextets, ofSextets, ofNat_eq a (by omega)]
  | case3 a b =>
    have hb := hbyte b
    rw [toSextets, ofSextets, ofNat_eq a (by omega), ofNat_eq b (by omega)]
  | case4 a b c bytes ih =>
    have hb := hbyte b
    have hc := hbyte c
    rw [toSextets, ofSextets, ih, ofNat_eq a (by omega), ofNat_eq b (by omega),
      ofNat_eq c (by omega)]

/-- **The round trip.** -/
theorem decode_encode : decode (encode bytes) = bytes := by
  have hvalues : (encode bytes).filterMap value? = toSextets bytes := by
    unfold encode
    rw [filterMap_map]
    have hsome : ∀ value ∈ toSextets bytes, (value? ∘ digit) value = some value :=
      fun value hvalue => value?_digit (lt_of_mem_toSextets hvalue)
    rw [filterMap_congr hsome, filterMap_some]
  rw [decode, hvalues, ofSextets_toSextets]

/-! ### The alphabet with padding -/

/-- The character of a six-bit number in the standard alphabet. -/
def standardDigit (value : ℕ) : UInt16 :=
  if value = 62 then 0x2B
  else if value = 63 then 0x2F
  else digit value

/-- `buffer.toString("base64")`. -/
def encodePadded (bytes : List UInt8) : Utf16 :=
  (toSextets bytes).map standardDigit ++ List.replicate ((3 - bytes.length % 3) % 3) 0x3D

theorem value?_standardDigit (h : value < 64) :
    value? (standardDigit value) = some value := by
  revert value
  decide

/-- **The round trip**, with padding. -/
theorem decode_encodePadded : decode (encodePadded bytes) = bytes := by
  have hvalues : (encodePadded bytes).filterMap value? = toSextets bytes := by
    have hsome : ∀ value ∈ toSextets bytes, (value? ∘ standardDigit) value = some value :=
      fun value hvalue => value?_standardDigit (lt_of_mem_toSextets hvalue)
    have hpadding (count : ℕ) : (List.replicate count 0x3D).filterMap value? = [] := by
      rw [filterMap_replicate_of_none rfl]
    rw [encodePadded, filterMap_append, filterMap_map, filterMap_congr hsome,
      filterMap_some, hpadding, append_nil]
  rw [decode, hvalues, ofSextets_toSextets]

end Base64
