import ContentAutomation.Library.Utf8

/-!
# Queries

The pairs of names and values of a query, as `URLSearchParams` writes and reads them. A query is
given by the bytes of its characters, which are all of ASCII.
-/

namespace FormUrlEncoded

open Utf8 List

/-- The digit of a value below 16. -/
def hexDigit (value : ℕ) : UInt8 := UInt8.ofNat (if value < 10 then 0x30 + value else 0x37 + value)

/-- The value of a digit, in either case. -/
def hexValue? (byte : UInt8) : Option ℕ :=
  if 0x30 ≤ byte ∧ byte ≤ 0x39 then some (byte.toNat - 0x30)
  else if 0x41 ≤ byte ∧ byte ≤ 0x46 then some (byte.toNat - 0x37)
  else if 0x61 ≤ byte ∧ byte ≤ 0x66 then some (byte.toNat - 0x57)
  else none

/-- A byte that stands for itself: a letter, a digit or one of `*-._`. -/
def isPlain (byte : UInt8) : Bool :=
  (0x30 ≤ byte && byte ≤ 0x39) || (0x41 ≤ byte && byte ≤ 0x5A) || (0x61 ≤ byte && byte ≤ 0x7A) ||
    [0x2A, 0x2D, 0x2E, 0x5F].contains byte

/-- How a byte is written. -/
def escape (byte : UInt8) : List UInt8 :=
  if byte = 0x20 then [0x2B]
  else if isPlain byte then [byte]
  else [0x25, hexDigit (byte.toNat / 16), hexDigit (byte.toNat % 16)]

/-- The byte that two digits stand for. -/
def escaped? (high low : UInt8) : Option UInt8 := do
  pure (UInt8.ofNat ((← hexValue? high) * 16 + (← hexValue? low)))

/-- The byte that a byte outside of an escape stands for. -/
def plain (byte : UInt8) : UInt8 := if byte = 0x2B then 0x20 else byte

/-- The bytes that were written. -/
def unescape : List UInt8 → List UInt8
  | [] => []
  | [byte] => [plain byte]
  | [byte, last] => [plain byte, plain last]
  | byte :: high :: low :: bytes =>
    match if byte = 0x25 then escaped? high low else none with
    | some value => value :: unescape bytes
    | none => plain byte :: unescape (high :: low :: bytes)

/-- A name or a value in a query. -/
def component (text : Utf16) : List UInt8 := (encode text).flatMap escape

/-- `params.toString()`. -/
def serialise (pairs : List (Utf16 × Utf16)) : List UInt8 :=
  [0x26].intercalate (pairs.map fun pair => component pair.1 ++ 0x3D :: component pair.2)

/-- `new URLSearchParams(query)`, by its pairs. -/
def parse (query : List UInt8) : List (Utf16 × Utf16) :=
  ((query.splitOn 0x26).filter fun part => !part.isEmpty).map fun part =>
    (decode (unescape (part.takeWhile (· != 0x3D))),
      decode (unescape ((part.dropWhile (· != 0x3D)).drop 1)))

private theorem forall_byte {P : UInt8 → Prop} (h : ∀ n < 256, P (UInt8.ofNat n)) (byte : UInt8) :
    P byte := by
  have hbyte := h byte.toNat byte.toNat_lt
  rwa [UInt8.ofNat_toNat] at hbyte

private theorem plain_of_isPlain (byte : UInt8) : isPlain byte = true →
    byte ≠ 0x25 ∧ plain byte = byte ∧ byte ≠ 0x26 ∧ byte ≠ 0x3D :=
  forall_byte (P := fun byte => isPlain byte = true →
    byte ≠ 0x25 ∧ plain byte = byte ∧ byte ≠ 0x26 ∧ byte ≠ 0x3D) (by decide +kernel) byte

theorem escaped?_hexDigit (byte : UInt8) :
    escaped? (hexDigit (byte.toNat / 16)) (hexDigit (byte.toNat % 16)) = some byte :=
  forall_byte (P := fun byte =>
    escaped? (hexDigit (byte.toNat / 16)) (hexDigit (byte.toNat % 16)) = some byte)
    (by decide +kernel) byte

private theorem separator_notMem_escape {byte other : UInt8} (h : other ∈ escape byte) :
    other ≠ 0x26 ∧ other ≠ 0x3D := by
  have hdigit : ∀ value < 16, hexDigit value ≠ 0x26 ∧ hexDigit value ≠ 0x3D := by decide
  have hbyte := byte.toNat_lt
  unfold escape at h
  split_ifs at h with hspace hplain
  · rw [mem_singleton.mp h]
    decide
  · rw [mem_singleton.mp h]
    exact (plain_of_isPlain byte hplain).2.2
  · simp only [mem_cons, not_mem_nil, or_false] at h
    rcases h with rfl | rfl | rfl
    · decide
    · exact hdigit _ (by omega)
    · exact hdigit _ (by omega)

private theorem unescape_cons {byte : UInt8} (h : byte ≠ 0x25) (bytes : List UInt8) :
    unescape (byte :: bytes) = plain byte :: unescape bytes := by
  match bytes with
  | [] => rfl
  | [last] => rfl
  | high :: low :: bytes => rw [unescape, if_neg h]

private theorem unescape_escape (byte : UInt8) (bytes : List UInt8) :
    unescape (escape byte ++ bytes) = byte :: unescape bytes := by
  unfold escape
  split_ifs with hspace hplain
  · rw [singleton_append, unescape_cons (by decide), hspace]
    rfl
  · obtain ⟨hpercent, hsame, -⟩ := plain_of_isPlain byte hplain
    rw [singleton_append, unescape_cons hpercent, hsame]
  · rw [cons_append, cons_append, singleton_append, unescape, if_pos rfl,
      escaped?_hexDigit]

private theorem unescape_flatMap_escape (bytes : List UInt8) :
    unescape (bytes.flatMap escape) = bytes := by
  induction bytes with
  | nil => rfl
  | cons byte bytes ih => rw [flatMap_cons, unescape_escape, ih]

private theorem decode_component (text : Utf16) :
    decode (unescape (component text)) = toWellFormed text := by
  rw [component, unescape_flatMap_escape, decode_encode]

private theorem separator_notMem_component {text : Utf16} {byte : UInt8}
    (h : byte ∈ component text) :
    byte ≠ 0x26 ∧ byte ≠ 0x3D := by
  obtain ⟨other, -, hbyte⟩ := mem_flatMap.mp h
  exact separator_notMem_escape hbyte

/-- **The round trip.** Pairs that were written are read again, with their lone surrogates
replaced. -/
theorem parse_serialise (pairs : List (Utf16 × Utf16)) :
    parse (serialise pairs) = pairs.map (Prod.map toWellFormed toWellFormed) := by
  by_cases hnil : pairs = []
  · rw [hnil]
    rfl
  have hparts : ∀ part ∈ pairs.map fun pair => component pair.1 ++ 0x3D :: component pair.2,
      (0x26 : UInt8) ∉ part := by
    intro part hpart hmem
    obtain ⟨pair, -, rfl⟩ := mem_map.mp hpart
    rcases mem_append.mp hmem with hname | hvalue
    · exact (separator_notMem_component hname).1 rfl
    · rcases mem_cons.mp hvalue with heq | hvalue
      · cases heq
      · exact (separator_notMem_component hvalue).1 rfl
  have hpart (pair : Utf16 × Utf16) :
      (component pair.1 ++ 0x3D :: component pair.2).takeWhile (· != 0x3D) = component pair.1 ∧
      (component pair.1 ++ 0x3D :: component pair.2).dropWhile (· != 0x3D) =
        0x3D :: component pair.2 := by
    have hname : ∀ byte ∈ component pair.1, (byte != 0x3D) = true := fun byte hbyte =>
      bne_iff_ne.mpr (separator_notMem_component hbyte).2
    rw [takeWhile_append_of_pos hname, dropWhile_append_of_pos hname]
    exact ⟨by simp, by simp⟩
  have hsplit : (serialise pairs).splitOn 0x26 =
      pairs.map fun pair => component pair.1 ++ 0x3D :: component pair.2 :=
    splitOn_intercalate _ hparts (by simpa using hnil)
  have hfilled : ∀ part ∈ pairs.map fun pair => component pair.1 ++ 0x3D :: component pair.2,
      (!part.isEmpty) = true := by
    intro part hpart
    obtain ⟨pair, -, rfl⟩ := mem_map.mp hpart
    simp
  rw [parse, hsplit, filter_eq_self.mpr hfilled, map_map]
  refine map_congr_left fun pair _ => ?_
  rw [Function.comp_apply, (hpart pair).1, (hpart pair).2, drop_one, tail_cons,
    decode_component, decode_component, Prod.map]

end FormUrlEncoded
