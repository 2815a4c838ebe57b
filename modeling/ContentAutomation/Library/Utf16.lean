import Mathlib.Data.List.Basic

/-!
# Text as code units

The strings of the program are sequences of 16-bit code units, lone surrogates
included. This file has the operations on them that the program's text
functions are made of, and the lines of a text: where they are split, how they
are joined again, and which of them are indented.
-/

/-- A string: a sequence of 16-bit code units. -/
abbrev Utf16 := List UInt16

namespace Utf16

open List

instance : LawfulBEq Utf16 := inferInstanceAs (LawfulBEq (List UInt16))

/-- The code units of one code point. -/
def codeUnits (c : Char) : Utf16 :=
  if c.toNat < 0x10000 then [UInt16.ofNat c.toNat]
  else
    [UInt16.ofNat (0xD800 + (c.toNat - 0x10000) / 0x400),
      UInt16.ofNat (0xDC00 + (c.toNat - 0x10000) % 0x400)]

/-- The code units of a literal. -/
def ofString (text : String) : Utf16 := text.toList.flatMap codeUnits

def lineFeed : UInt16 := 0x0A

def space : UInt16 := 0x20

/-- A control character. -/
def isControl (unit : UInt16) : Bool := unit < 0x20 || unit == 0x7F

/-- A character of the class `\s`. -/
def isSpace (unit : UInt16) : Bool :=
  [0x09, 0x0A, 0x0B, 0x0C, 0x0D, 0x20, 0xA0, 0x1680, 0x2000, 0x2001, 0x2002, 0x2003, 0x2004,
    0x2005, 0x2006, 0x2007, 0x2008, 0x2009, 0x200A, 0x2028, 0x2029, 0x202F, 0x205F, 0x3000,
    0xFEFF].contains unit

/-- Every control character becomes a space. -/
def blankControls (text : Utf16) : Utf16 :=
  text.map fun unit => if isControl unit then space else unit

/-- The rest of a text with runs of `\s` replaced by one space; `inside` tells that the
character before was in a run. -/
def collapseFrom : Bool → Utf16 → Utf16
  | _, [] => []
  | inside, unit :: text =>
    if isSpace unit then
      if inside then collapseFrom true text else space :: collapseFrom true text
    else unit :: collapseFrom false text

/-- `text.replace(/\s+/gu, " ")`. -/
def collapseSpaces (text : Utf16) : Utf16 := collapseFrom false text

/-- `text.trim()`. -/
def trim (text : Utf16) : Utf16 :=
  ((text.dropWhile isSpace).reverse.dropWhile isSpace).reverse

/-! ### What the operations leave in a text -/

variable {text : Utf16} {unit : UInt16}

theorem mem_collapseFrom {inside : Bool} (h : unit ∈ collapseFrom inside text) :
    unit = space ∨ unit ∈ text := by
  induction text generalizing inside with
  | nil => simp [collapseFrom] at h
  | cons head text ih =>
    unfold collapseFrom at h
    split_ifs at h
    · exact (ih h).imp_right (mem_cons_of_mem _)
    · rcases mem_cons.mp h with hspace | hrest
      · exact Or.inl hspace
      · exact (ih hrest).imp_right (mem_cons_of_mem _)
    · rcases mem_cons.mp h with hhead | hrest
      · exact Or.inr (hhead ▸ mem_cons_self)
      · exact (ih hrest).imp_right (mem_cons_of_mem _)

theorem mem_of_mem_trim (h : unit ∈ trim text) : unit ∈ text := by
  unfold trim at h
  have hleft := (dropWhile_sublist isSpace).mem (mem_reverse.mp h)
  exact (dropWhile_sublist isSpace).mem (mem_reverse.mp hleft)

theorem trim_sublist (text : Utf16) : (trim text).Sublist text := by
  have hlast := (dropWhile_sublist isSpace (l := (text.dropWhile isSpace).reverse)).reverse
  rw [reverse_reverse] at hlast
  exact hlast.trans (dropWhile_sublist isSpace)

theorem isSpace_getLast?_trim (h : unit ∈ (trim text).getLast?) :
    isSpace unit = false := by
  rw [trim, List.getLast?_reverse] at h
  have hnot := List.head?_dropWhile_not isSpace (text.dropWhile isSpace).reverse
  rw [Option.mem_def.mp h] at hnot
  simpa using hnot

theorem isSpace_head?_trim (h : unit ∈ (trim text).head?) :
    isSpace unit = false := by
  have hprefix : trim text <+: text.dropWhile isSpace := by
    rw [← reverse_suffix, trim, reverse_reverse]
    exact dropWhile_suffix isSpace
  obtain ⟨rest, hrest⟩ := hprefix
  have hnot := List.head?_dropWhile_not isSpace text
  rw [← hrest, List.head?_append, Option.mem_def.mp h] at hnot
  simpa using hnot

theorem trim_eq_self (hfirst : ∀ unit ∈ text.head?, isSpace unit = false)
    (hlast : ∀ unit ∈ text.getLast?, isSpace unit = false) : trim text = text := by
  have hkeep : ∀ text : Utf16, (∀ unit ∈ text.head?, isSpace unit = false) →
      text.dropWhile isSpace = text := by
    intro text h
    cases text with
    | nil => rfl
    | cons unit text => simp [h unit rfl]
  rw [trim, hkeep text hfirst, hkeep text.reverse (by simpa using hlast), reverse_reverse]

theorem isControl_of_mem_blankControls (h : unit ∈ blankControls text) :
    isControl unit = false := by
  obtain ⟨original, -, rfl⟩ := mem_map.mp h
  split_ifs with hcontrol
  · decide
  · simpa using hcontrol

theorem ofString_append (first rest : String) :
    ofString (first ++ rest) = ofString first ++ ofString rest := by
  simp [ofString]

theorem mem_ofString {text : String} (h : unit ∈ ofString text) :
    ∃ c ∈ text.toList, unit ∈ codeUnits c := mem_flatMap.mp h

private theorem lineFeed_notMem_codeUnits {c : Char} (h : 0x20 ≤ c.toNat ∧ c.toNat < 0x80) :
    lineFeed ∉ codeUnits c := by
  unfold codeUnits lineFeed
  rw [if_pos (by omega), mem_singleton]
  intro heq
  have hnat := congrArg UInt16.toNat heq
  have hten : (10 : UInt16).toNat = 10 := rfl
  rw [hten, UInt16.toNat_ofNat'] at hnat
  omega

theorem eq_of_mem_codeUnits {c d : Char} (hd : d.toNat < 0x80)
    (h : UInt16.ofNat d.toNat ∈ codeUnits c) : c = d := by
  unfold codeUnits at h
  split_ifs at h with hsmall
  · have hnat := congrArg UInt16.toNat (mem_singleton.mp h)
    rw [UInt16.toNat_ofNat', UInt16.toNat_ofNat'] at hnat
    exact Char.toNat_inj.mp (by omega)
  · have hlast : c.toNat < 0x110000 := by
      have hvalid := c.valid
      rcases hvalid with hlow | hhigh
      · have hval : c.toNat = c.val.toNat := rfl
        omega
      · exact hhigh.2
    simp only [mem_cons, not_mem_nil, or_false] at h
    rcases h with hleading | htrailing
    · have hnat := congrArg UInt16.toNat hleading
      rw [UInt16.toNat_ofNat', UInt16.toNat_ofNat'] at hnat
      omega
    · have hnat := congrArg UInt16.toNat htrailing
      rw [UInt16.toNat_ofNat', UInt16.toNat_ofNat'] at hnat
      omega

/-- An ASCII character that a literal does not have is none of its code units. -/
theorem notMem_ofString {chars : List Char} {d : Char} (hd : d.toNat < 0x80) (h : d ∉ chars) :
    UInt16.ofNat d.toNat ∉ ofString (String.ofList chars) := by
  intro hunit
  obtain ⟨c, hc, hmem⟩ := mem_ofString hunit
  rw [String.toList_ofList, eq_of_mem_codeUnits hd hmem] at hc
  exact h hc

theorem lineFeed_notMem_nat (n : ℕ) : lineFeed ∉ ofString (toString n) := by
  intro h
  obtain ⟨c, hc, hunit⟩ := mem_ofString h
  refine lineFeed_notMem_codeUnits ?_ hunit
  have hdigit : c.isDigit = true := by
    refine Nat.isDigit_of_mem_toDigits (b := 10) (n := n) (by omega) (by omega) ?_
    simpa using hc
  simp only [Char.isDigit, Bool.and_eq_true, decide_eq_true_eq] at hdigit
  have hval : c.toNat = c.val.toNat := rfl
  have hlow := UInt32.le_iff_toNat_le.mp hdigit.1
  have hhigh := UInt32.le_iff_toNat_le.mp hdigit.2
  simp at hlow hhigh
  omega

/-! ### Code points -/

/-- A leading surrogate. -/
def isLeading (unit : UInt16) : Bool := 0xD800 ≤ unit && unit ≤ 0xDBFF

/-- A trailing surrogate. -/
def isTrailing (unit : UInt16) : Bool := 0xDC00 ≤ unit && unit ≤ 0xDFFF

/-- The number of code points; a surrogate pair is one. -/
def characters : Utf16 → ℕ
  | [] => 0
  | [_] => 1
  | first :: second :: text =>
    if isLeading first && isTrailing second then characters text + 1
    else characters (second :: text) + 1

theorem characters_le_length (text : Utf16) : characters text ≤ text.length := by
  induction text using characters.induct with
  | case1 => simp [characters]
  | case2 unit => simp [characters]
  | case3 first second text hpair ih =>
    rw [characters, if_pos hpair, length_cons, length_cons]
    omega
  | case4 first second text hpair ih =>
    rw [characters, if_neg hpair, length_cons]
    omega

/-! ### Lines -/

/-- `text.split("\n")`. -/
def lines (text : Utf16) : List Utf16 := text.splitOn lineFeed

/-- `parts.join("\n")`. -/
def joinLines (parts : List Utf16) : Utf16 := [lineFeed].intercalate parts

/-- A text begins with two spaces. -/
def Indented (text : Utf16) : Prop := [space, space] <+: text

instance (text : Utf16) : Decidable (Indented text) :=
  inferInstanceAs (Decidable ([space, space] <+: text))

/-- Every line feed of a text is followed by two spaces. -/
def Hangs : Utf16 → Prop
  | [] => True
  | unit :: text => (unit = lineFeed → Indented text) ∧ Hangs text

theorem lines_of_notMem (h : lineFeed ∉ text) : lines text = [text] :=
  splitOn_eq_singleton h

theorem lines_append_lineFeed (first rest : Utf16) :
    lines (first ++ lineFeed :: rest) = lines first ++ lines rest :=
  splitOn_append_cons_self first rest

private theorem joinLines_lines (text : Utf16) : joinLines (lines text) = text :=
  intercalate_splitOn lineFeed

theorem lines_injective : Function.Injective lines :=
  Function.LeftInverse.injective joinLines_lines

theorem lines_joinLines {parts : List Utf16} (h : parts ≠ []) :
    lines (joinLines parts) = parts.flatMap lines := by
  induction parts with
  | nil => exact absurd rfl h
  | cons part parts ih =>
    cases parts with
    | nil => simp [joinLines]
    | cons next parts =>
      have hjoin : joinLines (part :: next :: parts) =
          part ++ lineFeed :: joinLines (next :: parts) := by
        simp [joinLines, List.intercalate, List.intersperse]
      rw [hjoin, lines_append_lineFeed, ih (by simp)]
      simp only [flatMap_cons]

theorem lineFeed_notMem_of_mem_lines {line : Utf16} (h : line ∈ lines text) :
    lineFeed ∉ line := by
  induction text generalizing line with
  | nil =>
    rw [lines, splitOn_nil, mem_singleton] at h
    simp [h]
  | cons unit text ih =>
    unfold lines at h ih
    rw [splitOn_cons_eq_if_modifyHead] at h
    split_ifs at h with hbreak
    · rcases mem_cons.mp h with hempty | hrest
      · simp [hempty]
      · exact ih hrest
    · obtain ⟨first, others, hlines⟩ := exists_cons_of_ne_nil
        (splitOn_ne_nil lineFeed text)
      rw [hlines, modifyHead_cons] at h
      rw [hlines] at ih
      rcases mem_cons.mp h with hhead | hrest
      · have hfirst : lineFeed ∉ first := ih mem_cons_self
        have hunit : lineFeed ≠ unit := fun heq => hbreak (by simp [heq])
        rw [hhead]
        simp [hfirst, hunit]
      · exact ih (mem_cons_of_mem _ hrest)

theorem mem_of_mem_lines {line : Utf16} (h : line ∈ lines text)
    (hunit : unit ∈ line) : unit ∈ text := by
  have hjoined (parts : List Utf16) (hpart : line ∈ parts) : unit ∈ joinLines parts := by
    unfold joinLines
    induction parts with
    | nil => cases hpart
    | cons part parts ih =>
      cases parts with
      | nil => simpa [mem_singleton.mp hpart] using hunit
      | cons next parts =>
        rw [intercalate_cons_cons, append_assoc, mem_append, mem_append]
        rcases mem_cons.mp hpart with rfl | hrest
        · exact Or.inl hunit
        · exact Or.inr (Or.inr (ih hrest))
  rw [← joinLines_lines text]
  exact hjoined (lines text) h

private theorem lines_cons {first : Utf16} {others : List Utf16}
    (h : lines text = first :: others) :
    lines (unit :: text) =
      if unit = lineFeed then [] :: first :: others else (unit :: first) :: others := by
  unfold lines at h ⊢
  rw [splitOn_cons_eq_if_modifyHead, h]
  simp only [beq_iff_eq, modifyHead_cons]

theorem exists_lines_eq_cons (text : Utf16) : ∃ first others, lines text = first :: others :=
  exists_cons_of_ne_nil (splitOn_ne_nil lineFeed text)

private theorem isStart_head_lines {first : Utf16} {others : List Utf16}
    (h : lines text = first :: others) {start : Utf16} (hstart : lineFeed ∉ start) :
    start <+: first ↔ start <+: text := by
  induction start generalizing text first others with
  | nil => simp
  | cons unit start ih =>
    cases text with
    | nil =>
      rw [lines, splitOn_nil] at h
      cases h
      rfl
    | cons head text =>
      obtain ⟨next, rest, hlines⟩ := exists_lines_eq_cons text
      rw [lines_cons hlines] at h
      have hunit : lineFeed ≠ unit := fun heq => hstart (by simp [heq])
      split_ifs at h with hbreak
      · cases h
        constructor
        · intro hnil
          simp at hnil
        · intro hcons
          have hsame := (cons_prefix_cons.mp hcons).1
          exact absurd (hbreak.symm.trans hsame.symm) hunit
      · cases h
        rw [cons_prefix_cons, cons_prefix_cons,
          ih hlines fun hmem => hstart (mem_cons_of_mem _ hmem)]

/-- The lines after the first are indented exactly when every line feed is followed by
two spaces. -/
theorem hangs_iff : Hangs text ↔ ∀ line ∈ (lines text).tail, Indented line := by
  induction text with
  | nil => simp [Hangs, lines]
  | cons unit text ih =>
    obtain ⟨first, others, hlines⟩ := exists_lines_eq_cons text
    have hfirst : Indented first ↔ Indented text :=
      isStart_head_lines hlines (by decide)
    rw [Hangs, ih, lines_cons hlines, hlines]
    split_ifs with hbreak
    · simp [hbreak, hfirst]
    · simp [hbreak]

theorem hangs_of_notMem (h : lineFeed ∉ text) : Hangs text := by
  rw [hangs_iff, lines_of_notMem h]
  simp

theorem hangs_append_left {start : Utf16} (h : lineFeed ∉ start) :
    Hangs (start ++ text) ↔ Hangs text := by
  induction start with
  | nil => rfl
  | cons unit start ih =>
    rw [mem_cons, not_or] at h
    have hunit : unit ≠ lineFeed := fun heq => h.1 heq.symm
    rw [cons_append, Hangs, ih h.2]
    simp [hunit]

/-- What follows a mark that is neither a space nor a line feed does not matter, when it
has no line feeds. -/
theorem hangs_append_right {rest : Utf16} {mark : UInt16} (hspace : mark ≠ space)
    (hbreak : mark ≠ lineFeed) (h : lineFeed ∉ rest) :
    Hangs (text ++ mark :: rest) ↔ Hangs (text ++ [mark]) := by
  have hindented (text : Utf16) : Indented (text ++ mark :: rest) ↔ Indented (text ++ [mark]) := by
    match text with
    | [] => simp [Indented, hspace.symm]
    | [first] => simp [Indented, hspace.symm]
    | first :: second :: text => simp [Indented]
  induction text with
  | nil => simp [Hangs, hbreak, hangs_of_notMem h]
  | cons unit text ih =>
    exact and_congr (imp_congr_right fun _ => hindented text) ih

theorem forall_indented_lines_iff (h : Indented text) :
    (∀ line ∈ lines text, Indented line) ↔ Hangs text := by
  obtain ⟨first, others, hlines⟩ := exists_lines_eq_cons text
  have hfirst : Indented first := (isStart_head_lines hlines (by decide)).mpr h
  rw [hangs_iff, hlines]
  simp [hfirst]

end Utf16
