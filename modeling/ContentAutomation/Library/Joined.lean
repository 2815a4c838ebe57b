import ContentAutomation.Library.Vocabulary
import Mathlib

/-!
# Joined texts

Texts that are put together from parts: how long they are, and when the parts can be told
from the whole.
-/

namespace JoinedText

open List

/-! ### Sizes -/

/-- A size of texts that adds up. -/
structure AdditiveSize (size : String → ℕ) : Prop where
  empty : size "" = 0
  append : ∀ first rest, size (first ++ rest) = size first + size rest

theorem additiveSize_length : AdditiveSize fun text => text.toList.length where
  empty := rfl
  append first rest := by simp

variable {size : String → ℕ} {parts parts' : List String} {separator : String}

theorem AdditiveSize.intercalate (h : AdditiveSize size) (separator : String)
    (parts : List String) : size (separator.intercalate parts) =
      (parts.map size).sum + (parts.length - 1) * size separator := by
  induction parts with
  | nil => simp [h.empty]
  | cons part parts ih =>
    cases parts with
    | nil => simp
    | cons next parts =>
      rw [String.intercalate_cons_cons, h.append, h.append, ih]
      simp only [map_cons, sum_cons, length_cons, Nat.add_sub_cancel]
      ring

theorem AdditiveSize.intercalate_perm (h : AdditiveSize size) (hperm : parts.Perm parts') :
    size (separator.intercalate parts) = size (separator.intercalate parts') := by
  rw [h.intercalate, h.intercalate, (hperm.map size).sum_eq, hperm.length_eq]

/-! ### Parts of a whole -/

/-- A text in two parts, of which the first is as long as that of another, is told apart. -/
theorem append_inj {first rest first' rest' : String} (h : first ++ rest = first' ++ rest')
    (hlength : first.toList.length = first'.toList.length) : first = first' ∧ rest = rest' := by
  have hlists : first.toList ++ rest.toList = first'.toList ++ rest'.toList := by
    rw [← String.toList_append, ← String.toList_append, h]
  obtain ⟨hfirst, hrest⟩ := List.append_inj hlists hlength
  exact ⟨String.toList_inj.mp hfirst, String.toList_inj.mp hrest⟩

/-- The parts of a joined text are told apart by their lengths. -/
theorem intercalate_inj_of_lengths
    (h : separator.intercalate parts = separator.intercalate parts')
    (hlengths : parts.map (fun part => part.toList.length) =
      parts'.map fun part => part.toList.length) : parts = parts' := by
  induction parts generalizing parts' with
  | nil => exact (map_eq_nil_iff.mp hlengths.symm).symm
  | cons part parts ih =>
    cases parts' with
    | nil => cases hlengths
    | cons part' parts' =>
      obtain ⟨hlength, htails⟩ := List.cons.inj hlengths
      cases parts with
      | nil =>
        obtain rfl := map_eq_nil_iff.mp htails.symm
        rw [String.intercalate_singleton, String.intercalate_singleton] at h
        rw [h]
      | cons next parts =>
        cases parts' with
        | nil => cases htails
        | cons next' parts' =>
          rw [String.intercalate_cons_cons, String.intercalate_cons_cons, String.append_assoc,
            String.append_assoc] at h
          obtain ⟨hpart, hrest⟩ := append_inj h hlength
          rw [hpart, ih ((String.append_right_inj _).mp hrest) htails]

/-- The parts of a joined text are told apart by a separator that none of them has. -/
theorem intercalate_inj {c : Char} (h : (String.singleton c).intercalate parts =
      (String.singleton c).intercalate parts')
    (hparts : ∀ part ∈ parts, c ∉ part.toList) (hparts' : ∀ part ∈ parts', c ∉ part.toList)
    (hlength : parts.length = parts'.length) : parts = parts' := by
  rcases parts.eq_nil_or_concat with rfl | hsome
  · exact (length_eq_zero_iff.mp hlength.symm).symm
  · have hne : parts ≠ [] := by
      rintro rfl
      obtain ⟨_, _, hnil⟩ := hsome
      simp at hnil
    have hne' : parts' ≠ [] := by
      rintro rfl
      exact hne (length_eq_zero_iff.mp hlength)
    have hlists := congrArg String.toList h
    simp only [String.toList_intercalate, String.toList_singleton] at hlists
    have hsplit : ∀ {texts : List String}, texts ≠ [] → (∀ part ∈ texts, c ∉ part.toList) →
        ([c].intercalate (texts.map String.toList)).splitOn c = texts.map String.toList := by
      intro texts hnonempty hfree
      refine splitOn_intercalate c (fun line hline => ?_) (by simpa using hnonempty)
      obtain ⟨part, hpart, rfl⟩ := mem_map.mp hline
      exact hfree part hpart
    have hsame := congrArg (List.splitOn c) hlists
    rw [hsplit hne hparts, hsplit hne' hparts'] at hsame
    exact map_injective_iff.mpr (fun _ _ heq => String.toList_injective heq) hsame

/-- What comes before the first separator of a text, and what comes after it, are told apart. -/
theorem append_cons_inj {α : Type*} {c : α} {first first' rest rest' : List α}
    (h : first ++ c :: rest = first' ++ c :: rest') (hfirst : c ∉ first) (hfirst' : c ∉ first') :
    first = first' ∧ rest = rest' := by
  induction first generalizing first' with
  | nil =>
    cases first' with
    | nil => exact ⟨rfl, (List.cons.inj h).2⟩
    | cons char chars => exact absurd (by rw [(List.cons.inj h).1]; simp) hfirst'
  | cons char chars ih =>
    cases first' with
    | nil => exact absurd (by rw [← (List.cons.inj h).1]; simp) hfirst
    | cons char' chars' =>
      obtain ⟨rfl, htails⟩ := List.cons.inj h
      rw [mem_cons, not_or] at hfirst hfirst'
      obtain ⟨rfl, hrest⟩ := ih htails hfirst.2 hfirst'.2
      exact ⟨rfl, hrest⟩

private theorem sign_notMem_repr (n : ℕ) : '-' ∉ n.repr.toList := by
  intro hsign
  rw [Nat.toList_repr] at hsign
  exact absurd (Nat.isDigit_of_mem_toDigits (by omega) (by omega) hsign) (by decide)

private theorem exists_toString_int (n : ℤ) :
    ∃ char chars, (toString n).toList = char :: chars ∧ '-' ∉ chars := by
  rw [Int.toString_eq_repr, Int.repr_eq_if]
  split
  · have hsome : n.toNat.repr.toList ≠ [] := by simp
    obtain ⟨char, chars, htext⟩ := exists_cons_of_ne_nil hsome
    refine ⟨char, chars, htext, fun hmem => sign_notMem_repr n.toNat ?_⟩
    rw [htext]
    exact mem_cons_of_mem _ hmem
  · exact ⟨'-', (-n).toNat.repr.toList, by rw [String.toList_append]; rfl, sign_notMem_repr _⟩

theorem hyphenated_inj {year year' number number' : ℤ}
    (h : toString year ++ "-" ++ toString number = toString year' ++ "-" ++ toString number') :
    year = year' ∧ number = number' := by
  obtain ⟨char, chars, hyear, hfree⟩ := exists_toString_int year
  obtain ⟨char', chars', hyear', hfree'⟩ := exists_toString_int year'
  have hlists := congrArg String.toList h
  have hhyphen : "-".toList = ['-'] := rfl
  simp only [String.toList_append, hyear, hyear', hhyphen, cons_append, append_assoc,
    nil_append, List.cons.injEq] at hlists
  obtain ⟨rfl, hlists⟩ := hlists
  obtain ⟨rfl, hnumber⟩ := append_cons_inj hlists hfree hfree'
  have hyears : toString year = toString year' := by
    rw [← String.toList_inj, hyear, hyear']
  have hnumbers : toString number = toString number' := String.toList_inj.mp hnumber
  rw [Int.toString_eq_repr, Int.toString_eq_repr] at hyears hnumbers
  exact ⟨Int.repr_injective hyears, Int.repr_injective hnumbers⟩

theorem members_inj {T : Type*} [Vocabulary T] {c : Char} {members members' : List T}
    (hwords : ∀ member : T, c ∉ (Vocabulary.word member).toList)
    (h : (String.singleton c).intercalate (members.map Vocabulary.word) =
      (String.singleton c).intercalate (members'.map Vocabulary.word))
    (hlength : members.length = members'.length) : members = members' := by
  have hfree : ∀ members : List T, ∀ part ∈ members.map Vocabulary.word, c ∉ part.toList := by
    intro members part hpart
    obtain ⟨member, -, rfl⟩ := mem_map.mp hpart
    exact hwords member
  have hsame := intercalate_inj h (hfree members) (hfree members') (by simpa using hlength)
  exact (map_injective_iff.mpr Vocabulary.word_injective) hsame

end JoinedText
