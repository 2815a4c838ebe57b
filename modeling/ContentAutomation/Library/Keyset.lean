import Mathlib.Algebra.Order.Group.Defs
import Mathlib.Data.List.Count
import Mathlib.Data.List.Sort
import Mathlib.Order.WithBot

/-!
# Keyset pagination

Rows with a key in a linear order are read a page at a time, in the order of their keys. A
page is anchored to a row: it starts at the position of that row, and a number of matching
rows is skipped. If the anchor itself matches, skipping one row skips the anchor, and the
pages that follow one another are cut out of one ordered list.
-/

namespace Keyset

open List

variable {α κ : Type*} [LinearOrder κ] (key : α → κ)

/-- The rows in the order of their keys. -/
def ordered (rows : List α) : List α := rows.insertionSort fun row other => key row ≤ key other

/-- A page of the rows that a filter selects: those from the position of an anchor on, less
the ones that are skipped, as far as the page goes. -/
def page (selects : α → Bool) (anchor : Option κ) (skip take : ℕ) (rows : List α) : List α :=
  (((ordered key rows).filter fun row =>
    selects row && decide (∀ position ∈ anchor, position ≤ key row)).drop skip).take take

/-- The rows that a filter selects behind a position. -/
def behind (selects : α → Bool) (bound : Option κ) (rows : List α) : List α :=
  (ordered key rows).filter fun row => selects row && decide (∀ position ∈ bound, position < key row)

variable {key} {selects : α → Bool} {rows : List α} {row : α}

@[simp]
theorem mem_ordered : row ∈ ordered key rows ↔ row ∈ rows := mem_insertionSort _

theorem pairwise_ordered (h : rows.Pairwise fun row other => key row ≠ key other) :
    (ordered key rows).Pairwise fun row other => key row < key other := by
  have hsorted : (ordered key rows).Pairwise fun row other => key row ≤ key other :=
    pairwise_insertionSort _ rows
  have hdistinct : (ordered key rows).Pairwise fun row other => key row ≠ key other :=
    (perm_insertionSort _ rows).symm.pairwise h fun hne => hne.symm
  exact (hsorted.and hdistinct).imp fun h => lt_of_le_of_ne h.1 h.2

theorem mem_behind {bound : Option κ} : row ∈ behind key selects bound rows ↔
    row ∈ rows ∧ selects row ∧ ∀ position ∈ bound, position < key row := by
  unfold behind
  rw [mem_filter, mem_ordered, Bool.and_eq_true, decide_eq_true_iff]

theorem pairwise_behind {bound : Option κ}
    (h : rows.Pairwise fun row other => key row ≠ key other) :
    (behind key selects bound rows).Pairwise fun row other => key row < key other :=
  (pairwise_ordered h).filter _

theorem page_none {take : ℕ} :
    page key selects none 0 take rows = (behind key selects none rows).take take := by
  simp [page, behind]

/-- In a strictly ordered list, what is not before a row is the row itself and what is
behind it. -/
theorem filter_le_eq_cons {ordered : List α}
    (hordered : ordered.Pairwise fun row other => key row < key other) {anchor : α}
    (hanchor : anchor ∈ ordered) (hselects : selects anchor) :
    (ordered.filter fun row => selects row && decide (key anchor ≤ key row)) =
      anchor :: ordered.filter fun row => selects row && decide (key anchor < key row) := by
  induction ordered with
  | nil => cases hanchor
  | cons first rest ih =>
    obtain ⟨hfirst, hrest⟩ := pairwise_cons.mp hordered
    rcases mem_cons.mp hanchor with rfl | hlater
    · have hall : ∀ row ∈ rest, (selects row && decide (key anchor ≤ key row)) =
          (selects row && decide (key anchor < key row)) := by
        intro row hrow
        simp [hfirst row hrow, (hfirst row hrow).le]
      rw [filter_cons_of_pos (by simp [hselects]), filter_cons_of_neg (by simp),
        filter_congr hall]
    · have hbefore : key first < key anchor := hfirst anchor hlater
      rw [filter_cons_of_neg (by simp [not_le.mpr hbefore]),
        filter_cons_of_neg (by simp [not_lt.mpr hbefore.le]), ih hrest hlater]

/-- **A page whose anchor matches** holds the rows behind the anchor. -/
theorem page_of_anchor {anchor : α} {take : ℕ}
    (h : rows.Pairwise fun row other => key row ≠ key other) (hanchor : anchor ∈ rows)
    (hselects : selects anchor) :
    page key selects (some (key anchor)) 1 take rows =
      (behind key selects (some (key anchor)) rows).take take := by
  unfold page behind
  simp only [Option.mem_def, Option.some.injEq, forall_eq']
  rw [filter_le_eq_cons (pairwise_ordered h) (mem_ordered.mpr hanchor) hselects]
  rfl

theorem mem_take_iff {ordered : List α} {n : ℕ} {last : α}
    (hordered : ordered.Pairwise fun row other => key row < key other)
    (hlast : (ordered.take n).getLast? = some last) :
    row ∈ ordered.take n ↔ row ∈ ordered ∧ key row ≤ key last := by
  have hmem : last ∈ ordered.take n := mem_of_getLast? hlast
  have hsplit : ordered.take n ++ ordered.drop n = ordered := take_append_drop n ordered
  have hcross : ∀ row ∈ ordered.take n, ∀ other ∈ ordered.drop n, key row < key other := by
    rw [← hsplit] at hordered
    exact (pairwise_append.mp hordered).2.2
  have hbounded : ∀ row ∈ ordered.take n, key row ≤ key last := by
    obtain ⟨init, hinit⟩ := List.getLast?_eq_some_iff.mp hlast
    have htaken : (ordered.take n).Pairwise fun row other => key row < key other :=
      hordered.sublist (take_sublist n ordered)
    intro row hrow
    rw [hinit] at htaken hrow
    rcases mem_append.mp hrow with hearlier | hsame
    · exact ((pairwise_append.mp htaken).2.2 row hearlier last mem_cons_self).le
    · rw [mem_singleton.mp hsame]
  constructor
  · intro hrow
    exact ⟨mem_of_mem_take hrow, hbounded row hrow⟩
  · rintro ⟨hrow, hle⟩
    rw [← hsplit, mem_append] at hrow
    rcases hrow with htaken | hdropped
    · exact htaken
    · exact absurd hle (not_le.mpr (hcross last hmem row hdropped))

theorem lt_of_mem_page {position : κ} {take : ℕ}
    (h : rows.Pairwise fun row other => key row ≠ key other)
    (hrow : row ∈ page key selects (some position) 1 take rows) :
    row ∈ rows ∧ position < key row := by
  unfold page at hrow
  generalize hmatching : ((ordered key rows).filter fun row =>
    selects row && decide (∀ bound ∈ some position, bound ≤ key row)) = matching at hrow
  have hordered : matching.Pairwise fun row other => key row < key other := by
    rw [← hmatching]
    exact (pairwise_ordered h).filter _
  have hmem : row ∈ matching.drop 1 := mem_of_mem_take hrow
  have hbound : ∀ row ∈ matching, row ∈ rows ∧ position ≤ key row := by
    intro row hrow
    rw [← hmatching, mem_filter, mem_ordered] at hrow
    simpa using And.intro hrow.1 (Bool.and_eq_true_iff.mp hrow.2).2
  cases matching with
  | nil => cases hmem
  | cons first rest =>
    have hrest : row ∈ rest := hmem
    have hfirst := (hbound first mem_cons_self).2
    refine ⟨(hbound row (mem_cons_of_mem _ hrest)).1, ?_⟩
    exact lt_of_le_of_lt hfirst ((pairwise_cons.mp hordered).1 row hrest)

/-- How many rows are ahead of a position. -/
def ahead (key : α → κ) (position : κ) (rows : List α) : ℕ :=
  rows.countP fun row => decide (position < key row)

theorem ahead_lt {position : κ} (hrow : row ∈ rows) (hlt : position < key row) :
    ahead key (key row) rows < ahead key position rows := by
  have hwithin : ahead key (key row) rows =
      (rows.filter fun other => decide (position < key other)).countP
        fun other => decide (key row < key other) := by
    unfold ahead
    rw [countP_filter]
    apply countP_congr
    intro other _
    simp only [Bool.and_eq_true, decide_eq_true_eq]
    exact ⟨fun h => ⟨h, hlt.trans h⟩, fun h => h.1⟩
  have hall : ahead key position rows =
      (rows.filter fun other => decide (position < key other)).length :=
    countP_eq_length_filter
  rw [hwithin, hall, countP_lt_length_iff]
  exact ⟨row, mem_filter.mpr ⟨hrow, by simpa using hlt⟩, by simp⟩

theorem ahead_lt_length (hrow : row ∈ rows) :
    ahead key (key row) rows < rows.length := by
  unfold ahead
  rw [countP_lt_length_iff]
  exact ⟨row, hrow, by simp⟩

/-! ### What stands in front -/

/-- How many rows stand before a position. -/
def before (key : α → κ) (position : κ) (rows : List α) : ℕ :=
  rows.countP fun row => decide (key row < position)

theorem before_perm {others : List α} (h : rows.Perm others) (position : κ) :
    before key position rows = before key position others := h.countP_eq _

/-- **The first rows of a strict order** are those with fewer before them. -/
theorem mem_take_iff_before {ordered : List α} {n : ℕ}
    (hordered : ordered.Pairwise fun row other => key row < key other) :
    row ∈ ordered.take n ↔ row ∈ ordered ∧ before key (key row) ordered < n := by
  induction ordered generalizing n with
  | nil => simp
  | cons first rest ih =>
    obtain ⟨hfirst, hrest⟩ := pairwise_cons.mp hordered
    cases n with
    | zero => simp
    | succ n =>
      have hnone : before key (key first) (first :: rest) = 0 := by
        refine countP_eq_zero.mpr fun other hother => ?_
        rcases mem_cons.mp hother with rfl | hlater
        · simp
        · simpa using (hfirst other hlater).le
      rw [take_succ_cons, mem_cons, mem_cons, ih hrest]
      constructor
      · rintro (rfl | ⟨hmem, hbefore⟩)
        · exact ⟨.inl rfl, by omega⟩
        · refine ⟨.inr hmem, ?_⟩
          rw [before, countP_cons_of_pos (by simpa using hfirst row hmem)]
          exact Nat.succ_lt_succ hbefore
      · rintro ⟨rfl | hmem, hbefore⟩
        · exact .inl rfl
        · rw [before, countP_cons_of_pos (by simpa using hfirst row hmem)] at hbefore
          exact .inr ⟨hmem, Nat.lt_of_succ_lt_succ hbefore⟩

private theorem before_getElem_le {ordered : List α}
    (hordered : ordered.Pairwise fun row other => key row ≤ key other) {index : ℕ}
    (h : index < ordered.length) : before key (key ordered[index]) ordered ≤ index := by
  have hrest : (ordered.drop index).countP (fun row => decide (key row < key ordered[index])) = 0 := by
    refine countP_eq_zero.mpr fun other hother => ?_
    obtain ⟨offset, hoffset, rfl⟩ := mem_iff_getElem.mp hother
    rw [getElem_drop]
    rcases Nat.eq_zero_or_pos offset with rfl | hpositive
    · simp
    · have hle := pairwise_iff_getElem.mp hordered index (index + offset) h
        (by rw [length_drop] at hoffset; omega) (by omega)
      simpa using hle
  have hfront : (ordered.take index).countP (fun row => decide (key row < key ordered[index])) ≤
      (ordered.take index).length := countP_le_length
  calc before key (key ordered[index]) ordered
      = (ordered.take index ++ ordered.drop index).countP
          (fun row => decide (key row < key ordered[index])) := by
        rw [take_append_drop, before]
    _ ≤ index := by
        rw [countP_append, hrest]
        exact hfront.trans (length_take_le index ordered)

/-- A list of the rows in the order of their keys, in which equal keys may stand in any order. -/
structure Arranges (key : α → κ) (rows arranged : List α) : Prop where
  perm : arranged.Perm rows
  ordered : arranged.Pairwise fun row other => key row ≤ key other

private theorem exists_arranges_find? {rows : List α} (hrow : row ∈ rows) {n : ℕ}
    (hbefore : before key (key row) rows < n) :
    ∃ arranged, Arranges key rows arranged ∧
      (arranged.take n).find? (fun other => decide (key other = key row)) = some row := by
  classical
  have hperm : (row :: rows.erase row).Perm rows := (perm_cons_erase hrow).symm
  let rest := (rows.erase row).insertionSort fun left right => key left ≤ key right
  let smaller := rest.takeWhile fun other => decide ¬ key row ≤ key other
  have hsplit : (row :: rows.erase row).insertionSort (fun left right => key left ≤ key right) =
      smaller ++ row :: rest.dropWhile fun other => decide ¬ key row ≤ key other :=
    insertionSort_cons_eq_take_drop _ row (rows.erase row)
  have hsmaller : ∀ other ∈ smaller, key other < key row := by
    intro other hother
    simpa using all_eq_true.mp all_takeWhile other hother
  have hlength : smaller.length < n := by
    refine lt_of_le_of_lt ?_ hbefore
    rw [before_perm hperm.symm, before, countP_cons_of_neg (by simp),
      ← (perm_insertionSort (fun left right => key left ≤ key right) _).countP_eq,
      ← countP_eq_length.mpr fun other hother => decide_eq_true (hsmaller other hother)]
    exact (takeWhile_sublist _).countP_le
  refine ⟨_, ⟨(perm_insertionSort _ _).trans hperm, pairwise_insertionSort _ _⟩, ?_⟩
  obtain ⟨left, hleft⟩ := Nat.exists_eq_add_of_lt hlength
  have hnone : smaller.find? (fun other => decide (key other = key row)) = none :=
    List.find?_eq_none.mpr fun other hother => by simpa using (hsmaller other hother).ne
  rw [hsplit, hleft, Nat.add_assoc, take_length_add_append, take_succ_cons,
    List.find?_append, hnone, List.find?_cons_of_pos (by simp)]
  rfl

/-- **The first rows do not depend on the arrangement** exactly when each of them has a key of its
own. -/
theorem take_eq_take_iff {rows : List α} {n : ℕ} :
    (∀ first second, Arranges key rows first → Arranges key rows second →
      first.take n = second.take n) ↔
    ∀ row ∈ rows, ∀ other ∈ rows, key row = key other → before key (key row) rows < n →
      row = other := by
  constructor
  · intro h row hrow other hother hkey hbefore
    obtain ⟨first, hfirst, hfound⟩ := exists_arranges_find? hrow hbefore
    obtain ⟨second, hsecond, hfound'⟩ := exists_arranges_find? hother (hkey ▸ hbefore)
    rw [h first second hfirst hsecond, hkey] at hfound
    exact Option.some.inj (hfound.symm.trans hfound')
  · intro h first second hfirst hsecond
    have hperm : first.Perm second := hfirst.perm.trans hsecond.perm.symm
    have hkeys : first.map key = second.map key :=
      (hperm.map key).eq_of_pairwise' (pairwise_map.mpr hfirst.ordered)
        (pairwise_map.mpr hsecond.ordered)
    refine ext_getElem (by rw [length_take, length_take, hperm.length_eq]) ?_
    intro index hindex hindex'
    rw [getElem_take, getElem_take]
    rw [length_take, Nat.lt_min] at hindex hindex'
    have hkey : key first[index] = key second[index] := by
      have hget := congrArg (fun keys => keys[index]?) hkeys
      simpa [hindex.2, hindex'.2] using hget
    refine h _ (hfirst.perm.mem_iff.mp (getElem_mem _)) _
      (hsecond.perm.mem_iff.mp (getElem_mem _)) hkey ?_
    rw [← before_perm hfirst.perm]
    exact lt_of_le_of_lt (before_getElem_le hfirst.ordered hindex.2) hindex.1

/-! ### Descending values -/

/-- The position of a value in `desc`, where nulls are first. -/
def descending {R : Type*} [Neg R] : Option R → WithBot R
  | none => ⊥
  | some value => ((-value : R) : WithBot R)

section

variable {R : Type*} [AddCommGroup R] [LinearOrder R]

theorem descending_le_iff [IsOrderedAddMonoid R] {value other : R} :
    descending (some value) ≤ descending (some other) ↔ other ≤ value :=
  WithBot.coe_le_coe.trans neg_le_neg_iff

theorem eq_none_of_descending_le {value : Option R}
    (h : descending value ≤ descending (none : Option R)) : value = none := by
  cases value with
  | none => rfl
  | some value => exact absurd h (WithBot.not_coe_le_bot _)

theorem descending_injective : Function.Injective (descending : Option R → WithBot R) := by
  intro value other h
  cases value with
  | none => exact (eq_none_of_descending_le h.ge).symm
  | some value =>
    cases other with
    | none => exact eq_none_of_descending_le h.le
    | some other => exact congrArg some (neg_inj.mp (WithBot.coe_inj.mp h))

end

end Keyset
