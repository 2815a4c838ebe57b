import Mathlib.Data.List.Count
import Mathlib.Data.List.Dedup
import Mathlib.Order.Nat

/-!
# First copies

Rows with a key, of which several may be copies of one thing. Reading a list from its head, the
first copy of each thing is kept. A list of keys counts the things that have a copy of some
kind once, if each of them occurs in it once, and nothing else does.
-/

namespace FirstCopies

open List

variable {α κ : Type*} [DecidableEq κ] (key : α → κ)

/-- The first copies among rows, where the things that have been seen are left out. -/
def unseen (seen : List κ) : List α → List α
  | [] => []
  | row :: rows => if key row ∈ seen then unseen seen rows else row :: unseen (key row :: seen) rows

/-- The first copies. -/
def firstCopies (rows : List α) : List α := unseen key [] rows

/-- The row is the first copy of its thing. -/
def IsFirst (rows : List α) (row : α) : Prop :=
  rows.find? (fun other => decide (key other = key row)) = some row

instance [DecidableEq α] {rows : List α} {row : α} : Decidable (IsFirst key rows row) :=
  inferInstanceAs (Decidable (_ = _))

/-- **Each thing counts once** that has a copy of some kind among the eligible rows, and
nothing else counts. -/
structure CountsOnce (kind : α → Prop) (eligible : List α) (counted : List κ) : Prop where
  once : ∀ copy ∈ eligible, kind copy → counted.count (key copy) = 1
  only : ∀ thing ∈ counted, ∃ copy ∈ eligible, key copy = thing ∧ kind copy

variable {key} {rows eligible chosen : List α} {seen : List κ} {row : α} {kind : α → Prop}

theorem unseen_congr {seen' : List κ} (h : ∀ row ∈ rows, key row ∈ seen ↔ key row ∈ seen') :
    unseen key seen rows = unseen key seen' rows := by
  induction rows generalizing seen seen' with
  | nil => rfl
  | cons row rows ih =>
    have hrow := h row mem_cons_self
    have hrows : ∀ other ∈ rows, key other ∈ seen ↔ key other ∈ seen' :=
      fun other hother => h other (mem_cons_of_mem _ hother)
    unfold unseen
    by_cases hseen : key row ∈ seen
    · rw [if_pos hseen, if_pos (hrow.mp hseen), ih hrows]
    · rw [if_neg hseen, if_neg (mt hrow.mpr hseen)]
      congr 1
      exact ih fun other hother => by rw [mem_cons, mem_cons, hrows other hother]

/-- A first copy is a row that comes first among those of its thing, which has not been seen. -/
theorem mem_unseen : row ∈ unseen key seen rows ↔ key row ∉ seen ∧ IsFirst key rows row := by
  unfold IsFirst
  induction rows generalizing seen with
  | nil => simp [unseen]
  | cons first rows ih =>
    unfold unseen
    by_cases hsame : key first = key row
    · rw [List.find?_cons_of_pos (by simp [hsame]), Option.some_inj]
      split
      · next hseen =>
        rw [ih]
        constructor
        · rintro ⟨hnew, -⟩
          exact absurd (hsame ▸ hseen) hnew
        · rintro ⟨hnew, -⟩
          exact absurd (hsame ▸ hseen) hnew
      · next hseen =>
        rw [mem_cons, ih]
        constructor
        · rintro (rfl | ⟨hnew, -⟩)
          · exact ⟨hseen, rfl⟩
          · exact absurd (hsame ▸ mem_cons_self) hnew
        · rintro ⟨-, rfl⟩
          exact .inl rfl
    · rw [List.find?_cons_of_neg (by simpa using hsame)]
      have hother : row ≠ first := by
        rintro rfl
        exact hsame rfl
      split
      · exact ih
      · rw [mem_cons, ih, mem_cons, or_iff_right hother, not_or]
        constructor
        · rintro ⟨⟨-, hnew⟩, hfirst⟩
          exact ⟨hnew, hfirst⟩
        · rintro ⟨hnew, hfirst⟩
          exact ⟨⟨fun h => hsame h.symm, hnew⟩, hfirst⟩

theorem mem_firstCopies : row ∈ firstCopies key rows ↔ IsFirst key rows row := by
  unfold firstCopies
  rw [mem_unseen]
  simp

theorem IsFirst.mem (h : IsFirst key rows row) : row ∈ rows := mem_of_find?_eq_some h

theorem unseen_sublist : (unseen key seen rows).Sublist rows := by
  induction rows generalizing seen with
  | nil => exact .slnil
  | cons first rows ih =>
    unfold unseen
    split
    · exact ih.cons _
    · exact ih.cons_cons _

private theorem nodup_unseen : ((unseen key seen rows).map key).Nodup := by
  induction rows generalizing seen with
  | nil => exact nodup_nil
  | cons first rows ih =>
    unfold unseen
    split
    · exact ih
    · rw [map_cons, nodup_cons]
      refine ⟨?_, ih⟩
      intro hmem
      obtain ⟨row, hrow, hsame⟩ := mem_map.mp hmem
      exact (mem_unseen.mp hrow).1 (hsame ▸ mem_cons_self)

theorem nodup_firstCopies : ((firstCopies key rows).map key).Nodup := nodup_unseen

/-- First copies stand in the order in which their things come first. -/
theorem pairwise_idxOf_unseen [BEq κ] [LawfulBEq κ] :
    (unseen key seen rows).Pairwise fun first second =>
      (rows.map key).idxOf (key first) < (rows.map key).idxOf (key second) := by
  have hlater {first second : α} {seen : List κ} {row : α} {rows : List α}
      (hfirst : first ∈ unseen key seen rows) (hsecond : second ∈ unseen key seen rows)
      (hseen : key row ∈ seen)
      (hlt : (rows.map key).idxOf (key first) < (rows.map key).idxOf (key second)) :
      ((row :: rows).map key).idxOf (key first) < ((row :: rows).map key).idxOf (key second) := by
    have hne {copy : α} (hcopy : copy ∈ unseen key seen rows) : key row ≠ key copy :=
      fun heq => (mem_unseen.mp hcopy).1 (heq ▸ hseen)
    rw [map_cons, idxOf_cons_ne _ (hne hfirst), idxOf_cons_ne _ (hne hsecond)]
    omega
  induction rows generalizing seen with
  | nil => exact Pairwise.nil
  | cons row rows ih =>
    unfold unseen
    split_ifs with hseen
    · exact Pairwise.imp_of_mem
        (fun hfirst hsecond hlt => hlater hfirst hsecond hseen hlt) ih
    · refine pairwise_cons.mpr ⟨fun other hother => ?_, Pairwise.imp_of_mem
        (fun hfirst hsecond hlt => hlater hfirst hsecond mem_cons_self hlt) ih⟩
      have hne : key row ≠ key other :=
        fun heq => (mem_unseen.mp hother).1 (heq ▸ mem_cons_self)
      rw [map_cons, idxOf_cons_self, idxOf_cons_ne _ hne]
      omega

theorem pairwise_idxOf_firstCopies [BEq κ] [LawfulBEq κ] :
    (firstCopies key rows).Pairwise fun first second =>
      (rows.map key).idxOf (key first) < (rows.map key).idxOf (key second) :=
  pairwise_idxOf_unseen

theorem mem_firstCopies_id {thing : κ} {things : List κ} :
    thing ∈ firstCopies id things ↔ thing ∈ things := by
  rw [mem_firstCopies, IsFirst]
  constructor
  · intro h
    exact mem_of_find?_eq_some h
  · intro h
    obtain ⟨first, hfirst⟩ := Option.isSome_iff_exists.mp
      (List.find?_isSome.mpr ⟨thing, h, by simp⟩ :
        (things.find? fun other => decide (id other = id thing)).isSome)
    rw [hfirst]
    have hsame := List.find?_some hfirst
    simp only [id, decide_eq_true_eq] at hsame
    rw [hsame]

/-- The first copies are in the order of the rows. -/
theorem unseen_eq_filter [DecidableEq α] (hnodup : rows.Nodup) :
    unseen key seen rows = rows.filter fun row => decide (key row ∉ seen) &&
      decide (rows.find? (fun other => decide (key other = key row)) = some row) := by
  induction rows generalizing seen with
  | nil => rfl
  | cons first rows ih =>
    obtain ⟨hnew, hnodup⟩ := nodup_cons.mp hnodup
    have htail : ∀ row ∈ rows, ((first :: rows).find? (fun other => decide (key other = key row)) =
        some row ↔ key first ≠ key row ∧
          rows.find? (fun other => decide (key other = key row)) = some row) := by
      intro row hrow
      by_cases hsame : key first = key row
      · rw [List.find?_cons_of_pos (by simp [hsame]), Option.some_inj]
        refine iff_of_false ?_ fun h => h.1 hsame
        rintro rfl
        exact hnew hrow
      · rw [List.find?_cons_of_neg (by simpa using hsame)]
        exact ⟨fun h => ⟨hsame, h⟩, fun h => h.2⟩
    unfold unseen
    by_cases hseen : key first ∈ seen
    · rw [if_pos hseen, filter_cons_of_neg (by simp [hseen]), ih hnodup]
      refine filter_congr fun row hrow => ?_
      rw [Bool.eq_iff_iff, Bool.and_eq_true, Bool.and_eq_true, decide_eq_true_iff,
        decide_eq_true_iff, decide_eq_true_iff, htail row hrow]
      refine and_congr_right fun hrowNew => ⟨fun h => ⟨?_, h⟩, fun h => h.2⟩
      exact fun hsame => hrowNew (hsame ▸ hseen)
    · rw [if_neg hseen, filter_cons_of_pos (by simp [hseen]), ih hnodup]
      congr 1
      refine filter_congr fun row hrow => ?_
      rw [Bool.eq_iff_iff, Bool.and_eq_true, Bool.and_eq_true, decide_eq_true_iff,
        decide_eq_true_iff, decide_eq_true_iff, decide_eq_true_iff, htail row hrow, mem_cons,
        not_or, eq_comm]
      tauto

theorem firstCopies_eq_filter [DecidableEq α] (hnodup : rows.Nodup) :
    firstCopies key rows = rows.filter fun row => decide (IsFirst key rows row) := by
  unfold firstCopies
  rw [unseen_eq_filter hnodup]
  refine filter_congr fun row _ => ?_
  rw [decide_eq_true not_mem_nil, Bool.true_and]
  exact decide_eq_decide.mpr Iff.rfl

theorem firstCopies_of_nodup (hnodup : (rows.map key).Nodup) : firstCopies key rows = rows := by
  have hunseen : ∀ (rows : List α) (seen : List κ), (rows.map key).Nodup →
      (∀ row ∈ rows, key row ∉ seen) → unseen key seen rows = rows := by
    intro rows
    induction rows with
    | nil => exact fun _ _ _ => rfl
    | cons first rows ih =>
      intro seen hnodup hseen
      obtain ⟨hnew, hnodup⟩ := nodup_cons.mp hnodup
      unfold unseen
      rw [if_neg (hseen first mem_cons_self), ih (key first :: seen) hnodup]
      intro row hrow hmem
      rcases mem_cons.mp hmem with heq | hmem
      · exact hnew (heq ▸ mem_map_of_mem hrow)
      · exact hseen row (mem_cons_of_mem _ hrow) hmem
  exact hunseen rows [] hnodup fun _ _ => not_mem_nil

theorem firstCopies_prefix (more : List α) :
    firstCopies key rows <+: firstCopies key (rows ++ more) := by
  have hunseen : ∀ (rows : List α) (seen : List κ),
      unseen key seen rows <+: unseen key seen (rows ++ more) := by
    intro rows
    induction rows with
    | nil => exact fun seen => nil_prefix
    | cons first rows ih =>
      intro seen
      rw [cons_append]
      unfold unseen
      split
      · exact ih seen
      · exact (prefix_cons_inj first).mpr (ih (key first :: seen))
  exact hunseen rows []

/-- Of two filters, the wider one selects the same first rows where these pass the narrower. -/
theorem take_filter_congr {wide narrow : α → Bool} {count : ℕ}
    (hnarrow : ∀ row ∈ rows, narrow row → wide row)
    (hpass : ∀ row ∈ (rows.filter wide).take count, narrow row) :
    (rows.filter wide).take count = (rows.filter narrow).take count := by
  induction rows generalizing count with
  | nil => rfl
  | cons first rows ih =>
    have hrest : ∀ row ∈ rows, narrow row = true → wide row = true :=
      fun row hrow => hnarrow row (mem_cons_of_mem _ hrow)
    cases hwide : wide first with
    | false =>
      have hout : ¬ narrow first = true := fun h => by
        rw [hnarrow first mem_cons_self h] at hwide
        cases hwide
      rw [filter_cons_of_neg (by simp [hwide])] at hpass ⊢
      rw [filter_cons_of_neg hout]
      exact ih hrest hpass
    | true =>
      rw [filter_cons_of_pos hwide] at hpass ⊢
      cases count with
      | zero => rfl
      | succ count =>
        rw [take_succ_cons, forall_mem_cons] at hpass
        rw [filter_cons_of_pos hpass.1, take_succ_cons, take_succ_cons,
          ih hrest hpass.2]

/-- Which rows are taken of those that a filter selects: those before which it selects too few
others. -/
theorem mem_take_filter [DecidableEq α] {selects : α → Bool} {count : ℕ} (hnodup : rows.Nodup) :
    row ∈ (rows.filter selects).take count ↔ row ∈ rows ∧ selects row ∧
      (rows.takeWhile fun other => decide (other ≠ row)).countP selects < count := by
  induction rows generalizing count with
  | nil => simp
  | cons first rows ih =>
    obtain ⟨hnew, hnodup⟩ := nodup_cons.mp hnodup
    by_cases hsame : first = row
    · subst hsame
      rw [takeWhile_cons_of_neg (by simp), countP_nil]
      cases hselects : selects first with
      | false =>
        have hout : first ∉ ((first :: rows).filter selects).take count := by
          intro hmem
          have hselected := (mem_filter.mp (mem_of_mem_take hmem)).2
          rw [hselects] at hselected
          cases hselected
        simp [hout]
      | true =>
        rw [filter_cons_of_pos hselects]
        cases count with
        | zero => simp
        | succ count => simp
    · have htail : row ∈ first :: rows ↔ row ∈ rows := by
        rw [mem_cons, or_iff_right (Ne.symm hsame)]
      rw [htail, takeWhile_cons_of_pos (by simpa using hsame)]
      cases hselects : selects first with
      | false =>
        rw [filter_cons_of_neg (by simp [hselects]), ih hnodup,
          countP_cons_of_neg (by simp [hselects])]
      | true =>
        rw [filter_cons_of_pos hselects, countP_cons_of_pos hselects]
        cases count with
        | zero => simp
        | succ count =>
          rw [take_succ_cons, mem_cons, or_iff_right (Ne.symm hsame), ih hnodup,
            Nat.succ_lt_succ_iff]

/-- Where no two of the rows that are chosen are of one thing, each thing counts once exactly if
a row of the kind is chosen for it. -/
theorem countsOnce_iff_of_nodup {test : α → Bool} (hnodup : (chosen.map key).Nodup)
    (hsubset : chosen ⊆ eligible) :
    CountsOnce key (fun row => test row) eligible ((chosen.filter test).map key) ↔
      ∀ copy ∈ eligible, test copy → ∃ row ∈ chosen, key row = key copy ∧
        test row := by
  constructor
  · rintro ⟨honce, -⟩ copy hcopy htest
    have hmem : key copy ∈ (chosen.filter test).map key :=
      count_pos_iff.mp (by rw [honce copy hcopy htest]; exact Nat.one_pos)
    obtain ⟨row, hrow, hsame⟩ := mem_map.mp hmem
    obtain ⟨hchosen, hkind⟩ := mem_filter.mp hrow
    exact ⟨row, hchosen, hsame, hkind⟩
  · intro hall
    constructor
    case once =>
      intro copy hcopy htest
      obtain ⟨row, hchosen, hsame, hkind⟩ := hall copy hcopy htest
      refine count_eq_one_of_mem ?_ ?_
      · exact (filter_sublist.map key).nodup hnodup
      · exact mem_map.mpr ⟨row, mem_filter.mpr ⟨hchosen, hkind⟩, hsame⟩
    case only =>
      intro thing hthing
      obtain ⟨row, hrow, hsame⟩ := mem_map.mp hthing
      obtain ⟨hchosen, hkind⟩ := mem_filter.mp hrow
      exact ⟨row, hsubset hchosen, hsame, hkind⟩

theorem CountsOnce.nodup {counted : List κ} (h : CountsOnce key kind eligible counted) :
    counted.Nodup := by
  rw [nodup_iff_count_eq_one]
  intro thing hthing
  obtain ⟨copy, hcopy, rfl, hkind⟩ := h.only thing hthing
  exact h.once copy hcopy hkind

private theorem countsOnce_of_nodup (hnodup : (eligible.map key).Nodup)
    (hkind : ∀ row ∈ eligible, kind row) :
    CountsOnce key kind eligible (eligible.map key) where
  once _ hcopy _ := count_eq_one_of_mem hnodup (mem_map_of_mem hcopy)
  only thing hthing := by
    obtain ⟨row, hrow, hsame⟩ := mem_map.mp hthing
    exact ⟨row, hrow, hsame, hkind row hrow⟩

/-- **Two prefixes.** Each thing counts once both in a prefix of the rows and in a longer one
exactly if the rows are not more than the shorter one takes, of different things, and all of the
kind. -/
theorem countsOnce_take_iff {short long : ℕ} (h : short < long) :
    (CountsOnce key kind eligible ((eligible.take long).map key) ∧
        CountsOnce key kind eligible ((eligible.take short).map key)) ↔
      eligible.length ≤ short ∧ (eligible.map key).Nodup ∧ ∀ row ∈ eligible, kind row := by
  constructor
  · rintro ⟨hlong, hshort⟩
    have hlength : eligible.length ≤ short := by
      by_contra hmore
      rw [not_le] at hmore
      -- the first row beyond the shorter prefix counts in the longer one, but not in it
      have hsplit : eligible.take long =
          eligible.take short ++ (eligible.drop short).take (long - short) := by
        rw [← take_add, Nat.add_sub_cancel' h.le]
      have hbeyond : eligible[short] ∈ (eligible.drop short).take (long - short) := by
        have hcount : long - short = long - short - 1 + 1 :=
          (Nat.sub_add_cancel (Nat.sub_pos_of_lt h)).symm
        rw [drop_eq_getElem_cons hmore, hcount, take_succ_cons]
        exact mem_cons_self
      have hnodup := hlong.nodup
      rw [hsplit, map_append] at hlong hnodup
      obtain ⟨copy, hcopy, hsame, hkind⟩ := hlong.only (key eligible[short])
        (mem_append_right _ (mem_map_of_mem hbeyond))
      have hwithin : key copy ∈ (eligible.take short).map key :=
        count_pos_iff.mp (by rw [hshort.once copy hcopy hkind]; exact Nat.one_pos)
      rw [hsame] at hwithin
      exact disjoint_of_nodup_append hnodup hwithin (mem_map_of_mem hbeyond)
    have hall : ∀ {n}, short ≤ n → eligible.take n = eligible := fun hn =>
      take_of_length_le (hlength.trans hn)
    rw [hall le_rfl] at hshort
    refine ⟨hlength, hshort.nodup, ?_⟩
    intro row hrow
    obtain ⟨copy, hcopy, hsame, hkind⟩ := hshort.only (key row) (mem_map_of_mem hrow)
    rwa [inj_on_of_nodup_map hshort.nodup hcopy hrow hsame] at hkind
  · rintro ⟨hlength, hnodup, hkind⟩
    have hall : ∀ {n}, short ≤ n → eligible.take n = eligible := fun hn =>
      take_of_length_le (hlength.trans hn)
    rw [hall le_rfl, hall h.le]
    exact ⟨countsOnce_of_nodup hnodup hkind, countsOnce_of_nodup hnodup hkind⟩

/-- A value is taken once in a list without repetitions exactly if one entry alone takes it. -/
theorem count_map_eq_one_iff {ι : Type*} {entries : List ι} {f : ι → κ} {thing : κ}
    (hnodup : entries.Nodup) :
    (entries.map f).count thing = 1 ↔ ∃! entry, entry ∈ entries ∧ f entry = thing := by
  have hcount : (entries.map f).count thing =
      (entries.filter fun entry => f entry == thing).length := by
    rw [count_eq_countP, countP_map, countP_eq_length_filter]
    rfl
  rw [hcount, length_eq_one_iff]
  constructor
  · rintro ⟨entry, hentry⟩
    have hmem : ∀ {other}, other ∈ entries ∧ f other = thing ↔ other = entry := by
      intro other
      rw [← mem_singleton (b := entry), ← hentry, mem_filter, beq_iff_eq]
    exact ⟨entry, hmem.mpr rfl, fun _ hother => hmem.mp hother⟩
  · rintro ⟨entry, hentry, hunique⟩
    have hperm : (entries.filter fun entry => f entry == thing).Perm [entry] := by
      refine (perm_ext_iff_of_nodup (hnodup.filter _) (nodup_singleton entry)).mpr ?_
      intro other
      rw [mem_singleton, mem_filter, beq_iff_eq]
      constructor
      · exact hunique other
      · rintro rfl
        exact hentry
    exact ⟨entry, hperm.eq_singleton⟩

/-- Entries that are told apart count each thing once exactly if each thing of the kind has one of
them, and they have no other things. -/
theorem countsOnce_dedup_iff {ι : Type*} [DecidableEq ι] {entries : List ι} {f : ι → κ} :
    CountsOnce key kind eligible (entries.dedup.map f) ↔
      (∀ copy ∈ eligible, kind copy → ∃! entry, entry ∈ entries ∧ f entry = key copy) ∧
        ∀ entry ∈ entries, ∃ copy ∈ eligible, key copy = f entry ∧ kind copy := by
  have hone : ∀ thing, (entries.dedup.map f).count thing = 1 ↔
      ∃! entry, entry ∈ entries ∧ f entry = thing := by
    intro thing
    rw [count_map_eq_one_iff entries.nodup_dedup]
    simp only [mem_dedup]
  constructor
  · rintro ⟨honce, honly⟩
    refine ⟨fun copy hcopy hkind => (hone _).mp (honce copy hcopy hkind), ?_⟩
    intro entry hentry
    exact honly (f entry) (mem_map_of_mem (mem_dedup.mpr hentry))
  · rintro ⟨honce, honly⟩
    refine ⟨fun copy hcopy hkind => (hone _).mpr (honce copy hcopy hkind), ?_⟩
    intro thing hthing
    obtain ⟨entry, hentry, rfl⟩ := mem_map.mp hthing
    exact honly entry (mem_dedup.mp hentry)

end FirstCopies
