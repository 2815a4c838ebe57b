import ContentAutomation.Analytics.Cohorts
import ContentAutomation.Jobs.Enqueue
import ContentAutomation.Library.OrderStatistic
import ContentAutomation.Library.Optimum
import ContentAutomation.Library.Utf8

/-!
# Comparable snapshots

One snapshot of each post for a window, the first in an order of preference. The last rule of the
order compares two identifiers in the language of the runtime, which tells the identifiers of
records apart, so that the snapshot of a post does not depend on what was read first.
-/

namespace ContentAutomation

open Optimum FirstCopies List ComparableSnapshotCandidate

/-- What the runtime knows of a language: `localeCompare`. -/
structure Collation where
  localeCompare : String → String → Ordering
  consistent : Std.TransCmp localeCompare

namespace Collation

variable (collation : Collation)

instance : Std.TransCmp collation.localeCompare := collation.consistent

/-- The order of the candidates of a window: by closeness to the target, or the most mature first
where there is none. -/
def compareCandidates (targetSeconds : Option ℤ) (left right : ComparableSnapshotCandidate) :
    Ordering :=
  let rest := (compare left.capturedAt right.capturedAt).then
    (collation.localeCompare left.snapshotId right.snapshotId)
  match targetSeconds with
  | none => (compare right.postAgeSeconds left.postAgeSeconds).then rest
  | some target =>
    (compare (left.postAgeSeconds - target).natAbs (right.postAgeSeconds - target).natAbs).then
      ((compare left.postAgeSeconds right.postAgeSeconds).then rest)

/-- A candidate of a window may stand before another. -/
def Precedes (windowKey : SnapshotAgeWindowKey) (left right : ComparableSnapshotCandidate) : Prop :=
  (collation.compareCandidates (snapshotAgeWindowFor windowKey).targetSeconds left right).isLE

instance (windowKey : SnapshotAgeWindowKey) : DecidableRel (collation.Precedes windowKey) :=
  fun _ _ => inferInstanceAs (Decidable (_ = true))

/-- `selectComparableSnapshot`. -/
def selectComparableSnapshot (candidates : List ComparableSnapshotCandidate)
    (windowKey : SnapshotAgeWindowKey) : Option ComparableSnapshotCandidate :=
  let window := snapshotAgeWindowFor windowKey
  let eligible := candidates.filter fun candidate => window.admits candidate.postAgeSeconds
  (eligible.insertionSort (collation.Precedes windowKey)).head?

/-- The posts of some candidates, in the order of their code units. -/
def postIds (candidates : List ComparableSnapshotCandidate) : List String :=
  (firstCopies id (candidates.map postId)).insertionSort
    fun left right => Utf16.ofString left ≤ Utf16.ofString right

/-- `selectComparableSnapshots`, with the entries of the map in their order. -/
def selectComparableSnapshots (candidates : List ComparableSnapshotCandidate)
    (windowKey : SnapshotAgeWindowKey) : List (String × ComparableSnapshotCandidate) :=
  (postIds candidates).filterMap fun postId =>
    (collation.selectComparableSnapshot
      (candidates.filter fun candidate => candidate.postId == postId) windowKey).map
        fun chosen => (postId, chosen)

/-! ### What is to be selected -/

/-- The candidates of a post inside a window. -/
def eligibleOf (candidates : List ComparableSnapshotCandidate) (windowKey : SnapshotAgeWindowKey)
    (postId : String) : List ComparableSnapshotCandidate :=
  (candidates.filter fun candidate => candidate.postId == postId).filter fun candidate =>
    (snapshotAgeWindowFor windowKey).admits candidate.postAgeSeconds

/-- Entries for posts: no post has two, each is the best candidate of its post inside the window,
and no post with a candidate inside the window is left out. -/
structure IsSelection (candidates : List ComparableSnapshotCandidate)
    (windowKey : SnapshotAgeWindowKey) (selected : List (String × ComparableSnapshotCandidate)) :
    Prop where
  once : (selected.map Prod.fst).Nodup
  own : ∀ entry ∈ selected, entry.2 ∈ candidates ∧ entry.2.postId = entry.1
  inside : ∀ entry ∈ selected,
    (snapshotAgeWindowFor windowKey).admits entry.2.postAgeSeconds = true
  best : ∀ entry ∈ selected,
    IsBest (collation.Precedes windowKey) (eligibleOf candidates windowKey entry.1) entry.2
  represented : ∀ candidate ∈ candidates,
    (snapshotAgeWindowFor windowKey).admits candidate.postAgeSeconds = true →
    ∃ entry ∈ selected, entry.1 = candidate.postId

/-- `localeCompare` returns zero for no two different identifiers of records. -/
def TellsIdsApart : Prop :=
  ∀ id other, isUuidV7 id = true → isUuidV7 other = true →
    collation.localeCompare id other = .eq → id = other

/-! ### The order of preference -/

section Order

variable {collation} {targetSeconds : Option ℤ} {windowKey : SnapshotAgeWindowKey}
  {left right : ComparableSnapshotCandidate}

/-- Where a language compares two identifiers by their code points, the order is that of the
windows. -/
theorem compareCandidates_eq
    (h : collation.localeCompare left.snapshotId right.snapshotId =
      compare left.snapshotId right.snapshotId) :
    collation.compareCandidates targetSeconds left right =
      ContentAutomation.compareCandidates targetSeconds left right := by
  cases targetSeconds <;> simp only [compareCandidates, ContentAutomation.compareCandidates, h]

instance : Std.TransCmp (collation.compareCandidates targetSeconds) := by
  have hid : Std.TransCmp fun left right : ComparableSnapshotCandidate =>
      collation.localeCompare left.snapshotId right.snapshotId :=
    { eq_swap := Std.OrientedCmp.eq_swap
      isLE_trans := Std.TransCmp.isLE_trans }
  have hrest : Std.TransCmp (compareLex (compareOn capturedAt)
      fun left right => collation.localeCompare left.snapshotId right.snapshotId) := inferInstance
  cases targetSeconds with
  | none =>
    have hage : Std.TransCmp fun left right : ComparableSnapshotCandidate =>
        compareOn postAgeSeconds right left := inferInstance
    exact inferInstanceAs (Std.TransCmp (compareLex
      (fun left right => compareOn postAgeSeconds right left)
      (compareLex (compareOn capturedAt)
        fun left right => collation.localeCompare left.snapshotId right.snapshotId)))
  | some target =>
    exact inferInstanceAs (Std.TransCmp (compareLex
      (compareOn fun candidate : ComparableSnapshotCandidate =>
        (candidate.postAgeSeconds - target).natAbs)
      (compareLex (compareOn postAgeSeconds)
        (compareLex (compareOn capturedAt)
          fun left right => collation.localeCompare left.snapshotId right.snapshotId))))

instance : Std.Total (collation.Precedes windowKey) where
  total left right := by
    have hswap : collation.compareCandidates (snapshotAgeWindowFor windowKey).targetSeconds right
        left = (collation.compareCandidates (snapshotAgeWindowFor windowKey).targetSeconds left
          right).swap := Std.OrientedCmp.eq_swap
    unfold Precedes
    rw [hswap]
    cases collation.compareCandidates (snapshotAgeWindowFor windowKey).targetSeconds left right <;>
      simp

instance : IsTrans ComparableSnapshotCandidate (collation.Precedes windowKey) where
  trans _ _ _ := Std.TransCmp.isLE_trans

/-- Candidates may stand before each other exactly if the comparison does not separate them. -/
theorem precedes_both_iff : collation.Precedes windowKey left right ∧
      collation.Precedes windowKey right left ↔
    left.postAgeSeconds = right.postAgeSeconds ∧ left.capturedAt = right.capturedAt ∧
      collation.localeCompare left.snapshotId right.snapshotId = .eq := by
  have heq : collation.Precedes windowKey left right ∧ collation.Precedes windowKey right left ↔
      collation.compareCandidates (snapshotAgeWindowFor windowKey).targetSeconds left right =
        .eq := by
    constructor
    · intro h
      exact Std.OrientedCmp.isLE_antisymm h.1 h.2
    · intro h
      refine ⟨?_, ?_⟩
      · unfold Precedes
        rw [h]
        rfl
      · unfold Precedes
        rw [Std.OrientedCmp.eq_comm.mp h]
        rfl
  rw [heq]
  unfold compareCandidates
  split
  · simp only [Ordering.then_eq_eq, Std.LawfulEqOrd.compare_eq_iff_eq]
    rw [eq_comm]
  · simp only [Ordering.then_eq_eq, Std.LawfulEqOrd.compare_eq_iff_eq]
    constructor
    · exact fun h => h.2
    · intro h
      exact ⟨by rw [h.1], h⟩

end Order

/-! ### What is selected -/

section Selected

variable {collation} {candidates permuted : List ComparableSnapshotCandidate}
  {windowKey : SnapshotAgeWindowKey} {postId : String}
  {candidate best other : ComparableSnapshotCandidate}

private theorem mem_eligibleOf : candidate ∈ eligibleOf candidates windowKey postId ↔
    candidate ∈ candidates ∧ candidate.postId = postId ∧
      (snapshotAgeWindowFor windowKey).admits candidate.postAgeSeconds := by
  unfold eligibleOf
  rw [mem_filter, mem_filter, beq_iff_eq, and_assoc]

private theorem isBest_of_selectComparableSnapshot
    (h : collation.selectComparableSnapshot
      (candidates.filter fun candidate => candidate.postId == postId) windowKey = some candidate) :
    IsBest (collation.Precedes windowKey) (eligibleOf candidates windowKey postId) candidate :=
  isBest_of_head_insertionSort h

private theorem exists_selectComparableSnapshot
    (h : candidate ∈ eligibleOf candidates windowKey postId) :
    ∃ chosen, collation.selectComparableSnapshot
      (candidates.filter fun candidate => candidate.postId == postId) windowKey = some chosen := by
  rw [← Option.ne_none_iff_exists']
  intro hnone
  have hempty := List.head?_eq_none_iff.mp hnone
  have hmem := (mem_insertionSort (collation.Precedes windowKey)).mpr h
  unfold eligibleOf at hmem
  rw [hempty] at hmem
  cases hmem

private theorem mem_postIds : postId ∈ postIds candidates ↔
    ∃ candidate ∈ candidates, candidate.postId = postId := by
  unfold postIds
  rw [mem_insertionSort, mem_firstCopies, ← mem_map]
  constructor
  · exact IsFirst.mem
  · intro hmem
    have hfound : ((candidates.map ComparableSnapshotCandidate.postId).find? fun other =>
        decide (id other = id postId)).isSome = true :=
      List.find?_isSome.mpr ⟨postId, hmem, decide_eq_true rfl⟩
    obtain ⟨first, hfirst⟩ := Option.isSome_iff_exists.mp hfound
    have hsame := List.find?_some hfirst
    obtain rfl : first = postId := of_decide_eq_true hsame
    exact hfirst

theorem nodup_postIds : (postIds candidates).Nodup := by
  unfold postIds
  rw [(perm_insertionSort _ _).nodup_iff, ← map_id (firstCopies id _)]
  exact nodup_firstCopies

private theorem postIds_of_perm (hperm : permuted.Perm candidates) :
    postIds permuted = postIds candidates := by
  refine Perm.eq_of_pairwise ?_ (pairwise_insertionSort _ _)
    (pairwise_insertionSort _ _) ?_
  · intro left right _ _ hle hge
    exact Utf8.ofString_injective (List.le_antisymm hle hge)
  · refine (perm_ext_iff_of_nodup nodup_postIds nodup_postIds).mpr fun postId => ?_
    rw [mem_postIds, mem_postIds]
    simp only [hperm.mem_iff]

private theorem mem_selectComparableSnapshots {entry : String × ComparableSnapshotCandidate} :
    entry ∈ collation.selectComparableSnapshots candidates windowKey ↔
      entry.1 ∈ postIds candidates ∧ collation.selectComparableSnapshot
        (candidates.filter fun candidate => candidate.postId == entry.1) windowKey =
          some entry.2 := by
  unfold selectComparableSnapshots
  rw [mem_filterMap]
  constructor
  · rintro ⟨postId, hpost, hentry⟩
    obtain ⟨chosen, hchosen, rfl⟩ := Option.map_eq_some_iff.mp hentry
    exact ⟨hpost, hchosen⟩
  · rintro ⟨hpost, hchosen⟩
    exact ⟨entry.1, hpost, by rw [hchosen]; rfl⟩

private theorem map_fst_sublist :
    ((collation.selectComparableSnapshots candidates windowKey).map Prod.fst).Sublist
      (postIds candidates) := by
  unfold selectComparableSnapshots
  generalize postIds candidates = ids
  induction ids with
  | nil => exact .slnil
  | cons postId ids ih =>
    rw [filterMap_cons]
    split
    · exact ih.cons _
    · next entry hentry =>
      obtain ⟨chosen, -, rfl⟩ := Option.map_eq_some_iff.mp hentry
      exact ih.cons_cons _

/-- **What is selected.** The entries are the best candidates of their posts. -/
theorem isSelection_selectComparableSnapshots :
    collation.IsSelection candidates windowKey
      (collation.selectComparableSnapshots candidates windowKey) := by
  have hbest : ∀ entry ∈ collation.selectComparableSnapshots candidates windowKey,
      IsBest (collation.Precedes windowKey) (eligibleOf candidates windowKey entry.1) entry.2 :=
    fun entry hentry =>
      isBest_of_selectComparableSnapshot (mem_selectComparableSnapshots.mp hentry).2
  refine ⟨map_fst_sublist.nodup nodup_postIds, fun entry hentry => ?_, fun entry hentry => ?_,
    hbest, fun candidate hmem hinside => ?_⟩
  · obtain ⟨hmem, hpost, -⟩ := mem_eligibleOf.mp (hbest entry hentry).mem
    exact ⟨hmem, hpost⟩
  · exact (mem_eligibleOf.mp (hbest entry hentry).mem).2.2
  · obtain ⟨chosen, hchosen⟩ :=
      exists_selectComparableSnapshot (mem_eligibleOf.mpr ⟨hmem, rfl, hinside⟩)
    exact ⟨(candidate.postId, chosen), mem_selectComparableSnapshots.mpr
      ⟨mem_postIds.mpr ⟨candidate, hmem, rfl⟩, hchosen⟩, rfl⟩

/-! ### The order of the candidates -/

private theorem eq_of_isBest (hcollation : collation.TellsIdsApart)
    (hids : ∀ candidate ∈ candidates, isUuidV7 candidate.snapshotId)
    (hdistinct : (candidates.map snapshotId).Nodup)
    (hbest : IsBest (collation.Precedes windowKey) (eligibleOf candidates windowKey postId) best)
    (hother : IsBest (collation.Precedes windowKey) (eligibleOf candidates windowKey postId)
      other) : best = other := by
  refine hbest.eq hother fun other hother hbefore hafter => ?_
  have hmem := (mem_eligibleOf.mp hbest.mem).1
  have hmem' := (mem_eligibleOf.mp hother).1
  have hid := (precedes_both_iff.mp ⟨hbefore, hafter⟩).2.2
  exact inj_on_of_nodup_map hdistinct hmem hmem'
    (hcollation _ _ (hids best hmem) (hids other hmem') hid)

/-- Where identifiers are told apart, the order of the candidates is of no account. -/
theorem selectComparableSnapshots_of_perm (hcollation : collation.TellsIdsApart)
    (hids : ∀ candidate ∈ candidates, isUuidV7 candidate.snapshotId)
    (hdistinct : (candidates.map snapshotId).Nodup) (hperm : permuted.Perm candidates) :
    collation.selectComparableSnapshots permuted windowKey =
      collation.selectComparableSnapshots candidates windowKey := by
  unfold selectComparableSnapshots
  rw [postIds_of_perm hperm]
  refine filterMap_congr fun postId _ => ?_
  have hmem (candidate : ComparableSnapshotCandidate) :
      candidate ∈ eligibleOf permuted windowKey postId ↔
        candidate ∈ eligibleOf candidates windowKey postId := by
    rw [mem_eligibleOf, mem_eligibleOf, hperm.mem_iff]
  congr 1
  cases hchosen : collation.selectComparableSnapshot
      (permuted.filter fun candidate => candidate.postId == postId) windowKey with
  | none =>
    cases hother : collation.selectComparableSnapshot
        (candidates.filter fun candidate => candidate.postId == postId) windowKey with
    | none => rfl
    | some chosen =>
      have heligible := (hmem chosen).mpr (isBest_of_selectComparableSnapshot hother).mem
      obtain ⟨found, hfound⟩ : ∃ found, collation.selectComparableSnapshot _ _ = some found :=
        exists_selectComparableSnapshot heligible
      rw [hchosen] at hfound
      cases hfound
  | some best =>
    have hbest := (isBest_of_selectComparableSnapshot hchosen).congr hmem
    obtain ⟨chosen, hother⟩ : ∃ chosen, collation.selectComparableSnapshot _ _ = some chosen :=
      exists_selectComparableSnapshot hbest.mem
    have hsame := eq_of_isBest hcollation hids hdistinct hbest (isBest_of_selectComparableSnapshot hother)
    rw [hother, hsame]

end Selected

end Collation

/-- **Comparable snapshots.** Among snapshots of distinct identifiers the entries are the best of
their posts, one for each post with a snapshot inside the window, and they are the same for every
order of the snapshots. -/
theorem comparable_snapshots {collation : Collation} (hcollation : collation.TellsIdsApart)
    {candidates : List ComparableSnapshotCandidate}
    (hids : ∀ candidate ∈ candidates, isUuidV7 candidate.snapshotId = true)
    (hdistinct : (candidates.map ComparableSnapshotCandidate.snapshotId).Nodup)
    (windowKey : SnapshotAgeWindowKey) :
    collation.IsSelection candidates windowKey
        (collation.selectComparableSnapshots candidates windowKey) ∧
      ∀ permuted, permuted.Perm candidates →
        collation.selectComparableSnapshots permuted windowKey =
          collation.selectComparableSnapshots candidates windowKey :=
  ⟨Collation.isSelection_selectComparableSnapshots, fun _ hperm =>
    Collation.selectComparableSnapshots_of_perm hcollation hids hdistinct hperm⟩

namespace ComparableSample

/-- A language that compares texts by their code points. -/
def collation : Collation := ⟨compare, inferInstance⟩

/-- A snapshot of a post at an age, under an identifier. -/
def snapshot (postAgeSeconds : ℤ) (snapshotId : String) : ComparableSnapshotCandidate :=
  ⟨1000, postAgeSeconds, "p", snapshotId⟩

def first : ComparableSnapshotCandidate := snapshot 604800 "0192f2a0-0000-7000-8000-000000000001"

def second : ComparableSnapshotCandidate := snapshot 604800 "0192f2a0-0000-7000-8000-000000000002"

def older : ComparableSnapshotCandidate := snapshot 700000 "0192f2a0-0000-7000-8000-000000000003"

/-- Of two snapshots at the target, the one of the smaller identifier is selected in every order. -/
theorem first_is_selected :
    collation.selectComparableSnapshots [second, older, first] .day7 = [("p", first)] ∧
      ∀ permuted, permuted.Perm [second, older, first] →
        collation.selectComparableSnapshots permuted .day7 = [("p", first)] := by
  have hselected :
      collation.selectComparableSnapshots [second, older, first] .day7 = [("p", first)] := by
    decide
  have hcollation : collation.TellsIdsApart := fun _ _ _ _ h => Std.LawfulEqOrd.eq_of_compare h
  have hids : ∀ candidate ∈ [second, older, first], isUuidV7 candidate.snapshotId = true := by
    decide
  have hsound := comparable_snapshots hcollation hids (by decide) .day7
  exact ⟨hselected, fun permuted hperm => (hsound.2 permuted hperm).trans hselected⟩

end ComparableSample

end ContentAutomation
