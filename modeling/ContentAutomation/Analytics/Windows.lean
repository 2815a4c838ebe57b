import Mathlib.Data.List.Sort
import Mathlib.Algebra.Order.Group.Unbundled.Int

/-!
# Storage buckets and comparison windows

A stored snapshot is filed under the bucket of its age; a comparison selects the
snapshots inside the window of an age. The buckets partition all ages by their
upper edges, the windows are tolerances around a target, and between some of
them there is a gap.
-/

namespace ContentAutomation

/-- `InstagramSnapshotBucket`. -/
inductive InstagramSnapshotBucket
  | atImport | hour1 | day1 | day3 | day7 | day30 | mature
  deriving DecidableEq

/-- `SnapshotAgeWindowKey`. -/
inductive SnapshotAgeWindowKey
  | atImport | hour1 | day1 | day3 | day7 | day30 | mature | lifetime
  deriving DecidableEq

namespace InstagramSnapshotBucket

/-- The text of a bucket. -/
def key : InstagramSnapshotBucket → String
  | .atImport => "import"
  | .hour1 => "hour_1"
  | .day1 => "day_1"
  | .day3 => "day_3"
  | .day7 => "day_7"
  | .day30 => "day_30"
  | .mature => "mature"

/-- The window that has the text of a bucket. -/
def ageWindow : InstagramSnapshotBucket → SnapshotAgeWindowKey
  | .atImport => .atImport
  | .hour1 => .hour1
  | .day1 => .day1
  | .day3 => .day3
  | .day7 => .day7
  | .day30 => .day30
  | .mature => .mature

end InstagramSnapshotBucket

/-- `instagramSnapshotBuckets`: each bucket with its upper edge, in seconds. -/
def instagramSnapshotBuckets : List (InstagramSnapshotBucket × Option ℤ) :=
  [(.atImport, some 1800), (.hour1, some 7200), (.day1, some 129600), (.day3, some 345600),
    (.day7, some 777600), (.day30, some 3456000), (.mature, none)]

/-- An age does not exceed an upper edge; `none` is infinite. -/
def isWithin (postAgeSeconds : ℤ) (maximumSeconds : Option ℤ) : Bool :=
  maximumSeconds.all fun edge => postAgeSeconds ≤ edge

/-- `instagramSnapshotBucketFor`. -/
def instagramSnapshotBucketFor (postAgeSeconds : ℤ) : InstagramSnapshotBucket :=
  if postAgeSeconds < 0 then .atImport
  else ((instagramSnapshotBuckets.find? fun bucket => isWithin postAgeSeconds bucket.2).map
    Prod.fst).getD .mature

/-- `SnapshotAgeWindow`. -/
structure SnapshotAgeWindow where
  key : SnapshotAgeWindowKey
  targetSeconds : Option ℤ
  minimumSeconds : ℤ
  /-- `none` is infinite. -/
  maximumSeconds : Option ℤ

/-- `snapshotAgeWindowFor`. -/
def snapshotAgeWindowFor : SnapshotAgeWindowKey → SnapshotAgeWindow
  | .atImport => ⟨.atImport, none, 0, some 1800⟩
  | .hour1 => ⟨.hour1, some 3600, 1800, some 7200⟩
  | .day1 => ⟨.day1, some 86400, 64800, some 129600⟩
  | .day3 => ⟨.day3, some 259200, 216000, some 345600⟩
  | .day7 => ⟨.day7, some 604800, 518400, some 777600⟩
  | .day30 => ⟨.day30, some 2592000, 2160000, some 3456000⟩
  | .mature => ⟨.mature, none, 3456000, none⟩
  | .lifetime => ⟨.lifetime, none, 0, none⟩

/-- An age is inside a window. -/
def SnapshotAgeWindow.admits (window : SnapshotAgeWindow) (postAgeSeconds : ℤ) : Bool :=
  decide (window.minimumSeconds ≤ postAgeSeconds) && isWithin postAgeSeconds window.maximumSeconds

/-- `InstagramSnapshotDue`. -/
structure InstagramSnapshotDue where
  ageBucket : InstagramSnapshotBucket
  postAgeSeconds : ℤ
  deriving DecidableEq

/-- `instagramSnapshotDueFor`, for an age in whole seconds. -/
def instagramSnapshotDueFor (capturedBuckets : List InstagramSnapshotBucket) (postAge : ℤ) :
    Option InstagramSnapshotDue :=
  let postAgeSeconds := max 0 postAge
  let ageBucket := instagramSnapshotBucketFor postAgeSeconds
  if ageBucket ∈ capturedBuckets then none
  else if postAgeSeconds < (snapshotAgeWindowFor ageBucket.ageWindow).minimumSeconds then none
  else some ⟨ageBucket, postAgeSeconds⟩

/-- `ComparableSnapshotCandidate`. -/
structure ComparableSnapshotCandidate where
  capturedAt : ℤ
  postAgeSeconds : ℤ
  postId : String
  snapshotId : String
  deriving DecidableEq

/-- The order of the candidates of a window: by closeness to the target, or the most
mature first where there is none. Identifiers are UUIDs in lower case, which
`localeCompare` puts in the order of their characters. -/
def compareCandidates (targetSeconds : Option ℤ) (left right : ComparableSnapshotCandidate) :
    Ordering :=
  let rest := (compare left.capturedAt right.capturedAt).then
    (compare left.snapshotId right.snapshotId)
  match targetSeconds with
  | none => (compare right.postAgeSeconds left.postAgeSeconds).then rest
  | some target =>
    (compare (left.postAgeSeconds - target).natAbs (right.postAgeSeconds - target).natAbs).then
      ((compare left.postAgeSeconds right.postAgeSeconds).then rest)

/-- `selectComparableSnapshot`. -/
def selectComparableSnapshot (candidates : List ComparableSnapshotCandidate)
    (windowKey : SnapshotAgeWindowKey) : Option ComparableSnapshotCandidate :=
  let window := snapshotAgeWindowFor windowKey
  let eligible := candidates.filter fun candidate => window.admits candidate.postAgeSeconds
  (eligible.insertionSort fun left right =>
    (compareCandidates window.targetSeconds left right).isLE).head?

/-! ### Which ages a bucket has room for -/

variable {postAgeSeconds : ℤ} {windowKey : SnapshotAgeWindowKey}

private theorem instagramSnapshotBucketFor_eq :
    instagramSnapshotBucketFor postAgeSeconds =
      if postAgeSeconds ≤ 1800 then .atImport
      else if postAgeSeconds ≤ 7200 then .hour1
      else if postAgeSeconds ≤ 129600 then .day1
      else if postAgeSeconds ≤ 345600 then .day3
      else if postAgeSeconds ≤ 777600 then .day7
      else if postAgeSeconds ≤ 3456000 then .day30
      else .mature := by
  by_cases hnegative : postAgeSeconds < 0
  · have himport : postAgeSeconds ≤ 1800 := by omega
    simp [instagramSnapshotBucketFor, hnegative, himport]
  · simp only [instagramSnapshotBucketFor, hnegative, if_false, instagramSnapshotBuckets,
      List.find?_cons, isWithin, Option.all_some, Option.all_none]
    split_ifs with h1 h2 h3 h4 h5 h6 <;> simp [*]

/-- An age that lies in a bucket but in no window: after the bucket before has closed,
and before the window opens. -/
def InAgeGap (postAgeSeconds : ℤ) : Prop :=
  (7200 < postAgeSeconds ∧ postAgeSeconds < 64800) ∨
    (129600 < postAgeSeconds ∧ postAgeSeconds < 216000) ∨
    (345600 < postAgeSeconds ∧ postAgeSeconds < 518400) ∨
    (777600 < postAgeSeconds ∧ postAgeSeconds < 2160000)

private theorem SnapshotAgeWindow.admits_iff {window : SnapshotAgeWindow} :
    window.admits postAgeSeconds ↔ window.minimumSeconds ≤ postAgeSeconds ∧
      ∀ edge ∈ window.maximumSeconds, postAgeSeconds ≤ edge := by
  cases hedge : window.maximumSeconds <;> simp [admits, isWithin, hedge]

/-- **The window of the own bucket.** It admits an age exactly outside the gaps. -/
theorem admits_own_bucket (hage : 0 ≤ postAgeSeconds) :
    (snapshotAgeWindowFor (instagramSnapshotBucketFor postAgeSeconds).ageWindow).admits
      postAgeSeconds ↔ ¬ InAgeGap postAgeSeconds := by
  unfold InAgeGap
  rw [SnapshotAgeWindow.admits_iff, instagramSnapshotBucketFor_eq]
  split_ifs <;>
    simp only [InstagramSnapshotBucket.ageWindow, snapshotAgeWindowFor, Option.mem_def,
      Option.some.injEq, forall_eq', reduceCtorEq, false_imp_iff, implies_true, and_true] <;>
    omega

variable {capturedBuckets : List InstagramSnapshotBucket} {postAge : ℤ}

private theorem instagramSnapshotDueFor_spec {due : InstagramSnapshotDue}
    (h : instagramSnapshotDueFor capturedBuckets postAge = some due) :
    due.postAgeSeconds = max 0 postAge ∧
      due.ageBucket = instagramSnapshotBucketFor due.postAgeSeconds ∧
      due.ageBucket ∉ capturedBuckets ∧ ¬ InAgeGap due.postAgeSeconds := by
  unfold instagramSnapshotDueFor at h
  dsimp only at h
  split at h
  · cases h
  · next hcaptured =>
    split at h
    · cases h
    · next hopen =>
      cases h
      refine ⟨rfl, rfl, hcaptured, ?_⟩
      rw [instagramSnapshotBucketFor_eq] at hopen
      dsimp only [InAgeGap]
      split_ifs at hopen <;>
        simp only [InstagramSnapshotBucket.ageWindow, snapshotAgeWindowFor] at hopen <;> omega

/-- **Delays inside a bucket.** A post that was due and is observed later, before its
bucket has closed, is observed inside the window of the bucket. -/
theorem admits_of_due {due : InstagramSnapshotDue} {observedAge : ℤ}
    (h : instagramSnapshotDueFor capturedBuckets postAge = some due)
    (hlater : due.postAgeSeconds ≤ observedAge)
    (hbucket : instagramSnapshotBucketFor observedAge = due.ageBucket) :
    (snapshotAgeWindowFor due.ageBucket.ageWindow).admits observedAge = true := by
  obtain ⟨hage, hown, -, hgap⟩ := instagramSnapshotDueFor_spec h
  have hnonneg : 0 ≤ due.postAgeSeconds := by
    rw [hage]
    exact le_max_left _ _
  rw [← hbucket, admits_own_bucket (by omega)]
  rw [hown, instagramSnapshotBucketFor_eq, instagramSnapshotBucketFor_eq] at hbucket
  unfold InAgeGap at hgap ⊢
  split_ifs at hbucket <;> omega

/-- A post that is due at seven days, and is observed an hour later. -/
theorem admits_of_due_day7 :
    (snapshotAgeWindowFor InstagramSnapshotBucket.day7.ageWindow).admits 608400 = true :=
  @admits_of_due [] 604800 ⟨.day7, 604800⟩ 608400 (by decide) (by decide) (by decide)

/-! ### Selection -/

variable {candidates : List ComparableSnapshotCandidate}

theorem selectComparableSnapshot_spec {candidate : ComparableSnapshotCandidate}
    (h : selectComparableSnapshot candidates windowKey = some candidate) :
    candidate ∈ candidates ∧
      (snapshotAgeWindowFor windowKey).admits candidate.postAgeSeconds := by
  have hmem := List.mem_of_mem_head? (Option.mem_def.mpr h)
  rw [List.mem_insertionSort] at hmem
  exact List.mem_filter.mp hmem

theorem selectComparableSnapshot_isSome :
    (selectComparableSnapshot candidates windowKey).isSome ↔ ∃ candidate ∈ candidates,
      (snapshotAgeWindowFor windowKey).admits candidate.postAgeSeconds := by
  constructor
  · intro h
    obtain ⟨candidate, hselected⟩ := Option.isSome_iff_exists.mp h
    obtain ⟨hmem, hinside⟩ := selectComparableSnapshot_spec hselected
    exact ⟨candidate, hmem, hinside⟩
  · rintro ⟨candidate, hmem, hinside⟩
    rw [Option.isSome_iff_ne_none]
    intro hnone
    have hempty := List.head?_eq_none_iff.mp hnone
    have heligible : candidate ∈ candidates.filter fun candidate =>
        (snapshotAgeWindowFor windowKey).admits candidate.postAgeSeconds :=
      List.mem_filter.mpr ⟨hmem, hinside⟩
    rw [← List.mem_insertionSort fun left right =>
      (compareCandidates (snapshotAgeWindowFor windowKey).targetSeconds left right).isLE,
      hempty] at heligible
    cases heligible

end ContentAutomation
