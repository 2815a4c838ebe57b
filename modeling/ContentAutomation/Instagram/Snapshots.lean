import ContentAutomation.Instagram.Schema

/-!
# Recording snapshots

What a capture makes of the provider's observations, and the row it stores: filed
under the bucket of the post's age, once per observation. Whether a comparison
can select the row depends on that age alone.
-/

namespace ContentAutomation

open Relational

/-- `instagramInsightMediaKinds(instagramApiVersion)`. -/
def instagramInsightMediaKinds : List InstagramMediaKind := [.reel]

/-- `instagramSnapshotKey`. -/
def instagramSnapshotKey (postId : String) (ageBucket : InstagramSnapshotBucket) : String :=
  "instagram-snapshot-" ++ postId ++ "-" ++ ageBucket.key

/-- The age of a post in whole seconds, never negative, as `captureSnapshot` reckons it. -/
def postAgeSecondsAt (publishedAt capturedAt : ℤ) : ℤ := max 0 ((capturedAt - publishedAt) / 1000)

/-- `InstagramSnapshotInput`. -/
structure InstagramSnapshotInput where
  apiVersion : String
  capturedAt : ℤ
  followerCount : Option ℤ
  instagramPostId : String
  observations : List InstagramMetricObservation
  postAgeSeconds : ℤ
  deriving DecidableEq

/-- `Math.round`. -/
def roundHalfUp (value : ℚ) : ℤ := ⌊value + 1 / 2⌋

/-- What the column of a metric stores of a value; otherwise the code of the refusal. -/
def toColumn (canonical : InstagramCanonicalMetric) (value : ℚ) : Except String ℚ :=
  if value < 0 then .error "SNAPSHOT_VALUE_INVALID"
  else if canonical = .skipRate then
    if 1 < value then .error "SNAPSHOT_RATIO_INVALID"
    -- five decimals, as `toFixed(5)` writes them
    else .ok (roundHalfUp (value * 100000) / 100000)
  else .ok (roundHalfUp value)

/-- The value columns of `toColumns`. -/
def toColumns : List InstagramMetricObservation →
    Except String (List (InstagramCanonicalMetric × ℚ))
  | [] => .ok []
  | entry :: entries => do
    match entry.availability, entry.value with
    | .available, some value =>
      let column ← toColumn entry.canonical value
      let columns ← toColumns entries
      pure ((entry.canonical, column) :: columns)
    | _, _ => toColumns entries

/-- The row that `recordInstagramMetricSnapshot` inserts for an input. -/
def metricSnapshotRow (hash : List InstagramMetricObservation → String) (workspaceId : String)
    (snapshotId : String) (input : InstagramSnapshotInput)
    (values : List (InstagramCanonicalMetric × ℚ)) : InstagramMetricSnapshot where
  id := snapshotId
  workspaceId := workspaceId
  instagramPostId := input.instagramPostId
  capturedAt := input.capturedAt
  postAgeSeconds := max 0 input.postAgeSeconds
  ageBucket := instagramSnapshotBucketFor input.postAgeSeconds
  apiVersion := input.apiVersion
  values := values
  availability := input.observations.map fun entry => (entry.canonical, entry.availabilityEntry)
  followerCount := input.followerCount
  rawPayloadHash := hash input.observations

/-- The row that an input asks for, or the code with which it is refused. -/
def requestedSnapshot (hash : List InstagramMetricObservation → String) (workspaceId : String)
    (snapshotId : String) (input : InstagramSnapshotInput) : Except String InstagramMetricSnapshot :=
  if input.observations = [] then .error "SNAPSHOT_OBSERVATIONS_EMPTY"
  else (toColumns input.observations).map (metricSnapshotRow hash workspaceId snapshotId input)

/-- The insert of `recordInstagramMetricSnapshot`: the table afterwards, unless it throws. -/
def insertMetricSnapshot (hash : List InstagramMetricObservation → String)
    (workspaceId snapshotId : String) (input : InstagramSnapshotInput)
    (snapshots : Table instagramMetricSnapshotSchema) :
    Option (Table instagramMetricSnapshotSchema) :=
  match requestedSnapshot hash workspaceId snapshotId input with
  | .error _ => none
  | .ok row => (snapshots.createSkippingDuplicates row).toOption

/-! ### What is stored, and whether it can be selected -/

/-- A stored snapshot as a candidate for a comparison. -/
def InstagramMetricSnapshot.candidate (row : InstagramMetricSnapshot) :
    ComparableSnapshotCandidate where
  capturedAt := row.capturedAt
  postAgeSeconds := row.postAgeSeconds
  postId := row.instagramPostId
  snapshotId := row.id

/-- The window of the bucket that a snapshot is stored under accepts it. -/
def InstagramMetricSnapshot.Usable (row : InstagramMetricSnapshot) : Prop :=
  selectComparableSnapshot [row.candidate] row.ageBucket.ageWindow = some row.candidate

/-- A stored snapshot is filed under the bucket of its age. -/
def InstagramMetricSnapshot.Filed (row : InstagramMetricSnapshot) : Prop :=
  0 ≤ row.postAgeSeconds ∧ row.ageBucket = instagramSnapshotBucketFor row.postAgeSeconds

variable {row : InstagramMetricSnapshot}

theorem InstagramMetricSnapshot.usable_iff : row.Usable ↔
    (snapshotAgeWindowFor row.ageBucket.ageWindow).admits row.postAgeSeconds = true := by
  constructor
  · intro h
    exact (selectComparableSnapshot_spec h).2
  · intro hinside
    have hsome := selectComparableSnapshot_isSome.mpr
      ⟨row.candidate, List.mem_singleton_self _, hinside⟩
    obtain ⟨candidate, hselected⟩ := Option.isSome_iff_exists.mp hsome
    have hsame := List.mem_singleton.mp (selectComparableSnapshot_spec hselected).1
    rw [hsame] at hselected
    exact hselected

theorem InstagramMetricSnapshot.Filed.usable_iff (h : row.Filed) :
    row.Usable ↔ ¬ InAgeGap row.postAgeSeconds := by
  rw [InstagramMetricSnapshot.usable_iff, h.2, admits_own_bucket h.1]

variable {workspaceId snapshotId : String} {input : InstagramSnapshotInput}

theorem requestedSnapshot_eq_ok {hash : List InstagramMetricObservation → String}
    (h : requestedSnapshot hash workspaceId snapshotId input = .ok row) :
    ∃ values, row = metricSnapshotRow hash workspaceId snapshotId input values := by
  unfold requestedSnapshot at h
  split at h
  · cases h
  · cases hvalues : toColumns input.observations with
    | error code =>
      rw [hvalues] at h
      cases h
    | ok values =>
      rw [hvalues] at h
      cases h
      exact ⟨values, rfl⟩

section Recording

variable {hash : List InstagramMetricObservation → String}

theorem postAgeSecondsAt_nonneg (publishedAt capturedAt : ℤ) :
    0 ≤ postAgeSecondsAt publishedAt capturedAt := le_max_left _ _

theorem filed_metricSnapshotRow (hash : List InstagramMetricObservation → String)
    (workspaceId snapshotId : String)
    (values : List (InstagramCanonicalMetric × ℚ)) (hage : 0 ≤ input.postAgeSeconds) :
    (metricSnapshotRow hash workspaceId snapshotId input values).Filed ∧
      (metricSnapshotRow hash workspaceId snapshotId input values).postAgeSeconds =
        input.postAgeSeconds := by
  have hmax : max 0 input.postAgeSeconds = input.postAgeSeconds := max_eq_right hage
  refine ⟨⟨le_max_left _ _, ?_⟩, hmax⟩
  show instagramSnapshotBucketFor input.postAgeSeconds =
    instagramSnapshotBucketFor (max 0 input.postAgeSeconds)
  rw [hmax]

theorem insertMetricSnapshot_of_hasRoom {snapshots : Table instagramMetricSnapshotSchema}
    {row : InstagramMetricSnapshot}
    (hrequested : requestedSnapshot hash workspaceId snapshotId input = .ok row)
    (hroom : snapshots.HasRoom row) :
    ∃ snapshots', snapshots'.rows = snapshots.rows ++ [row] ∧
      insertMetricSnapshot hash workspaceId snapshotId input snapshots =
        some snapshots' := by
  obtain ⟨snapshots', hrows, hresult⟩ := Table.createSkippingDuplicates_of_hasRoom hroom
  refine ⟨snapshots', hrows, ?_⟩
  unfold insertMetricSnapshot
  rw [hrequested]
  dsimp only
  rw [hresult]
  rfl

theorem insertMetricSnapshot_of_not_hasRoom {snapshots snapshots' : Table instagramMetricSnapshotSchema}
    (hroom : ¬ ∃ row, requestedSnapshot hash workspaceId snapshotId input = .ok row ∧
      snapshots.HasRoom row)
    (hresult : insertMetricSnapshot hash workspaceId snapshotId input snapshots =
      some snapshots') : snapshots' = snapshots := by
  unfold insertMetricSnapshot at hresult
  split at hresult
  · cases hresult
  · next row hrequested =>
    cases hcreate : snapshots.createSkippingDuplicates row with
    | error violation =>
      rw [hcreate] at hresult
      cases hresult
    | ok created =>
      rw [hcreate] at hresult
      cases hresult
      refine Table.createSkippingDuplicates_of_not_hasRoom (fun hrow => ?_) hcreate
      exact hroom ⟨row, hrequested, hrow⟩

end Recording

end ContentAutomation
