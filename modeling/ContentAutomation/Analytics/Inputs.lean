import ContentAutomation.Analytics.Cohorts

/-!
# Inputs of a calculation

The analysed posts that a calculation measures, each with the values and the features that it is
compared by. The window of age is the one of several candidates that measures most; whichever it
is, the inputs are those that would be read for it alone.
-/

namespace ContentAutomation

open Relational FirstCopies List

/-! ### Features -/

/-- `durationBandFor`. -/
def durationBandFor (seconds : ℚ) : Option String :=
  if seconds < 0 then none
  else if seconds < 15 then some "under_15s"
  else if seconds < 30 then some "15_29s"
  else if seconds < 45 then some "30_44s"
  else if seconds < 60 then some "45_59s"
  else if seconds < 90 then some "60_89s"
  else some "90s_plus"

/-- `analyticsFeatures`: each path, with what it reads of an analysis. -/
def analyticsFeatures : List (String × (AnalysisFeatureRow → Option String)) :=
  [("content.contentPillar", AnalysisFeatureRow.contentPillar),
    ("content.contentFormat", AnalysisFeatureRow.contentFormat),
    ("content.hook.category", AnalysisFeatureRow.hookCategory),
    ("content.presenterMode", AnalysisFeatureRow.presenterMode),
    ("callToAction.type", AnalysisFeatureRow.ctaType),
    ("content.durationBand", fun row => row.durationSeconds.bind durationBandFor)]

/-! ### Posts -/

/-- `analyticsPostLimit`. -/
def analyticsPostLimit : ℕ := 1000

/-- `AnalyticsInputRequest`, without its window. -/
structure AnalyticsScope where
  /-- One account, or none for all of them. -/
  instagramAccountId : Option String
  publishedFrom : ℤ
  publishedTo : ℤ

/-- `AnalyticsInputPost`. -/
structure AnalyticsInputPost where
  features : List (String × String)
  instagramAccountId : String
  metricValues : List (DerivedMetric × ℚ)
  postAnalysisId : String
  postId : String
  publishedAt : ℤ
  snapshotId : String

/-- `AnalyticsInputSet`, of which the identifiers of analyses and snapshots are those of its
posts. -/
structure AnalyticsInputSet where
  posts : List AnalyticsInputPost

/-- The current analysis of a post. -/
def AnalyticsTables.currentAnalysis (db : AnalyticsTables) (post : InstagramPost) :
    Option AnalysisFeatureRow :=
  post.currentAnalysisId.bind fun id => db.analyses.find? fun row =>
    row.id == id && row.workspaceId == post.workspaceId

namespace AnalyticsScope

variable (db : AnalyticsTables) (context : WorkspaceContext) (scope : AnalyticsScope)

/-- What the query for posts selects. -/
def selects (post : InstagramPost) : Bool :=
  (db.currentAnalysis post).any AnalysisFeatureRow.analyticsEligible &&
    scope.instagramAccountId.all (fun id => post.instagramAccountId == id) &&
    decide (scope.publishedFrom ≤ post.publishedAt) &&
    decide (post.publishedAt ≤ scope.publishedTo) && post.workspaceId == context.workspaceId

def posts : List InstagramPost :=
  (db.newestPosts (scope.selects db context)).take analyticsPostLimit

/-- `readAnalyticsPosts`. -/
def readAnalyticsPosts : List InstagramPost :=
  if scope.instagramAccountId = none then dedupeCollaboratorPosts (scope.posts db context)
  else scope.posts db context

end AnalyticsScope

/-- One post with what its snapshot and its analysis say, if its snapshot has any metric. -/
def measurePost (db : AnalyticsTables) (inWindow : List InstagramMetricSnapshot)
    (ageWindow : SnapshotAgeWindowKey) (post : InstagramPost) : Option AnalyticsInputPost :=
  (db.currentAnalysis post).bind fun analysis =>
    (selectedRow inWindow ageWindow post.id).bind fun row =>
      let metricValues := derivedMetrics.filterMap fun metric =>
        (snapshotValue metric row).map fun value => (metric, value)
      if metricValues = [] then none
      else
        some
          { features := analyticsFeatures.filterMap fun feature =>
              (feature.2 analysis).map fun value => (feature.1, value)
            instagramAccountId := post.instagramAccountId
            metricValues
            postAnalysisId := analysis.id
            postId := post.id
            publishedAt := post.publishedAt
            snapshotId := row.id }

/-- `measureAnalyticsInputs`. -/
def measureAnalyticsInputs (db : AnalyticsTables) (posts : List InstagramPost)
    (snapshots : List InstagramMetricSnapshot) (ageWindow : SnapshotAgeWindowKey) :
    AnalyticsInputSet :=
  let inWindow := snapshots.filter fun row =>
    (snapshotAgeWindowFor ageWindow).admits row.postAgeSeconds
  ⟨posts.filterMap (measurePost db inWindow ageWindow)⟩

/-- `loadAnalyticsInputs`. -/
def loadAnalyticsInputs (db : AnalyticsTables) (context : WorkspaceContext)
    (scope : AnalyticsScope) (ageWindow : SnapshotAgeWindowKey) : AnalyticsInputSet :=
  let posts := scope.readAnalyticsPosts db context
  let window := snapshotAgeWindowFor ageWindow
  let snapshots := db.readSnapshots context (posts.map InstagramPost.id) window.minimumSeconds
    window.maximumSeconds
  measureAnalyticsInputs db posts snapshots ageWindow

/-! ### Windows -/

/-- `AnalyticsWindowCandidate`. -/
structure AnalyticsWindowCandidate where
  ageWindow : SnapshotAgeWindowKey
  eligiblePosts : ℕ

/-- `snapshotAgeWindowMaturity`. -/
def snapshotAgeWindowMaturity : SnapshotAgeWindowKey → ℕ
  | .atImport => 0
  | .hour1 => 1
  | .day1 => 2
  | .day3 => 3
  | .day7 => 4
  | .day30 => 5
  | .mature => 6
  | .lifetime => 7

/-- `mostMature`, with the winner so far. -/
def mostMature (winner : AnalyticsWindowCandidate) (candidates : List AnalyticsWindowCandidate) :
    AnalyticsWindowCandidate :=
  candidates.foldl (fun winner candidate =>
    if snapshotAgeWindowMaturity winner.ageWindow < snapshotAgeWindowMaturity candidate.ageWindow
      then candidate else winner) winner

/-- `widest`, with the winner so far. -/
def widest (winner : AnalyticsWindowCandidate) (candidates : List AnalyticsWindowCandidate) :
    AnalyticsWindowCandidate :=
  candidates.foldl (fun winner candidate =>
    if winner.eligiblePosts < candidate.eligiblePosts ∨
        candidate.eligiblePosts = winner.eligiblePosts ∧
          snapshotAgeWindowMaturity winner.ageWindow <
            snapshotAgeWindowMaturity candidate.ageWindow
      then candidate else winner) winner

/-- `selectAnalyticsAgeWindow`. -/
def selectAnalyticsAgeWindow (candidates : List AnalyticsWindowCandidate)
    (adequateCoverage minimumMatchedPosts : ℕ) : Option SnapshotAgeWindowKey :=
  match candidates.filter fun candidate => decide (0 < candidate.eligiblePosts) with
  | [] => none
  | first :: rest =>
    let measured := first :: rest
    let matched := measured.filter fun candidate => decide (candidate.ageWindow ≠ .lifetime)
    match matched.filter fun candidate => decide (adequateCoverage ≤ candidate.eligiblePosts) with
    | covered :: others => some (mostMature covered others).ageWindow
    | [] =>
      match matched.filter fun candidate =>
        decide (minimumMatchedPosts ≤ candidate.eligiblePosts) with
      | usable :: others => some (widest usable others).ageWindow
      | [] =>
        match measured.find? fun candidate => decide (candidate.ageWindow = .lifetime) with
        | none => some (widest first rest).ageWindow
        | some unmatched =>
          match matched with
          | [] => some unmatched.ageWindow
          | best :: others =>
            let best := widest best others
            some (if unmatched.eligiblePosts ≤ best.eligiblePosts then best.ageWindow
              else unmatched.ageWindow)

/-- `AnalyticsWindowSelection`. -/
structure AnalyticsWindowSelection where
  ageWindow : SnapshotAgeWindowKey
  considered : List AnalyticsWindowCandidate
  inputs : AnalyticsInputSet

/-- The greater of two upper bounds, where none is infinite. -/
def maxBound : Option ℤ → Option ℤ → Option ℤ
  | some left, some right => some (max left right)
  | _, _ => none

/-- `sampleThresholds.moderate.total`. -/
def moderateTotal : ℕ := 20

/-- `sampleThresholds.weak.group + sampleThresholds.weak.comparison`. -/
def weakTotal : ℕ := 3 + 5

/-! ### The posts of the inputs -/

section Measured

variable {db : AnalyticsTables} {context : WorkspaceContext} {scope : AnalyticsScope}
  {ageWindow : SnapshotAgeWindowKey} {post : InstagramPost} {postIds : List String}
  {minimumSeconds : ℤ} {maximumSeconds : Option ℤ}

/-- Every age that a window admits is between bounds. -/
def SnapshotAgeWindow.Within (window : SnapshotAgeWindow) (minimumSeconds : ℤ)
    (maximumSeconds : Option ℤ) : Prop :=
  ∀ postAgeSeconds, window.admits postAgeSeconds = true →
    minimumSeconds ≤ postAgeSeconds ∧ isWithin postAgeSeconds maximumSeconds = true

theorem SnapshotAgeWindow.within_self (window : SnapshotAgeWindow) :
    window.Within window.minimumSeconds window.maximumSeconds := by
  intro postAgeSeconds hadmits
  obtain ⟨hminimum, hmaximum⟩ := Bool.and_eq_true_iff.mp hadmits
  exact ⟨of_decide_eq_true hminimum, hmaximum⟩

private theorem filter_admits_readSnapshots
    (hspan : (snapshotAgeWindowFor ageWindow).Within minimumSeconds maximumSeconds) :
    ((db.readSnapshots context postIds minimumSeconds maximumSeconds).filter fun row =>
        (snapshotAgeWindowFor ageWindow).admits row.postAgeSeconds) =
      db.readSnapshots context postIds (snapshotAgeWindowFor ageWindow).minimumSeconds
        (snapshotAgeWindowFor ageWindow).maximumSeconds := by
  unfold AnalyticsTables.readSnapshots
  rw [filter_filter]
  refine filter_congr fun row _ => ?_
  change ((snapshotAgeWindowFor ageWindow).admits row.postAgeSeconds && _) =
    (_ && (snapshotAgeWindowFor ageWindow).admits row.postAgeSeconds && _)
  cases hadmits : (snapshotAgeWindowFor ageWindow).admits row.postAgeSeconds with
  | false => simp
  | true =>
    obtain ⟨hminimum, hmaximum⟩ := hspan _ hadmits
    simp [hminimum, hmaximum]

/-- **One span for every window**: the inputs that are measured in a window are the same whichever
wider span has been read. -/
theorem measureAnalyticsInputs_readSnapshots {posts : List InstagramPost}
    (hspan : (snapshotAgeWindowFor ageWindow).Within minimumSeconds maximumSeconds) :
    measureAnalyticsInputs db posts
        (db.readSnapshots context postIds minimumSeconds maximumSeconds) ageWindow =
      measureAnalyticsInputs db posts
        (db.readSnapshots context postIds (snapshotAgeWindowFor ageWindow).minimumSeconds
          (snapshotAgeWindowFor ageWindow).maximumSeconds) ageWindow := by
  unfold measureAnalyticsInputs
  rw [filter_admits_readSnapshots hspan,
    filter_admits_readSnapshots (snapshotAgeWindowFor ageWindow).within_self]

variable (db context ageWindow) in
/-- The post has a value of some metric in the window. -/
def isMeasured (post : InstagramPost) : Bool :=
  derivedMetrics.any fun metric =>
    (loadPostMetricValue db context ageWindow metric post.id).isSome

/-- A post with an analysis is among the inputs if it has a value of some metric. -/
theorem measurePost_readSnapshots (hpost : post.id ∈ postIds)
    (hanalysis : (db.currentAnalysis post).isSome) :
    (measurePost db (db.readSnapshots context postIds
        (snapshotAgeWindowFor ageWindow).minimumSeconds
        (snapshotAgeWindowFor ageWindow).maximumSeconds) ageWindow post).map
          AnalyticsInputPost.postId =
      if isMeasured db context ageWindow post then some post.id else none := by
  obtain ⟨analysis, hanalysis⟩ := Option.isSome_iff_exists.mp hanalysis
  have hmeasured : isMeasured db context ageWindow post = derivedMetrics.any fun metric =>
      ((selectedRow (db.readSnapshots context [post.id]
        (snapshotAgeWindowFor ageWindow).minimumSeconds
        (snapshotAgeWindowFor ageWindow).maximumSeconds) ageWindow post.id).bind
          (snapshotValue metric)).isSome := rfl
  unfold measurePost
  rw [hmeasured, hanalysis, selectedRow_readSnapshots hpost, Option.bind_some]
  cases selectedRow (db.readSnapshots context [post.id]
      (snapshotAgeWindowFor ageWindow).minimumSeconds
      (snapshotAgeWindowFor ageWindow).maximumSeconds) ageWindow post.id with
  | none => simp
  | some row =>
    have hvalues : (derivedMetrics.filterMap fun metric =>
        (snapshotValue metric row).map fun value => (metric, value)) = [] ↔
          ¬ (derivedMetrics.any fun metric => (snapshotValue metric row).isSome) = true := by
      rw [filterMap_eq_nil_iff, any_eq_true]
      simp
    simp only [Option.bind_some]
    split
    · next hnone =>
      rw [if_neg (hvalues.mp hnone)]
      rfl
    · next hsome =>
      rw [if_pos (not_not.mp (mt hvalues.mpr hsome))]
      rfl

namespace AnalyticsScope

theorem mem_posts (h : post ∈ scope.posts db context) :
    post ∈ db.newestPosts (scope.selects db context) := mem_of_mem_take h

theorem currentAnalysis_isSome (h : scope.selects db context post) :
    (db.currentAnalysis post).isSome := by
  unfold selects at h
  simp only [Bool.and_eq_true] at h
  obtain ⟨⟨⟨⟨heligible, -⟩, -⟩, -⟩, -⟩ := h
  cases hanalysis : db.currentAnalysis post with
  | none =>
    rw [hanalysis] at heligible
    cases heligible
  | some analysis => rfl

theorem readAnalyticsPosts_subset :
    scope.readAnalyticsPosts db context ⊆ scope.posts db context := by
  unfold readAnalyticsPosts dedupeCollaboratorPosts
  split
  · intro post hpost
    exact (mem_firstCopies.mp hpost).mem
  · exact List.Subset.refl _

private theorem videos_inputs :
    (loadAnalyticsInputs db context scope ageWindow).posts.filterMap
        (fun input => db.videoOf input.postId) =
      ((scope.readAnalyticsPosts db context).filter (isMeasured db context ageWindow)).map
        InstagramPost.providerMediaId := by
  unfold loadAnalyticsInputs measureAnalyticsInputs
  dsimp only
  rw [filter_admits_readSnapshots (snapshotAgeWindowFor ageWindow).within_self,
    filterMap_filterMap]
  apply filterMap_eq_map_filter
  intro post hpost
  obtain ⟨hmem, hselects⟩ := mem_newestPosts.mp (mem_posts (readAnalyticsPosts_subset hpost))
  have hmeasure : _ = if isMeasured db context ageWindow post = true then some post.id else none :=
    measurePost_readSnapshots (mem_map_of_mem hpost) (currentAnalysis_isSome hselects)
  cases hinput : measurePost db _ ageWindow post with
  | none =>
    rw [hinput] at hmeasure
    split at hmeasure
    · cases hmeasure
    · next hnot =>
      rw [if_neg hnot]
      rfl
  | some input =>
    rw [hinput] at hmeasure
    split at hmeasure
    · next hmeasured =>
      rw [if_pos hmeasured, Option.bind_some, Option.some.inj hmeasure, videoOf_eq hmem]
    · cases hmeasure

/-- **Pooled inputs.** Each video with an eligible copy that has a value of some metric counts once
among pooled inputs, and no other video does, exactly if the first copy that is read of each of
them has a value. -/
theorem countsOnce_inputs_iff (hpooled : scope.instagramAccountId = none) :
    CountsOnce InstagramPost.providerMediaId
        (fun post => isMeasured db context ageWindow post)
        (db.newestPosts (scope.selects db context))
        ((loadAnalyticsInputs db context scope ageWindow).posts.filterMap fun input =>
          db.videoOf input.postId) ↔
      ∀ copy ∈ db.newestPosts (scope.selects db context),
        isMeasured db context ageWindow copy →
          ∃ first, IsFirst InstagramPost.providerMediaId (scope.posts db context) first ∧
            first.providerMediaId = copy.providerMediaId ∧
              isMeasured db context ageWindow first := by
  have hcopies : scope.readAnalyticsPosts db context =
      firstCopies InstagramPost.providerMediaId (scope.posts db context) := by
    unfold readAnalyticsPosts dedupeCollaboratorPosts
    rw [if_pos hpooled]
  rw [videos_inputs, hcopies, countsOnce_iff_of_nodup nodup_firstCopies]
  · refine forall₂_congr fun copy _ => imp_congr_right fun _ => exists_congr fun first => ?_
    rw [mem_firstCopies]
  · intro post hpost
    exact mem_posts (mem_firstCopies.mp hpost).mem

end AnalyticsScope

end Measured

end ContentAutomation
