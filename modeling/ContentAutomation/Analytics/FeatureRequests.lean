import ContentAutomation.Analytics.FeatureFamily
import ContentAutomation.Analytics.Inputs

/-!
# The comparisons of a run

A run compares, for each metric, the posts that carry a value of a feature with those that carry
another one. The posts that lack the feature are counted as missing; those that lack the metric are
left out before anything is counted.
-/

namespace ContentAutomation

open List

/-- `DerivedMetricUnit`. -/
inductive DerivedMetricUnit
  | count | ratio
  deriving DecidableEq

/-- `derivedMetricDefinitions[metric].unit`. -/
def derivedMetricUnit : DerivedMetric → DerivedMetricUnit
  | .engagementCount => .count
  | _ => .ratio

namespace AnalyticsInputPost

/-- `post.metricValues.has(metric)`. -/
def hasMetric (metric : DerivedMetric) (post : AnalyticsInputPost) : Bool :=
  (post.metricValues.lookup metric).isSome

/-- `post.features.has(path)`. -/
def hasFeature (path : String) (post : AnalyticsInputPost) : Bool :=
  (post.features.lookup path).isSome

/-- `post.features.get(path) === value`. -/
def carries (path value : String) (post : AnalyticsInputPost) : Bool :=
  post.features.lookup path == some value

/-- `observe`. -/
def observe (metric : DerivedMetric) (post : AnalyticsInputPost) : FeatureObservation where
  instagramAccountId := post.instagramAccountId
  instagramPostId := post.postId
  metricSnapshotId := post.snapshotId
  postAnalysisId := post.postAnalysisId
  publishedAt := Calendar.toISOString post.publishedAt
  value := .finite ((post.metricValues.lookup metric).getD 0)

end AnalyticsInputPost

open AnalyticsInputPost

/-- The candidate of one value of a feature, among the posts that have the metric. -/
def featureCandidate (metric : DerivedMetric) (measured : List AnalyticsInputPost)
    (path value : String) : FeatureComparisonCandidate :=
  let known := measured.filter (hasFeature path)
  { comparison := (known.filter fun post => !carries path value post).map (observe metric)
    featurePath := path
    featureValue := value
    group := (known.filter (carries path value)).map (observe metric)
    missingCount := measured.length - known.length }

/-- The candidates of one feature: each value that is known, if there are two. -/
def featureCandidates (metric : DerivedMetric) (measured : List AnalyticsInputPost)
    (path : String) : List FeatureComparisonCandidate :=
  let values := (measured.filterMap fun post => post.features.lookup path).eraseDups
  if values.length < 2 then [] else values.map (featureCandidate metric measured path)

/-- The request of one metric, if there is anything to compare by it. -/
def buildFeatureRequest (scope : AnalyticsScope) (ageWindow : SnapshotAgeWindowKey)
    (inputs : AnalyticsInputSet) (metric : DerivedMetric) : Option FeatureStatisticRequest :=
  let measured := inputs.posts.filter (hasMetric metric)
  let candidates := analyticsFeatures.flatMap fun feature =>
    featureCandidates metric measured feature.1
  if scope.instagramAccountId.isNone && metric == .engagementCount then none
  else if measured.length = 0 then none
  else if candidates.length = 0 then none
  else
    some
      { ageWindow
        candidates
        instagramAccountId := scope.instagramAccountId
        metric := Vocabulary.word metric
        metricIsCount := derivedMetricUnit metric == .count
        publishedFrom := scope.publishedFrom
        publishedTo := scope.publishedTo }

/-- `buildFeatureRequests`. -/
def buildFeatureRequests (scope : AnalyticsScope) (ageWindow : SnapshotAgeWindowKey)
    (inputs : AnalyticsInputSet) : List FeatureStatisticRequest :=
  derivedMetrics.filterMap (buildFeatureRequest scope ageWindow inputs)

/-! ### What is counted -/

section Counted

variable {metric : DerivedMetric} {measured : List AnalyticsInputPost} {path value : String}

/-- The group, the comparison and the missing posts are the posts that have the metric. -/
theorem counted_featureCandidate (metric : DerivedMetric) (measured : List AnalyticsInputPost)
    (path value : String) :
    (featureCandidate metric measured path value).group.length +
        (featureCandidate metric measured path value).comparison.length +
        (featureCandidate metric measured path value).missingCount = measured.length := by
  have hknown : (measured.filter (hasFeature path)).length ≤ measured.length :=
    length_filter_le _ _
  have hsides := length_eq_length_filter_add (l := measured.filter (hasFeature path))
    (carries path value)
  simp only [featureCandidate, length_map]
  omega

private theorem missingCount_featureCandidate :
    (featureCandidate metric measured path value).missingCount =
      measured.countP fun post => !hasFeature path post := by
  have hsides := length_eq_length_filter_add (l := measured) (hasFeature path)
  simp only [featureCandidate, countP_eq_length_filter]
  omega

private theorem mem_featureCandidates {candidate : FeatureComparisonCandidate}
    (h : candidate ∈ featureCandidates metric measured path) :
    ∃ value, candidate = featureCandidate metric measured path value ∧
      ∃ post ∈ measured, post.features.lookup path = some value := by
  unfold featureCandidates at h
  dsimp only at h
  split at h
  · cases h
  · obtain ⟨value, hvalue, rfl⟩ := mem_map.mp h
    rw [mem_eraseDups] at hvalue
    obtain ⟨post, hpost, hcarries⟩ := mem_filterMap.mp hvalue
    exact ⟨value, rfl, post, hpost, hcarries⟩

end Counted

theorem mem_buildFeatureRequests {scope : AnalyticsScope} {ageWindow : SnapshotAgeWindowKey}
    {inputs : AnalyticsInputSet} {request : FeatureStatisticRequest}
    (h : request ∈ buildFeatureRequests scope ageWindow inputs) :
    ∃ metric, request.metric = Vocabulary.word metric ∧ ∀ candidate ∈ request.candidates,
      ∃ path value,
        candidate = featureCandidate metric (inputs.posts.filter (hasMetric metric)) path value ∧
        ∃ post ∈ inputs.posts.filter (hasMetric metric), post.features.lookup path = some value := by
  obtain ⟨metric, -, hrequest⟩ := mem_filterMap.mp h
  unfold buildFeatureRequest at hrequest
  dsimp only at hrequest
  split_ifs at hrequest
  cases hrequest
  refine ⟨metric, rfl, fun candidate hcandidate => ?_⟩
  obtain ⟨feature, -, hfeature⟩ := mem_flatMap.mp hcandidate
  obtain ⟨value, hvalue⟩ := mem_featureCandidates hfeature
  exact ⟨feature.1, value, hvalue⟩

/-! ### What the documentation counts -/

/-- The number of posts of a scope that lack the metric or the feature. -/
def lackingCount (inputs : AnalyticsInputSet) (metric : DerivedMetric) (path : String) : ℕ :=
  inputs.posts.countP fun post => !(hasMetric metric post && hasFeature path post)

/-- The share of the eligible posts of a scope that lack the metric or the feature. -/
def documentedMissingShare (inputs : AnalyticsInputSet) (metric : DerivedMetric) (path : String) :
    ℚ :=
  lackingCount inputs metric path / inputs.posts.length

/-- Every eligible post of the scope is in the group, in the comparison or counted as missing. -/
def Accounts (inputs : AnalyticsInputSet) (candidate : FeatureComparisonCandidate) : Prop :=
  candidate.group.length + candidate.comparison.length + candidate.missingCount =
    inputs.posts.length

section Documented

variable {inputs : AnalyticsInputSet} {metric : DerivedMetric}
  {measured : List AnalyticsInputPost} {path value : String}

private theorem accounts_iff : Accounts inputs
      (featureCandidate metric (inputs.posts.filter (hasMetric metric)) path value) ↔
    ∀ post ∈ inputs.posts, hasMetric metric post = true := by
  unfold Accounts
  rw [counted_featureCandidate, length_filter_eq_length_iff]

/-- The posts that lack the metric or the feature: those that lack the metric, and what is missing
of the others. -/
theorem lackingCount_eq : lackingCount inputs metric path =
    (inputs.posts.length - (inputs.posts.filter (hasMetric metric)).length) +
      (featureCandidate metric (inputs.posts.filter (hasMetric metric)) path value).missingCount := by
  rw [missingCount_featureCandidate, lackingCount]
  simp only [Bool.not_and]
  induction inputs.posts with
  | nil => rfl
  | cons post posts ih =>
    have hle := length_filter_le (hasMetric metric) posts
    cases hmetric : hasMetric metric post <;> cases hfeature : hasFeature path post <;>
      simp [hmetric, hfeature, ih] <;> omega

/-- The share that gates the class: what is missing among the posts that have the metric. -/
theorem missingRatioOf_eq (metric : DerivedMetric) {measured : List AnalyticsInputPost}
    (hsome : 0 < measured.length) (path value : String) :
    missingRatioOf (featureCandidate metric measured path value) =
      (featureCandidate metric measured path value).missingCount / measured.length := by
  have hcounted := counted_featureCandidate metric measured path value
  have heligible : (((featureCandidate metric measured path value).group.length +
      (featureCandidate metric measured path value).comparison.length +
        (featureCandidate metric measured path value).missingCount : ℕ) : ℚ) =
      measured.length := by
    exact_mod_cast hcounted
  unfold missingRatioOf
  rw [if_neg (by omega), ← heligible]

private theorem missingCount_lt {post : AnalyticsInputPost} (hpost : post ∈ measured)
    (hcarries : post.features.lookup path = some value) :
    (featureCandidate metric measured path value).missingCount < measured.length := by
  have hcounted := counted_featureCandidate metric measured path value
  have hgroup : 0 < (featureCandidate metric measured path value).group.length := by
    simp only [featureCandidate, length_map]
    refine length_pos_of_mem (mem_filter.mpr ⟨mem_filter.mpr ⟨hpost, ?_⟩, ?_⟩)
    · simp [hasFeature, hcarries]
    · simp [carries, hcarries]
  omega

/-- Leaving some posts out of a share of missing ones changes it, unless all are missing. -/
theorem share_eq_iff {missing measured posts : ℕ} (hmissing : missing < measured)
    (hmeasured : measured ≤ posts) :
    (missing / measured : ℚ) = ((posts - measured + missing : ℕ) : ℚ) / posts ↔
      measured = posts := by
  have hpositive : (0 : ℚ) < measured := by
    have : 0 < measured := by omega
    exact_mod_cast this
  have hpositive' : (0 : ℚ) < posts := by
    have : 0 < posts := by omega
    exact_mod_cast this
  have hless : (missing : ℚ) < measured := by exact_mod_cast hmissing
  rw [Nat.cast_add, Nat.cast_sub hmeasured, div_eq_div_iff hpositive.ne' hpositive'.ne']
  constructor
  · intro heq
    have hzero : ((posts : ℚ) - measured) * (missing - measured) = 0 := by linarith
    rcases mul_eq_zero.mp hzero with hsame | hsame
    · have hcast : (measured : ℚ) = posts := by linarith
      exact_mod_cast hcast
    · linarith
  · rintro rfl
    ring

/-- The share that gates the class is the documented one exactly when every post has the metric. -/
theorem missingRatioOf_iff {post : AnalyticsInputPost}
    (hpost : post ∈ inputs.posts.filter (hasMetric metric))
    (hcarries : post.features.lookup path = some value) :
    missingRatioOf (featureCandidate metric (inputs.posts.filter (hasMetric metric)) path value) =
        documentedMissingShare inputs metric path ↔
      ∀ post ∈ inputs.posts, hasMetric metric post = true := by
  have hle : (inputs.posts.filter (hasMetric metric)).length ≤ inputs.posts.length :=
    length_filter_le _ _
  rw [missingRatioOf_eq metric (length_pos_of_mem hpost), documentedMissingShare,
    lackingCount_eq, share_eq_iff (missingCount_lt hpost hcarries) hle,
    length_filter_eq_length_iff]

end Documented

/-- **What is accounted for.** A comparison that a run emits has the posts that have its metric in
its group, in its comparison or among the missing ones. These are all eligible posts of the scope,
and the missing share is the documented one, exactly when every post of the scope has the
metric. -/
theorem accounted_iff (scope : AnalyticsScope) (ageWindow : SnapshotAgeWindowKey)
    (inputs : AnalyticsInputSet) (request : FeatureStatisticRequest)
    (hrequest : request ∈ buildFeatureRequests scope ageWindow inputs) :
    ∃ metric, request.metric = Vocabulary.word metric ∧ ∀ candidate ∈ request.candidates,
      (Accounts inputs candidate ↔ ∀ post ∈ inputs.posts, hasMetric metric post = true) ∧
        (missingRatioOf candidate =
            documentedMissingShare inputs metric candidate.featurePath ↔
          ∀ post ∈ inputs.posts, hasMetric metric post = true) := by
  obtain ⟨metric, hmetric, hcandidates⟩ := mem_buildFeatureRequests hrequest
  refine ⟨metric, hmetric, fun candidate hcandidate => ?_⟩
  obtain ⟨path, value, rfl, post, hpost, hcarries⟩ := hcandidates candidate hcandidate
  exact ⟨accounts_iff, missingRatioOf_iff hpost hcarries⟩

/-! ### A post without reach -/

namespace RequestSample

/-- A post of the account, with its values and its hook. -/
def post (id hook : String) (metricValues : List (DerivedMetric × ℚ)) : AnalyticsInputPost where
  features := [("content.hook.category", hook)]
  instagramAccountId := "account"
  metricValues
  postAnalysisId := id
  postId := id
  publishedAt := 1767225600000
  snapshotId := id

/-- Two posts whose reach is known, and one whose reach is not. -/
def inputs : AnalyticsInputSet :=
  ⟨[post "first" "question" [(.engagementCount, 5), (.engagementRateReach, 1 / 10)],
    post "second" "story" [(.engagementCount, 4), (.engagementRateReach, 1 / 20)],
    post "third" "story" [(.engagementCount, 9)]]⟩

def scope : AnalyticsScope := ⟨some "account", 1767225600000, 1782864000000⟩

def request : FeatureStatisticRequest :=
  (buildFeatureRequest scope .day7 inputs .engagementRateReach).getD
    ⟨.day7, [], none, "", false, 0, 0⟩

private theorem request_mem : request ∈ buildFeatureRequests scope .day7 inputs := by
  refine mem_filterMap.mpr ⟨.engagementRateReach, by decide, ?_⟩
  have hsome : (buildFeatureRequest scope .day7 inputs .engagementRateReach).isSome = true := by
    decide
  obtain ⟨built, hbuilt⟩ := Option.isSome_iff_exists.mp hsome
  rw [request, hbuilt, Option.getD_some]

end RequestSample

open RequestSample

/-- What is accounted for of the posts of the sample. -/
theorem accounted_sample : ∃ metric, RequestSample.request.metric = Vocabulary.word metric ∧
    ∀ candidate ∈ RequestSample.request.candidates,
      (Accounts RequestSample.inputs candidate ↔
          ∀ post ∈ RequestSample.inputs.posts, hasMetric metric post = true) ∧
        (missingRatioOf candidate =
            documentedMissingShare RequestSample.inputs metric candidate.featurePath ↔
          ∀ post ∈ RequestSample.inputs.posts, hasMetric metric post = true) :=
  accounted_iff scope .day7 inputs request
    request_mem

/-- **A post that nobody counts.** The post without reach is in no comparison by a rate of reach,
and is not missing from it. -/
theorem post_without_metric_is_not_counted : ¬ ∀ (scope : AnalyticsScope)
    (ageWindow : SnapshotAgeWindowKey) (inputs : AnalyticsInputSet)
    (request : FeatureStatisticRequest), request ∈ buildFeatureRequests scope ageWindow inputs →
    ∀ candidate ∈ request.candidates, Accounts inputs candidate := by
  intro h
  have hall := h scope .day7 inputs request
    request_mem
  have hcounts : (request.candidates.map fun candidate =>
      candidate.group.length + candidate.comparison.length + candidate.missingCount) = [2, 2] := by
    decide
  obtain ⟨candidate, hcandidate, hcount⟩ := mem_map.mp
    (by rw [hcounts]; exact mem_cons_self : 2 ∈ request.candidates.map _)
  have haccounts : _ = 3 := hall candidate hcandidate
  omega

end ContentAutomation
