import ContentAutomation.Analytics.FeatureRequests
import ContentAutomation.Strategy.CrossPosts
import ContentAutomation.Strategy.PublicationWeeks

/-!
# What a strategy says of its coverage

The posts of a scope are read again for a strategy, the newest first and fewer of them than the
calculation that was made of them had read, while the posts with a comparable value are the members
of its statistics.
-/

namespace ContentAutomation

open Relational AnalyticsInputPost List

/-! ### The posts of a calculation -/

/-- The row of a statistic is of a comparison: of its metric, its feature and its posts. -/
structure PublishedStatistic.IsOf (statistic : PublishedStatistic)
    (request : FeatureStatisticRequest) (candidate : FeatureComparisonCandidate) : Prop where
  metric : statistic.metric = request.metric
  featurePath : statistic.featurePath = candidate.featurePath
  featureValue : statistic.featureValue = candidate.featureValue
  members : ∀ postId, postId ∈ statistic.members ↔
    postId ∈ (candidate.group ++ candidate.comparison).map FeatureObservation.instagramPostId

namespace StrategyEvidenceRequest

section Run

variable (db : StrategyEvidenceTables) (context : WorkspaceContext)
  (request : StrategyEvidenceRequest) (run : AccountAnalyticsRun)

/-- The inputs of the run are what they were when it was calculated: each statistic that it
publishes is of a comparison that they give now. -/
def HasUnchangedInputs : Prop :=
  ∀ statistic ∈ request.publishedStatistics db context run,
    ∃ comparisons ∈ buildFeatureRequests (request.scope run) run.ageWindow
        (loadAnalyticsInputs db.toAnalyticsTables context (request.scope run) run.ageWindow),
      ∃ candidate ∈ comparisons.candidates, statistic.IsOf comparisons candidate

/-- The analysed posts of the scope that were published in the period of the run. -/
def analysedPosts : List InstagramPost :=
  db.newestPosts ((request.scope run).selects db.toAnalyticsTables context)

/-- What the counts of evidence say is so. -/
structure CountsAreTrue (counts : StrategyEvidenceCounts) : Prop where
  analysed : counts.analysedPostCount = (request.analysedPosts db context run).length
  comparable : counts.comparablePostCount = ((request.analysedPosts db context run).filter
    fun post => decide (post.id ∈ request.comparablePosts db context run)).length
  bounded : counts.comparablePostCount ≤ counts.analysedPostCount
  weeks : counts.publicationWeekCount =
    countPublicationWeeks ((request.analysedPosts db context run).map InstagramPost.publishedAt)

end Run

variable {db : StrategyEvidenceTables} {context : WorkspaceContext}
  {request : StrategyEvidenceRequest} {run : AccountAnalyticsRun}
  {loaded : StrategyEvidenceCandidates}

private theorem nodup_analysedPosts :
    ((request.analysedPosts db context run).map InstagramPost.id).Nodup := by
  refine Nodup.map_on (fun post hpost other hother hid => ?_) nodup_newestPosts
  exact Table.eq_of_key instagramPostSchema_keyedBy_id (mem_newestPosts.mp hpost).1
    (mem_newestPosts.mp hother).1 hid

private theorem mem_inputs {input : AnalyticsInputPost}
    (h : input ∈ (loadAnalyticsInputs db.toAnalyticsTables context (request.scope run)
      run.ageWindow).posts) :
    input.postId ∈ (request.analysedPosts db context run).map InstagramPost.id := by
  obtain ⟨post, hpost, hinput⟩ := mem_filterMap.mp h
  have hread := AnalyticsScope.mem_posts (AnalyticsScope.readAnalyticsPosts_subset hpost)
  refine mem_map.mpr ⟨post, hread, ?_⟩
  unfold measurePost at hinput
  obtain ⟨analysis, -, hrow⟩ := Option.bind_eq_some_iff.mp hinput
  obtain ⟨row, -, hvalues⟩ := Option.bind_eq_some_iff.mp hrow
  dsimp only at hvalues
  split_ifs at hvalues
  cases hvalues
  rfl

private theorem mem_comparison {scope : AnalyticsScope} {ageWindow : SnapshotAgeWindowKey}
    {inputs : AnalyticsInputSet} {comparisons : FeatureStatisticRequest}
    {candidate : FeatureComparisonCandidate}
    (hcomparisons : comparisons ∈ buildFeatureRequests scope ageWindow inputs)
    (hcandidate : candidate ∈ comparisons.candidates) {postId : String}
    (h : postId ∈ (candidate.group ++ candidate.comparison).map
      FeatureObservation.instagramPostId) :
    ∃ input ∈ inputs.posts, input.postId = postId := by
  obtain ⟨metric, -, hcandidates⟩ := mem_buildFeatureRequests hcomparisons
  obtain ⟨path, value, rfl, -⟩ := hcandidates candidate hcandidate
  have hobserved : ∀ {test : AnalyticsInputPost → Bool} {observation : FeatureObservation},
      observation ∈ (((inputs.posts.filter (hasMetric metric)).filter (hasFeature path)).filter
        test).map (observe metric) →
          ∃ input ∈ inputs.posts, input.postId = observation.instagramPostId := by
    intro test observation hmem
    obtain ⟨input, hinput, rfl⟩ := mem_map.mp hmem
    exact ⟨input, mem_of_mem_filter (mem_of_mem_filter (mem_of_mem_filter hinput)),
      rfl⟩
  obtain ⟨observation, hobservation, rfl⟩ := mem_map.mp h
  rcases mem_append.mp hobservation with hgroup | hcomparison
  · exact hobserved hgroup
  · exact hobserved hcomparison

private theorem HasUnchangedInputs.mem_comparablePosts
    (h : request.HasUnchangedInputs db context run)
    {postId : String} (hpost : postId ∈ request.comparablePosts db context run) :
    postId ∈ (request.analysedPosts db context run).map InstagramPost.id := by
  unfold comparablePosts at hpost
  obtain ⟨statistic, hstatistic, hmember⟩ := mem_flatMap.mp (mem_dedup.mp hpost)
  obtain ⟨comparisons, hcomparisons, candidate, hcandidate, hof⟩ := h statistic hstatistic
  obtain ⟨input, hinput, rfl⟩ := mem_comparison hcomparisons hcandidate
    ((hof.members postId).mp hmember)
  exact mem_inputs hinput

private theorem HasUnchangedInputs.length_comparablePosts
    (h : request.HasUnchangedInputs db context run) :
    (request.comparablePosts db context run).length =
      ((request.analysedPosts db context run).filter
        fun post => decide (post.id ∈ request.comparablePosts db context run)).length := by
  have hfiltered : (((request.analysedPosts db context run).filter fun post =>
      decide (post.id ∈ request.comparablePosts db context run)).map InstagramPost.id).Nodup :=
    (filter_sublist.map _).nodup nodup_analysedPosts
  rw [← length_map (f := InstagramPost.id)]
  refine Perm.length_eq ((perm_ext_iff_of_nodup (nodup_dedup _) hfiltered).mpr ?_)
  intro postId
  constructor
  · intro hpost
    obtain ⟨post, hmem, rfl⟩ := mem_map.mp (h.mem_comparablePosts hpost)
    exact mem_map_of_mem (mem_filter.mpr ⟨hmem, decide_eq_true hpost⟩)
  · intro hpost
    obtain ⟨post, hmem, rfl⟩ := mem_map.mp hpost
    exact of_decide_eq_true (mem_filter.mp hmem).2

private theorem counts_of_loaded (hrun : request.activeRun db context = some run)
    (hloaded : loadStrategyEvidenceCandidates db context request = some loaded) :
    loaded.counts =
      { analysedPostCount :=
          ((request.analysedPosts db context run).take (strategyManifestPostCap * 4)).length
        comparablePostCount := (request.comparablePosts db context run).length
        publicationWeekCount := countPublicationWeeks
          (((request.analysedPosts db context run).take (strategyManifestPostCap * 4)).map
            InstagramPost.publishedAt) } := by
  unfold loadStrategyEvidenceCandidates at hloaded
  rw [hrun, Option.map_some, Option.some.injEq] at hloaded
  rw [← hloaded, countPublicationWeeks, map_map]
  rfl

/-- **When the counts of a strategy are true.** Of a run whose inputs are unchanged, the analysed
posts, those of them with a comparable value and the weeks of all of them are counted as they are
exactly if there are no more analysed posts than a strategy reads. -/
theorem counts_are_true_iff (db : StrategyEvidenceTables) (context : WorkspaceContext)
    (request : StrategyEvidenceRequest) (run : AccountAnalyticsRun)
    (loaded : StrategyEvidenceCandidates) (hrun : request.activeRun db context = some run)
    (hunchanged : request.HasUnchangedInputs db context run)
    (hloaded : loadStrategyEvidenceCandidates db context request = some loaded) :
    request.CountsAreTrue db context run loaded.counts ↔
      (request.analysedPosts db context run).length ≤ strategyManifestPostCap * 4 := by
  have hcomparable := hunchanged.length_comparablePosts
  have hfilter : ((request.analysedPosts db context run).filter fun post =>
      decide (post.id ∈ request.comparablePosts db context run)).length ≤
        (request.analysedPosts db context run).length := length_filter_le _ _
  rw [counts_of_loaded hrun hloaded]
  constructor
  · intro h
    have hanalysed : ((request.analysedPosts db context run).take
        (strategyManifestPostCap * 4)).length = (request.analysedPosts db context run).length :=
      h.analysed
    rw [length_take] at hanalysed
    omega
  · intro hle
    rw [take_of_length_le hle]
    exact ⟨rfl, hcomparable, hcomparable.trans_le hfilter, rfl⟩

end StrategyEvidenceRequest

/-! ### Two measured posts, and many posts -/

namespace CoverageSample

open StrategyEvidenceRequest

def request : StrategyEvidenceRequest := ⟨[], some "a", [], .engagementCount⟩

/-- The run of the account, over the time in which its posts were published. -/
def run : AccountAnalyticsRun :=
  { PooledQuestion.Sample.run with instagramAccountId := some "a", publishedTo := 1000000 }

/-- A post of the account. -/
def post (id : String) (videoId : Utf16) (publishedAt : ℤ) : InstagramPost :=
  { PooledQuestion.Sample.post id "a" id publishedAt with providerMediaId := videoId }

def statistic : PublishedStatistic where
  id := "question"
  workspaceId := "w"
  classificationReason := "below_minimum_samples"
  comparisonCount := 1
  confidence := .insufficientEvidence
  featurePath := "content.hook.category"
  featureValue := "question"
  groupCount := 1
  members := ["p", "q"]
  metric := "engagement_count"
  relativeEffect := none
  sensitivityHoldsDirection := none
  topContributorShare := none

/-- Two posts with their snapshots, and the statistic of which they are the members. -/
def measured : StrategyEvidenceTables where
  posts := ⟨[post "p" [86] 1000, post "q" [87] 2000], by decide⟩
  analyses := [{ PooledQuestion.Sample.analysis "p" with hookCategory := some "question" },
    { PooledQuestion.Sample.analysis "q" with hookCategory := some "story" }]
  snapshots := ⟨[PooledQuestion.Sample.snapshot,
    { PooledQuestion.Sample.snapshot with id := "t", instagramPostId := "q" }], by decide⟩
  runs := ⟨[run], by decide⟩
  published := ⟨[⟨"w", "r", "question"⟩], by decide⟩
  statistics := [statistic]
  generations := []
  dossierBody := fun _ => none

private theorem activeRun_measured : request.activeRun measured ⟨"w"⟩ = some run := by decide

/-- Its statistic is of what the posts are compared by. -/
theorem unchanged_measured : request.HasUnchangedInputs measured ⟨"w"⟩ run := by
  have hpublished : request.publishedStatistics measured ⟨"w"⟩ run = [statistic] := rfl
  have hrequest : (buildFeatureRequest (request.scope run) run.ageWindow
      (loadAnalyticsInputs measured.toAnalyticsTables ⟨"w"⟩ (request.scope run) run.ageWindow)
        .engagementCount).isSome = true := by decide +kernel
  obtain ⟨comparisons, hcomparisons⟩ := Option.isSome_iff_exists.mp hrequest
  have hmetric : ((buildFeatureRequest (request.scope run) run.ageWindow
      (loadAnalyticsInputs measured.toAnalyticsTables ⟨"w"⟩ (request.scope run) run.ageWindow)
        .engagementCount).map FeatureStatisticRequest.metric) = some "engagement_count" := by
    decide +kernel
  have hcandidates : ∃ candidate ∈ ((buildFeatureRequest (request.scope run) run.ageWindow
      (loadAnalyticsInputs measured.toAnalyticsTables ⟨"w"⟩ (request.scope run) run.ageWindow)
        .engagementCount).map FeatureStatisticRequest.candidates).getD [],
      candidate.featurePath = "content.hook.category" ∧ candidate.featureValue = "question" ∧
        (candidate.group ++ candidate.comparison).map FeatureObservation.instagramPostId =
          ["p", "q"] := by
    decide +kernel
  rw [hcomparisons] at hmetric hcandidates
  obtain ⟨candidate, hcandidate, hpath, hvalue, hmembers⟩ := hcandidates
  intro other hother
  rw [hpublished] at hother
  obtain rfl := mem_singleton.mp hother
  refine ⟨comparisons, mem_filterMap.mpr ⟨.engagementCount, by decide, hcomparisons⟩,
    candidate, hcandidate, (Option.some.inj hmetric).symm, hpath.symm, hvalue.symm, ?_⟩
  intro postId
  rw [hmembers]
  rfl

def loaded : StrategyEvidenceCandidates :=
  (loadStrategyEvidenceCandidates measured ⟨"w"⟩ request).get (by decide)

/-- One of many posts, each published a second after the one before it. -/
def later (n : ℕ) : InstagramPost := post (toString n) (List.replicate n 80) (1000 * n)

/-- So many posts and their analyses, of which no statistic is published. -/
def many (count : ℕ) : StrategyEvidenceTables where
  posts := ⟨(List.range count).map later, by
    refine Schema.violation_eq_none.mpr ⟨fun _ _ => rfl, ?_⟩
    rw [pairwise_map]
    refine nodup_range.imp fun {n m} hne => Schema.collision_eq_none.mpr ?_
    have hvideo : List.replicate n (80 : UInt16) ≠ List.replicate m 80 := fun hsame =>
      hne (by simpa using congrArg List.length hsame)
    simp [instagramPostSchema, later, post, PooledQuestion.Sample.post, hne, hvideo]⟩
  analyses := (List.range count).map fun n => PooledQuestion.Sample.analysis (toString n)
  snapshots := ⟨[], Schema.violation_nil _⟩
  runs := ⟨[run], by decide⟩
  published := ⟨[], Schema.violation_nil _⟩
  statistics := []
  generations := []
  dossierBody := fun _ => none

/-- Each of them is an analysed post of the account. -/
theorem length_analysedPosts_many {count : ℕ} (hcount : count ≤ 1000) :
    (request.analysedPosts (many count) ⟨"w"⟩ run).length = count := by
  have hselected : ∀ row ∈ (many count).posts.rows,
      (request.scope run).selects (many count).toAnalyticsTables ⟨"w"⟩ row = true := by
    intro row hrow
    obtain ⟨n, hn, rfl⟩ := mem_map.mp hrow
    have hlt := mem_range.mp hn
    have hsome : ((many count).currentAnalysis (later n)).isSome = true := by
      refine List.find?_isSome.mpr ⟨PooledQuestion.Sample.analysis (toString n),
        mem_map_of_mem hn, ?_⟩
      simp [PooledQuestion.Sample.analysis, later, post, PooledQuestion.Sample.post]
    obtain ⟨analysis, hanalysis⟩ := Option.isSome_iff_exists.mp hsome
    have heligible : analysis.analyticsEligible = true := by
      obtain ⟨m, -, rfl⟩ := mem_map.mp (mem_of_find?_eq_some hanalysis)
      rfl
    have hperiod : (0 : ℤ) ≤ 1000 * n ∧ 1000 * (n : ℤ) ≤ 1000000 := by omega
    have haccount : request.account = some "a" := by decide
    unfold AnalyticsScope.selects
    rw [hanalysis, Option.any_some, heligible]
    simp [later, post, PooledQuestion.Sample.post, scope, haccount, run,
      PooledQuestion.Sample.run, hperiod]
  unfold analysedPosts AnalyticsTables.newestPosts
  rw [filter_eq_self.mpr hselected, length_insertionSort]
  simp [many]

private theorem activeRun_many (count : ℕ) : request.activeRun (many count) ⟨"w"⟩ = some run := rfl

private theorem unchanged_many (count : ℕ) : request.HasUnchangedInputs (many count) ⟨"w"⟩ run := by
  intro statistic hstatistic
  cases hstatistic

end CoverageSample

open CoverageSample

/-- The counts of the two posts. -/
theorem counts_of_two_posts :
    CoverageSample.request.CountsAreTrue CoverageSample.measured ⟨"w"⟩ CoverageSample.run
        CoverageSample.loaded.counts ↔
      (CoverageSample.request.analysedPosts CoverageSample.measured ⟨"w"⟩
        CoverageSample.run).length ≤ strategyManifestPostCap * 4 :=
  StrategyEvidenceRequest.counts_are_true_iff measured ⟨"w"⟩ request
    run loaded activeRun_measured
    unchanged_measured (Option.some_get _).symm

/-- **A post that the coverage does not mention.** Of 241 analysed posts 240 are counted. -/
theorem oldest_post_is_not_counted : ¬ ∀ (db : StrategyEvidenceTables) (context : WorkspaceContext)
    (request : StrategyEvidenceRequest) (run : AccountAnalyticsRun)
    (loaded : StrategyEvidenceCandidates), request.activeRun db context = some run →
    request.HasUnchangedInputs db context run →
    loadStrategyEvidenceCandidates db context request = some loaded →
      request.CountsAreTrue db context run loaded.counts := by
  intro h
  obtain ⟨loaded, hloaded⟩ : ∃ loaded, loadStrategyEvidenceCandidates (many 241)
      ⟨"w"⟩ request = some loaded := ⟨_, rfl⟩
  have htrue := (h _ _ _ _ loaded (activeRun_many 241)
    (unchanged_many 241) hloaded).analysed
  have hlength : (request.analysedPosts (many 241) ⟨"w"⟩
      run).length = 241 := length_analysedPosts_many (by decide)
  rw [StrategyEvidenceRequest.counts_of_loaded (activeRun_many 241) hloaded,
    length_take, hlength] at htrue
  exact absurd htrue (by decide)

end ContentAutomation
