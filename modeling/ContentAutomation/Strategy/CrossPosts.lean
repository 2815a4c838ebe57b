import ContentAutomation.Strategy.Candidates

/-!
# Cross-posted videos

A video that several accounts have published is several posts. Where all accounts are taken
together, it should count once wherever a copy of it could be measured. The cohort and the inputs
keep the first copy that they read, before they know whether it has a value; the evidence of a
strategy keeps every copy. This file determines exactly when each of them counts each video once.
-/

namespace ContentAutomation

open Relational FirstCopies List InstagramPost

/-! ### The posts of the evidence -/

namespace StrategyEvidenceRequest

variable {db : StrategyEvidenceTables} {context : WorkspaceContext}
  {request : StrategyEvidenceRequest} {run : AccountAnalyticsRun} {post : InstagramPost}
  {loaded : StrategyEvidenceCandidates}

variable (db context request run) in
def eligible : List InstagramPost :=
  db.newestPosts ((request.scope run).selects db.toAnalyticsTables context)

variable (db context request run) in
/-- The post has a value of the primary metric in the window of the run. -/
def isComparable (post : InstagramPost) : Bool :=
  (loadPostMetricValue db.toAnalyticsTables context run.ageWindow request.primaryMetric
    post.id).isSome

variable (db context request run) in
/-- The post is a member of a statistic that the run publishes. -/
def IsMember (postId : String) : Prop :=
  ∃ statistic ∈ request.publishedStatistics db context run, postId ∈ statistic.members

/-- The posts of candidates for evidence that are posts. -/
def postEvidence (candidates : List StrategyEvidenceCandidate) : List String :=
  (candidates.filter fun candidate => candidate.evidenceType == .post).flatMap
    StrategyEvidenceCandidate.postIds

theorem currentAnalysis_isSome (h : post ∈ request.posts db context run) :
    (db.currentAnalysis post).isSome = true :=
  AnalyticsScope.currentAnalysis_isSome (mem_newestPosts.mp (mem_of_mem_take h)).2

theorem postEvidence_postCandidates (posts : List InstagramPost) (start : ℕ)
    (h : ∀ post ∈ posts, (db.currentAnalysis post).isSome = true) :
    postEvidence ((posts.zipIdx start).filterMap fun entry =>
      postCandidate db request entry.1 entry.2) = posts.map InstagramPost.id := by
  induction posts generalizing start with
  | nil => rfl
  | cons post posts ih =>
    obtain ⟨analysis, hanalysis⟩ := Option.isSome_iff_exists.mp (h post mem_cons_self)
    have hrest := ih (start + 1) fun other hother => h other (mem_cons_of_mem _ hother)
    have hcandidate : ∃ candidate, postCandidate db request post start = some candidate ∧
        candidate.evidenceType = .post ∧ candidate.postIds = [post.id] := by
      unfold postCandidate
      rw [hanalysis]
      exact ⟨_, rfl, rfl, rfl⟩
    obtain ⟨candidate, hsome, htype, hposts⟩ := hcandidate
    rw [zipIdx_cons, filterMap_cons]
    rw [hsome]
    unfold postEvidence at hrest ⊢
    rw [filter_cons_of_pos (by rw [htype]; rfl), flatMap_cons, hposts, hrest]
    rfl

private theorem postEvidence_eq_nil {candidates : List StrategyEvidenceCandidate}
    (h : ∀ candidate ∈ candidates, candidate.evidenceType ≠ .post) :
    postEvidence candidates = [] := by
  unfold postEvidence
  rw [filter_eq_nil_iff.mpr fun candidate hmem => by simpa using h candidate hmem]
  rfl

private theorem postEvidence_append (first second : List StrategyEvidenceCandidate) :
    postEvidence (first ++ second) = postEvidence first ++ postEvidence second := by
  unfold postEvidence
  rw [filter_append, flatMap_append]

/-- **The posts of the evidence** are the newest of the posts that are read. -/
theorem postEvidence_loaded (hrun : request.activeRun db context = some run)
    (hloaded : loadStrategyEvidenceCandidates db context request = some loaded) :
    postEvidence loaded.candidates =
      ((request.posts db context run).take strategyEvidenceRecentPosts).map InstagramPost.id := by
  have hposts : postEvidence (request.postCandidates db context run) =
      ((request.posts db context run).take strategyEvidenceRecentPosts).map InstagramPost.id :=
    postEvidence_postCandidates _ 0 fun post hpost =>
      currentAnalysis_isSome (mem_of_mem_take hpost)
  have hstatistics : postEvidence ((request.publishedStatistics db context run).map
      statisticCandidate) = [] := by
    refine postEvidence_eq_nil fun candidate hcandidate => ?_
    obtain ⟨statistic, -, rfl⟩ := mem_map.mp hcandidate
    exact fun h => nomatch h
  have hgenerations : postEvidence ((request.priorGenerations db context).zipIdx.map fun entry =>
      generationCandidate entry.1 entry.2) = [] := by
    refine postEvidence_eq_nil fun candidate hcandidate => ?_
    obtain ⟨entry, -, rfl⟩ := mem_map.mp hcandidate
    exact fun h => nomatch h
  have hcoverage : ∀ analysed comparable,
      postEvidence [coverageCandidate run request analysed comparable] = [] := fun _ _ => rfl
  unfold loadStrategyEvidenceCandidates at hloaded
  rw [hrun] at hloaded
  cases hloaded
  rw [postEvidence_append, postEvidence_append, postEvidence_append, hstatistics, hposts,
    hgenerations, hcoverage, nil_append, append_nil, append_nil]

private theorem filterMap_videoOf {posts : List InstagramPost} (h : posts ⊆ db.posts.rows) :
    (posts.map InstagramPost.id).filterMap db.videoOf = posts.map InstagramPost.providerMediaId := by
  rw [filterMap_map, ← filterMap_eq_map]
  exact filterMap_congr fun post hpost => videoOf_eq (h hpost)

end StrategyEvidenceRequest

/-! ### Pooled questions -/

/-- What is asked of all accounts together: a cohort, the inputs of a window, and the evidence of
a strategy. -/
structure PooledQuestion where
  kind : CohortKind
  cohort : CohortRequest
  scope : AnalyticsScope
  ageWindow : SnapshotAgeWindowKey
  strategy : StrategyEvidenceRequest
  cohort_pooled : cohort.instagramAccountId = none
  scope_pooled : scope.instagramAccountId = none
  strategy_pooled : strategy.instagramAccountId = none

namespace PooledQuestion

variable (db : StrategyEvidenceTables) (context : WorkspaceContext) (question : PooledQuestion)

/-- A strategy counts each video once: among the posts that it counts, in the evidence that is
posts, and among the posts that it counts as comparable. -/
structure StrategyCountsOnce (run : AccountAnalyticsRun) (loaded : StrategyEvidenceCandidates) :
    Prop where
  counts : loaded.counts.analysedPostCount = (question.strategy.posts db context run).length ∧
    loaded.counts.comparablePostCount =
      (question.strategy.comparablePosts db context run).length
  analysed : CountsOnce providerMediaId
    (fun post => isMeasured db.toAnalyticsTables context run.ageWindow post = true)
    (question.strategy.eligible db context run)
    ((question.strategy.posts db context run).map providerMediaId)
  evidence : CountsOnce providerMediaId
    (fun post => isMeasured db.toAnalyticsTables context run.ageWindow post = true)
    (question.strategy.eligible db context run)
    ((StrategyEvidenceRequest.postEvidence loaded.candidates).filterMap db.videoOf)
  comparable : CountsOnce (fun post : InstagramPost => some post.providerMediaId)
    (fun post => question.strategy.isComparable db context run post = true)
    (question.strategy.eligible db context run)
    ((question.strategy.comparablePosts db context run).map db.videoOf)

/-- **Each video counts once** that has an eligible copy with a value in the window, and no other
video does: in the cohort, among the inputs, and for the strategy. -/
structure CountsEachVideoOnce : Prop where
  cohort : CountsOnce providerMediaId
    (fun post => question.cohort.isMeasurable db.toAnalyticsTables context post = true)
    (question.cohort.eligible db.toAnalyticsTables context question.kind)
    ((loadCohort db.toAnalyticsTables context question.kind question.cohort).members.filterMap
      fun member => db.videoOf member.postId)
  inputs : CountsOnce providerMediaId
    (fun post => isMeasured db.toAnalyticsTables context question.ageWindow post = true)
    (db.newestPosts (question.scope.selects db.toAnalyticsTables context))
    ((loadAnalyticsInputs db.toAnalyticsTables context question.scope
      question.ageWindow).posts.filterMap fun input => db.videoOf input.postId)
  strategy : ∀ run loaded, question.strategy.activeRun db context = some run →
    loadStrategyEvidenceCandidates db context question.strategy = some loaded →
      question.StrategyCountsOnce db context run loaded

/-- What a strategy needs: the posts of its scope are all measured, of different videos and no
more than its evidence takes, and the run has compared one copy of each video with a value. -/
structure CopiesCompared (run : AccountAnalyticsRun) : Prop where
  few : (question.strategy.eligible db context run).length ≤ strategyEvidenceRecentPosts
  different :
    ((question.strategy.eligible db context run).map providerMediaId).Nodup
  measured : ∀ post ∈ question.strategy.eligible db context run,
    isMeasured db.toAnalyticsTables context run.ageWindow post = true
  compared : ∀ copy ∈ question.strategy.eligible db context run,
    question.strategy.isComparable db context run copy = true →
      ∃! postId, question.strategy.IsMember db context run postId ∧
        db.videoOf postId = some copy.providerMediaId
  members : ∀ postId, question.strategy.IsMember db context run postId →
    ∃ copy ∈ question.strategy.eligible db context run,
      some copy.providerMediaId = db.videoOf postId ∧
        question.strategy.isComparable db context run copy = true

/-- **The copies that are kept are measured.** -/
structure KeptCopiesMeasured : Prop where
  /-- Of each video with a copy that has a value, the first copy that the query for the cohort
  reads is not the focal post, has a value, and is within the limit of a recent cohort. -/
  cohort : ∀ copy ∈ question.cohort.eligible db.toAnalyticsTables context question.kind,
    question.cohort.isMeasurable db.toAnalyticsTables context copy = true →
      ∃ chosen ∈ question.cohort.posts context question.kind db.toAnalyticsTables,
        chosen.providerMediaId = copy.providerMediaId ∧
          question.cohort.isChosen db.toAnalyticsTables context question.kind chosen = true ∧
            question.cohort.isMeasurable db.toAnalyticsTables context chosen = true ∧
              (question.kind = .recent →
                ((question.cohort.posts context question.kind db.toAnalyticsTables).takeWhile
                  fun other => decide (other ≠ chosen)).countP
                    (question.cohort.isChosen db.toAnalyticsTables context question.kind) <
                      recentCohortPostLimit)
  /-- Of each video with a copy that has a value, the first copy that the query for the inputs
  reads has one. -/
  inputs : ∀ copy ∈ db.newestPosts (question.scope.selects db.toAnalyticsTables context),
    isMeasured db.toAnalyticsTables context question.ageWindow copy = true →
      ∃ first, IsFirst providerMediaId
          (question.scope.posts db.toAnalyticsTables context) first ∧
        first.providerMediaId = copy.providerMediaId ∧
          isMeasured db.toAnalyticsTables context question.ageWindow first = true
  strategy : ∀ run, question.strategy.activeRun db context = some run →
    question.CopiesCompared db context run

variable {db context question}

/-- A strategy counts each video once exactly if its posts are measured and compared so. -/
theorem strategyCountsOnce_iff {run : AccountAnalyticsRun} {loaded : StrategyEvidenceCandidates}
    (hrun : question.strategy.activeRun db context = some run)
    (hloaded : loadStrategyEvidenceCandidates db context question.strategy = some loaded) :
    question.StrategyCountsOnce db context run loaded ↔ question.CopiesCompared db context run := by
  have hcounts : loaded.counts.analysedPostCount =
        (question.strategy.posts db context run).length ∧
      loaded.counts.comparablePostCount =
        (question.strategy.comparablePosts db context run).length := by
    unfold loadStrategyEvidenceCandidates at hloaded
    rw [hrun] at hloaded
    cases hloaded
    exact ⟨rfl, rfl⟩
  have hevidence : (StrategyEvidenceRequest.postEvidence loaded.candidates).filterMap db.videoOf =
      ((question.strategy.eligible db context run).take strategyEvidenceRecentPosts).map
        providerMediaId := by
    rw [StrategyEvidenceRequest.postEvidence_loaded hrun hloaded]
    have htake : (question.strategy.posts db context run).take strategyEvidenceRecentPosts =
        (question.strategy.eligible db context run).take strategyEvidenceRecentPosts := by
      unfold StrategyEvidenceRequest.posts
      rw [take_take]
      rfl
    rw [htake]
    exact StrategyEvidenceRequest.filterMap_videoOf fun post hpost =>
      (mem_newestPosts.mp (mem_of_mem_take hpost)).1
  have htake : (CountsOnce providerMediaId
        (fun post => isMeasured db.toAnalyticsTables context run.ageWindow post = true)
        (question.strategy.eligible db context run)
        ((question.strategy.posts db context run).map providerMediaId) ∧
      CountsOnce providerMediaId
        (fun post => isMeasured db.toAnalyticsTables context run.ageWindow post = true)
        (question.strategy.eligible db context run)
        (((question.strategy.eligible db context run).take strategyEvidenceRecentPosts).map
          providerMediaId)) ↔ _ :=
    countsOnce_take_iff (show strategyEvidenceRecentPosts < strategyManifestPostCap * 4 by decide)
  have hmembers : CountsOnce (fun post : InstagramPost => some post.providerMediaId)
        (fun post => question.strategy.isComparable db context run post = true)
        (question.strategy.eligible db context run)
        ((question.strategy.comparablePosts db context run).map db.videoOf) ↔ _ :=
    countsOnce_dedup_iff
  simp only [mem_flatMap] at hmembers
  constructor
  · rintro ⟨-, hanalysed, hposts, hcomparable⟩
    rw [hevidence] at hposts
    obtain ⟨hfew, hdifferent, hmeasured⟩ := htake.mp ⟨hanalysed, hposts⟩
    obtain ⟨hcompared, hall⟩ := hmembers.mp hcomparable
    exact ⟨hfew, hdifferent, hmeasured, hcompared, hall⟩
  · rintro ⟨hfew, hdifferent, hmeasured, hcompared, hall⟩
    obtain ⟨hanalysed, hposts⟩ := htake.mpr ⟨hfew, hdifferent, hmeasured⟩
    refine ⟨hcounts, hanalysed, ?_, hmembers.mpr ⟨hcompared, hall⟩⟩
    rw [hevidence]
    exact hposts

/-- **Each video counts once exactly if the copies that are kept are measured.** -/
theorem countsEachVideoOnce_iff (db : StrategyEvidenceTables) (context : WorkspaceContext)
    (question : PooledQuestion) :
    question.CountsEachVideoOnce db context ↔ question.KeptCopiesMeasured db context := by
  constructor
  · rintro ⟨hmembers, hposts, hstrategy⟩
    refine ⟨CohortRequest.countsOnce_members_iff.mp hmembers,
      (AnalyticsScope.countsOnce_inputs_iff question.scope_pooled).mp hposts, ?_⟩
    intro run hrun
    obtain ⟨loaded, hloaded⟩ : ∃ loaded,
        loadStrategyEvidenceCandidates db context question.strategy = some loaded := by
      unfold loadStrategyEvidenceCandidates
      rw [hrun]
      exact ⟨_, rfl⟩
    exact (strategyCountsOnce_iff hrun hloaded).mp (hstrategy run loaded hrun hloaded)
  · rintro ⟨hmembers, hposts, hstrategy⟩
    refine ⟨CohortRequest.countsOnce_members_iff.mpr hmembers,
      (AnalyticsScope.countsOnce_inputs_iff question.scope_pooled).mpr hposts, ?_⟩
    intro run loaded hrun hloaded
    exact (strategyCountsOnce_iff hrun hloaded).mpr (hstrategy run hrun)

/-! ### A video of two accounts -/

namespace Sample

/-- A copy of the video. -/
def post (id account analysis : String) (publishedAt : ℤ) : InstagramPost where
  id := id
  workspaceId := "w"
  instagramAccountId := account
  mediaKind := .video
  publishedAt := publishedAt
  currentAnalysisId := some analysis
  providerMediaId := [86]

/-- The analysis of a copy. -/
def analysis (id : String) : AnalysisFeatureRow where
  id := id
  workspaceId := "w"
  analyticsEligible := true
  contentFormat := none
  contentPillar := none
  ctaType := none
  durationSeconds := none
  hookCategory := none
  presenterMode := none

/-- A snapshot of the older copy, a week after it was published. -/
def snapshot : InstagramMetricSnapshot where
  id := "s"
  workspaceId := "w"
  instagramPostId := "p"
  capturedAt := 604801000
  postAgeSeconds := 604800
  ageBucket := .day7
  apiVersion := "v23.0"
  values := [(.likes, 4), (.comments, 3), (.shares, 2), (.saves, 1)]
  availability := [.likes, .comments, .shares, .saves].map fun canonical =>
    (canonical, ⟨.available, none, none, none, none, some .count⟩)
  followerCount := none
  rawPayloadHash := "h"

def run : AccountAnalyticsRun where
  id := "r"
  workspaceId := "w"
  instagramAccountId := none
  state := .active
  ageWindow := .day7
  publishedFrom := 0
  publishedTo := 5000
  inputFingerprint := "f"
  statisticCount := 0
  analysisCount := 0
  startedAt := 604802000
  activatedAt := some 604803000
  durationMs := some 1000
  failureCode := none

/-- Two copies of one video, of which the newer one has no snapshot. -/
def tables : StrategyEvidenceTables where
  posts := ⟨[post "p" "a" "x" 1000, post "q" "b" "y" 2000], by decide⟩
  analyses := [analysis "x", analysis "y"]
  snapshots := ⟨[snapshot], by decide⟩
  runs := ⟨[run], by decide⟩
  published := ⟨[], Schema.violation_nil _⟩
  statistics := []
  generations := []
  dossierBody := fun _ => none

def bothAccounts : PooledQuestion where
  kind := .account
  cohort := ⟨.day7, none, none, none, .engagementCount, 0, 5000⟩
  scope := ⟨none, 0, 5000⟩
  ageWindow := .day7
  strategy := ⟨[], none, [], .engagementCount⟩
  cohort_pooled := rfl
  scope_pooled := rfl
  strategy_pooled := rfl

/-- The older copy has a value, the cohort and the inputs have no post of the video, and the
strategy counts it twice. -/
theorem newer_copy_hides_older_copy :
    bothAccounts.cohort.isMeasurable tables.toAnalyticsTables ⟨"w"⟩ (post "p" "a" "x" 1000) = true ∧
      (loadCohort tables.toAnalyticsTables ⟨"w"⟩ bothAccounts.kind bothAccounts.cohort).members = [] ∧
      (loadAnalyticsInputs tables.toAnalyticsTables ⟨"w"⟩ bothAccounts.scope
        bothAccounts.ageWindow).posts.length = 0 ∧
      (loadStrategyEvidenceCandidates tables ⟨"w"⟩ bothAccounts.strategy).map (fun loaded =>
        (loaded.counts.analysedPostCount, StrategyEvidenceRequest.postEvidence loaded.candidates)) =
          some (2, ["q", "p"]) ∧
      ¬ bothAccounts.CountsEachVideoOnce tables ⟨"w"⟩ := by
  have hvalue : bothAccounts.cohort.isMeasurable tables.toAnalyticsTables ⟨"w"⟩
      (post "p" "a" "x" 1000) = true := by decide +kernel
  have hmembers : (loadCohort tables.toAnalyticsTables ⟨"w"⟩ bothAccounts.kind
      bothAccounts.cohort).members = [] := by decide
  refine ⟨hvalue, hmembers, by decide, by decide, ?_⟩
  intro hcounts
  have heligible : post "p" "a" "x" 1000 ∈
      bothAccounts.cohort.eligible tables.toAnalyticsTables ⟨"w"⟩ bothAccounts.kind := by decide
  have honce := hcounts.cohort.once _ heligible hvalue
  rw [hmembers] at honce
  exact absurd honce (by decide)

end Sample

end PooledQuestion

end ContentAutomation
