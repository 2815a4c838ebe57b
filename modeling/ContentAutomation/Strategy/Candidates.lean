import ContentAutomation.Analytics.FeatureFamily
import ContentAutomation.Analytics.Inputs
import ContentAutomation.Strategy.Request

/-!
# Candidates for evidence

The records that a strategy may argue from, read before any cap is applied: the statistics that
the active run of a scope publishes, the newest analysed posts of the run's period, earlier
strategies, and how much of the scope could be seen. The scope of no account reads the posts of
every account, and of a video that several of them have published every copy.
-/

namespace ContentAutomation

open Relational FirstCopies

/-! ### Records -/

/-- A row of `account_feature_statistics`, as evidence reads it, with the posts of its members. -/
structure PublishedStatistic where
  id : String
  workspaceId : String
  classificationReason : String
  comparisonCount : ℕ
  confidence : ConfidenceClass
  featurePath : String
  featureValue : String
  groupCount : ℕ
  members : List String
  metric : String
  relativeEffect : Option ℚ
  sensitivityHoldsDirection : Option Bool
  topContributorShare : Option ℚ

/-- A strategy that was generated earlier. -/
structure PriorGeneration where
  id : String
  workspaceId : String
  instagramAccountId : Option String
  mode : StrategyMode
  requestedAt : ℤ
  state : StrategyGenerationState

/-- The tables that evidence is read of, with the body of the dossier of a post, if one is
read. -/
structure StrategyEvidenceTables extends AnalyticsTables where
  runs : Table accountAnalyticsRunSchema
  published : Table accountAnalyticsRunStatisticSchema
  statistics : List PublishedStatistic
  generations : List PriorGeneration
  dossierBody : String → Option String

/-- `StrategyEvidenceRequest`. -/
structure StrategyEvidenceRequest where
  formatEmphasis : List String
  /-- One account, or none for all linked accounts. -/
  instagramAccountId : Option String
  pillarEmphasis : List String
  primaryMetric : DerivedMetric

/-! ### Texts -/

/-- `featureDimensions`. -/
def featureDimensions : List (String × StrategyClaimDimension) :=
  [("callToAction.type", .cta), ("content.contentFormat", .format),
    ("content.contentPillar", .contentPillar), ("content.durationBand", .duration),
    ("content.hook.category", .hook), ("content.presenterMode", .presenterMode)]

/-- `dimensionFor`. -/
def dimensionFor (featurePath : String) : List StrategyClaimDimension :=
  [(featureDimensions.lookup featurePath).getD .other]

/-- `evidenceClasses`. -/
def evidenceClasses : ConfidenceClass → StrategyEvidenceClass
  | .insufficientEvidence => .insufficientEvidence
  | .moderateAssociation => .moderateAssociation
  | .singlePostOutlier => .singlePostOutlier
  | .statisticallySupportedAssociation => .statisticallySupportedAssociation
  | .weakDirectionalSignal => .weakDirectionalSignal

/-- `round(value, 1)`: `toFixed` to one place, a tie going away from zero. -/
def round (value : ℚ) : String :=
  let tenths := ⌊|value| * 10 + 1 / 2⌋.toNat
  (if value < 0 then "-" else "") ++ toString (tenths / 10) ++ "." ++ toString (tenths % 10)

/-- A share as a percentage, to one place. -/
def percentage (share : ℚ) : String := round (Binary64.nearest (share * 100)) ++ "%"

/-- The day of an instant. -/
def publishedDay (instant : ℤ) : String := Calendar.sliceFirst 10 (Calendar.toISOString instant)

/-- `isoWeek`: the number of the week of an instant. -/
def isoWeekNumber (instant : ℤ) : ℤ :=
  let utc := utcDays (Calendar.dateOf (instant / Calendar.dayMilliseconds))
  let day := if (utc + 4) % 7 = 0 then 7 else (utc + 4) % 7
  let utc := utc + 4 - day
  let yearStart := utcDays ⟨(Calendar.dateOf utc).year, 1, 1⟩
  (utc - yearStart + 7) / 7

/-- The key of the week of an instant. -/
def publicationWeek (instant : ℤ) : String :=
  toString (Calendar.dateOf (instant / Calendar.dayMilliseconds)).year ++ "-" ++
    toString (isoWeekNumber instant)

/-! ### Candidates -/

/-- `strategyEvidenceRecentPosts`. -/
def strategyEvidenceRecentPosts : ℕ := strategyManifestPostCap

/-- The candidate of a statistic. -/
def statisticCandidate (statistic : PublishedStatistic) : StrategyEvidenceCandidate :=
  let effect := statistic.relativeEffect.map Binary64.nearest
  let classification := evidenceClasses statistic.confidence
  let undercuts := statistic.sensitivityHoldsDirection == some false ||
    classification == .singlePostOutlier ||
    statistic.topContributorShare.any fun share => decide (1 / 2 < Binary64.nearest share)
  { allowedNumericClaims := effect.toList.map fun effect => percentage |effect|
    allowedRoles := if undercuts then [.counterexample, .context] else [.supporting, .context]
    category :=
      if undercuts then .counterexample
      else if effect.any fun effect => decide (effect < 0) then .negativeStatistic
      else .positiveStatistic
    classification := some classification
    dimensions := dimensionFor statistic.featurePath
    evidenceType := .featureStatistic
    postIds := statistic.members
    rankScore := effect.map abs
    referenceId := some statistic.id
    requiredInLimitations := false
    retrievalReason :=
      if undercuts then "sensitivity_or_outlier" else statistic.classificationReason
    sampleSize := some statistic.groupCount
    summaryText := statistic.featurePath ++ "=" ++ statistic.featureValue ++ " on " ++
      statistic.metric ++ ": " ++
      (match effect with
        | none => "no comparable effect"
        | some effect => percentage effect ++ " vs comparison") ++
      "; group " ++ toString statistic.groupCount ++ ", comparison " ++
      toString statistic.comparisonCount }

/-- The candidate of a post, which is the one at an index. A post without an analysis has none. -/
def postCandidate (db : StrategyEvidenceTables) (request : StrategyEvidenceRequest)
    (post : InstagramPost) (index : ℕ) : Option StrategyEvidenceCandidate :=
  (db.currentAnalysis post).map fun analysis =>
    let emphasised := analysis.contentPillar.any request.pillarEmphasis.contains ||
      analysis.contentFormat.any request.formatEmphasis.contains
    { allowedNumericClaims := []
      allowedRoles := [.context]
      category := if emphasised then .comparatorPost else .recentPost
      classification := none
      dimensions := [.contentPillar]
      evidenceType := .post
      postIds := [post.id]
      rankScore := some (-index)
      referenceId := some post.id
      requiredInLimitations := false
      retrievalReason := if emphasised then "requested_emphasis" else "most_recent"
      sampleSize := none
      summaryText := (db.dossierBody post.id).getD
        ("published " ++ publishedDay post.publishedAt ++ "; pillar " ++
          analysis.contentPillar.getD "unknown" ++ "; format " ++
          analysis.contentFormat.getD "unknown" ++ "; hook " ++
          analysis.hookCategory.getD "unknown") }

/-- The candidate of an earlier strategy, which is the one at an index. -/
def generationCandidate (generation : PriorGeneration) (index : ℕ) : StrategyEvidenceCandidate where
  allowedNumericClaims := []
  allowedRoles := [.context]
  category := .recentStrategy
  classification := none
  dimensions := []
  evidenceType := .recentRecommendation
  postIds := []
  rankScore := some (-index)
  referenceId := some generation.id
  requiredInLimitations := false
  retrievalReason := "recent_strategy"
  sampleSize := none
  summaryText := "a " ++ word generation.mode ++ " strategy was generated on " ++
    publishedDay generation.requestedAt

/-- The candidate that says how much of the scope could be seen. -/
def coverageCandidate (run : AccountAnalyticsRun) (request : StrategyEvidenceRequest)
    (analysed comparable : ℕ) : StrategyEvidenceCandidate where
  allowedNumericClaims := [toString analysed, toString comparable]
  allowedRoles := [.limitation]
  category := .dataQuality
  classification := none
  dimensions := []
  evidenceType := .dataQuality
  postIds := []
  rankScore := none
  referenceId := none
  requiredInLimitations := true
  retrievalReason := "coverage_summary"
  sampleSize := some analysed
  summaryText := toString comparable ++ " of " ++ toString analysed ++
    " analysed posts had a comparable value for " ++ word request.primaryMetric ++ " in the " ++
    run.ageWindow.key ++ " observation window"

/-! ### Loading -/

namespace StrategyEvidenceRequest

variable (db : StrategyEvidenceTables) (context : WorkspaceContext)
  (request : StrategyEvidenceRequest)

/-- The account of the request, as a column of identifiers compares it. -/
def account : Option String := request.instagramAccountId.map uuidText

def activeRun : Option AccountAnalyticsRun :=
  db.runs.rows.find? fun row => row.instagramAccountId == request.account &&
    row.state == .active && row.workspaceId == context.workspaceId

/-- The statistics of the primary metric that a run publishes. -/
def publishedStatistics (run : AccountAnalyticsRun) : List PublishedStatistic :=
  (db.published.rows.filter fun row =>
    row.runId == run.id && row.workspaceId == context.workspaceId).filterMap fun row =>
      db.statistics.find? fun statistic => statistic.id == row.statisticId &&
        statistic.workspaceId == row.workspaceId && statistic.metric == word request.primaryMetric

/-- The scope of the analysed posts: every account, where none is named. -/
def scope (run : AccountAnalyticsRun) : AnalyticsScope where
  instagramAccountId := request.account
  publishedFrom := run.publishedFrom
  publishedTo := run.publishedTo

/-- The analysed posts that are read. -/
def posts (run : AccountAnalyticsRun) : List InstagramPost :=
  (db.newestPosts ((request.scope run).selects db.toAnalyticsTables context)).take
    (strategyManifestPostCap * 4)

/-- `comparablePosts`: the posts that are members of the statistics. -/
def comparablePosts (run : AccountAnalyticsRun) : List String :=
  ((request.publishedStatistics db context run).flatMap PublishedStatistic.members).dedup

/-- The candidates of the posts. -/
def postCandidates (run : AccountAnalyticsRun) : List StrategyEvidenceCandidate :=
  ((request.posts db context run).take strategyEvidenceRecentPosts).zipIdx.filterMap fun entry =>
    postCandidate db request entry.1 entry.2

def priorGenerations : List PriorGeneration :=
  ((db.generations.filter fun row => row.instagramAccountId == request.account &&
    row.state == .succeeded && row.workspaceId == context.workspaceId).insertionSort
      fun left right => right.requestedAt < left.requestedAt ∨
        left.requestedAt = right.requestedAt ∧ right.id ≤ left.id).take 3

end StrategyEvidenceRequest

/-- `loadStrategyEvidenceCandidates`. -/
def loadStrategyEvidenceCandidates (db : StrategyEvidenceTables) (context : WorkspaceContext)
    (request : StrategyEvidenceRequest) : Option StrategyEvidenceCandidates :=
  (request.activeRun db context).map fun run =>
    let posts := request.posts db context run
    let comparablePosts := request.comparablePosts db context run
    { ageWindow := run.ageWindow.key
      analyticsRunId := run.id
      candidates := (request.publishedStatistics db context run).map statisticCandidate ++
        request.postCandidates db context run ++
        (request.priorGenerations db context).zipIdx.map (fun entry =>
          generationCandidate entry.1 entry.2) ++
        [coverageCandidate run request posts.length comparablePosts.length]
      counts :=
        { analysedPostCount := posts.length
          comparablePostCount := comparablePosts.length
          publicationWeekCount := distinct (posts.map fun post =>
            publicationWeek post.publishedAt) }
      publishedFrom := run.publishedFrom
      publishedTo := run.publishedTo }

end ContentAutomation
