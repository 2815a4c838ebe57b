import ContentAutomation.Strategy.Candidates

/-!
# Whether a strategy may be asked for

A scope with enough analysed posts, over enough weeks, argues from evidence; one with fewer may
explore, where the caller accepts that. What a request freezes is the manifest of the evidence of
its scope, in the mode that its counts allow.
-/

namespace ContentAutomation

/-- `strategyEligibilityThresholds`: analyses, comparable posts and weeks of publication. -/
def strategyEligibilityThresholds : StrategyEvidenceCounts where
  analysedPostCount := 10
  comparablePostCount := 8
  publicationWeekCount := 4

/-- `StrategyRefusalReason`. -/
inductive StrategyRefusalReason
  | accountNotFound | noAnalysedPosts | noActiveCalculation | staleCalculation
  | metricNotComparable | exploratoryNotConfirmed

/-- `StrategyRequestScope`. -/
inductive StrategyRequestScope
  | account (instagramAccountId : String)
  | pooled

/-- `StrategyEligibilityInput`. -/
structure StrategyEligibilityInput where
  acceptExploratory : Bool
  activeRunId : Option String
  counts : StrategyEvidenceCounts
  analyticsDirty : Bool
  primaryMetric : String
  /-- None when the caller named an account this workspace does not have. -/
  scope : Option StrategyRequestScope

/-- `StrategyEligibility`. -/
inductive StrategyEligibility
  | eligible (mode : StrategyMode)
  | refused (mode : Option StrategyMode) (reason : StrategyRefusalReason)

/-- `evaluateStrategyEligibility`. -/
def evaluateStrategyEligibility (input : StrategyEligibilityInput) : StrategyEligibility :=
  if input.scope = none then .refused none .accountNotFound
  else if !(derivedMetrics.map word).contains input.primaryMetric then
    .refused none .metricNotComparable
  else if input.counts.analysedPostCount = 0 then .refused none .noAnalysedPosts
  else if input.activeRunId = none then .refused none .noActiveCalculation
  else if input.analyticsDirty then .refused none .staleCalculation
  else if strategyEligibilityThresholds.analysedPostCount ≤ input.counts.analysedPostCount ∧
      strategyEligibilityThresholds.comparablePostCount ≤ input.counts.comparablePostCount ∧
      strategyEligibilityThresholds.publicationWeekCount ≤ input.counts.publicationWeekCount then
    .eligible .evidenceLed
  else if !input.acceptExploratory then .refused (some .exploratory) .exploratoryNotConfirmed
  else .eligible .exploratory

/-- What `resolveScope` finds for the scope that a caller names. -/
structure ResolvedScope where
  analyticsDirty : Bool
  scope : StrategyRequestScope

section Freezing

variable (platform : EvidencePlatform) (db : StrategyEvidenceTables) (context : WorkspaceContext)
  (resolved : Option ResolvedScope) (input : StrategyRequestInput)

/-- `countAnalysedPosts`. -/
def countAnalysedPosts (instagramAccountId : Option String) : ℕ :=
  db.posts.rows.countP fun post =>
    (db.currentAnalysis post).any AnalysisFeatureRow.analyticsEligible &&
      post.workspaceId == context.workspaceId &&
      instagramAccountId.all fun id => post.instagramAccountId == uuidText id

/-- `readEligibility`. -/
def readEligibility : StrategyEligibility × Option StrategyEvidenceCandidates :=
  match resolved with
  | none =>
    (evaluateStrategyEligibility ⟨input.acceptExploratory, none, ⟨0, 0, 0⟩, false,
      word input.primaryMetric, none⟩, none)
  | some found =>
    let loaded := loadStrategyEvidenceCandidates db context
      ⟨[], input.instagramAccountId, [], input.primaryMetric⟩
    let counts := (loaded.map StrategyEvidenceCandidates.counts).getD
      ⟨countAnalysedPosts db context input.instagramAccountId, 0, 0⟩
    (evaluateStrategyEligibility ⟨input.acceptExploratory,
      loaded.map StrategyEvidenceCandidates.analyticsRunId, counts, found.analyticsDirty,
      word input.primaryMetric, some found.scope⟩, loaded)

/-- The request for evidence with the emphasis that is asked for. -/
def emphasisedRequest : StrategyEvidenceRequest where
  formatEmphasis := input.formatEmphasis
  instagramAccountId := input.instagramAccountId
  pillarEmphasis := input.pillarEmphasis
  primaryMetric := input.primaryMetric

/-- The manifest that `requestStrategyGeneration` freezes, where it does not refuse. -/
def frozenStrategyManifest : Option FrozenStrategyManifest :=
  match readEligibility db context resolved input with
  | (.eligible mode, some _) =>
    (loadStrategyEvidenceCandidates db context (emphasisedRequest input)).map fun withEmphasis =>
      buildStrategyManifest platform withEmphasis mode input
  | _ => none

end Freezing

end ContentAutomation
