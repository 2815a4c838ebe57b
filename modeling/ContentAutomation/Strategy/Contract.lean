import ContentAutomation.Library.Shape
import ContentAutomation.Library.Text
import ContentAutomation.Strategy.Evidence

/-!
# The contract of a strategy

The document that a model writes for a strategy: its claims, its experiments, its allocations and
its recommendations, each with the references to the manifest that it argues from. The schema
bounds every text and every list of it.
-/

namespace ContentAutomation

open Utf16 Shape

/-! ### The vocabulary of the document -/

/-- `analysisTaxonomy.contentPillar`. -/
inductive ContentPillar
  | educationAndInsight | workAndCaseStudies | processAndCraft | studioAndTeam | offerAndConversion
  | other | unknown
  deriving DecidableEq

/-- `analysisTaxonomy.contentFormat`. -/
inductive ContentFormat
  | educational | opinion | story | caseStudy | entertainment | behindTheScenes | promotional
  | announcement | interview | mixed | other | unknown
  deriving DecidableEq

/-- `analysisTaxonomy.ctaType`. -/
inductive CtaType
  | follow | comment | share | save | directMessage | visitProfile | visitLink | buyOrBook
  | watchNext | softEngagement | none | other | unknown
  deriving DecidableEq

/-- `strategyTaxonomy.canonicalMetric`. -/
inductive CanonicalMetric
  | reach | views | plays | likes | comments | shares | saves | profileVisits | follows
  | totalWatchTimeMs | averageWatchTimeMs | derived (metric : DerivedMetric)
  deriving DecidableEq

/-- `strategyTaxonomy.observationWindow`. -/
inductive ObservationWindow
  | oneHour | oneDay | threeDays | sevenDays | thirtyDays | mature
  deriving DecidableEq

instance : Vocabulary ContentPillar where
  word
    | .educationAndInsight => "education_and_insight"
    | .workAndCaseStudies => "work_and_case_studies"
    | .processAndCraft => "process_and_craft"
    | .studioAndTeam => "studio_and_team"
    | .offerAndConversion => "offer_and_conversion"
    | .other => "other"
    | .unknown => "unknown"
  all := [.educationAndInsight, .workAndCaseStudies, .processAndCraft, .studioAndTeam,
    .offerAndConversion, .other, .unknown]
  complete member := by cases member <;> decide
  distinct := by decide

instance : Vocabulary ContentFormat where
  word
    | .educational => "educational"
    | .opinion => "opinion"
    | .story => "story"
    | .caseStudy => "case_study"
    | .entertainment => "entertainment"
    | .behindTheScenes => "behind_the_scenes"
    | .promotional => "promotional"
    | .announcement => "announcement"
    | .interview => "interview"
    | .mixed => "mixed"
    | .other => "other"
    | .unknown => "unknown"
  all := [.educational, .opinion, .story, .caseStudy, .entertainment, .behindTheScenes,
    .promotional, .announcement, .interview, .mixed, .other, .unknown]
  complete member := by cases member <;> decide
  distinct := by decide

instance : Vocabulary CtaType where
  word
    | .follow => "follow"
    | .comment => "comment"
    | .share => "share"
    | .save => "save"
    | .directMessage => "direct_message"
    | .visitProfile => "visit_profile"
    | .visitLink => "visit_link"
    | .buyOrBook => "buy_or_book"
    | .watchNext => "watch_next"
    | .softEngagement => "soft_engagement"
    | .none => "none"
    | .other => "other"
    | .unknown => "unknown"
  all := [.follow, .comment, .share, .save, .directMessage, .visitProfile, .visitLink, .buyOrBook,
    .watchNext, .softEngagement, .none, .other, .unknown]
  complete member := by cases member <;> decide
  distinct := by decide

instance : Vocabulary CanonicalMetric where
  word
    | .reach => "reach"
    | .views => "views"
    | .plays => "plays"
    | .likes => "likes"
    | .comments => "comments"
    | .shares => "shares"
    | .saves => "saves"
    | .profileVisits => "profile_visits"
    | .follows => "follows"
    | .totalWatchTimeMs => "total_watch_time_ms"
    | .averageWatchTimeMs => "average_watch_time_ms"
    | .derived metric => word metric
  all := [.reach, .views, .plays, .likes, .comments, .shares, .saves, .profileVisits, .follows,
    .totalWatchTimeMs, .averageWatchTimeMs] ++ (Vocabulary.all : List DerivedMetric).map .derived
  complete member := by
    cases member with
    | derived metric => cases metric <;> decide
    | _ => decide
  distinct := by decide

instance : Vocabulary ObservationWindow where
  word
    | .oneHour => "1h"
    | .oneDay => "24h"
    | .threeDays => "3d"
    | .sevenDays => "7d"
    | .thirtyDays => "30d"
    | .mature => "mature"
  all := [.oneHour, .oneDay, .threeDays, .sevenDays, .thirtyDays, .mature]
  complete member := by cases member <;> decide
  distinct := by decide

/-! ### The document -/

/-- A reference to an entry of the manifest. -/
structure EvidenceReference where
  evidenceId : String
  role : StrategyEvidenceRole
  explanation : Utf16

/-- `experimentSchema`. -/
structure StrategyExperiment where
  hypothesis : Utf16
  variableToChange : Utf16
  variablesToHoldStable : List Utf16
  primaryMetric : CanonicalMetric
  observationWindow : ObservationWindow
  minimumPosts : ℤ
  decisionRule : Utf16
  evidence : List EvidenceReference

/-- `strategyClaimSchema`. -/
structure StrategyClaim where
  key : String
  dimension : StrategyClaimDimension
  statement : Utf16
  classification : StrategyEvidenceClass
  sampleSize : Option ℤ
  whyItMatters : Utf16
  evidence : List EvidenceReference

/-- `strategySectionSchema`. -/
structure StrategySection where
  name : Utf16
  purpose : Utf16
  suggestedSeconds : Option ℚ

/-- The call to action of a recommendation. -/
structure StrategyCta where
  type : CtaType
  text : Utf16

/-- `recommendationSchema`. -/
structure StrategyRecommendation where
  key : String
  title : Utf16
  contentPillar : ContentPillar
  topic : Utf16
  format : ContentFormat
  intendedAudience : Utf16
  hookOptions : List Utf16
  sections : List StrategySection
  filmingApproach : List Utf16
  editingApproach : List Utf16
  cta : StrategyCta
  rationale : Utf16
  classification : StrategyEvidenceClass
  evidence : List EvidenceReference
  creativeLeap : Option Utf16
  iterationReason : Option Utf16
  experiment : StrategyExperiment

/-- An allocation of the pillar plan. -/
structure PillarAllocation where
  pillar : ContentPillar
  allocationPercent : ℤ
  rationale : Utf16
  evidence : List EvidenceReference
  classification : StrategyEvidenceClass
  experimental : Bool

/-- A limitation of the strategy. -/
structure StrategyLimitation where
  text : Utf16
  evidence : List EvidenceReference

/-- `StrategyV1`. -/
structure StrategyV1 where
  mode : StrategyMode
  title : Utf16
  periodSummary : Utf16
  workingPatterns : List StrategyClaim
  weakPatterns : List StrategyClaim
  testsNext : List StrategyExperiment
  pillarPlan : List PillarAllocation
  recommendations : List StrategyRecommendation
  limitations : List StrategyLimitation

/-! ### The schema -/

/-- `strategySchemaVersion`. -/
def strategySchemaVersion : String := "account-content-strategy-v1.0.0"

/-- `[a-z]`, where letters that fold to one of these are matched as well. -/
def isTagLetter (unit : UInt16) : Bool :=
  (0x41 ≤ unit && unit ≤ 0x5A) || (0x61 ≤ unit && unit ≤ 0x7A) || unit == 0x017F || unit == 0x212A

/-- What follows a `<` is the rest of a tag. -/
def opensTag : Utf16 → Bool
  | [] => false
  | unit :: text =>
    (isTagLetter unit && text.contains 0x3E) ||
      (unit == 0x2F && match text with
        | [] => false
        | letter :: rest => isTagLetter letter && rest.contains 0x3E)

/-- `htmlTagPattern.test(value)`. -/
def hasHtmlTag : Utf16 → Bool
  | [] => false
  | unit :: text => (unit == 0x3C && opensTag text) || hasHtmlTag text

/-- `containsUnsafeText`. -/
def containsUnsafeText (value : Utf16) : Bool :=
  hasHtmlTag value || value.any fun unit =>
    unit ≤ 8 || unit == 11 || unit == 12 || (14 ≤ unit && unit ≤ 31) || unit == 127

/-- A text is within the bounds, and safe. -/
def isBounded (maximumLength minimumLength : ℕ) (value : Utf16) : Bool :=
  minimumLength ≤ value.length && value.length ≤ maximumLength && !containsUnsafeText value

/-- `boundedText(maximumLength).min(minimumLength)`. -/
def boundedText (maximumLength minimumLength : ℕ) : Shape Utf16 :=
  string (isBounded maximumLength minimumLength)

/-- `/^[A-Za-z0-9_-]{1,80}$/`. -/
def isEvidenceId (value : String) : Bool :=
  Text.leadingThenBounded (fun c => Text.isAlphanumeric c || c == '_' || c == '-')
    (fun c => Text.isAlphanumeric c || c == '_' || c == '-') 79 value

/-- `/^[a-z][a-z0-9_]{1,79}$/`. -/
def isStrategyKey (value : String) : Bool :=
  Text.leadingThenBounded Text.isLower
    (fun c => Text.isLower c || Text.isDigit c || c == '_') 79 value && 2 ≤ value.length

/-- `evidenceIdSchema`. -/
def evidenceIdSchema : Shape String := pattern isEvidenceId

def strategyKeySchema : Shape String := pattern isStrategyKey

/-- `evidenceReferenceSchema`. -/
def evidenceReferenceSchema : Shape EvidenceReference := fun value => do
  let fields ← strictObject ["evidenceId", "role", "explanation"] value
  let evidenceId ← property fields "evidenceId" evidenceIdSchema
  let role ← property fields "role" (oneOf StrategyEvidenceRole)
  let explanation ← property fields "explanation" (boundedText 500 1)
  some ⟨evidenceId, role, explanation⟩

/-- `z.array(evidenceReferenceSchema).min(1).max(12)`. -/
def evidenceSchema : Shape (List EvidenceReference) := array evidenceReferenceSchema 1 12

/-- `experimentSchema`. -/
def experimentSchema : Shape StrategyExperiment := fun value => do
  let fields ← strictObject ["hypothesis", "variableToChange", "variablesToHoldStable",
    "primaryMetric", "observationWindow", "minimumPosts", "decisionRule", "evidence"] value
  let hypothesis ← property fields "hypothesis" (boundedText 500 1)
  let variableToChange ← property fields "variableToChange" (boundedText 200 1)
  let variablesToHoldStable ← property fields "variablesToHoldStable"
    (array (boundedText 200 1) 1 12)
  let primaryMetric ← property fields "primaryMetric" (oneOf CanonicalMetric)
  let observationWindow ← property fields "observationWindow"
    (oneOf ObservationWindow)
  let minimumPosts ← property fields "minimumPosts" (integer 2 100)
  let decisionRule ← property fields "decisionRule" (boundedText 500 1)
  let evidence ← property fields "evidence" evidenceSchema
  some ⟨hypothesis, variableToChange, variablesToHoldStable, primaryMetric, observationWindow,
    minimumPosts, decisionRule, evidence⟩

/-- `strategyClaimSchema`. -/
def strategyClaimSchema : Shape StrategyClaim := fun value => do
  let fields ← strictObject ["key", "dimension", "statement", "classification",
    "sampleSize", "whyItMatters", "evidence"] value
  let key ← property fields "key" strategyKeySchema
  let dimension ← property fields "dimension" (oneOf StrategyClaimDimension)
  let statement ← property fields "statement" (boundedText 500 1)
  let classification ← property fields "classification"
    (oneOf StrategyEvidenceClass)
  let sampleSize ← property fields "sampleSize" (nullable (integer 0 1000000))
  let whyItMatters ← property fields "whyItMatters" (boundedText 500 1)
  let evidence ← property fields "evidence" evidenceSchema
  some ⟨key, dimension, statement, classification, sampleSize, whyItMatters, evidence⟩

/-- `strategySectionSchema`. -/
def strategySectionSchema : Shape StrategySection := fun value => do
  let fields ← strictObject ["section", "purpose", "suggestedSeconds"] value
  let name ← property fields "section" (boundedText 100 1)
  let purpose ← property fields "purpose" (boundedText 300 1)
  let suggestedSeconds ← property fields "suggestedSeconds"
    (nullable (number fun seconds => 0 < seconds && seconds ≤ 600))
  some ⟨name, purpose, suggestedSeconds⟩

def strategyCtaSchema : Shape StrategyCta := fun value => do
  let fields ← strictObject ["type", "text"] value
  let type ← property fields "type" (oneOf CtaType)
  let text ← property fields "text" (boundedText 300 1)
  some ⟨type, text⟩

/-- `recommendationSchema`. -/
def recommendationSchema : Shape StrategyRecommendation := fun value => do
  let fields ← strictObject ["key", "title", "contentPillar", "topic", "format",
    "intendedAudience", "hookOptions", "structure", "filmingApproach", "editingApproach", "cta",
    "rationale", "classification", "evidence", "creativeLeap", "iterationReason", "experiment"]
    value
  let key ← property fields "key" strategyKeySchema
  let title ← property fields "title" (boundedText 200 1)
  let contentPillar ← property fields "contentPillar" (oneOf ContentPillar)
  let topic ← property fields "topic" (boundedText 300 1)
  let format ← property fields "format" (oneOf ContentFormat)
  let intendedAudience ← property fields "intendedAudience" (boundedText 300 1)
  let hookOptions ← property fields "hookOptions" (array (boundedText 300 1) 3 5)
  let sections ← property fields "structure" (array strategySectionSchema 2 10)
  let filmingApproach ← property fields "filmingApproach"
    (array (boundedText 300 1) 1 12)
  let editingApproach ← property fields "editingApproach"
    (array (boundedText 300 1) 1 12)
  let cta ← property fields "cta" strategyCtaSchema
  let rationale ← property fields "rationale" (boundedText 800 1)
  let classification ← property fields "classification"
    (oneOf StrategyEvidenceClass)
  let evidence ← property fields "evidence" evidenceSchema
  let creativeLeap ← property fields "creativeLeap" (nullable (boundedText 500 1))
  let iterationReason ← property fields "iterationReason"
    (nullable (boundedText 500 10))
  let experiment ← property fields "experiment" experimentSchema
  some ⟨key, title, contentPillar, topic, format, intendedAudience, hookOptions, sections,
    filmingApproach, editingApproach, cta, rationale, classification, evidence, creativeLeap,
    iterationReason, experiment⟩

def pillarAllocationSchema : Shape PillarAllocation := fun value => do
  let fields ← strictObject ["pillar", "allocationPercent", "rationale", "evidence",
    "classification", "experimental"] value
  let pillar ← property fields "pillar" (oneOf ContentPillar)
  let allocationPercent ← property fields "allocationPercent" (integer 0 100)
  let rationale ← property fields "rationale" (boundedText 500 1)
  let evidence ← property fields "evidence" evidenceSchema
  let classification ← property fields "classification"
    (oneOf StrategyEvidenceClass)
  let experimental ← property fields "experimental" boolean
  some ⟨pillar, allocationPercent, rationale, evidence, classification, experimental⟩

def strategyLimitationSchema : Shape StrategyLimitation := fun value => do
  let fields ← strictObject ["text", "evidence"] value
  let text ← property fields "text" (boundedText 500 1)
  let evidence ← property fields "evidence" (array evidenceReferenceSchema 0 12)
  some ⟨text, evidence⟩

/-- `strategyV1Schema`. -/
def strategyV1Schema : Shape StrategyV1 := fun value => do
  let fields ← strictObject ["schemaVersion", "mode", "title", "periodSummary",
    "workingPatterns", "weakPatterns", "testsNext", "pillarPlan", "recommendations",
    "limitations"] value
  let _ ← property fields "schemaVersion" (literal strategySchemaVersion)
  let mode ← property fields "mode" (oneOf StrategyMode)
  let title ← property fields "title" (boundedText 200 1)
  let periodSummary ← property fields "periodSummary" (boundedText 1000 1)
  let workingPatterns ← property fields "workingPatterns"
    (array strategyClaimSchema 0 12)
  let weakPatterns ← property fields "weakPatterns" (array strategyClaimSchema 0 12)
  let testsNext ← property fields "testsNext" (array experimentSchema 1 10)
  let pillarPlan ← property fields "pillarPlan" (array pillarAllocationSchema 1 7)
  let recommendations ← property fields "recommendations"
    (array recommendationSchema 1 10)
  let limitations ← property fields "limitations"
    (array strategyLimitationSchema 1 12)
  some ⟨mode, title, periodSummary, workingPatterns, weakPatterns, testsNext, pillarPlan,
    recommendations, limitations⟩

end ContentAutomation
