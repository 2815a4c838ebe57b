import ContentAutomation.Strategy.Contract

/-!
# The document as it is written

The value of JSON that a model returns for a document. The schema parses it back to the document
where the document is within its bounds, so that each document within them can be put before the
validation.
-/

namespace ContentAutomation

open Shape List

private theorem ascii_of_leadingThenBounded {first rest : Char → Bool} {limit : ℕ} {text : String}
    (hfirst : ∀ c, first c → c.toNat < 0x80) (hrest : ∀ c, rest c → c.toNat < 0x80)
    (h : Text.leadingThenBounded first rest limit text) :
    ∀ c ∈ text.toList, c.toNat < 0x80 := by
  unfold Text.leadingThenBounded at h
  cases hchars : text.toList with
  | nil => simp
  | cons head tail =>
    rw [hchars] at h
    simp only [Bool.and_eq_true, all_eq_true] at h
    intro c hc
    rcases mem_cons.mp hc with rfl | hc
    · exact hfirst c h.1.1
    · exact hrest c (h.2 c hc)

private theorem ascii_of_isAlphanumeric {c : Char} (h : Text.isAlphanumeric c) :
    c.toNat < 0x80 := by
  simp only [Text.isAlphanumeric, Text.isLower, Text.isUpper, Text.isDigit, Bool.or_eq_true,
    Bool.and_eq_true, decide_eq_true_eq, Char.le_def, UInt32.le_iff_toNat_le] at h
  have hc : c.toNat = c.val.toNat := rfl
  have hz : ('z' : Char).val.toNat = 122 := rfl
  have hZ : ('Z' : Char).val.toNat = 90 := rfl
  have h9 : ('9' : Char).val.toNat = 57 := rfl
  omega

private theorem evidenceIdSchema_eq {evidenceId : String} (h : isEvidenceId evidenceId) :
    evidenceIdSchema (writeString evidenceId) = some evidenceId := by
  have hclass : ∀ c, (Text.isAlphanumeric c || c == '_' || c == '-') = true → c.toNat < 0x80 := by
    intro c hc
    simp only [Bool.or_eq_true, beq_iff_eq] at hc
    rcases hc with (hc | rfl) | rfl
    · exact ascii_of_isAlphanumeric hc
    · decide
    · decide
  exact pattern_eq (ascii_of_leadingThenBounded hclass hclass h) h

private theorem strategyKeySchema_eq {key : String} (h : isStrategyKey key) :
    strategyKeySchema (writeString key) = some key := by
  have hrest : ∀ c, (Text.isLower c || Text.isDigit c || c == '_') = true → c.toNat < 0x80 := by
    intro c hc
    simp only [Bool.or_eq_true, beq_iff_eq] at hc
    rcases hc with (hc | hc) | rfl
    · exact ascii_of_isAlphanumeric (by simp [Text.isAlphanumeric, hc])
    · exact ascii_of_isAlphanumeric (by simp [Text.isAlphanumeric, hc])
    · decide
  have hpattern := h
  simp only [isStrategyKey, Bool.and_eq_true] at hpattern
  exact pattern_eq (ascii_of_leadingThenBounded
    (fun c hc => ascii_of_isAlphanumeric (by simp [Text.isAlphanumeric, hc])) hrest hpattern.1) h

private theorem boundedText_eq {maximumLength minimumLength : ℕ} {text : Utf16}
    (h : isBounded maximumLength minimumLength text) :
    boundedText maximumLength minimumLength (.string text) = some text := string_eq h

/-- A list of texts is within its bounds. -/
def areBounded (maximumLength least most : ℕ) (texts : List Utf16) : Bool :=
  least ≤ texts.length && texts.length ≤ most && texts.all (isBounded maximumLength 1)

private theorem texts_eq {maximumLength least most : ℕ} {texts : List Utf16}
    (h : areBounded maximumLength least most texts) :
    array (boundedText maximumLength 1) least most (.array (texts.map .string)) = some texts := by
  simp only [areBounded, Bool.and_eq_true, decide_eq_true_eq, all_eq_true] at h
  exact array_eq h.1 fun text htext => boundedText_eq (h.2 text htext)

/-! ### References -/

/-- A reference, as it is written. -/
def EvidenceReference.write (reference : EvidenceReference) : Json :=
  record [("evidenceId", writeString reference.evidenceId),
    ("role", writeString (word reference.role)), ("explanation", .string reference.explanation)]

/-- A reference is within its bounds. -/
def EvidenceReference.fits (reference : EvidenceReference) : Bool :=
  isEvidenceId reference.evidenceId && isBounded 500 1 reference.explanation

/-- A list of references is within its bounds. -/
def referencesFit (least : ℕ) (references : List EvidenceReference) : Bool :=
  least ≤ references.length && references.length ≤ 12 &&
    references.all EvidenceReference.fits

/-- References, as they are written. -/
def writeReferences (references : List EvidenceReference) : Json :=
  .array (references.map EvidenceReference.write)

private theorem evidenceReferenceSchema_eq {reference : EvidenceReference}
    (h : reference.fits) : evidenceReferenceSchema reference.write = some reference := by
  simp only [EvidenceReference.fits, Bool.and_eq_true] at h
  unfold evidenceReferenceSchema EvidenceReference.write
  simp [strictObject_record, property_written, evidenceIdSchema_eq h.1, boundedText_eq h.2]

private theorem references_eq {least : ℕ} {references : List EvidenceReference}
    (h : referencesFit least references) :
    array evidenceReferenceSchema least 12 (writeReferences references) = some references := by
  simp only [referencesFit, Bool.and_eq_true, decide_eq_true_eq, all_eq_true] at h
  exact array_eq h.1 fun reference hmem => evidenceReferenceSchema_eq (h.2 reference hmem)

/-! ### The parts of the document -/

/-- An experiment, as it is written. -/
def StrategyExperiment.write (experiment : StrategyExperiment) : Json :=
  record [("hypothesis", .string experiment.hypothesis),
    ("variableToChange", .string experiment.variableToChange),
    ("variablesToHoldStable", .array (experiment.variablesToHoldStable.map .string)),
    ("primaryMetric", writeString (word experiment.primaryMetric)),
    ("observationWindow", writeString (word experiment.observationWindow)),
    ("minimumPosts", writeInteger experiment.minimumPosts),
    ("decisionRule", .string experiment.decisionRule),
    ("evidence", writeReferences experiment.evidence)]

/-- An experiment is within its bounds. -/
structure StrategyExperiment.Fits (experiment : StrategyExperiment) : Prop where
  hypothesis : isBounded 500 1 experiment.hypothesis = true
  variableToChange : isBounded 200 1 experiment.variableToChange = true
  variablesToHoldStable : areBounded 200 1 12 experiment.variablesToHoldStable = true
  minimumPosts : 2 ≤ experiment.minimumPosts ∧ experiment.minimumPosts ≤ 100
  decisionRule : isBounded 500 1 experiment.decisionRule = true
  evidence : referencesFit 1 experiment.evidence = true

private theorem experimentSchema_eq {experiment : StrategyExperiment} (h : experiment.Fits) :
    experimentSchema experiment.write = some experiment := by
  unfold experimentSchema StrategyExperiment.write
  simp [strictObject_record, property_written, boundedText_eq h.hypothesis, boundedText_eq h.variableToChange,
    texts_eq h.variablesToHoldStable, integer_eq h.minimumPosts, boundedText_eq h.decisionRule,
    evidenceSchema, references_eq h.evidence]

/-- A claim, as it is written. -/
def StrategyClaim.write (claim : StrategyClaim) : Json :=
  record [("key", writeString claim.key), ("dimension", writeString (word claim.dimension)),
    ("statement", .string claim.statement),
    ("classification", writeString (word claim.classification)),
    ("sampleSize", orNull writeInteger claim.sampleSize),
    ("whyItMatters", .string claim.whyItMatters), ("evidence", writeReferences claim.evidence)]

/-- A claim is within its bounds. -/
structure StrategyClaim.Fits (claim : StrategyClaim) : Prop where
  key : isStrategyKey claim.key = true
  statement : isBounded 500 1 claim.statement = true
  sampleSize : ∀ size ∈ claim.sampleSize, 0 ≤ size ∧ size ≤ 1000000
  whyItMatters : isBounded 500 1 claim.whyItMatters = true
  evidence : referencesFit 1 claim.evidence = true

private theorem strategyClaimSchema_eq {claim : StrategyClaim} (h : claim.Fits) :
    strategyClaimSchema claim.write = some claim := by
  have hsize : nullable (integer 0 1000000) (orNull writeInteger claim.sampleSize) =
      some claim.sampleSize :=
    nullable_eq (fun _ => Json.noConfusion) fun size hmem => integer_eq (h.sampleSize size hmem)
  unfold strategyClaimSchema StrategyClaim.write
  simp [strictObject_record, property_written, strategyKeySchema_eq h.key, boundedText_eq h.statement, hsize,
    boundedText_eq h.whyItMatters, evidenceSchema, references_eq h.evidence]

/-- A section, as it is written. -/
def StrategySection.write (item : StrategySection) : Json :=
  record [("section", .string item.name), ("purpose", .string item.purpose),
    ("suggestedSeconds", orNull (fun seconds => .number (.finite seconds)) item.suggestedSeconds)]

/-- A section is within its bounds. -/
structure StrategySection.Fits (item : StrategySection) : Prop where
  name : isBounded 100 1 item.name = true
  purpose : isBounded 300 1 item.purpose = true
  suggestedSeconds : ∀ seconds ∈ item.suggestedSeconds, 0 < seconds ∧ seconds ≤ 600

private theorem strategySectionSchema_eq {item : StrategySection} (h : item.Fits) :
    strategySectionSchema item.write = some item := by
  have hseconds : nullable (number fun seconds => 0 < seconds && seconds ≤ 600)
      (orNull (fun seconds => .number (.finite seconds)) item.suggestedSeconds) =
      some item.suggestedSeconds :=
    nullable_eq (fun _ => Json.noConfusion) fun seconds hmem =>
      number_eq (by simpa using h.suggestedSeconds seconds hmem)
  unfold strategySectionSchema StrategySection.write
  simp [strictObject_record, property_written, boundedText_eq h.name, boundedText_eq h.purpose, hseconds]

/-- A call to action, as it is written. -/
def StrategyCta.write (cta : StrategyCta) : Json :=
  record [("type", writeString (word cta.type)), ("text", .string cta.text)]

private theorem strategyCtaSchema_eq {cta : StrategyCta} (h : isBounded 300 1 cta.text) :
    strategyCtaSchema cta.write = some cta := by
  unfold strategyCtaSchema StrategyCta.write
  simp [strictObject_record, property_written, boundedText_eq h]

/-- A recommendation, as it is written. -/
def StrategyRecommendation.write (recommendation : StrategyRecommendation) : Json :=
  record [("key", writeString recommendation.key), ("title", .string recommendation.title),
    ("contentPillar", writeString (word recommendation.contentPillar)),
    ("topic", .string recommendation.topic), ("format", writeString (word recommendation.format)),
    ("intendedAudience", .string recommendation.intendedAudience),
    ("hookOptions", .array (recommendation.hookOptions.map .string)),
    ("structure", .array (recommendation.sections.map StrategySection.write)),
    ("filmingApproach", .array (recommendation.filmingApproach.map .string)),
    ("editingApproach", .array (recommendation.editingApproach.map .string)),
    ("cta", recommendation.cta.write), ("rationale", .string recommendation.rationale),
    ("classification", writeString (word recommendation.classification)),
    ("evidence", writeReferences recommendation.evidence),
    ("creativeLeap", orNull .string recommendation.creativeLeap),
    ("iterationReason", orNull .string recommendation.iterationReason),
    ("experiment", recommendation.experiment.write)]

/-- A recommendation is within its bounds. -/
structure StrategyRecommendation.Fits (recommendation : StrategyRecommendation) : Prop where
  key : isStrategyKey recommendation.key = true
  title : isBounded 200 1 recommendation.title = true
  topic : isBounded 300 1 recommendation.topic = true
  intendedAudience : isBounded 300 1 recommendation.intendedAudience = true
  hookOptions : areBounded 300 3 5 recommendation.hookOptions = true
  sections : (2 ≤ recommendation.sections.length ∧ recommendation.sections.length ≤ 10) ∧
    ∀ item ∈ recommendation.sections, item.Fits
  filmingApproach : areBounded 300 1 12 recommendation.filmingApproach = true
  editingApproach : areBounded 300 1 12 recommendation.editingApproach = true
  cta : isBounded 300 1 recommendation.cta.text = true
  rationale : isBounded 800 1 recommendation.rationale = true
  evidence : referencesFit 1 recommendation.evidence = true
  creativeLeap : ∀ text ∈ recommendation.creativeLeap, isBounded 500 1 text = true
  iterationReason : ∀ text ∈ recommendation.iterationReason, isBounded 500 10 text = true
  experiment : recommendation.experiment.Fits

/-- A recommendation within its bounds is parsed back. -/
theorem recommendationSchema_eq {recommendation : StrategyRecommendation}
    (h : recommendation.Fits) :
    recommendationSchema recommendation.write = some recommendation := by
  have hsections : array strategySectionSchema 2 10
      (.array (recommendation.sections.map StrategySection.write)) = some recommendation.sections :=
    array_eq h.sections.1 fun item hitem => strategySectionSchema_eq (h.sections.2 item hitem)
  have hleap : nullable (boundedText 500 1) (orNull .string recommendation.creativeLeap) =
      some recommendation.creativeLeap :=
    nullable_eq (fun _ => Json.noConfusion) fun text htext => boundedText_eq (h.creativeLeap text htext)
  have hreason : nullable (boundedText 500 10) (orNull .string recommendation.iterationReason) =
      some recommendation.iterationReason :=
    nullable_eq (fun _ => Json.noConfusion) fun text htext =>
      boundedText_eq (h.iterationReason text htext)
  unfold recommendationSchema StrategyRecommendation.write
  refine bind_strictObject rfl ?_
  refine bind_property rfl (strategyKeySchema_eq h.key) ?_
  refine bind_property rfl (boundedText_eq h.title) ?_
  refine bind_property rfl (oneOf_word _) ?_
  refine bind_property rfl (boundedText_eq h.topic) ?_
  refine bind_property rfl (oneOf_word _) ?_
  refine bind_property rfl (boundedText_eq h.intendedAudience) ?_
  refine bind_property rfl (texts_eq h.hookOptions) ?_
  refine bind_property rfl hsections ?_
  refine bind_property rfl (texts_eq h.filmingApproach) ?_
  refine bind_property rfl (texts_eq h.editingApproach) ?_
  refine bind_property rfl (strategyCtaSchema_eq h.cta) ?_
  refine bind_property rfl (boundedText_eq h.rationale) ?_
  refine bind_property rfl (oneOf_word _) ?_
  refine bind_property rfl (references_eq h.evidence) ?_
  refine bind_property rfl hleap ?_
  refine bind_property rfl hreason ?_
  exact bind_property rfl (experimentSchema_eq h.experiment) rfl

/-- An allocation, as it is written. -/
def PillarAllocation.write (item : PillarAllocation) : Json :=
  record [("pillar", writeString (word item.pillar)),
    ("allocationPercent", writeInteger item.allocationPercent),
    ("rationale", .string item.rationale), ("evidence", writeReferences item.evidence),
    ("classification", writeString (word item.classification)),
    ("experimental", .boolean item.experimental)]

/-- An allocation is within its bounds. -/
structure PillarAllocation.Fits (item : PillarAllocation) : Prop where
  allocationPercent : 0 ≤ item.allocationPercent ∧ item.allocationPercent ≤ 100
  rationale : isBounded 500 1 item.rationale = true
  evidence : referencesFit 1 item.evidence = true

private theorem pillarAllocationSchema_eq {item : PillarAllocation} (h : item.Fits) :
    pillarAllocationSchema item.write = some item := by
  unfold pillarAllocationSchema PillarAllocation.write
  simp [strictObject_record, property_written, integer_eq h.allocationPercent, boundedText_eq h.rationale,
    evidenceSchema, references_eq h.evidence]

/-- A limitation, as it is written. -/
def StrategyLimitation.write (limitation : StrategyLimitation) : Json :=
  record [("text", .string limitation.text), ("evidence", writeReferences limitation.evidence)]

/-- A limitation is within its bounds. -/
structure StrategyLimitation.Fits (limitation : StrategyLimitation) : Prop where
  text : isBounded 500 1 limitation.text = true
  evidence : referencesFit 0 limitation.evidence = true

private theorem strategyLimitationSchema_eq {limitation : StrategyLimitation}
    (h : limitation.Fits) :
    strategyLimitationSchema limitation.write = some limitation := by
  unfold strategyLimitationSchema StrategyLimitation.write
  simp [strictObject_record, property_written, boundedText_eq h.text, references_eq h.evidence]

/-! ### The document -/

/-- The document, as it is written. -/
def StrategyV1.write (strategy : StrategyV1) : Json :=
  record [("schemaVersion", writeString strategySchemaVersion),
    ("mode", writeString (word strategy.mode)), ("title", .string strategy.title),
    ("periodSummary", .string strategy.periodSummary),
    ("workingPatterns", .array (strategy.workingPatterns.map StrategyClaim.write)),
    ("weakPatterns", .array (strategy.weakPatterns.map StrategyClaim.write)),
    ("testsNext", .array (strategy.testsNext.map StrategyExperiment.write)),
    ("pillarPlan", .array (strategy.pillarPlan.map PillarAllocation.write)),
    ("recommendations", .array (strategy.recommendations.map StrategyRecommendation.write)),
    ("limitations", .array (strategy.limitations.map StrategyLimitation.write))]

/-- The document is within its bounds. -/
structure StrategyV1.Fits (strategy : StrategyV1) : Prop where
  title : isBounded 200 1 strategy.title = true
  periodSummary : isBounded 1000 1 strategy.periodSummary = true
  workingPatterns : strategy.workingPatterns.length ≤ 12 ∧
    ∀ claim ∈ strategy.workingPatterns, claim.Fits
  weakPatterns : strategy.weakPatterns.length ≤ 12 ∧ ∀ claim ∈ strategy.weakPatterns, claim.Fits
  testsNext : (1 ≤ strategy.testsNext.length ∧ strategy.testsNext.length ≤ 10) ∧
    ∀ experiment ∈ strategy.testsNext, experiment.Fits
  pillarPlan : (1 ≤ strategy.pillarPlan.length ∧ strategy.pillarPlan.length ≤ 7) ∧
    ∀ item ∈ strategy.pillarPlan, item.Fits
  recommendations : (1 ≤ strategy.recommendations.length ∧
    strategy.recommendations.length ≤ 10) ∧ ∀ item ∈ strategy.recommendations, item.Fits
  limitations : (1 ≤ strategy.limitations.length ∧ strategy.limitations.length ≤ 12) ∧
    ∀ limitation ∈ strategy.limitations, limitation.Fits

/-- A document within its bounds is parsed back. -/
theorem strategyV1Schema_eq {strategy : StrategyV1} (h : strategy.Fits) :
    strategyV1Schema strategy.write = some strategy := by
  have hclaims : ∀ claims : List StrategyClaim, claims.length ≤ 12 ∧ (∀ claim ∈ claims, claim.Fits) →
      array strategyClaimSchema 0 12 (.array (claims.map StrategyClaim.write)) = some claims :=
    fun claims hfits => array_eq ⟨Nat.zero_le _, hfits.1⟩ fun claim hclaim =>
      strategyClaimSchema_eq (hfits.2 claim hclaim)
  have htests : array experimentSchema 1 10
      (.array (strategy.testsNext.map StrategyExperiment.write)) = some strategy.testsNext :=
    array_eq h.testsNext.1 fun experiment hmem => experimentSchema_eq (h.testsNext.2 experiment hmem)
  have hplan : array pillarAllocationSchema 1 7
      (.array (strategy.pillarPlan.map PillarAllocation.write)) = some strategy.pillarPlan :=
    array_eq h.pillarPlan.1 fun item hmem => pillarAllocationSchema_eq (h.pillarPlan.2 item hmem)
  have hrecommendations : array recommendationSchema 1 10
      (.array (strategy.recommendations.map StrategyRecommendation.write)) =
      some strategy.recommendations :=
    array_eq h.recommendations.1 fun item hmem =>
      recommendationSchema_eq (h.recommendations.2 item hmem)
  have hlimitations : array strategyLimitationSchema 1 12
      (.array (strategy.limitations.map StrategyLimitation.write)) = some strategy.limitations :=
    array_eq h.limitations.1 fun limitation hmem =>
      strategyLimitationSchema_eq (h.limitations.2 limitation hmem)
  unfold strategyV1Schema StrategyV1.write
  simp [strictObject_record, property_written, boundedText_eq h.title, boundedText_eq h.periodSummary,
    hclaims _ h.workingPatterns, hclaims _ h.weakPatterns, htests, hplan, hrecommendations,
    hlimitations]

/-! ### A document with one proposal -/

namespace Proposal

open Utf16

variable (mode : StrategyMode) (claims : List StrategyClaim)
  (classification : StrategyEvidenceClass) (evidence limitations : List EvidenceReference)

def experiment : StrategyExperiment where
  hypothesis := ofString "hypothesis"
  variableToChange := ofString "hook"
  variablesToHoldStable := [ofString "topic"]
  primaryMetric := .reach
  observationWindow := .sevenDays
  minimumPosts := 2
  decisionRule := ofString "rule"
  evidence := evidence

def recommendation : StrategyRecommendation where
  key := "proposal"
  title := ofString "title"
  contentPillar := .educationAndInsight
  topic := ofString "topic"
  format := .educational
  intendedAudience := ofString "audience"
  hookOptions := [ofString "one", ofString "two", ofString "three"]
  sections := [⟨ofString "opening", ofString "purpose", none⟩,
    ⟨ofString "closing", ofString "purpose", none⟩]
  filmingApproach := [ofString "filming"]
  editingApproach := [ofString "editing"]
  cta := ⟨.comment, ofString "comment"⟩
  rationale := ofString "rationale"
  classification := .creativeRecommendation
  evidence := evidence
  creativeLeap := some (ofString "leap")
  iterationReason := some (ofString "unfinished experiment")
  experiment := experiment evidence

def allocation : PillarAllocation where
  pillar := .educationAndInsight
  allocationPercent := 100
  rationale := ofString "rationale"
  evidence := evidence
  classification := classification
  experimental := mode == .exploratory

/-- The document with the claims as its working patterns. -/
def document : StrategyV1 where
  mode := mode
  title := ofString "title"
  periodSummary := ofString "insufficient"
  workingPatterns := claims
  weakPatterns := []
  testsNext := [experiment evidence]
  pillarPlan := [allocation mode classification evidence]
  recommendations := [recommendation evidence]
  limitations := [⟨ofString "limitation", limitations⟩]

variable {mode claims classification evidence limitations}

private theorem experiment_fits (hevidence : referencesFit 1 evidence) :
    (experiment evidence).Fits where
  hypothesis := by simp only [experiment]; decide
  variableToChange := by simp only [experiment]; decide
  variablesToHoldStable := by simp only [experiment]; decide
  minimumPosts := by simp only [experiment]; decide
  decisionRule := by simp only [experiment]; decide
  evidence := hevidence

private theorem recommendation_fits (hevidence : referencesFit 1 evidence) :
    (recommendation evidence).Fits where
  key := by simp only [recommendation]; decide
  title := by simp only [recommendation]; decide
  topic := by simp only [recommendation]; decide
  intendedAudience := by simp only [recommendation]; decide
  hookOptions := by simp only [recommendation]; decide
  sections := by
    simp only [recommendation]
    refine ⟨by decide, fun item hitem => ?_⟩
    simp only [mem_cons, not_mem_nil, or_false] at hitem
    rcases hitem with rfl | rfl
    · exact ⟨by decide, by decide, by simp⟩
    · exact ⟨by decide, by decide, by simp⟩
  filmingApproach := by simp only [recommendation]; decide
  editingApproach := by simp only [recommendation]; decide
  cta := by simp only [recommendation]; decide
  rationale := by simp only [recommendation]; decide
  evidence := hevidence
  creativeLeap := by
    intro text htext
    obtain rfl := Option.some.inj htext
    decide
  iterationReason := by
    intro text htext
    obtain rfl := Option.some.inj htext
    decide
  experiment := experiment_fits hevidence

private theorem allocation_fits (hevidence : referencesFit 1 evidence) :
    (allocation mode classification evidence).Fits where
  allocationPercent := by simp only [allocation]; decide
  rationale := by simp only [allocation]; decide
  evidence := hevidence

variable (mode classification) in
theorem document_fits (hclaims : claims.length ≤ 12 ∧ ∀ claim ∈ claims, claim.Fits)
    (hevidence : referencesFit 1 evidence)
    (hlimitations : referencesFit 0 limitations) :
    (document mode claims classification evidence limitations).Fits where
  title := by simp only [document]; decide
  periodSummary := by simp only [document]; decide
  workingPatterns := hclaims
  weakPatterns := ⟨Nat.zero_le _, fun _ hclaim => absurd hclaim not_mem_nil⟩
  testsNext := ⟨by simp [document], forall_mem_singleton.mpr (experiment_fits hevidence)⟩
  pillarPlan := ⟨by simp [document], forall_mem_singleton.mpr (allocation_fits hevidence)⟩
  recommendations :=
    ⟨by simp [document], forall_mem_singleton.mpr (recommendation_fits hevidence)⟩
  limitations := by
    have htext : isBounded 500 1 (ofString "limitation") = true := by decide
    exact ⟨by simp [document], forall_mem_singleton.mpr ⟨htext, hlimitations⟩⟩

end Proposal

end ContentAutomation
