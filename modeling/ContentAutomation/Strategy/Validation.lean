import ContentAutomation.Library.Collected
import ContentAutomation.Strategy.Contract

/-!
# The validation of a strategy

What the worker checks of a document against the frozen manifest, after its schema: a collector for
each part of the document, each of which adds the issues that it finds. The document is accepted
where no collector has found an issue.
-/

namespace ContentAutomation

open Utf16 Collected

/-- What the validation rests on outside of the source. -/
structure ContractPlatform where
  /-- `value.normalize("NFKC").toLocaleLowerCase("en")`. -/
  fold : Utf16 → Utf16
  /-- A text of the letters `a` to `z` is its own. -/
  fold_letters : ∀ text : Utf16, (∀ unit ∈ text, 0x61 ≤ unit ∧ unit ≤ 0x7A) → fold text = text
  /-- The paths of `parsed.error.issues`, for a value that the schema does not parse. -/
  schemaIssuePaths : Json → List String

/-- `StrategyValidationContext`. -/
structure StrategyValidationContext where
  mode : StrategyMode
  manifest : List StrategyManifestEvidence
  recentRecommendationFingerprints : List String

/-- `StrategyValidationCode`. -/
inductive StrategyValidationCode
  | schemaInvalid | modeMismatch | evidenceNotInManifest | evidenceRoleInvalid | evidenceDuplicate
  | evidenceRequired | evidenceClassUpgrade | empiricalClassInvalid | counterevidenceOmitted
  | limitationOmitted | allocationInvalid | exploratoryRuleViolation | duplicateContent
  | iterationReasonRequired | experimentInvalid | recommendationInvalid

/-- `StrategyValidationIssue`. -/
structure StrategyValidationIssue where
  code : StrategyValidationCode
  path : String
  message : String

/-- `StrategyValidationResult`. -/
inductive StrategyValidationResult
  | valid (data : StrategyV1)
  | invalid (issues : List StrategyValidationIssue)

/-- An issue, where the condition for it is met. -/
def addIssue (found : Bool) (code : StrategyValidationCode) (path message : String) :
    List StrategyValidationIssue :=
  if found then [⟨code, path, message⟩] else []

/-- An item of a list, in a path. -/
def itemPath (path : String) (index : ℕ) : String := path ++ "[" ++ toString index ++ "]"

/-! ### Comparable text -/

/-- The rest of a text with runs of other characters than `[a-z0-9]` replaced by one space;
`inside` tells that the character before was in a run. -/
def replaceOthersFrom : Bool → Utf16 → Utf16
  | _, [] => []
  | inside, unit :: text =>
    if (0x61 ≤ unit && unit ≤ 0x7A) || (0x30 ≤ unit && unit ≤ 0x39) then
      unit :: replaceOthersFrom false text
    else if inside then replaceOthersFrom true text
    else space :: replaceOthersFrom true text

/-- `normalizeComparableText`. -/
def normalizeComparableText (platform : ContractPlatform) (value : Utf16) : Utf16 :=
  collapseSpaces (trim (replaceOthersFrom false (platform.fold value)))

/-- The code points of a text. -/
def codePoints : Utf16 → List ℕ
  | [] => []
  | [unit] => [unit.toNat]
  | first :: second :: text =>
    if isLeading first && isTrailing second then
      (0x10000 + (first.toNat - 0xD800) * 0x400 + (second.toNat - 0xDC00)) :: codePoints text
    else first.toNat :: codePoints (second :: text)

/-- `fnv1a64`. -/
def fnv1a64 (value : Utf16) : String :=
  let hash := (codePoints value).foldl
    (fun hash codePoint => (hash ^^^ codePoint) * 0x100000001b3 % 2 ^ 64) 0xcbf29ce484222325
  String.ofList (List.leftpad 16 '0' (Nat.toDigits 16 hash))

/-- `createStrategyRecommendationFingerprint`. -/
def createStrategyRecommendationFingerprint (platform : ContractPlatform)
    (recommendation : StrategyRecommendation) : String :=
  let canonical := (ofString "|").intercalate
    ([ofString (word recommendation.contentPillar), ofString (word recommendation.format),
        normalizeComparableText platform recommendation.topic,
        normalizeComparableText platform recommendation.intendedAudience] ++
      (recommendation.hookOptions.map (normalizeComparableText platform)).insertionSort (· ≤ ·))
  "strategy-recommendation-v1:" ++ fnv1a64 canonical

/-! ### The manifest -/

/-- The entries of the manifest, each under an identifier of its own. -/
def createManifestMap (context : StrategyValidationContext) :
    Except String (List StrategyManifestEvidence) :=
  match (forEach manifestError context.manifest).head? with
  | some message => .error message
  | none => .ok context.manifest
where
  manifestError (earlier : List StrategyManifestEvidence) (index : ℕ)
      (item : StrategyManifestEvidence) : List String :=
    if !isEvidenceId item.evidenceId then
      ["Manifest evidence ID at index " ++ toString index ++ " is invalid"]
    else if (earlier.map (·.evidenceId)).contains item.evidenceId then
      ["Manifest evidence ID is duplicated: " ++ item.evidenceId]
    else if item.allowedRoles.isEmpty then
      ["Manifest evidence item has no allowed role: " ++ item.evidenceId]
    else []

/-- `manifest.get(evidenceId)`. -/
def manifestItem (manifest : List StrategyManifestEvidence) (evidenceId : String) :
    Option StrategyManifestEvidence :=
  manifest.find? fun item => item.evidenceId == evidenceId

/-! ### References -/

/-- The issues of one reference. -/
def referenceIssues (path : String) (manifest : List StrategyManifestEvidence)
    (earlier : List EvidenceReference) (index : ℕ) (reference : EvidenceReference) :
    List StrategyValidationIssue :=
  if (earlier.map (·.evidenceId)).contains reference.evidenceId then
    [⟨.evidenceDuplicate, itemPath path index ++ ".evidenceId",
      "An evidence item can appear only once per strategy item"⟩]
  else match manifestItem manifest reference.evidenceId with
    | none => [⟨.evidenceNotInManifest, itemPath path index ++ ".evidenceId",
        "Evidence reference is not in the frozen manifest"⟩]
    | some item => addIssue (!item.allowedRoles.contains reference.role) .evidenceRoleInvalid
        (itemPath path index ++ ".role") "Evidence role is not allowed by the frozen manifest"

/-- The entry that one reference resolves to. -/
def referenceItem (manifest : List StrategyManifestEvidence) (earlier : List EvidenceReference)
    (_index : ℕ) (reference : EvidenceReference) : List StrategyManifestEvidence :=
  if (earlier.map (·.evidenceId)).contains reference.evidenceId then []
  else (manifestItem manifest reference.evidenceId).toList

/-- `validateEvidenceReferences`: the issues, and the entries that the references resolve to. -/
def validateEvidenceReferences (references : List EvidenceReference) (path : String)
    (manifest : List StrategyManifestEvidence) :
    List StrategyValidationIssue × List StrategyManifestEvidence :=
  if references.isEmpty then
    ([⟨.evidenceRequired, path, "This strategy item requires manifest evidence"⟩], [])
  else
    (forEach (referenceIssues path manifest) references,
      forEach (referenceItem manifest) references)

/-! ### Classes of evidence -/

/-- `evidenceClassRank`. -/
def evidenceClassRank : StrategyEvidenceClass → ℤ
  | .unsupported => 0
  | .insufficientEvidence => 1
  | .singlePostOutlier => 2
  | .weakDirectionalSignal => 3
  | .moderateAssociation => 4
  | .statisticallySupportedAssociation => 5
  | .creativeRecommendation => -1

/-- `empiricalClaimClasses`. -/
def empiricalClaimClasses : List StrategyEvidenceClass :=
  [.statisticallySupportedAssociation, .moderateAssociation, .weakDirectionalSignal,
    .singlePostOutlier, .insufficientEvidence]

/-- `postEvidenceTypes`. -/
def postEvidenceTypes : List StrategyEvidenceType := [.post, .postAnalysis, .metricSnapshot]

/-- The classes of the feature statistics among the entries. -/
def statisticClasses (resolved : List StrategyManifestEvidence) : List StrategyEvidenceClass :=
  (resolved.filter fun item => item.type == .featureStatistic).filterMap (·.classification)

/-- `validateEvidenceCeiling`. -/
def validateEvidenceCeiling (classification : StrategyEvidenceClass)
    (resolved : List StrategyManifestEvidence) (path : String)
    (requirePostEvidence requireStatistic : Bool) : List StrategyValidationIssue :=
  if !empiricalClaimClasses.contains classification then
    [⟨.empiricalClassInvalid, path,
      "Empirical strategy items need a canonical empirical evidence class"⟩]
  else match ((statisticClasses resolved).map evidenceClassRank).max? with
    | none => addIssue (requireStatistic || classification != .insufficientEvidence)
        .evidenceRequired path "Empirical strategy items need feature-statistic evidence"
    | some strongestRank =>
      addIssue (strongestRank < evidenceClassRank classification) .evidenceClassUpgrade path
          "Strategy output cannot upgrade stored evidence confidence" ++
        addIssue (requirePostEvidence &&
            !resolved.any fun item => postEvidenceTypes.contains item.type)
          .evidenceRequired path "Evidence-led empirical claims need relevant post evidence"

/-! ### Claims -/

/-- `validateCounterevidence`. -/
def validateCounterevidence (claim : StrategyClaim) (path : String)
    (manifest : List StrategyManifestEvidence) : List StrategyValidationIssue :=
  (manifest.filter fun item => item.dimensions.contains claim.dimension &&
      item.allowedRoles.contains .counterexample).flatMap fun item =>
    addIssue (!claim.evidence.any fun reference =>
        reference.evidenceId == item.evidenceId && reference.role == .counterexample)
      .counterevidenceOmitted (path ++ ".evidence")
      "A retrieved counterexample relevant to this claim was omitted"

/-- The classes that a section of patterns takes. -/
def allowedPatternClasses (path : String) : List StrategyEvidenceClass :=
  if path == "workingPatterns" then
    [.statisticallySupportedAssociation, .moderateAssociation, .weakDirectionalSignal]
  else [.weakDirectionalSignal, .singlePostOutlier, .insufficientEvidence]

/-- The issues of one claim. -/
def claimIssues (path : String) (mode : StrategyMode)
    (manifest : List StrategyManifestEvidence) (_earlier : List StrategyClaim) (index : ℕ)
    (claim : StrategyClaim) : List StrategyValidationIssue :=
  let claimPath := itemPath path index
  let (issues, resolved) :=
    validateEvidenceReferences claim.evidence (claimPath ++ ".evidence") manifest
  issues ++
    validateEvidenceCeiling claim.classification resolved (claimPath ++ ".classification")
      (mode == .evidenceLed) (mode == .evidenceLed) ++
    addIssue (!(allowedPatternClasses path).contains claim.classification)
      .empiricalClassInvalid (claimPath ++ ".classification")
      "Evidence class does not belong in this strategy pattern section" ++
    validateCounterevidence claim claimPath manifest

/-- `validateClaims`. -/
def validateClaims (claims : List StrategyClaim) (path : String) (mode : StrategyMode)
    (manifest : List StrategyManifestEvidence) : List StrategyValidationIssue :=
  forEach (claimIssues path mode manifest) claims

/-! ### Experiments -/

/-- `validateExperiment`. -/
def validateExperiment (platform : ContractPlatform) (experiment : StrategyExperiment)
    (path : String) (manifest : List StrategyManifestEvidence) : List StrategyValidationIssue :=
  let changed := normalizeComparableText platform experiment.variableToChange
  (validateEvidenceReferences experiment.evidence (path ++ ".evidence") manifest).1 ++
    addIssue (experiment.variablesToHoldStable.any fun stable =>
        normalizeComparableText platform stable == changed)
      .experimentInvalid (path ++ ".variablesToHoldStable")
      "The changed variable cannot also be held stable"

/-! ### Allocations -/

/-- The issues of one allocation. -/
def allocationIssues (mode : StrategyMode) (manifest : List StrategyManifestEvidence)
    (earlier : List PillarAllocation) (index : ℕ) (item : PillarAllocation) :
    List StrategyValidationIssue :=
  let path := itemPath "pillarPlan" index
  let (issues, resolved) := validateEvidenceReferences item.evidence (path ++ ".evidence") manifest
  addIssue ((earlier.map (·.pillar)).contains item.pillar) .allocationInvalid (path ++ ".pillar")
      "Pillar allocation cannot repeat a pillar" ++
    addIssue (item.pillar == .other || item.pillar == .unknown) .allocationInvalid
      (path ++ ".pillar") "Future pillar allocations need a configured canonical pillar" ++
    issues ++
    validateEvidenceCeiling item.classification resolved (path ++ ".classification") false
      (mode == .evidenceLed) ++
    addIssue (item.experimental != (mode == .exploratory)) .exploratoryRuleViolation
      (path ++ ".experimental") "Pillar allocations must explicitly match the strategy mode"

/-- `validatePillarPlan`. -/
def validatePillarPlan (strategy : StrategyV1) (manifest : List StrategyManifestEvidence) :
    List StrategyValidationIssue :=
  addIssue ((strategy.pillarPlan.map (·.allocationPercent)).sum != 100) .allocationInvalid
      "pillarPlan" "Pillar allocation must total exactly 100 percent" ++
    forEach (allocationIssues strategy.mode manifest) strategy.pillarPlan

/-! ### Recommendations -/

/-- The issue of one hook. -/
def hookIssues (platform : ContractPlatform) (path : String) (earlier : List Utf16) (index : ℕ)
    (hook : Utf16) : List StrategyValidationIssue :=
  addIssue ((earlier.map (normalizeComparableText platform)).contains
      (normalizeComparableText platform hook))
    .duplicateContent (itemPath (path ++ ".hookOptions") index)
    "Recommendation hooks must be distinct"

/-- The issues of one recommendation. -/
def recommendationIssues (platform : ContractPlatform) (recent : List String)
    (manifest : List StrategyManifestEvidence) (earlier : List StrategyRecommendation) (index : ℕ)
    (recommendation : StrategyRecommendation) : List StrategyValidationIssue :=
  let path := itemPath "recommendations" index
  let (issues, resolved) :=
    validateEvidenceReferences recommendation.evidence (path ++ ".evidence") manifest
  let title := normalizeComparableText platform recommendation.title
  let fingerprint := createStrategyRecommendationFingerprint platform recommendation
  issues ++
    addIssue (recommendation.classification != .creativeRecommendation) .empiricalClassInvalid
      (path ++ ".classification") "Recommendations must remain labelled as creative proposals" ++
    addIssue (recommendation.contentPillar == .other || recommendation.contentPillar == .unknown)
      .recommendationInvalid (path ++ ".contentPillar")
      "Recommendations need a configured canonical content pillar" ++
    addIssue (recommendation.format == .unknown) .recommendationInvalid (path ++ ".format")
      "Recommendations need a specified content format" ++
    addIssue (recommendation.cta.type == .none || recommendation.cta.type == .unknown)
      .recommendationInvalid (path ++ ".cta.type")
      "Actionable recommendations need a specified CTA type" ++
    addIssue ((!resolved.any fun item => item.type == .featureStatistic) &&
        recommendation.creativeLeap == none)
      .evidenceRequired (path ++ ".creativeLeap")
      "Recommendations without statistic support must label their creative leap" ++
    forEach (hookIssues platform path) recommendation.hookOptions ++
    addIssue ((earlier.map fun other => normalizeComparableText platform other.title).contains title)
      .duplicateContent (path ++ ".title") "Recommendation titles must be distinct" ++
    addIssue ((earlier.map (createStrategyRecommendationFingerprint platform)).contains fingerprint)
      .duplicateContent path "Current recommendations must be distinct" ++
    addIssue (recent.contains fingerprint && recommendation.iterationReason == none)
      .iterationReasonRequired (path ++ ".iterationReason")
      "Repeating a recent recommendation requires an explicit iteration reason" ++
    validateExperiment platform recommendation.experiment (path ++ ".experiment") manifest

/-- `validateRecommendations`. -/
def validateRecommendations (platform : ContractPlatform) (strategy : StrategyV1)
    (context : StrategyValidationContext) (manifest : List StrategyManifestEvidence) :
    List StrategyValidationIssue :=
  forEach (recommendationIssues platform context.recentRecommendationFingerprints manifest)
    strategy.recommendations

/-! ### Limitations -/

/-- The entries that the limitations cite as limitations. -/
def limitationReferences (strategy : StrategyV1) : List String :=
  strategy.limitations.flatMap fun limitation =>
    (limitation.evidence.filter fun reference => reference.role == .limitation).map (·.evidenceId)

/-- The issues of one limitation. -/
def limitationIssues (manifest : List StrategyManifestEvidence)
    (_earlier : List StrategyLimitation) (index : ℕ) (limitation : StrategyLimitation) :
    List StrategyValidationIssue :=
  if limitation.evidence.isEmpty then []
  else (validateEvidenceReferences limitation.evidence (itemPath "limitations" index ++ ".evidence")
    manifest).1

/-- `validateRequiredLimitations`. -/
def validateRequiredLimitations (strategy : StrategyV1) (manifest : List StrategyManifestEvidence) :
    List StrategyValidationIssue :=
  manifest.flatMap (fun item =>
      addIssue (item.requiredInLimitations &&
          !(limitationReferences strategy).contains item.evidenceId)
        .limitationOmitted "limitations" "A required manifest limitation was omitted") ++
    forEach (limitationIssues manifest) strategy.limitations

/-! ### Keys -/

/-- The keys of the document, each with the place where it stands. -/
def placedKeys (strategy : StrategyV1) : List (String × String) :=
  placed "workingPatterns" (strategy.workingPatterns.map (·.key)) ++
    placed "weakPatterns" (strategy.weakPatterns.map (·.key)) ++
    placed "recommendations" (strategy.recommendations.map (·.key))
where
  placed (groupName : String) (keys : List String) : List (String × String) :=
    keys.zipIdx.map fun entry => (entry.1, itemPath groupName entry.2 ++ ".key")

/-- `validateUniqueKeys`. -/
def validateUniqueKeys (strategy : StrategyV1) : List StrategyValidationIssue :=
  forEach keyIssues (placedKeys strategy)
where
  keyIssues (earlier : List (String × String)) (_index : ℕ) (placed : String × String) :
      List StrategyValidationIssue :=
    addIssue ((earlier.map Prod.fst).contains placed.1) .duplicateContent placed.2
      "Strategy keys must be unique across the output"

/-! ### The rules of exploration -/

/-- A character of `[A-Za-z0-9_]`, where letters that fold to one of these are matched as well. -/
def isWordUnit (unit : UInt16) : Bool :=
  isTagLetter unit || (0x30 ≤ unit && unit ≤ 0x39) || unit == 0x5F

/-- The first text is the letters of the second, ignoring case. -/
def matchesLetter (unit letter : UInt16) : Bool :=
  unit == letter || unit + 0x20 == letter || (unit == 0x017F && letter == 0x73)

/-- `/^\s*insufficient\b/iu.test(value)`. -/
def leadsWithInsufficient (value : Utf16) : Bool :=
  let opening := ofString "insufficient"
  let text := value.dropWhile isSpace
  (text.take opening.length).length == opening.length &&
    (List.zipWith matchesLetter text opening).all id &&
    !(text.drop opening.length).head?.any isWordUnit

/-- `validateExploratoryRules`. -/
def validateExploratoryRules (strategy : StrategyV1) : List StrategyValidationIssue :=
  if strategy.mode != .exploratory then []
  else
    addIssue (!strategy.workingPatterns.isEmpty) .exploratoryRuleViolation "workingPatterns"
        "Exploratory strategy cannot publish working patterns" ++
      addIssue (!leadsWithInsufficient strategy.periodSummary) .exploratoryRuleViolation
        "periodSummary" "Exploratory strategy must lead with evidence insufficiency" ++
      addIssue ((strategy.weakPatterns.map (·.classification) ++
          strategy.pillarPlan.map (·.classification)).any fun classification =>
            [StrategyEvidenceClass.statisticallySupportedAssociation,
              .moderateAssociation].contains classification)
        .exploratoryRuleViolation "mode"
        "Exploratory strategy cannot use moderate or statistically supported language"

/-! ### The whole -/

/-- What the collectors find in a document that has the shape of a strategy. -/
def strategyIssues (platform : ContractPlatform) (context : StrategyValidationContext)
    (manifest : List StrategyManifestEvidence) (data : StrategyV1) :
    List StrategyValidationIssue :=
  addIssue (data.mode != context.mode) .modeMismatch "mode"
      "Strategy mode must match the frozen request mode" ++
    addIssue manifest.isEmpty .evidenceRequired "manifest"
      "Strategy validation requires a frozen evidence manifest" ++
    validateClaims data.workingPatterns "workingPatterns" data.mode manifest ++
    validateClaims data.weakPatterns "weakPatterns" data.mode manifest ++
    forEach (fun _ index experiment =>
      validateExperiment platform experiment (itemPath "testsNext" index) manifest) data.testsNext ++
    validatePillarPlan data manifest ++
    validateRecommendations platform data context manifest ++
    validateRequiredLimitations data manifest ++
    validateUniqueKeys data ++
    validateExploratoryRules data

/-- `validateStrategyV1`. An error is what `createManifestMap` throws. -/
def validateStrategyV1 (platform : ContractPlatform) (value : Json)
    (context : StrategyValidationContext) : Except String StrategyValidationResult :=
  match strategyV1Schema value with
  | none => .ok (.invalid ((platform.schemaIssuePaths value).map fun path =>
      ⟨.schemaInvalid, path, "Response does not match the strategy schema"⟩))
  | some data => do
    let manifest ← createManifestMap context
    let issues := strategyIssues platform context manifest data
    pure (if issues.isEmpty then .valid data else .invalid issues)

end ContentAutomation
