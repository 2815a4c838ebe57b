import ContentAutomation.Library.Json
import ContentAutomation.Library.OrderStatistic
import ContentAutomation.Library.Vocabulary
import Mathlib.Data.Sign.Basic

/-!
# What a feature comparison shows

A comparison of two groups of posts has an effect, an interval that a seeded generator draws, the
effect without each of the posts, and a class that says how much all of this carries. The
arithmetic is that of the rational numbers, and the generator works on words of 32 bits.
-/

namespace ContentAutomation

open OrderStatistic

/-- `ConfidenceClass`. -/
inductive ConfidenceClass
  | insufficientEvidence | singlePostOutlier | weakDirectionalSignal | moderateAssociation
  | statisticallySupportedAssociation
  deriving DecidableEq

/-- `ClassificationReason`. -/
inductive ClassificationReason
  | belowMinimumSamples | effectBelowThreshold | fewPublicationDates | intervalIgnoresClustering
  | intervalIncludesNoDifference | meetsModerateThresholds | meetsSupportedThresholds
  | missingnessTooHigh | multipleTestingRejected | oneSourceDominatesSample
  | sensitivityChangesMateriality | singleEligiblePost | topPostDominatesTotal
  deriving DecidableEq

/-- `practicalEffectThreshold`. -/
def practicalEffectThreshold : ℚ := 1 / 10

/-- `minimumPublicationDates`. -/
def minimumPublicationDates : ℕ := 3

/-- `maximumMissingRatio`. -/
def maximumMissingRatio : ℚ := 2 / 5

/-- `falseDiscoveryRate`. -/
def falseDiscoveryRate : ℚ := 1 / 10

/-- `bootstrapResamples`. -/
def bootstrapResamples : ℕ := 2000

/-- `statisticsVersion`. -/
def statisticsVersion : String := "account-statistics-v1.0.0"

/-! ### Medians and spreads -/

/-- `percentile`. -/
def percentile (sorted : List ℚ) (fraction : ℚ) : Option ℚ :=
  match sorted with
  | [] => none
  | [value] => some value
  | _ => some (valueAt sorted ((sorted.length - 1) * fraction))

/-- `median`. -/
def median (values : List ℚ) : Option ℚ := percentile (ascending values) (1 / 2)

/-- `CohortSpread`. -/
structure CohortSpread where
  count : ℕ
  firstQuartile : Option ℚ
  interquartileRange : Option ℚ
  maximum : Option ℚ
  median : Option ℚ
  minimum : Option ℚ
  thirdQuartile : Option ℚ

/-- `summariseSpread`. -/
def summariseSpread (values : List ℚ) : CohortSpread :=
  let sorted := ascending values
  let firstQuartile := percentile sorted (1 / 4)
  let thirdQuartile := percentile sorted (3 / 4)
  { count := sorted.length
    firstQuartile
    interquartileRange := do pure ((← thirdQuartile) - (← firstQuartile))
    maximum := sorted.getLast?
    median := percentile sorted (1 / 2)
    minimum := sorted.head?
    thirdQuartile }

/-! ### The bootstrap -/

namespace Generator

/-- The word that the generator makes of its state. -/
def word (state : UInt32) : UInt32 :=
  let value := (state ^^^ (state >>> 15)) * (state ||| 1)
  let value := value ^^^ (value + (value ^^^ (value >>> 7)) * (value ||| 61))
  value ^^^ (value >>> 14)

/-- A call of the function that `createGenerator` returns: its number, and the state after it. -/
def next (state : UInt32) : ℚ × UInt32 :=
  let state := state + 0x6d2b79f5
  ((word state).toNat / 4294967296, state)

end Generator

/-- The functions of the platform that a seed is made by. -/
structure StatisticsPlatform where
  /-- How a number is written. -/
  numeral : ℚ → Utf16
  /-- `createHash("sha256").update(text, "utf8").digest()`. -/
  sha256 : Utf16 → Vector UInt8 32

/-- `digest.readUInt32BE(0)`. -/
def readUInt32BE (digest : Vector UInt8 32) : UInt32 :=
  .ofNat (((digest[0].toNat * 256 + digest[1].toNat) * 256 + digest[2].toNat) * 256 +
    digest[3].toNat)

namespace StatisticsPlatform

variable (platform : StatisticsPlatform)

/-- `[...values].sort()`, which compares the texts of the values. -/
def sortedByText (values : List ℚ) : List ℚ :=
  values.insertionSort fun first second => platform.numeral first ≤ platform.numeral second

/-- The values as JSON, in the order of their texts. -/
def jsonValues (values : List ℚ) : Json :=
  .array ((platform.sortedByText values).map fun value => .number (.finite value))

/-- `createBootstrapSeed`. -/
def createBootstrapSeed (comparison group : List ℚ) (key : String) : UInt32 :=
  readUInt32BE (platform.sha256 (Json.stringify platform.numeral
    (.array [.string (Utf16.ofString key), platform.jsonValues group,
      platform.jsonValues comparison])))

end StatisticsPlatform

/-- The values that so many draws pick, each by its position, and the state of the generator
after them. -/
def drawSample (values : List ℚ) : ℕ → UInt32 → List ℚ × UInt32
  | 0, state => ([], state)
  | count + 1, state =>
    let drawn := Generator.next state
    let rest := drawSample values count drawn.2
    (values.getD ⌊drawn.1 * values.length⌋₊ 0 :: rest.1, rest.2)

/-- The differences of so many resamples. -/
def resampledDifferences (comparison group : List ℚ) : ℕ → UInt32 → List ℚ
  | 0, _ => []
  | count + 1, state =>
    let groupSample := drawSample group group.length state
    let comparisonSample := drawSample comparison comparison.length groupSample.2
    ((median groupSample.1).getD 0 - (median comparisonSample.1).getD 0) ::
      resampledDifferences comparison group count comparisonSample.2

/-- `BootstrapInterval`. -/
structure BootstrapInterval where
  excludesNoDifference : Bool
  lower : ℚ
  resamples : ℕ
  seed : UInt32
  upper : ℚ

/-- `percentileOf`. -/
def percentileOf (sorted : List ℚ) (fraction : ℚ) : ℚ :=
  valueAt sorted ((sorted.length - 1) * fraction)

/-- `bootstrapMedianDifference`, of finite numbers. -/
def bootstrapMedianDifference (comparison : List ℚ) (confidence : ℚ) (group : List ℚ)
    (seed : UInt32) : Option BootstrapInterval :=
  if group.length = 0 ∨ comparison.length = 0 then none
  else
    let differences := ascending (resampledDifferences comparison group bootstrapResamples seed)
    let tail := (1 - confidence) / 2
    let lower := percentileOf differences tail
    let upper := percentileOf differences (1 - tail)
    some
      { excludesNoDifference := (lower > 0 && upper > 0) || (lower < 0 && upper < 0)
        lower
        resamples := bootstrapResamples
        seed
        upper }

/-! ### Sensitivity and contribution -/

/-- `SensitivityResult`. -/
structure SensitivityResult where
  minimumRelativeEffect : Option ℚ
  preservesDirection : Bool
  removeBestWorstPreservesDirection : Option Bool

/-- `relativeEffect`. -/
def relativeEffect (groupMedian comparisonMedian : ℚ) : Option ℚ :=
  if comparisonMedian = 0 then none
  else some ((groupMedian - comparisonMedian) / |comparisonMedian|)

/-- The medians of the values without each of them in turn. -/
def refitMedians (group : List ℚ) : List ℚ :=
  (List.range group.length).filterMap fun index => median (group.eraseIdx index)

/-- `evaluateSensitivity`, of finite numbers. -/
def evaluateSensitivity (comparison group : List ℚ) : SensitivityResult :=
  match median comparison, median group with
  | some comparisonMedian, some groupMedian =>
    if group.length < 2 then ⟨none, false, none⟩
    else
      let originalSign := SignType.sign (groupMedian - comparisonMedian)
      let keepsSign := fun refitMedian : ℚ =>
        SignType.sign (refitMedian - comparisonMedian) == originalSign
      let magnitudes := (refitMedians group).filterMap fun refitMedian =>
        (relativeEffect refitMedian comparisonMedian).map fun effect => |effect|
      { minimumRelativeEffect := magnitudes.min?
        preservesDirection := (refitMedians group).all keepsSign
        removeBestWorstPreservesDirection :=
          if 4 ≤ group.length then some ((median (ascending group).tail.dropLast).any keepsSign)
          else none }
  | _, _ => ⟨none, false, none⟩

/-- `topContributorShare`, of finite numbers. -/
def topContributorShare (values : List ℚ) : Option ℚ :=
  let counted := values.filter fun value => 0 ≤ value
  if counted.length = 0 ∨ counted.sum ≤ 0 then none
  else counted.max?.map fun top => top / counted.sum

/-! ### Classification -/

/-- `FeatureComparisonInput`. -/
structure FeatureComparisonInput where
  comparison : List JsNumber
  distinctPublicationDates : ℕ
  distinctPublicationWeeks : ℕ
  dominatedByOneSource : Bool
  group : List JsNumber
  key : String
  missingRatio : ℚ
  metricIsCount : Bool
  observationsClusterBySource : Bool
  survivesMultipleTesting : Option Bool

/-- `FeatureStatistic`. -/
structure FeatureStatistic where
  classification : ConfidenceClass
  comparisonCount : ℕ
  comparisonSpread : CohortSpread
  differenceOfMedians : Option ℚ
  groupCount : ℕ
  groupSpread : CohortSpread
  interval : Option BootstrapInterval
  reason : ClassificationReason
  relativeEffect : Option ℚ
  sensitivity : SensitivityResult
  statisticsVersion : String
  topContributorShare : Option ℚ

/-- `values.filter(Number.isFinite)`. -/
def finiteValues (values : List JsNumber) : List ℚ :=
  values.filterMap fun value =>
    match value with
    | .finite value => some value
    | _ => none

/-- What `calculateFeatureStatistic` derives from the values alone: its `base`, before a class
is settled. -/
def baseStatistic (comparison group : List ℚ) (metricIsCount : Bool) : FeatureStatistic :=
  let groupSpread := summariseSpread group
  let comparisonSpread := summariseSpread comparison
  { classification := .insufficientEvidence
    comparisonCount := comparison.length
    comparisonSpread
    differenceOfMedians := do pure ((← groupSpread.median) - (← comparisonSpread.median))
    groupCount := group.length
    groupSpread
    interval := none
    reason := .belowMinimumSamples
    relativeEffect := do relativeEffect (← groupSpread.median) (← comparisonSpread.median)
    sensitivity := evaluateSensitivity comparison group
    statisticsVersion
    topContributorShare := if metricIsCount then topContributorShare group else none }

/-- `settle`. -/
def FeatureStatistic.settle (base : FeatureStatistic) (classification : ConfidenceClass)
    (reason : ClassificationReason) (interval : Option BootstrapInterval) : FeatureStatistic :=
  { base with classification, interval, reason }

/-- Enough posts and weeks for the supported class. -/
def FeatureComparisonInput.meetsSupportedSamples (input : FeatureComparisonInput) : Bool :=
  12 ≤ (finiteValues input.group).length && 24 ≤ (finiteValues input.comparison).length &&
    6 ≤ input.distinctPublicationWeeks

/-- Enough posts for the moderate class. -/
def FeatureComparisonInput.meetsModerateSamples (input : FeatureComparisonInput) : Bool :=
  let group := finiteValues input.group
  let comparison := finiteValues input.comparison
  8 ≤ group.length && 12 ≤ comparison.length && 20 ≤ group.length + comparison.length

/-- What is derived from the values of a comparison alone. -/
def FeatureComparisonInput.base (input : FeatureComparisonInput) : FeatureStatistic :=
  baseStatistic (finiteValues input.comparison) (finiteValues input.group) input.metricIsCount

/-- The checks of `calculateFeatureStatistic` that come before its bootstrap: the class and the
reason that they settle, if they do. -/
def FeatureComparisonInput.settledEarly (input : FeatureComparisonInput) :
    Option (ConfidenceClass × ClassificationReason) :=
  let group := finiteValues input.group
  let comparison := finiteValues input.comparison
  let base := input.base
  if group.length = 1 then some (.singlePostOutlier, .singleEligiblePost)
  else if group.length < 3 ∨ comparison.length < 5 then
    some (.insufficientEvidence, .belowMinimumSamples)
  else if input.distinctPublicationDates < minimumPublicationDates then
    some (.insufficientEvidence, .fewPublicationDates)
  else if input.missingRatio > maximumMissingRatio then
    some (.insufficientEvidence, .missingnessTooHigh)
  else if base.topContributorShare.any fun share => share > 1 / 2 then
    some (.singlePostOutlier, .topPostDominatesTotal)
  else if base.sensitivity.preservesDirection = false then
    some (.singlePostOutlier, .sensitivityChangesMateriality)
  else if base.relativeEffect.all fun effect => |effect| < practicalEffectThreshold then
    some (.weakDirectionalSignal, .effectBelowThreshold)
  else if input.dominatedByOneSource then some (.weakDirectionalSignal, .oneSourceDominatesSample)
  else none

/-- The rest of `calculateFeatureStatistic`, which the intervals settle. -/
def FeatureComparisonInput.settleByInterval (input : FeatureComparisonInput)
    (supportedInterval moderateInterval : Option BootstrapInterval) : FeatureStatistic :=
  let base := input.base
  if input.meetsSupportedSamples && supportedInterval.any (·.excludesNoDifference) then
    if input.observationsClusterBySource then
      base.settle .moderateAssociation .intervalIgnoresClustering supportedInterval
    else if input.survivesMultipleTesting = some false then
      base.settle .moderateAssociation .multipleTestingRejected supportedInterval
    else if (base.sensitivity.minimumRelativeEffect.any fun effect =>
          practicalEffectThreshold / 2 ≤ effect) &&
        base.sensitivity.removeBestWorstPreservesDirection != some false then
      base.settle .statisticallySupportedAssociation .meetsSupportedThresholds supportedInterval
    else base.settle .moderateAssociation .sensitivityChangesMateriality supportedInterval
  else if input.meetsModerateSamples && moderateInterval.any (·.excludesNoDifference) then
    base.settle .moderateAssociation .meetsModerateThresholds moderateInterval
  else
    base.settle .weakDirectionalSignal
      (if moderateInterval.any fun interval => !interval.excludesNoDifference then
        .intervalIncludesNoDifference
      else .belowMinimumSamples)
      moderateInterval

/-- `calculateFeatureStatistic`. -/
def calculateFeatureStatistic (platform : StatisticsPlatform) (input : FeatureComparisonInput) :
    FeatureStatistic :=
  match input.settledEarly with
  | some (classification, reason) => input.base.settle classification reason none
  | none =>
    let group := finiteValues input.group
    let comparison := finiteValues input.comparison
    let seed := platform.createBootstrapSeed comparison group input.key
    input.settleByInterval (bootstrapMedianDifference comparison (19 / 20) group seed)
      (bootstrapMedianDifference comparison (4 / 5) group seed)

variable {platform : StatisticsPlatform}

/-! ### The order of the values

The seed of a comparison is made of its values, whatever their order, and so are its medians,
spreads and refits. -/

section Perm

variable {values others comparison comparison' group group' : List ℚ}

theorem median_eq_of_perm (h : values.Perm others) : median values = median others := by
  rw [median, median, ascending_eq_of_perm h]

theorem summariseSpread_eq_of_perm (h : values.Perm others) :
    summariseSpread values = summariseSpread others := by
  rw [summariseSpread, summariseSpread, ascending_eq_of_perm h]

private theorem stringify_jsonValues (values : List ℚ) :
    Json.stringify platform.numeral (platform.jsonValues values) = Utf16.ofString "[" ++
      (Utf16.ofString ",").intercalate ((values.map platform.numeral).insertionSort (· ≤ ·)) ++
      Utf16.ofString "]" := by
  have hitems : ∀ items : List ℚ, Json.stringifyItems platform.numeral
      (items.map fun value => .number (.finite value)) = items.map platform.numeral := by
    intro items
    induction items with
    | nil => rfl
    | cons value items ih => rw [List.map_cons, Json.stringifyItems, ih, Json.stringify,
        List.map_cons]
  have hsorted : (platform.sortedByText values).map platform.numeral =
      (values.map platform.numeral).insertionSort (· ≤ ·) :=
    List.map_insertionSort _ _ platform.numeral values fun _ _ _ _ => Iff.rfl
  rw [StatisticsPlatform.jsonValues, Json.stringify, hitems, hsorted]

theorem createBootstrapSeed_eq_of_perm (hcomparison : comparison.Perm comparison')
    (hgroup : group.Perm group') (key : String) :
    platform.createBootstrapSeed comparison group key =
      platform.createBootstrapSeed comparison' group' key := by
  have htexts : ∀ {values others : List ℚ}, values.Perm others →
      Json.stringify platform.numeral (platform.jsonValues values) =
        Json.stringify platform.numeral (platform.jsonValues others) := by
    intro values others h
    rw [stringify_jsonValues, stringify_jsonValues,
      insertionSort_eq_of_perm (h.map platform.numeral)]
  simp only [StatisticsPlatform.createBootstrapSeed, Json.stringify, Json.stringifyItems,
    htexts hcomparison, htexts hgroup]

private theorem refitMedians_eq (group : List ℚ) :
    refitMedians group = group.filterMap fun value => median (group.erase value) := by
  have hgroup : (List.range group.length).map (fun index => group.getD index 0) = group := by
    refine List.ext_getElem (by simp) fun index hleft hright => ?_
    rw [List.getElem_map, List.getElem_range, List.getD_eq_getElem _ _ hright]
  calc refitMedians group
      = (List.range group.length).filterMap fun index =>
          median (group.erase (group.getD index 0)) := by
        refine List.filterMap_congr fun index hindex => ?_
        have hlt := List.mem_range.mp hindex
        rw [List.getD_eq_getElem _ _ hlt]
        exact (median_eq_of_perm (List.erase_getElem hlt)).symm
    _ = ((List.range group.length).map fun index => group.getD index 0).filterMap fun value =>
          median (group.erase value) := by
        rw [List.filterMap_map]
        rfl
    _ = group.filterMap fun value => median (group.erase value) := by rw [hgroup]

private theorem refitMedians_perm (h : group.Perm group') :
    (refitMedians group).Perm (refitMedians group') := by
  rw [refitMedians_eq, refitMedians_eq]
  have hfun : (fun value => median (group.erase value)) =
      fun value => median (group'.erase value) :=
    funext fun value => median_eq_of_perm (h.erase value)
  rw [hfun]
  exact h.filterMap _

private theorem evaluateSensitivity_eq_of_perm (hcomparison : comparison.Perm comparison')
    (hgroup : group.Perm group') :
    evaluateSensitivity comparison group = evaluateSensitivity comparison' group' := by
  have hrefits := refitMedians_perm hgroup
  simp only [evaluateSensitivity, median_eq_of_perm hcomparison, median_eq_of_perm hgroup,
    hgroup.length_eq, ascending_eq_of_perm hgroup, hrefits.all_eq,
    min?_eq_of_perm (hrefits.filterMap _)]

private theorem topContributorShare_eq_of_perm (h : values.Perm others) :
    topContributorShare values = topContributorShare others := by
  have hcounted := h.filter fun value => decide (0 ≤ value)
  simp only [topContributorShare, hcounted.length_eq, hcounted.sum_eq, max?_eq_of_perm hcounted]

/-- What is derived from the values alone is derived from them in another order. -/
theorem baseStatistic_eq_of_perm (hcomparison : comparison.Perm comparison')
    (hgroup : group.Perm group') (metricIsCount : Bool) :
    baseStatistic comparison group metricIsCount =
      baseStatistic comparison' group' metricIsCount := by
  simp only [baseStatistic, summariseSpread_eq_of_perm hcomparison,
    summariseSpread_eq_of_perm hgroup, hcomparison.length_eq, hgroup.length_eq,
    evaluateSensitivity_eq_of_perm hcomparison hgroup, topContributorShare_eq_of_perm hgroup]

end Perm

end ContentAutomation
