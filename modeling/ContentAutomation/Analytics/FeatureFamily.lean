import ContentAutomation.Analytics.StatisticOrder
import ContentAutomation.Analytics.Windows
import ContentAutomation.Library.CalendarText
import ContentAutomation.Library.StepUp

/-!
# The comparisons of one family

All comparisons of a request are calculated, and those that reach the supported class are
corrected for being many. The correction covers these alone: whatever else was compared in the
family, it removes none of them.
-/

namespace ContentAutomation

open OrderStatistic
open List hiding Vector

/-! ### Requests -/

/-- `SnapshotAgeWindowKey`, as a text. -/
def SnapshotAgeWindowKey.key : SnapshotAgeWindowKey → String
  | .atImport => "import"
  | .hour1 => "hour_1"
  | .day1 => "day_1"
  | .day3 => "day_3"
  | .day7 => "day_7"
  | .day30 => "day_30"
  | .mature => "mature"
  | .lifetime => "lifetime"

/-- `FeatureObservation`. -/
structure FeatureObservation where
  instagramAccountId : String
  instagramPostId : String
  metricSnapshotId : String
  postAnalysisId : String
  publishedAt : String
  value : JsNumber

/-- `FeatureComparisonCandidate`. -/
structure FeatureComparisonCandidate where
  group : List FeatureObservation
  comparison : List FeatureObservation
  featurePath : String
  featureValue : String
  missingCount : ℕ

/-- `FeatureStatisticRequest`. -/
structure FeatureStatisticRequest where
  ageWindow : SnapshotAgeWindowKey
  candidates : List FeatureComparisonCandidate
  instagramAccountId : Option String
  metric : String
  metricIsCount : Bool
  publishedFrom : ℤ
  publishedTo : ℤ

/-- The functions of the platform that a family is calculated by. -/
structure FamilyPlatform extends StatisticsPlatform where
  /-- `new Date(text).getTime()`, `none` being `NaN`. -/
  dateParse : String → Option ℤ

/-! ### What a comparison is made of -/

/-- `Date.UTC(year, month, day)` in days, where the years of two digits are in the twentieth
century. -/
def utcDays (date : Calendar.Date) : ℤ :=
  Calendar.daysOf
    { date with year := if 0 ≤ date.year ∧ date.year ≤ 99 then 1900 + date.year else date.year }

/-- `isoWeek`, of an instant or `NaN`. -/
def isoWeek (date : Option ℤ) : String :=
  match date with
  | none => "NaN-WNaN"
  | some instant =>
    let utc := utcDays (Calendar.dateOf (instant / Calendar.dayMilliseconds))
    let day := if (utc + 4) % 7 = 0 then 7 else (utc + 4) % 7
    let utc := utc + 4 - day
    let year := (Calendar.dateOf utc).year
    let yearStart := utcDays ⟨year, 1, 1⟩
    let week := (utc - yearStart + 7) / 7
    toString year ++ "-W" ++ if week < 0 then toString week else Calendar.padded 2 week.toNat

/-- `distinct`. -/
def distinct {T : Type*} [DecidableEq T] (values : List T) : ℕ := values.dedup.length

/-- `publishedAt.slice(0, 10)`. -/
def FeatureObservation.publishedOn (observation : FeatureObservation) : Utf16 :=
  (Utf16.ofString observation.publishedAt).take 10

/-- `missingRatioOf`. -/
def missingRatioOf (candidate : FeatureComparisonCandidate) : ℚ :=
  let eligible := candidate.group.length + candidate.comparison.length + candidate.missingCount
  if eligible = 0 then 0 else candidate.missingCount / eligible

/-- `maximumPooledSourceShare`. -/
def maximumPooledSourceShare : ℚ := 7 / 10

/-- `dominantSourceShare`. -/
def dominantSourceShare (observations : List FeatureObservation) : ℚ :=
  let accounts := observations.map (·.instagramAccountId)
  if observations.length = 0 then 0
  else ((accounts.map fun account => accounts.count account).max?.getD 0 : ℚ) / observations.length

/-- The distinct dates of publication of a group. -/
def distinctPublicationDates (candidate : FeatureComparisonCandidate) : ℕ :=
  distinct (candidate.group.map FeatureObservation.publishedOn)

/-- The distinct weeks of publication of a group. -/
def distinctPublicationWeeks (platform : FamilyPlatform) (candidate : FeatureComparisonCandidate) :
    ℕ :=
  distinct (candidate.group.map fun observation =>
    isoWeek (platform.dateParse observation.publishedAt))

namespace FeatureStatisticRequest

variable (platform : FamilyPlatform) (request : FeatureStatisticRequest)

/-- The key that the bootstrap of a candidate is seeded by. -/
def keyOf (candidate : FeatureComparisonCandidate) : String :=
  candidate.featurePath ++ "=" ++ candidate.featureValue ++ "|" ++ request.metric ++ "|" ++
    request.ageWindow.key

/-- The comparison that `build` calculates; the flags of the pooled scope are set where no account
is named. -/
def comparisonInput (candidate : FeatureComparisonCandidate)
    (survivesMultipleTesting : Option Bool) : FeatureComparisonInput where
  comparison := candidate.comparison.map (·.value)
  distinctPublicationDates := distinctPublicationDates candidate
  distinctPublicationWeeks := distinctPublicationWeeks platform candidate
  dominatedByOneSource := request.instagramAccountId.isNone &&
    (dominantSourceShare candidate.group > maximumPooledSourceShare ||
      dominantSourceShare candidate.comparison > maximumPooledSourceShare)
  group := candidate.group.map (·.value)
  key := request.keyOf candidate
  missingRatio := missingRatioOf candidate
  metricIsCount := request.metricIsCount
  observationsClusterBySource := request.instagramAccountId.isNone
  survivesMultipleTesting

/-- `build`. -/
def build (candidate : FeatureComparisonCandidate) (survivesMultipleTesting : Option Bool) :
    FeatureStatistic :=
  calculateFeatureStatistic platform.toStatisticsPlatform
    (request.comparisonInput platform candidate survivesMultipleTesting)

/-- `firstPass`. -/
def firstPass : List FeatureStatistic :=
  request.candidates.map fun candidate => request.build platform candidate none

end FeatureStatisticRequest

/-! ### The correction -/

/-- `benjaminiHochberg`. -/
def benjaminiHochberg (pValues : List ℚ) (rate : ℚ) : List Bool :=
  StepUp.selected (fun rank => (rank + 1 : ℚ) / pValues.length * rate) pValues

/-- The ranking statistic of an interval. -/
def pseudoPValue (interval : Option BootstrapInterval) : ℚ :=
  match interval with
  | none => 1
  | some interval =>
    if interval.excludesNoDifference = false then 1
    else
      let distance := min |interval.lower| |interval.upper|
      let width := |interval.upper - interval.lower|
      if width = 0 then if distance > 0 then 0 else 1
      else 1 / 20 / (1 + distance / width)

namespace FeatureStatisticRequest

variable (platform : FamilyPlatform) (request : FeatureStatisticRequest)

/-- `familyIndexes`. -/
def familyIndexes : List ℕ :=
  ((request.firstPass platform).zipIdx.filter fun entry =>
    entry.1.classification = .statisticallySupportedAssociation).map Prod.snd

/-- `pseudoPValues`. -/
def pseudoPValues : List ℚ :=
  (request.familyIndexes platform).map fun index =>
    pseudoPValue ((request.firstPass platform)[index]?.bind (·.interval))

/-- `verdicts.get(index)`. -/
def verdict (index : ℕ) : Option Bool :=
  if index ∈ request.familyIndexes platform then
    some ((benjaminiHochberg (request.pseudoPValues platform) falseDiscoveryRate).getD
      ((request.familyIndexes platform).idxOf index) false)
  else none

end FeatureStatisticRequest

/-! ### The family -/

/-- `analyticsVersion`. -/
def analyticsVersion : String := "account-analytics-v1.0.0"

/-- `cohortSelectionVersion`. -/
def cohortSelectionVersion : String := "account-cohort-v1.0.0"

/-- `analysisSchemaVersion`. -/
def analysisSchemaVersion : String := "post-creative-analysis-v1.1.0"

/-- What `createStatisticFingerprint` identifies an observation by. -/
def FeatureObservation.identity (observation : FeatureObservation) : String :=
  observation.instagramPostId ++ ":" ++ observation.metricSnapshotId ++ ":" ++
    observation.postAnalysisId

/-- `identify`. -/
def identify (observations : List FeatureObservation) : List Utf16 :=
  (observations.map fun observation => Utf16.ofString observation.identity).insertionSort (· ≤ ·)

namespace FeatureStatisticRequest

variable (platform : FamilyPlatform) (request : FeatureStatisticRequest)

/-- The value that `createStatisticFingerprint` makes a text of. -/
def fingerprintInput (candidate : FeatureComparisonCandidate) : Json :=
  .array [.string (Utf16.ofString analyticsVersion), .string (Utf16.ofString statisticsVersion),
    .string (Utf16.ofString cohortSelectionVersion),
    .string (Utf16.ofString analysisSchemaVersion),
    .string (Utf16.ofString (request.instagramAccountId.getD "pooled")),
    .string (Utf16.ofString request.ageWindow.key), .string (Utf16.ofString request.metric),
    .string (Utf16.ofString candidate.featurePath),
    .string (Utf16.ofString candidate.featureValue),
    .array ((identify candidate.group).map .string),
    .array ((identify candidate.comparison).map .string)]

/-- `createStatisticFingerprint`. -/
def createStatisticFingerprint (candidate : FeatureComparisonCandidate) : Utf16 :=
  (platform.sha256 (Json.stringify platform.numeral (request.fingerprintInput candidate))).toList.flatMap
    fun byte => [Json.hexDigit (byte.toNat / 16), Json.hexDigit (byte.toNat % 16)]

end FeatureStatisticRequest

/-- `CalculatedComparison`. -/
structure CalculatedComparison where
  candidate : FeatureComparisonCandidate
  fingerprint : Utf16
  statistic : FeatureStatistic

namespace FeatureStatisticRequest

variable (platform : FamilyPlatform) (request : FeatureStatisticRequest)

/-- The statistic of the candidate at an index: recalculated where it has a verdict. -/
def statisticAt (candidate : FeatureComparisonCandidate) (index : ℕ) : FeatureStatistic :=
  match request.verdict platform index with
  | none => ((request.firstPass platform)[index]?).getD (request.build platform candidate none)
  | some verdict => request.build platform candidate (some verdict)

/-- `calculateFeatureFamily`. -/
def calculateFeatureFamily : List CalculatedComparison :=
  request.candidates.zipIdx.map fun entry =>
    { candidate := entry.1
      fingerprint := request.createStatisticFingerprint platform entry.1
      statistic := request.statisticAt platform entry.1 entry.2 }

end FeatureStatisticRequest

/-! ### The correction removes nothing -/

open FeatureComparisonInput

section Supported

variable {platform : StatisticsPlatform} {input : FeatureComparisonInput}

theorem settledEarly_mem {verdict : ConfidenceClass × ClassificationReason}
    (h : input.settledEarly = some verdict) :
    verdict ∈ [(.singlePostOutlier, .singleEligiblePost),
      (.insufficientEvidence, .belowMinimumSamples), (.insufficientEvidence, .fewPublicationDates),
      (.insufficientEvidence, .missingnessTooHigh), (.singlePostOutlier, .topPostDominatesTotal),
      (.singlePostOutlier, .sensitivityChangesMateriality),
      (.weakDirectionalSignal, .effectBelowThreshold),
      (.weakDirectionalSignal, .oneSourceDominatesSample)] := by
  unfold settledEarly at h
  dsimp only at h
  split_ifs at h <;> cases h <;> decide

/-- A supported comparison is settled by its interval. -/
theorem late_of_supported (h : (calculateFeatureStatistic platform input).classification =
      .statisticallySupportedAssociation) :
    input.settledEarly = none ∧
      (input.settledLate platform).1 = .statisticallySupportedAssociation := by
  rw [calculateFeatureStatistic_eq] at h
  cases hearly : input.settledEarly with
  | some verdict =>
    rw [hearly] at h
    have hverdict : verdict.1 = .statisticallySupportedAssociation := h
    have hmem := settledEarly_mem hearly
    simp only [mem_cons, not_mem_nil, or_false] at hmem
    rcases hmem with rfl | rfl | rfl | rfl | rfl | rfl | rfl | rfl <;> cases hverdict
  | none =>
    rw [hearly] at h
    exact ⟨rfl, h⟩

/-- What is known of a comparison before its resamples leaves the supported class open. -/
structure FeatureComparisonInput.MayBeSupported (input : FeatureComparisonInput) : Prop where
  reaches : input.ReachesBootstrap
  samples : input.meetsSupportedSamples = true
  oneSource : input.observationsClusterBySource = false
  sensitivity : ((input.base.sensitivity.minimumRelativeEffect.any fun effect =>
      practicalEffectThreshold / 2 ≤ effect) &&
    input.base.sensitivity.removeBestWorstPreservesDirection != some false) = true

/-- A supported comparison meets what its class asks of it, and stores the interval that excludes
zero. -/
theorem interval_of_supported (h : (calculateFeatureStatistic platform input).classification =
      .statisticallySupportedAssociation) :
    input.MayBeSupported ∧ excludesZero (input.ends platform (19 / 20)) ∧
      (calculateFeatureStatistic platform input).interval =
        some (input.interval platform (19 / 20)) := by
  obtain ⟨hearly, hlate⟩ := late_of_supported h
  have hreaches : input.reachesSupported platform = true := by
    unfold settledLate at hlate
    by_contra hnot
    rw [if_neg hnot] at hlate
    split_ifs at hlate
  have hconfidence : input.settledConfidence platform = 19 / 20 := if_pos hreaches
  obtain ⟨hsamples, hexcludes⟩ := Bool.and_eq_true_iff.mp hreaches
  refine ⟨?_, hexcludes, ?_⟩
  · rw [settledLate, if_pos hreaches] at hlate
    split_ifs at hlate with hclusters hrejected hsensitivity
    exact ⟨settledEarly_eq_none_iff.mp hearly, hsamples, by simpa using hclusters, hsensitivity⟩
  · rw [calculateFeatureStatistic_eq, hearly]
    simp only [FeatureStatistic.settle, hconfidence]

private theorem reason_ne_multipleTestingRejected (h : input.survivesMultipleTesting = none) :
    (calculateFeatureStatistic platform input).reason ≠ .multipleTestingRejected := by
  rw [calculateFeatureStatistic_eq]
  cases hearly : input.settledEarly with
  | some verdict =>
    intro hreason
    have hverdict : verdict.2 = .multipleTestingRejected := hreason
    have hmem := settledEarly_mem hearly
    simp only [mem_cons, not_mem_nil, or_false] at hmem
    rcases hmem with rfl | rfl | rfl | rfl | rfl | rfl | rfl | rfl <;> cases hverdict
  | none =>
    intro hreason
    have hlate : (input.settledLate platform).2 = .multipleTestingRejected := hreason
    unfold settledLate at hlate
    rw [h, if_neg (show ¬ (none : Option Bool) = some false from nofun)] at hlate
    split_ifs at hlate

private theorem calculateFeatureStatistic_survives (platform : StatisticsPlatform)
    (input : FeatureComparisonInput) :
    calculateFeatureStatistic platform { input with survivesMultipleTesting := some true } =
      calculateFeatureStatistic platform { input with survivesMultipleTesting := none } := rfl

private theorem pseudoPValue_le (h : excludesZero (input.ends platform (19 / 20))) :
    pseudoPValue (some (input.interval platform (19 / 20))) ≤ 1 / 20 := by
  have hexcludes : (input.interval platform (19 / 20)).excludesNoDifference = true := h
  have hends : (input.interval platform (19 / 20)).lower ≠ 0 ∧
      (input.interval platform (19 / 20)).upper ≠ 0 := by
    simp only [excludesZero, Bool.or_eq_true, Bool.and_eq_true, decide_eq_true_eq] at h
    rcases h with ⟨hlower, hupper⟩ | ⟨hlower, hupper⟩
    · exact ⟨hlower.ne', hupper.ne'⟩
    · exact ⟨hlower.ne, hupper.ne⟩
  have hdistance : 0 < min |(input.interval platform (19 / 20)).lower|
      |(input.interval platform (19 / 20)).upper| :=
    lt_min (abs_pos.mpr hends.1) (abs_pos.mpr hends.2)
  simp only [pseudoPValue, hexcludes, Bool.true_eq_false, if_false, gt_iff_lt, if_pos hdistance]
  split_ifs with hwidth
  · norm_num
  · have hratio : 0 ≤ min |(input.interval platform (19 / 20)).lower|
          |(input.interval platform (19 / 20)).upper| /
        |(input.interval platform (19 / 20)).upper - (input.interval platform (19 / 20)).lower| :=
      div_nonneg hdistance.le (abs_nonneg _)
    exact div_le_self (by norm_num) (le_add_of_nonneg_right hratio)

end Supported

theorem monotone_threshold (count : ℕ) {rate : ℚ} (hrate : 0 ≤ rate) :
    Monotone fun rank : ℕ => (rank + 1 : ℚ) / count * rate := by
  intro rank later hle
  have hcast : (rank : ℚ) ≤ later := by exact_mod_cast hle
  refine mul_le_mul_of_nonneg_right ?_ hrate
  exact div_le_div_of_nonneg_right (by linarith) (Nat.cast_nonneg count)

/-- **Benjamini-Hochberg by counting.** A value survives exactly when some value from it on is
within the share of the rate that the values up to it have. -/
theorem benjaminiHochberg_iff {pValues : List ℚ} {rate : ℚ} (hrate : 0 ≤ rate) {index : ℕ}
    (hindex : index < pValues.length) :
    (benjaminiHochberg pValues rate).getD index false ↔ ∃ value ∈ pValues,
      pValues[index] ≤ value ∧ pValues.length * value ≤ pValues.countP (· ≤ value) * rate := by
  have hlength : (0 : ℚ) < pValues.length := by
    exact_mod_cast Nat.lt_of_le_of_lt (Nat.zero_le index) hindex
  rw [benjaminiHochberg, StepUp.selected_iff (monotone_threshold _ hrate) hindex]
  refine exists_congr fun value => and_congr_right fun hmem => and_congr_right fun _ => ?_
  have hcount : 1 ≤ pValues.countP (· ≤ value) := countP_pos_iff.mpr ⟨value, hmem, by simp⟩
  rw [Nat.cast_sub hcount, Nat.cast_one, sub_add_cancel, div_mul_eq_mul_div, le_div_iff₀ hlength,
    mul_comm value]

namespace FeatureStatisticRequest

variable (platform : FamilyPlatform) (request : FeatureStatisticRequest)

/-- The members of the corrected family are the candidates that the first pass supports. -/
theorem mem_familyIndexes {index : ℕ} : index ∈ request.familyIndexes platform ↔
    ∃ statistic, (request.firstPass platform)[index]? = some statistic ∧
      statistic.classification = .statisticallySupportedAssociation := by
  simp only [familyIndexes, mem_map, mem_filter, mem_zipIdx_iff_getElem?,
    decide_eq_true_eq, Prod.exists, exists_eq_right]

private theorem pseudoPValues_le : ∀ value ∈ request.pseudoPValues platform, value ≤ 1 / 20 := by
  intro value hvalue
  obtain ⟨index, hindex, rfl⟩ := mem_map.mp hvalue
  obtain ⟨statistic, hstatistic, hsupported⟩ := (mem_familyIndexes platform request).mp hindex
  rw [firstPass, List.getElem?_map, Option.map_eq_some_iff] at hstatistic
  obtain ⟨candidate, hcandidate, rfl⟩ := hstatistic
  obtain ⟨-, hexcludes, hinterval⟩ := interval_of_supported hsupported
  rw [firstPass, List.getElem?_map, hcandidate, Option.map_some, Option.bind_some]
  rw [build, hinterval]
  exact pseudoPValue_le hexcludes

/-- **The correction is without effect.** Every member of the corrected family survives it. -/
theorem verdict_eq (index : ℕ) : request.verdict platform index =
    if index ∈ request.familyIndexes platform then some true else none := by
  unfold verdict
  split_ifs with hindex
  · have hplace : (request.familyIndexes platform).idxOf index <
        (request.pseudoPValues platform).length := by
      rw [pseudoPValues, length_map]
      exact idxOf_lt_length_of_mem hindex
    obtain ⟨greatest, hgreatest⟩ : ∃ greatest, (request.pseudoPValues platform).max? =
        some greatest := by
      rw [← Option.isSome_iff_exists, isSome_max?_iff]
      exact ne_nil_of_length_pos (by omega)
    obtain ⟨hmem, hbound⟩ := List.max?_eq_some_iff.mp hgreatest
    congr 1
    rw [benjaminiHochberg_iff (by norm_num [falseDiscoveryRate]) hplace]
    refine ⟨greatest, hmem, hbound _ (getElem_mem hplace), ?_⟩
    -- the values up to the greatest are all of them, and it is within a twentieth
    have hall : (request.pseudoPValues platform).countP (· ≤ greatest) =
        (request.pseudoPValues platform).length :=
      countP_eq_length.mpr fun value hvalue => decide_eq_true (hbound value hvalue)
    rw [hall]
    refine mul_le_mul_of_nonneg_left ?_ (Nat.cast_nonneg _)
    exact (request.pseudoPValues_le platform greatest hmem).trans (by norm_num [falseDiscoveryRate])
  · rfl

/-- What a candidate is calculated as in its family is what it is calculated as alone. -/
theorem statisticAt_eq {candidate : FeatureComparisonCandidate} {index : ℕ}
    (h : request.candidates[index]? = some candidate) :
    request.statisticAt platform candidate index = request.build platform candidate none := by
  unfold statisticAt
  rw [verdict_eq]
  split_ifs with hindex
  · exact calculateFeatureStatistic_survives _ (request.comparisonInput platform candidate none)
  · simp only [firstPass, List.getElem?_map, h, Option.map_some, Option.getD_some]

private theorem map_statistic :
    (request.calculateFeatureFamily platform).map (·.statistic) = request.firstPass platform := by
  rw [calculateFeatureFamily, map_map, firstPass]
  calc request.candidates.zipIdx.map (fun entry => request.statisticAt platform entry.1 entry.2)
      = request.candidates.zipIdx.map fun entry => request.build platform entry.1 none :=
        map_congr_left fun entry hentry =>
          request.statisticAt_eq platform (mem_zipIdx_iff_getElem?.mp hentry)
    _ = (request.candidates.zipIdx.map Prod.fst).map fun candidate =>
          request.build platform candidate none := by
        rw [map_map]
        rfl
    _ = request.candidates.map fun candidate => request.build platform candidate none := by
        rw [zipIdx_map_fst]

/-! ### The correction over all that was compared -/

/-- The ranking statistics of all candidates of a request, `1` where the interval does not
exclude zero. -/
def testedPValues : List ℚ :=
  (request.firstPass platform).map fun statistic => pseudoPValue statistic.interval

/-- A candidate is supported only if it survives the correction over all candidates. -/
def SurvivesWholeFamily : Prop :=
  ∀ (index : ℕ) (entry : CalculatedComparison),
    (request.calculateFeatureFamily platform)[index]? = some entry →
    entry.statistic.classification = .statisticallySupportedAssociation →
    (benjaminiHochberg (request.testedPValues platform) falseDiscoveryRate).getD index false = true

/-- Every candidate that is supported alone ranks up to some candidate which is within the share
of the rate that the candidates up to it have. -/
def SupportedWithinRate : Prop :=
  ∀ (index : ℕ) (candidate : FeatureComparisonCandidate),
    request.candidates[index]? = some candidate →
    (request.build platform candidate none).classification = .statisticallySupportedAssociation →
    ∃ value ∈ request.testedPValues platform,
      pseudoPValue (request.build platform candidate none).interval ≤ value ∧
        request.candidates.length * value ≤
          (request.testedPValues platform).countP (· ≤ value) * falseDiscoveryRate

end FeatureStatisticRequest

open FeatureStatisticRequest

/-- The supported candidates of a family survive the correction over all of its candidates exactly
when they rank within the rate. -/
theorem survivesWholeFamily_iff (platform : FamilyPlatform) (request : FeatureStatisticRequest) :
    request.SurvivesWholeFamily platform ↔ request.SupportedWithinRate platform := by
  have hlength : (request.testedPValues platform).length = request.candidates.length := by
    simp [testedPValues, firstPass]
  -- a candidate survives all candidates by the count of those that rank up to it
  have hsurvives : ∀ (index : ℕ) candidate, request.candidates[index]? = some candidate →
      ((benjaminiHochberg (request.testedPValues platform) falseDiscoveryRate).getD index false =
          true ↔ ∃ value ∈ request.testedPValues platform,
        pseudoPValue (request.build platform candidate none).interval ≤ value ∧
          request.candidates.length * value ≤
            (request.testedPValues platform).countP (· ≤ value) * falseDiscoveryRate) := by
    intro index candidate hcandidate
    obtain ⟨hindex, hvalue⟩ := List.getElem?_eq_some_iff.mp hcandidate
    have htested : index < (request.testedPValues platform).length := hlength ▸ hindex
    have hrank : (request.testedPValues platform)[index] =
        pseudoPValue (request.build platform candidate none).interval := by
      simp only [testedPValues, firstPass, map_map, getElem_map, Function.comp_apply,
        hvalue]
    rw [benjaminiHochberg_iff (by norm_num [falseDiscoveryRate]) htested, hrank, hlength]
  have hentry : ∀ index : ℕ,
      ((request.calculateFeatureFamily platform)[index]?).map CalculatedComparison.statistic =
        (request.candidates[index]?).map fun candidate => request.build platform candidate none := by
    intro index
    rw [← List.getElem?_map, request.map_statistic platform, firstPass, List.getElem?_map]
  constructor
  · intro h index candidate hcandidate hsupported
    have hstatistic := hentry index
    rw [hcandidate, Option.map_some, Option.map_eq_some_iff] at hstatistic
    obtain ⟨entry, hmem, heq⟩ := hstatistic
    exact (hsurvives index candidate hcandidate).mp (h index entry hmem (heq ▸ hsupported))
  · intro h index entry hmem hsupported
    have hstatistic := (hentry index).symm
    rw [hmem, Option.map_some, Option.map_eq_some_iff] at hstatistic
    obtain ⟨candidate, hcandidate, heq⟩ := hstatistic
    exact (hsurvives index candidate hcandidate).mpr
      (h index candidate hcandidate (heq ▸ hsupported))

/-- A family of two survives, and so does one in which nothing can be supported. -/
theorem survivesWholeFamily_of (platform : FamilyPlatform) (request : FeatureStatisticRequest)
    (h : request.candidates.length ≤ 2 ∨ ∀ candidate ∈ request.candidates,
      ¬ (request.comparisonInput platform candidate none).MayBeSupported) :
    request.SurvivesWholeFamily platform := by
  rw [survivesWholeFamily_iff]
  intro index candidate hcandidate hsupported
  obtain ⟨hmay, hexcludes, hinterval⟩ := interval_of_supported hsupported
  rcases h with hfew | hnone
  · have hlow : pseudoPValue (request.build platform candidate none).interval ≤ 1 / 20 := by
      rw [build, hinterval]
      exact pseudoPValue_le hexcludes
    have hmem : pseudoPValue (request.build platform candidate none).interval ∈
        request.testedPValues platform :=
      mem_map_of_mem (mem_map_of_mem (mem_of_getElem? hcandidate))
    refine ⟨_, hmem, le_rfl, ?_⟩
    have hcount : 1 ≤ (request.testedPValues platform).countP
        (· ≤ pseudoPValue (request.build platform candidate none).interval) :=
      countP_pos_iff.mpr ⟨_, hmem, by simp⟩
    have hsize : (request.candidates.length : ℚ) ≤ 2 := by exact_mod_cast hfew
    have hone : (1 : ℚ) ≤ (request.testedPValues platform).countP
        (· ≤ pseudoPValue (request.build platform candidate none).interval) := by
      exact_mod_cast hcount
    have hnonneg := Nat.cast_nonneg (α := ℚ) request.candidates.length
    have hproduct := mul_le_mul_of_nonneg_left hlow hnonneg
    unfold falseDiscoveryRate
    linarith
  · exact absurd hmay (hnone candidate (mem_of_getElem? hcandidate))

/-! ### A family that is larger than its correction -/

namespace FamilySample

/-- The digests of the texts that the candidates of the sample are seeded by, told by the lengths of
the texts. -/
def digests : List (ℕ × Vector UInt8 32) :=
  [(133,
    #v[0x72, 0x63, 0x00, 0xc2, 0xf6, 0x43, 0xdf, 0x2f, 0x61, 0xe3, 0xc5, 0xa4, 0x6d, 0x34, 0x96,
      0xb1, 0xb8, 0x93, 0x22, 0x63, 0x07, 0x86, 0x6d, 0x14, 0xff, 0x14, 0x6b, 0x13, 0x20, 0x1d,
      0x8a, 0x2e]),
    (78,
    #v[0xd0, 0xab, 0x5b, 0x74, 0x7e, 0xff, 0x56, 0xaa, 0xef, 0xb3, 0xe0, 0x94, 0x66, 0x25, 0xcb,
      0xa7, 0x37, 0xe7, 0x92, 0x36, 0xed, 0xe6, 0x46, 0x3a, 0x58, 0xed, 0xdc, 0x1a, 0x8b, 0x66,
      0xdd, 0xf6]),
    (74,
    #v[0x76, 0x28, 0x30, 0xa3, 0xb2, 0x29, 0x39, 0xcf, 0x8d, 0xf2, 0x2d, 0xb9, 0x97, 0xeb, 0x71,
      0x0b, 0xa1, 0x4f, 0x0b, 0x01, 0xc1, 0x53, 0xb5, 0xe4, 0x6c, 0x72, 0x2d, 0xd1, 0xb3, 0x64,
      0xde, 0xb3])]

/-- A platform that hashes the texts of the sample and reads the dates of the runtime. -/
def platform : FamilyPlatform where
  numeral value := Utf16.ofString (toString value.num)
  sha256 text := (digests.lookup text.length).getD (Vector.replicate 32 0)
  dateParse text := Calendar.parseDate (fun _ => none) (Utf16.ofString text)

/-- The text of a silent category. -/
example : Json.stringify platform.numeral (.array [.string (Utf16.ofString
      "content.hook.category=story|engagement_count|day_7"), platform.jsonValues [2, 1, 2],
      platform.jsonValues [1, 1, 1, 1, 1]]) =
    Utf16.ofString "[\"content.hook.category=story|engagement_count|day_7\",[1,2,2],[1,1,1,1,1]]" := by
  decide

/-- Posts of one account, a week apart, with their values. -/
def posts (side : String) (values : List ℕ) : List FeatureObservation :=
  values.zipIdx.map fun (value, index) =>
    { instagramAccountId := "account"
      instagramPostId := side ++ toString index
      metricSnapshotId := side ++ toString index
      postAnalysisId := side ++ toString index
      publishedAt := Calendar.toISOString (1767225600000 + 604800000 * index)
      value := .finite value }

/-- The comparison of a category. -/
def candidate (category : String) (group comparison : List ℕ) : FeatureComparisonCandidate where
  group := posts category group
  comparison := posts ("not " ++ category) comparison
  featurePath := "content.hook.category"
  featureValue := category
  missingCount := 0

def question : FeatureComparisonCandidate :=
  candidate "question" [2, 2, 2, 2, 2, 2, 5, 5, 5, 5, 5, 5] (List.replicate 24 1)

/-- A category that shows nothing. -/
def silent (category : String) : FeatureComparisonCandidate :=
  candidate category [1, 2, 2] (List.replicate 5 1)

/-- A family with one supported category, among others that show nothing. -/
def family (others : ℕ) : FeatureStatisticRequest where
  ageWindow := .day7
  candidates := question :: silent "statement" :: List.replicate others (silent "story")
  instagramAccountId := some "account"
  metric := "engagement_count"
  metricIsCount := true
  publishedFrom := 1767225600000
  publishedTo := 1782864000000

def request : FeatureStatisticRequest := family 1

/-- The comparison of a candidate of the sample. -/
abbrev inputOf (candidate : FeatureComparisonCandidate) : FeatureComparisonInput :=
  request.comparisonInput platform candidate none

theorem ends_eq {input : FeatureComparisonInput} (group : List ℚ) (size : ℕ) (seed : UInt32)
    (hgroup : finiteValues input.group = group)
    (hcomparison : finiteValues input.comparison = List.replicate size 1)
    (hseed : platform.createBootstrapSeed (List.replicate size 1) group input.key = seed)
    (confidence : ℚ) :
    input.ends platform.toStatisticsPlatform confidence =
      (percentileOf (ascending (resampledDifferences (List.replicate size 1) group
          bootstrapResamples seed)) ((1 - confidence) / 2),
        percentileOf (ascending (resampledDifferences (List.replicate size 1) group
          bootstrapResamples seed)) (1 - (1 - confidence) / 2)) := by
  simp only [ends, differences, hgroup, hcomparison, hseed]

theorem position_eq (comparison group : List ℚ) (seed : UInt32) (fraction : ℚ) :
    (((resampledDifferences comparison group bootstrapResamples seed).length : ℚ) - 1) * fraction =
      1999 * fraction := by
  rw [length_resampledDifferences]
  norm_num [bootstrapResamples]

def questionGroup : List ℚ := [2, 2, 2, 2, 2, 2, 5, 5, 5, 5, 5, 5]

private theorem questionGroup_marked : ∀ place < questionGroup.length,
    questionGroup.getD place 0 = if Nat.ble 6 place then 5 else 2 := by
  decide

/-- What the numbers of the supported category come to. -/
structure QuestionComputed : Prop where
  constant : median (List.replicate 24 (1 : ℚ)) = some 1
  upTo : ∀ marks < 13, decide (differenceOfMarks 2 5 1 12 marks ≤ 1) = Nat.ble marks 5
  below : ∀ marks < 13, decide (differenceOfMarks 2 5 1 12 marks < 1) = false
  all : ∀ marks < 13, decide (differenceOfMarks 2 5 1 12 marks ≤ 4) = true
  atLeast : ∀ marks < 13, decide (4 ≤ differenceOfMarks 2 5 1 12 marks) = Nat.ble 7 marks
  seed : platform.createBootstrapSeed (List.replicate 24 1) questionGroup (inputOf question).key =
    1919090882
  /-- The places that the ends are read from. -/
  lower : ⌊(1999 : ℚ) * ((1 - 19 / 20) / 2)⌋₊ = 49 ∧ ⌈(1999 : ℚ) * ((1 - 19 / 20) / 2)⌉₊ = 50
  upper : ⌊(1999 : ℚ) * (1 - (1 - 19 / 20) / 2)⌋₊ = 1949 ∧
    ⌈(1999 : ℚ) * (1 - (1 - 19 / 20) / 2)⌉₊ = 1950
  early : (inputOf question).settledEarly = none
  sensitivity : ((inputOf question).base.sensitivity.minimumRelativeEffect.any (fun effect =>
      practicalEffectThreshold / 2 ≤ effect) &&
    (inputOf question).base.sensitivity.removeBestWorstPreservesDirection != some false) = true

private theorem question_computed : QuestionComputed where
  constant := by decide +kernel
  upTo := by decide +kernel
  below := by decide +kernel
  all := by decide +kernel
  atLeast := by decide +kernel
  seed := by decide +kernel
  lower := by decide +kernel
  upper := by decide +kernel
  early := by decide +kernel
  sensitivity := by decide +kernel

private theorem countP_question {taken : ℚ → Bool} (chosen : ℕ → Bool)
    (htaken : ∀ marks < 13, taken (differenceOfMarks 2 5 1 12 marks) = chosen marks) :
    (resampledDifferences (List.replicate 24 1) questionGroup bootstrapResamples
        1919090882).countP taken =
      tally (fun resample => chosen (marksAt (Nat.ble 6) 12 1919090882 (Nat.mul resample 36)))
        2000 :=
  countP_two_values questionGroup_marked (QuestionComputed.constant question_computed) htaken bootstrapResamples
    1919090882

private theorem tally_question :
    50 < tally (fun resample => Nat.ble
        (marksAt (Nat.ble 6) 12 1919090882 (Nat.mul resample 36)) 5) 200 ∧
      50 < tally (fun resample => Nat.ble 7
        (marksAt (Nat.ble 6) 12 1919090882 (Nat.mul resample 36))) 200 := by
  decide

/-- The interval of the supported category. -/
theorem question_ends :
    (inputOf question).ends platform.toStatisticsPlatform (19 / 20) = (1, 4) := by
  have hcomputed := question_computed
  have hlength := length_resampledDifferences (List.replicate 24 1) questionGroup bootstrapResamples
    1919090882
  rw [ends_eq questionGroup 24 1919090882 (by decide) (by decide) hcomputed.seed]
  refine Prod.ext (le_antisymm ?_ ?_) (le_antisymm ?_ ?_)
  · refine percentileOf_le (position_eq _ _ _ _) (by norm_num) ?_ ?_
    · rw [hlength, hcomputed.lower.2]
      norm_num [bootstrapResamples]
    · rw [countP_question (Nat.ble · 5) hcomputed.upTo, hcomputed.lower.2]
      exact tally_question.1.trans_le (tally_mono _ (by norm_num))
  · refine le_percentileOf (position_eq _ _ _ _) (by norm_num) ?_ ?_
    · rw [hlength, hcomputed.lower.2]
      norm_num [bootstrapResamples]
    · rw [countP_question (fun _ => false) hcomputed.below, tally_false]
      exact Nat.zero_le _
  · refine percentileOf_le (position_eq _ _ _ _) (by norm_num) ?_ ?_
    · rw [hlength, hcomputed.upper.2]
      norm_num [bootstrapResamples]
    · rw [countP_question (fun _ => true) hcomputed.all, tally_true,
        hcomputed.upper.2]
      norm_num
  · refine le_percentileOf_of_many (position_eq _ _ _ _) (by norm_num) ?_ ?_
    · rw [hlength, hcomputed.upper.2]
      norm_num [bootstrapResamples]
    · have htotal : bootstrapResamples = 1949 + 51 := rfl
      rw [countP_question (Nat.ble 7) hcomputed.atLeast, hlength,
        hcomputed.upper.1, htotal]
      have hmore := tally_mono (fun resample => Nat.ble 7
        (marksAt (Nat.ble 6) 12 1919090882 (Nat.mul resample 36))) (show 200 ≤ 2000 by norm_num)
      exact Nat.add_le_add_left (le_trans tally_question.2 hmore) 1949

/-- The supported category is supported alone, and its interval ranks as three eightieths. -/
theorem question_build :
    (request.build platform question none).classification = .statisticallySupportedAssociation ∧
      pseudoPValue (request.build platform question none).interval = 3 / 80 := by
  have hcomputed := question_computed
  have hearly := hcomputed.early
  have hsamples : (inputOf question).meetsSupportedSamples = true := by decide
  have hreaches : (inputOf question).reachesSupported platform.toStatisticsPlatform = true := by
    rw [reachesSupported, hsamples, question_ends]
    decide
  have hconfidence : (inputOf question).settledConfidence platform.toStatisticsPlatform = 19 / 20 :=
    if_pos hreaches
  have hbuild : request.build platform question none = (inputOf question).base.settle
      ((inputOf question).settledLate platform.toStatisticsPlatform).1
      ((inputOf question).settledLate platform.toStatisticsPlatform).2
      (some ((inputOf question).interval platform.toStatisticsPlatform (19 / 20))) := by
    rw [build, calculateFeatureStatistic_eq, hearly, hconfidence]
  constructor
  · rw [hbuild, settledLate, if_pos hreaches]
    rw [if_neg (by decide), if_neg (by decide), if_pos hcomputed.sensitivity]
    rfl
  · rw [hbuild]
    simp only [FeatureStatistic.settle, pseudoPValue, interval, question_ends]
    norm_num [BootstrapInterval.excludesNoDifference, excludesZero]

def silentGroup : List ℚ := [1, 2, 2]

private theorem silentGroup_marked : ∀ place < silentGroup.length,
    silentGroup.getD place 0 = if Nat.ble 1 place then 2 else 1 := by
  decide

def silentSeeds : List (String × UInt32) :=
  [("statement", 3500890996), ("story", 1982345379)]

/-- What the numbers of the silent categories come to. -/
structure SilentComputed : Prop where
  constant : median (List.replicate 5 (1 : ℚ)) = some 1
  upTo : ∀ marks < 4, decide (differenceOfMarks 1 2 1 3 marks ≤ 0) = Nat.ble marks 1
  below : ∀ marks < 4, decide (differenceOfMarks 1 2 1 3 marks < 0) = false
  /-- The places that the ends are read from. -/
  lower : ⌈(1999 : ℚ) * ((1 - 4 / 5) / 2)⌉₊ = 200
  upper : ⌈(1999 : ℚ) * (1 - (1 - 4 / 5) / 2)⌉₊ = 1800
  early : ∀ entry ∈ silentSeeds, (inputOf (silent entry.1)).settledEarly = none
  seed : ∀ entry ∈ silentSeeds, platform.createBootstrapSeed (List.replicate 5 1) silentGroup
    (inputOf (silent entry.1)).key = entry.2
  tally : ∀ entry ∈ silentSeeds, 200 < tally (fun resample => Nat.ble
    (marksAt (Nat.ble 1) 3 entry.2.toNat (Nat.mul resample 8)) 1) 1000

private theorem silent_computed : SilentComputed where
  constant := by decide +kernel
  upTo := by decide +kernel
  below := by decide +kernel
  lower := by decide +kernel
  upper := by decide +kernel
  early := by decide +kernel
  seed := by decide +kernel
  tally := by decide +kernel

private theorem countP_silent {taken : ℚ → Bool} (chosen : ℕ → Bool)
    (htaken : ∀ marks < 4, taken (differenceOfMarks 1 2 1 3 marks) = chosen marks) (seed : UInt32) :
    (resampledDifferences (List.replicate 5 1) silentGroup bootstrapResamples seed).countP taken =
      tally (fun resample => chosen (marksAt (Nat.ble 1) 3 seed.toNat (Nat.mul resample 8))) 2000 :=
  countP_two_values silentGroup_marked (SilentComputed.constant silent_computed) htaken bootstrapResamples seed

/-- A silent category enters with `1`: many of its resamples show no difference, and none shows
a negative one. -/
theorem silent_build {candidate : FeatureComparisonCandidate} (seed : UInt32)
    (hearly : (inputOf candidate).settledEarly = none)
    (hsamples : (inputOf candidate).meetsSupportedSamples = false)
    (hgroup : finiteValues (inputOf candidate).group = silentGroup)
    (hcomparison : finiteValues (inputOf candidate).comparison = List.replicate 5 1)
    (hseed : platform.createBootstrapSeed (List.replicate 5 1) silentGroup
      (inputOf candidate).key = seed)
    (htally : 200 < tally (fun resample => Nat.ble
      (marksAt (Nat.ble 1) 3 seed.toNat (Nat.mul resample 8)) 1) 1000) :
    pseudoPValue (request.build platform candidate none).interval = 1 := by
  have hcomputed := silent_computed
  have hlength := length_resampledDifferences (List.replicate 5 1) silentGroup bootstrapResamples
    seed
  have hends := ends_eq silentGroup 5 seed hgroup hcomparison hseed (4 / 5)
  have hlower : ((inputOf candidate).ends platform.toStatisticsPlatform (4 / 5)).1 ≤ 0 := by
    rw [hends]
    refine percentileOf_le (position_eq _ _ _ _) (by norm_num) ?_ ?_
    · rw [hlength, hcomputed.lower]
      norm_num [bootstrapResamples]
    · rw [countP_silent (Nat.ble · 1) hcomputed.upTo, hcomputed.lower]
      exact htally.trans_le (tally_mono _ (by norm_num))
  have hupper : 0 ≤ ((inputOf candidate).ends platform.toStatisticsPlatform (4 / 5)).2 := by
    rw [hends]
    refine le_percentileOf (position_eq _ _ _ _) (by norm_num) ?_ ?_
    · rw [hlength, hcomputed.upper]
      norm_num [bootstrapResamples]
    · rw [countP_silent (fun _ => false) hcomputed.below, tally_false]
      exact Nat.zero_le _
  have hreaches : (inputOf candidate).reachesSupported platform.toStatisticsPlatform = false := by
    rw [reachesSupported, hsamples, Bool.false_and]
  have hconfidence : (inputOf candidate).settledConfidence platform.toStatisticsPlatform = 4 / 5 := by
    rw [settledConfidence, hreaches, if_neg Bool.false_ne_true]
  have hexcludes : ((inputOf candidate).interval platform.toStatisticsPlatform
      (4 / 5)).excludesNoDifference = false := by
    simp only [interval, excludesZero, Bool.or_eq_false_iff, Bool.and_eq_false_iff,
      decide_eq_false_iff_not, not_lt, gt_iff_lt]
    exact ⟨.inl hlower, .inr hupper⟩
  rw [build, calculateFeatureStatistic_eq, hearly, hconfidence]
  simp only [FeatureStatistic.settle, pseudoPValue, hexcludes, if_true]

private theorem silent_categories : ∀ entry ∈ silentSeeds,
    pseudoPValue (request.build platform (silent entry.1) none).interval = 1 := by
  have hcomputed := silent_computed
  have hsamples : ∀ entry ∈ silentSeeds,
      (inputOf (silent entry.1)).meetsSupportedSamples = false := by
    decide
  have hvalues : ∀ entry ∈ silentSeeds,
      finiteValues (inputOf (silent entry.1)).group = silentGroup ∧
        finiteValues (inputOf (silent entry.1)).comparison = List.replicate 5 1 := by
    decide
  intro entry hentry
  exact silent_build entry.2 (hcomputed.early entry hentry) (hsamples entry hentry)
    (hvalues entry hentry).1 (hvalues entry hentry).2 (hcomputed.seed entry hentry)
    (hcomputed.tally entry hentry)

private theorem testedPValues_eq (others : ℕ) :
    (family others).testedPValues platform = 3 / 80 :: List.replicate (others + 1) 1 := by
  have hsilent := silent_categories
  simp only [silentSeeds, forall_mem_cons] at hsilent
  obtain ⟨hstatement, hstory, -⟩ := hsilent
  have hbuild (candidate : FeatureComparisonCandidate) :
      (family others).build platform candidate none = request.build platform candidate none := rfl
  have hcandidates : (family others).candidates =
      question :: silent "statement" :: List.replicate others (silent "story") := rfl
  rw [testedPValues, firstPass, hcandidates]
  simp only [map_cons, map_replicate, hbuild, question_build.2, hstatement, hstory,
    replicate_succ]

/-- Beside two categories that show nothing, or more, the supported one does not survive. -/
theorem not_survivesWholeFamily (others : ℕ) :
    ¬ (family (others + 1)).SurvivesWholeFamily platform := by
  intro h
  obtain ⟨value, hvalue, -, hrate⟩ :=
    (survivesWholeFamily_iff _ _).mp h 0 question rfl question_build.1
  have hsize : ((family (others + 1)).candidates.length : ℚ) = others + 3 := by
    simp only [family, length_cons, length_replicate]
    push_cast
    ring
  have hmany := Nat.cast_nonneg (α := ℚ) others
  rw [hsize, testedPValues_eq] at hrate
  rw [testedPValues_eq] at hvalue
  simp only [mem_cons, mem_replicate] at hvalue
  rcases hvalue with rfl | ⟨-, rfl⟩
  · have hcount : ((3 / 80 : ℚ) :: List.replicate (others + 1 + 1) 1).countP (· ≤ 3 / 80) = 1 := by
      rw [countP_cons_of_pos (by simp), countP_replicate, if_neg (by norm_num)]
    rw [hcount] at hrate
    norm_num [falseDiscoveryRate] at hrate
    linarith
  · have hcount := countP_le_length (p := fun other : ℚ => decide (other ≤ 1))
      (l := (3 / 80 : ℚ) :: List.replicate (others + 1 + 1) 1)
    rw [length_cons, length_replicate] at hcount
    have hcount : (((3 / 80 : ℚ) :: List.replicate (others + 1 + 1) 1).countP (· ≤ 1) : ℚ) ≤
        others + 1 + 1 + 1 := by
      exact_mod_cast hcount
    unfold falseDiscoveryRate at hrate
    linarith

end FamilySample

end ContentAutomation
