import ContentAutomation.Analytics.StatisticReuse

/-!
# The confidence of a stored interval

A row stores the ends of one of two intervals, and beside them a confidence that is told by the
class of the statistic. A comparison that comes to the supported interval and is capped below the
supported class stores the ends of 95 percent as those of 80 percent.
-/

namespace ContentAutomation

open OrderStatistic FeatureComparisonInput FeatureStatisticRequest

namespace FeatureComparisonInput

variable (platform : StatisticsPlatform) (input : FeatureComparisonInput)

/-- The bootstrap of `calculateFeatureStatistic` at a confidence. -/
def bootstrapAt (confidence : ℚ) : Option BootstrapInterval :=
  bootstrapMedianDifference (finiteValues input.comparison) confidence (finiteValues input.group)
    (platform.createBootstrapSeed (finiteValues input.comparison) (finiteValues input.group)
      input.key)

/-- Without its edges, the group keeps half of the least effect and its direction. -/
def keepsHalfEffect : Bool :=
  (input.base.sensitivity.minimumRelativeEffect.any fun effect =>
      practicalEffectThreshold / 2 ≤ effect) &&
    input.base.sensitivity.removeBestWorstPreservesDirection != some false

/-- A comparison whose supported interval excludes zero is not capped below the supported class, or
both intervals have the same ends. -/
def KeepsConfidence : Prop :=
  input.ReachesBootstrap → input.meetsSupportedSamples = true →
    excludesZero (input.ends platform (19 / 20)) = true →
    (input.observationsClusterBySource = false ∧ input.survivesMultipleTesting ≠ some false ∧
        input.keepsHalfEffect = true) ∨
      input.ends platform (19 / 20) = input.ends platform (4 / 5)

end FeatureComparisonInput

/-- The bounds that a row stores are those that the bootstrap has at the confidence it stores. -/
def StoredAtItsConfidence (platform : FamilyPlatform) (request : FeatureStatisticRequest)
    (entry : CalculatedComparison) : Prop :=
  let row := storedStatistic platform request entry
  ∀ lower upper, row.intervalLower = some lower → row.intervalUpper = some upper →
    ((request.comparisonInput platform entry.candidate none).bootstrapAt
      platform.toStatisticsPlatform row.intervalConfidence).map
        (fun interval => (interval.lower, interval.upper)) = some (lower, upper)

section

variable {platform : StatisticsPlatform} {input : FeatureComparisonInput}

private theorem map_bootstrapAt (h : input.ReachesBootstrap) (confidence : ℚ) :
    (input.bootstrapAt platform confidence).map
      (fun interval => (interval.lower, interval.upper)) = some (input.ends platform confidence) := by
  rw [bootstrapAt, bootstrapMedianDifference_eq h.group h.comparison]
  rfl

/-- The confidence that is stored for a class. -/
def confidenceOfClass (classification : ConfidenceClass) : ℚ :=
  if classification = .statisticallySupportedAssociation then 19 / 20 else 4 / 5

private theorem confidenceOfClass_of_not (h : input.reachesSupported platform = false) :
    confidenceOfClass (input.settledLate platform).1 = 4 / 5 ∧
      input.settledConfidence platform = 4 / 5 := by
  have hnot : ¬ input.reachesSupported platform = true := by simp [h]
  refine ⟨if_neg ?_, if_neg hnot⟩
  unfold settledLate
  rw [if_neg hnot]
  split_ifs <;> simp

private theorem confidenceOfClass_of_reaches (h : input.reachesSupported platform) :
    input.settledConfidence platform = 19 / 20 ∧
      confidenceOfClass (input.settledLate platform).1 =
        if input.observationsClusterBySource = false ∧
            input.survivesMultipleTesting ≠ some false ∧ input.keepsHalfEffect then 19 / 20
        else 4 / 5 := by
  refine ⟨if_pos h, ?_⟩
  unfold settledLate
  rw [if_pos h]
  change confidenceOfClass (if input.observationsClusterBySource = true then _
    else if input.survivesMultipleTesting = some false then _
    else if input.keepsHalfEffect = true then _ else _ : ConfidenceClass × _).1 = _
  by_cases hcluster : input.observationsClusterBySource = true
  · simp [hcluster, confidenceOfClass]
  · by_cases hsurvives : input.survivesMultipleTesting = some false
    · simp [hcluster, hsurvives, confidenceOfClass]
    · by_cases hkeeps : input.keepsHalfEffect = true
      · simp [hcluster, hsurvives, hkeeps, confidenceOfClass]
      · simp [hcluster, hsurvives, hkeeps, confidenceOfClass]

private theorem ends_confidenceOfClass_iff (hreaches : input.ReachesBootstrap) :
    input.ends platform (confidenceOfClass (input.settledLate platform).1) =
        input.ends platform (input.settledConfidence platform) ↔
      input.KeepsConfidence platform := by
  cases hsupported : input.reachesSupported platform with
  | false =>
    obtain ⟨hclass, hconfidence⟩ := confidenceOfClass_of_not hsupported
    rw [hclass, hconfidence]
    refine iff_of_true rfl fun _ hsamples hexcludes => ?_
    rw [reachesSupported, hsamples, hexcludes] at hsupported
    cases hsupported
  | true =>
    obtain ⟨hsamples, hexcludes⟩ := Bool.and_eq_true_iff.mp hsupported
    obtain ⟨hconfidence, hclass⟩ := confidenceOfClass_of_reaches hsupported
    rw [hclass, hconfidence]
    split_ifs with huncapped
    · exact iff_of_true rfl fun _ _ _ => .inl huncapped
    · constructor
      · exact fun hends _ _ _ => .inr hends.symm
      · exact fun hkeeps => ((hkeeps hreaches hsamples hexcludes).resolve_left huncapped).symm

end

/-- The rows of comparisons that come to their resamples store an interval. -/
theorem storedAtItsConfidence_iff_ends {platform : FamilyPlatform}
    {request : FeatureStatisticRequest} {entry : CalculatedComparison}
    (hentry : entry ∈ request.calculateFeatureFamily platform) {input : FeatureComparisonInput}
    (hinput : request.comparisonInput platform entry.candidate none = input)
    (hreaches : input.ReachesBootstrap) :
    StoredAtItsConfidence platform request entry ↔
      input.ends platform.toStatisticsPlatform
          (confidenceOfClass (input.settledLate platform.toStatisticsPlatform).1) =
        input.ends platform.toStatisticsPlatform
          (input.settledConfidence platform.toStatisticsPlatform) := by
  obtain ⟨-, hstatistic⟩ := entry_of_mem hentry
  have hearly := settledEarly_eq_none_iff.mpr hreaches
  unfold StoredAtItsConfidence
  simp only [storedStatistic, hstatistic, build, hinput]
  rw [calculateFeatureStatistic_eq, hearly]
  change (∀ lower upper,
    some (input.ends platform.toStatisticsPlatform
      (input.settledConfidence platform.toStatisticsPlatform)).1 = some lower →
    some (input.ends platform.toStatisticsPlatform
      (input.settledConfidence platform.toStatisticsPlatform)).2 = some upper →
    (input.bootstrapAt platform.toStatisticsPlatform
      (confidenceOfClass (input.settledLate platform.toStatisticsPlatform).1)).map
        (fun interval => (interval.lower, interval.upper)) = some (lower, upper)) ↔ _
  simp only [map_bootstrapAt hreaches, Option.some.injEq]
  constructor
  · exact fun h => h _ _ rfl rfl
  · rintro h lower upper rfl rfl
    exact h

/-- **The stored confidence.** A row stores its bounds at the confidence that they were computed at
exactly when the comparison is not capped below the supported class after it has come to the
supported interval, or both intervals have the same ends. -/
theorem stored_confidence_iff (platform : FamilyPlatform) (request : FeatureStatisticRequest)
    (entry : CalculatedComparison) (hentry : entry ∈ request.calculateFeatureFamily platform) :
    StoredAtItsConfidence platform request entry ↔
      (request.comparisonInput platform entry.candidate none).KeepsConfidence
        platform.toStatisticsPlatform := by
  cases hearly : (request.comparisonInput platform entry.candidate none).settledEarly with
  | some verdict =>
    -- no interval is stored, and none was drawn
    obtain ⟨-, hstatistic⟩ := entry_of_mem hentry
    refine iff_of_true ?_ fun hreaches => ?_
    · unfold StoredAtItsConfidence
      simp only [storedStatistic, hstatistic, build]
      rw [calculateFeatureStatistic_eq, hearly]
      exact fun lower upper hlower => by cases hlower
    · rw [settledEarly_eq_none_iff.mpr hreaches] at hearly
      cases hearly
  | none =>
    have hreaches := settledEarly_eq_none_iff.mp hearly
    rw [storedAtItsConfidence_iff_ends hentry rfl hreaches]
    exact ends_confidenceOfClass_iff hreaches

/-! ### A pooled comparison -/

namespace PooledSample

open FamilySample

def digest : Vector UInt8 32 :=
  #v[0xa3, 0x2a, 0x96, 0x08, 0x64, 0x97, 0x67, 0x48, 0x40, 0xca, 0xe0, 0x4c, 0x63, 0x63, 0x5c,
    0xd8, 0x56, 0x42, 0x1d, 0xc4, 0x15, 0x8d, 0x1d, 0x35, 0xfd, 0x88, 0x3c, 0x11, 0x15, 0xb0,
    0xba, 0xcd]

def platform : FamilyPlatform := { FamilySample.platform with sha256 := fun _ => digest }

/-- The posts of two accounts in turn. -/
def shared (observations : List FeatureObservation) : List FeatureObservation :=
  observations.zipIdx.map fun (observation, index) =>
    { observation with instagramAccountId := "account" ++ toString (index % 2) }

/-- Twelve posts that carry a category, against twenty-four. -/
def candidate : FeatureComparisonCandidate where
  group := shared (posts "question" [2, 2, 2, 2, 2, 2, 2, 2, 4, 4, 4, 4])
  comparison := shared (posts "not question" (List.replicate 24 1))
  featurePath := "content.hook.category"
  featureValue := "question"
  missingCount := 0

def request : FeatureStatisticRequest :=
  { FamilySample.request with candidates := [candidate], instagramAccountId := none }

def entry : CalculatedComparison where
  candidate := candidate
  fingerprint := request.createStatisticFingerprint platform candidate
  statistic := request.statisticAt platform candidate 0

theorem entry_mem : entry ∈ request.calculateFeatureFamily platform :=
  List.mem_map.mpr ⟨(candidate, 0), List.mem_cons_self, rfl⟩

/-- The comparison. -/
abbrev input : FeatureComparisonInput := request.comparisonInput platform candidate none

/-- The hash is that of the text of the sample. -/
example : Json.stringify platform.numeral (.array [.string (Utf16.ofString input.key),
      platform.jsonValues (finiteValues input.group),
      platform.jsonValues (finiteValues input.comparison)]) =
    Utf16.ofString ("[\"content.hook.category=question|engagement_count|day_7\"," ++
      "[2,2,2,2,2,2,2,2,4,4,4,4],[1,1,1,1,1,1,1,1,1,1,1,1,1,1,1,1,1,1,1,1,1,1,1,1]]") := by
  decide +kernel

def group : List ℚ := [2, 2, 2, 2, 2, 2, 2, 2, 4, 4, 4, 4]

private theorem group_marked : ∀ place < group.length,
    group.getD place 0 = if Nat.ble 8 place then 4 else 2 := by
  decide

/-- What the numbers of the sample come to. -/
structure Computed : Prop where
  constant : median (List.replicate 24 (1 : ℚ)) = some 1
  /-- So many resamples show the higher difference, and the others do not. -/
  tally_high : tally (fun resample => Nat.ble 7
      (marksAt (Nat.ble 8) 12 2737477128 (Nat.mul resample 36))) 2000 = 134 ∧
    tally (fun resample => Nat.ble
      (marksAt (Nat.ble 8) 12 2737477128 (Nat.mul resample 36)) 6) 2000 = 1866
  below : ∀ marks < 13, decide (differenceOfMarks 2 4 1 12 marks < 1) = false
  atLeast : ∀ marks < 13, decide (3 ≤ differenceOfMarks 2 4 1 12 marks) = Nat.ble 7 marks
  upTo : ∀ marks < 13, decide (differenceOfMarks 2 4 1 12 marks ≤ 2) = Nat.ble marks 6
  /-- The places that the ends are read from. -/
  lower : ⌈(1999 : ℚ) * ((1 - 19 / 20) / 2)⌉₊ = 50
  upper : ⌊(1999 : ℚ) * (1 - (1 - 19 / 20) / 2)⌋₊ = 1949 ∧
    ⌈(1999 : ℚ) * (1 - (1 - 19 / 20) / 2)⌉₊ = 1950
  upper_first : ⌈(1999 : ℚ) * (1 - (1 - 4 / 5) / 2)⌉₊ = 1800
  early : input.settledEarly = none

theorem computed : Computed where
  constant := by decide +kernel
  tally_high := by decide +kernel
  below := by decide +kernel
  atLeast := by decide +kernel
  upTo := by decide +kernel
  lower := by decide +kernel
  upper := by decide +kernel
  upper_first := by decide +kernel
  early := by decide +kernel

private theorem countP_group {taken : ℚ → Bool} (chosen : ℕ → Bool)
    (htaken : ∀ marks < 13, taken (differenceOfMarks 2 4 1 12 marks) = chosen marks) :
    (resampledDifferences (List.replicate 24 1) group bootstrapResamples 2737477128).countP taken =
      tally (fun resample => chosen (marksAt (Nat.ble 8) 12 2737477128 (Nat.mul resample 36)))
        2000 :=
  countP_two_values group_marked (Computed.constant computed) htaken bootstrapResamples 2737477128

theorem ends_eq (confidence : ℚ) : input.ends platform.toStatisticsPlatform confidence =
    (percentileOf (ascending (resampledDifferences (List.replicate 24 1) group
        bootstrapResamples 2737477128)) ((1 - confidence) / 2),
      percentileOf (ascending (resampledDifferences (List.replicate 24 1) group
        bootstrapResamples 2737477128)) (1 - (1 - confidence) / 2)) := by
  have hgroup : finiteValues input.group = group := by decide
  have hcomparison : finiteValues input.comparison = List.replicate 24 1 := by decide
  have hseed : ∀ comparison group key,
      platform.createBootstrapSeed comparison group key = 2737477128 := by
    intro comparison group key
    have hdigest : readUInt32BE digest = 2737477128 := by decide
    exact hdigest
  simp only [ends, differences, hgroup, hcomparison, hseed]

private theorem one_le_lower : 1 ≤ (input.ends platform.toStatisticsPlatform (19 / 20)).1 := by
  have hcomputed := computed
  rw [ends_eq]
  refine le_percentileOf (position_eq _ _ _ _) (by norm_num) ?_ ?_
  · rw [length_resampledDifferences, hcomputed.lower]
    norm_num [bootstrapResamples]
  · rw [countP_group (fun _ => false) hcomputed.below, tally_false]
    exact Nat.zero_le _

private theorem three_le_upper : 3 ≤ (input.ends platform.toStatisticsPlatform (19 / 20)).2 := by
  have hcomputed := computed
  rw [ends_eq]
  refine le_percentileOf_of_many (position_eq _ _ _ _) (by norm_num) ?_ ?_
  · rw [length_resampledDifferences, hcomputed.upper.2]
    norm_num [bootstrapResamples]
  · rw [countP_group (Nat.ble 7) hcomputed.atLeast, hcomputed.tally_high.1,
      length_resampledDifferences, hcomputed.upper.1]
    norm_num [bootstrapResamples]

private theorem upper_le_two : (input.ends platform.toStatisticsPlatform (4 / 5)).2 ≤ 2 := by
  have hcomputed := computed
  rw [ends_eq]
  refine percentileOf_le (position_eq _ _ _ _) (by norm_num) ?_ ?_
  · rw [length_resampledDifferences, hcomputed.upper_first]
    norm_num [bootstrapResamples]
  · rw [countP_group (Nat.ble · 6) hcomputed.upTo, hcomputed.tally_high.2, hcomputed.upper_first]
    norm_num

private theorem not_keepsConfidence : ¬ input.KeepsConfidence platform.toStatisticsPlatform := by
  have hcomputed := computed
  intro h
  have hreaches : input.ReachesBootstrap := settledEarly_eq_none_iff.mp hcomputed.early
  have hlower := one_le_lower
  have hupper := three_le_upper
  have hexcludes : excludesZero (input.ends platform.toStatisticsPlatform (19 / 20)) = true := by
    simp only [excludesZero, Bool.or_eq_true, Bool.and_eq_true, decide_eq_true_eq]
    exact .inl ⟨by linarith, by linarith⟩
  rcases h hreaches (by decide) hexcludes with ⟨hindependent, -⟩ | hends
  · exact absurd hindependent (by decide)
  · have hsmall := upper_le_two
    rw [← hends] at hsmall
    linarith

end PooledSample

open PooledSample

/-- The pooled comparison does not store its bounds at the confidence it stores. -/
theorem pooled_confidence : StoredAtItsConfidence PooledSample.platform PooledSample.request
      PooledSample.entry ↔
    (PooledSample.request.comparisonInput PooledSample.platform PooledSample.entry.candidate
      none).KeepsConfidence PooledSample.platform.toStatisticsPlatform :=
  stored_confidence_iff platform request entry
    entry_mem

/-- **A mislabelled interval.** A pooled comparison that comes to the supported interval stores
its ends as those of 80 percent. -/
theorem pooled_is_mislabelled : ¬ ∀ (platform : FamilyPlatform) (request : FeatureStatisticRequest)
    (entry : CalculatedComparison), entry ∈ request.calculateFeatureFamily platform →
    StoredAtItsConfidence platform request entry := by
  have hcomputed := computed
  intro h
  have hstored := h platform request entry
    entry_mem
  have hreaches : input.ReachesBootstrap :=
    settledEarly_eq_none_iff.mp hcomputed.early
  have hends := (storedAtItsConfidence_iff_ends entry_mem rfl hreaches).mp hstored
  exact not_keepsConfidence ((ends_confidenceOfClass_iff hreaches).mp hends)

end ContentAutomation
