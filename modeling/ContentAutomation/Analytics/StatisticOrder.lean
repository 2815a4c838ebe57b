import ContentAutomation.Analytics.Resampling

/-!
# Statistics and the order of their posts

A statistic is settled by checks on what does not depend on the order of the posts, or by an
interval. The resamples of the interval pick values by position, in the order they came in.
-/

namespace ContentAutomation

open OrderStatistic

/-! ### What settles a comparison -/

section Settling

variable {platform : StatisticsPlatform}

namespace FeatureComparisonInput

variable (platform) (input : FeatureComparisonInput)

/-- No check settles a comparison before its resamples are drawn. -/
structure ReachesBootstrap : Prop where
  group : 3 ≤ (finiteValues input.group).length
  comparison : 5 ≤ (finiteValues input.comparison).length
  publicationDates : minimumPublicationDates ≤ input.distinctPublicationDates
  missingRatio : input.missingRatio ≤ maximumMissingRatio
  share : ∀ share ∈ input.base.topContributorShare, share ≤ 1 / 2
  direction : input.base.sensitivity.preservesDirection = true
  effect : ∃ effect ∈ input.base.relativeEffect, practicalEffectThreshold ≤ |effect|
  source : input.dominatedByOneSource = false

/-- The differences of the medians of the resamples, in their order. -/
def differences : List ℚ :=
  ascending (resampledDifferences (finiteValues input.comparison) (finiteValues input.group)
    bootstrapResamples (platform.createBootstrapSeed (finiteValues input.comparison)
      (finiteValues input.group) input.key))

/-- The ends of the interval of a confidence. -/
def ends (confidence : ℚ) : ℚ × ℚ :=
  (percentileOf (input.differences platform) ((1 - confidence) / 2),
    percentileOf (input.differences platform) (1 - (1 - confidence) / 2))

end FeatureComparisonInput

/-- Both ends of an interval are on one side of zero. -/
def excludesZero (ends : ℚ × ℚ) : Bool :=
  (ends.1 > 0 && ends.2 > 0) || (ends.1 < 0 && ends.2 < 0)

namespace FeatureComparisonInput

variable (platform) (input : FeatureComparisonInput)

/-- There are samples for the supported class, and its interval excludes zero. -/
def reachesSupported : Bool :=
  input.meetsSupportedSamples && excludesZero (input.ends platform (19 / 20))

def settledConfidence : ℚ := if input.reachesSupported platform then 19 / 20 else 4 / 5

/-- The interval of a confidence. -/
def interval (confidence : ℚ) : BootstrapInterval :=
  { excludesNoDifference := excludesZero (input.ends platform confidence)
    lower := (input.ends platform confidence).1
    resamples := bootstrapResamples
    seed := platform.createBootstrapSeed (finiteValues input.comparison)
      (finiteValues input.group) input.key
    upper := (input.ends platform confidence).2 }

/-- What a comparison is settled as whose interval is known. -/
def settledLate : ConfidenceClass × ClassificationReason :=
  if input.reachesSupported platform then
    if input.observationsClusterBySource then (.moderateAssociation, .intervalIgnoresClustering)
    else if input.survivesMultipleTesting = some false then
      (.moderateAssociation, .multipleTestingRejected)
    else if (input.base.sensitivity.minimumRelativeEffect.any fun effect =>
          practicalEffectThreshold / 2 ≤ effect) &&
        input.base.sensitivity.removeBestWorstPreservesDirection != some false then
      (.statisticallySupportedAssociation, .meetsSupportedThresholds)
    else (.moderateAssociation, .sensitivityChangesMateriality)
  else if input.meetsModerateSamples && excludesZero (input.ends platform (4 / 5)) then
    (.moderateAssociation, .meetsModerateThresholds)
  else if excludesZero (input.ends platform (4 / 5)) then
    (.weakDirectionalSignal, .belowMinimumSamples)
  else (.weakDirectionalSignal, .intervalIncludesNoDifference)

end FeatureComparisonInput

open FeatureComparisonInput

variable {input : FeatureComparisonInput}

theorem settledEarly_eq_none_iff : input.settledEarly = none ↔ input.ReachesBootstrap := by
  unfold settledEarly
  dsimp only
  constructor
  · intro h
    split_ifs at h with hsingle hsamples hdates hmissing hshare hdirection heffect hsource
    push Not at hsamples hdates hmissing
    refine ⟨hsamples.1, hsamples.2, hdates, hmissing, ?_, by simpa using hdirection, ?_,
      by simpa using hsource⟩
    · intro share hmem
      rw [Option.mem_def.mp hmem] at hshare
      simpa using hshare
    · cases hvalue : input.base.relativeEffect with
      | none => simp [hvalue] at heffect
      | some effect => exact ⟨effect, rfl, by simpa [hvalue] using heffect⟩
  · intro h
    obtain ⟨effect, hmem, heffect⟩ := h.effect
    have hshare : (input.base.topContributorShare.any fun share => share > 1 / 2) = false := by
      cases hvalue : input.base.topContributorShare with
      | none => rfl
      | some share => simpa using h.share share hvalue
    have hgroup := h.group
    have hcomparison := h.comparison
    rw [if_neg (by omega), if_neg (by omega), if_neg (not_lt.mpr h.publicationDates),
      if_neg (not_lt.mpr h.missingRatio), if_neg (by rw [hshare]; exact Bool.false_ne_true),
      if_neg (by simp [h.direction]),
      if_neg (by simpa [Option.mem_def.mp hmem] using heffect),
      if_neg (by simpa using h.source)]

theorem bootstrapMedianDifference_eq (hgroup : 3 ≤ (finiteValues input.group).length)
    (hcomparison : 5 ≤ (finiteValues input.comparison).length) (confidence : ℚ) :
    bootstrapMedianDifference (finiteValues input.comparison) confidence (finiteValues input.group)
      (platform.createBootstrapSeed (finiteValues input.comparison) (finiteValues input.group)
        input.key) = some (input.interval platform confidence) := by
  rw [bootstrapMedianDifference, if_neg (by omega)]
  rfl

private theorem settleByInterval_eq (platform : StatisticsPlatform)
    (input : FeatureComparisonInput) :
    input.settleByInterval (some (input.interval platform (19 / 20)))
        (some (input.interval platform (4 / 5))) =
      input.base.settle (input.settledLate platform).1 (input.settledLate platform).2
        (some (input.interval platform (input.settledConfidence platform))) := by
  have hexcludes : ∀ confidence : ℚ, (input.interval platform confidence).excludesNoDifference =
      excludesZero (input.ends platform confidence) := fun _ => rfl
  have hreaches : (input.meetsSupportedSamples && excludesZero (input.ends platform (19 / 20))) =
      input.reachesSupported platform := rfl
  simp only [settleByInterval, Option.any_some, hexcludes, hreaches, settledLate,
    settledConfidence]
  split_ifs <;> simp_all

/-- **What settles a comparison.** A check before the resamples are drawn, or the interval that
they show. -/
theorem calculateFeatureStatistic_eq (platform : StatisticsPlatform)
    (input : FeatureComparisonInput) :
    calculateFeatureStatistic platform input =
      match input.settledEarly with
      | some (classification, reason) => input.base.settle classification reason none
      | none => input.base.settle (input.settledLate platform).1 (input.settledLate platform).2
          (some (input.interval platform (input.settledConfidence platform))) := by
  unfold calculateFeatureStatistic
  cases hearly : input.settledEarly with
  | some verdict => rfl
  | none =>
    have hreaches := settledEarly_eq_none_iff.mp hearly
    dsimp only
    rw [bootstrapMedianDifference_eq hreaches.group hreaches.comparison,
      bootstrapMedianDifference_eq hreaches.group hreaches.comparison, settleByInterval_eq]

/-! ### Two orders of one comparison -/

section Reorder

variable {group' comparison' : List JsNumber}

private theorem finiteValues_perm {values others : List JsNumber} (h : values.Perm others) :
    (finiteValues values).Perm (finiteValues others) :=
  h.filterMap _

/-- A comparison whose posts come in another order. -/
def FeatureComparisonInput.reordered (input : FeatureComparisonInput)
    (group' comparison' : List JsNumber) : FeatureComparisonInput :=
  { input with group := group', comparison := comparison' }

/-- The order of the posts is of no account to what is derived from the values alone. -/
theorem base_reordered (hgroup : input.group.Perm group')
    (hcomparison : input.comparison.Perm comparison') :
    (input.reordered group' comparison').base = input.base :=
  (baseStatistic_eq_of_perm (finiteValues_perm hcomparison) (finiteValues_perm hgroup) _).symm

/-- The order of the posts is of no account to the checks before the resamples are drawn. -/
theorem settledEarly_reordered (hgroup : input.group.Perm group')
    (hcomparison : input.comparison.Perm comparison') :
    (input.reordered group' comparison').settledEarly = input.settledEarly := by
  have hlength : (finiteValues group').length = (finiteValues input.group).length :=
    (finiteValues_perm hgroup).symm.length_eq
  have hlength' : (finiteValues comparison').length = (finiteValues input.comparison).length :=
    (finiteValues_perm hcomparison).symm.length_eq
  simp only [settledEarly, base_reordered hgroup hcomparison]
  simp only [reordered, hlength, hlength']
  rfl

/-- The order of the posts is of no account to the samples of the supported class. -/
theorem meetsSupportedSamples_reordered (hgroup : input.group.Perm group')
    (hcomparison : input.comparison.Perm comparison') :
    (input.reordered group' comparison').meetsSupportedSamples = input.meetsSupportedSamples := by
  have hlength : (finiteValues group').length = (finiteValues input.group).length :=
    (finiteValues_perm hgroup).symm.length_eq
  have hlength' : (finiteValues comparison').length = (finiteValues input.comparison).length :=
    (finiteValues_perm hcomparison).symm.length_eq
  simp only [meetsSupportedSamples, reordered, hlength, hlength']
  rfl

/-- The comparison has the same finite values, in the same places. -/
structure FeatureComparisonInput.SamePlaces (input : FeatureComparisonInput)
    (group' comparison' : List JsNumber) : Prop where
  group : finiteValues group' = finiteValues input.group
  comparison : finiteValues comparison' = finiteValues input.comparison

private theorem calculateFeatureStatistic_settle (classification : ConfidenceClass)
    (reason : ClassificationReason) (interval : Option BootstrapInterval) :
    (calculateFeatureStatistic platform input).settle classification reason interval =
      input.base.settle classification reason interval := by
  rw [calculateFeatureStatistic_eq]
  cases input.settledEarly <;> rfl

/-- Non-finite values are of no account to a statistic, wherever they stand. -/
theorem statistic_of_samePlaces (h : input.SamePlaces group' comparison') :
    calculateFeatureStatistic platform (input.reordered group' comparison') =
      calculateFeatureStatistic platform input := by
  simp only [calculateFeatureStatistic, settledEarly, settleByInterval, meetsSupportedSamples,
    meetsModerateSamples, base, reordered, h.group, h.comparison]
  rfl

/-- A comparison shows the same in another order of its posts that is settled before its resamples
are drawn, or that draws the same values. -/
theorem statistic_reordered (hgroup : input.group.Perm group')
    (hcomparison : input.comparison.Perm comparison')
    (h : input.ReachesBootstrap → input.SamePlaces group' comparison') :
    calculateFeatureStatistic platform (input.reordered group' comparison') =
      calculateFeatureStatistic platform input := by
  cases hearly : input.settledEarly with
  | some verdict =>
    rw [calculateFeatureStatistic_eq, calculateFeatureStatistic_eq,
      settledEarly_reordered hgroup hcomparison, hearly, base_reordered hgroup hcomparison]
  | none => exact statistic_of_samePlaces (h (settledEarly_eq_none_iff.mp hearly))

end Reorder

end Settling

open FeatureComparisonInput

/-! ### A comparison whose order matters -/

namespace OrderSample

def digest : Vector UInt8 32 :=
  #v[0xb2, 0x3d, 0x94, 0xa6, 0x77, 0xb8, 0xab, 0x53, 0x21, 0x54, 0x28, 0xb8, 0x9e, 0xfc, 0xe7,
    0xef, 0xad, 0x3a, 0xf4, 0x9e, 0xb7, 0x79, 0xcb, 0x93, 0x02, 0x7b, 0x33, 0xdc, 0x8d, 0x5c,
    0xe4, 0x6c]

/-- A platform that writes whole numbers and hashes the text of the sample. -/
def platform : StatisticsPlatform where
  numeral value := Utf16.ofString (toString value.num)
  sha256 _ := digest

/-- Whole numbers as numbers of the runtime. -/
def whole (values : List ℕ) : List JsNumber := values.map fun value => .finite value

def input : FeatureComparisonInput where
  comparison := whole [1, 1, 1, 1, 1]
  distinctPublicationDates := 6
  distinctPublicationWeeks := 3
  dominatedByOneSource := false
  group := whole [2, 2, 2, 2, 4, 4]
  key := "hook.type=question|views|day_7"
  missingRatio := 0
  metricIsCount := false
  observationsClusterBySource := false
  survivesMultipleTesting := none

def group' : List JsNumber := whole [2, 2, 2, 4, 4, 2]

private theorem input_perm : input.group.Perm group' ∧ input.comparison.Perm input.comparison :=
  ⟨by decide, List.Perm.refl _⟩

/-- The hash is that of the text that both orders have. -/
example : Json.stringify platform.numeral (.array [.string (Utf16.ofString input.key),
      platform.jsonValues (finiteValues group'), platform.jsonValues (finiteValues input.comparison)]) =
    Utf16.ofString "[\"hook.type=question|views|day_7\",[2,2,2,2,4,4],[1,1,1,1,1]]" := by
  decide

def seed : UInt32 := 2990380198

private theorem createBootstrapSeed_eq (comparison group : List ℚ) (key : String) :
    platform.createBootstrapSeed comparison group key = seed := by
  have hdigest : readUInt32BE digest = seed := by decide
  exact hdigest

/-- The positions of the higher value in the two orders. -/
def marked (mask place : ℕ) : Bool := Nat.beq (Nat.mod (Nat.shiftRight mask place) 2) 1

/-- The resamples of an order in which at most three draws pick a higher value. -/
def lightResamples (mask : ℕ) : ℕ :=
  tally (fun resample => Nat.ble (marksAt (marked mask) 6 2990380198 (Nat.mul resample 11)) 3) 2000

private theorem countP_differences (mask : ℕ) {group : List ℚ} (hlength : group.length = 6)
    (hgroup : ∀ place < 6, group.getD place 0 = if marked mask place then 4 else 2)
    {taken : ℚ → Bool} (hconstant : median (List.replicate 5 (1 : ℚ)) = some 1)
    (htaken : ∀ marks < 7, taken (differenceOfMarks 2 4 1 6 marks) = Nat.ble marks 3) :
    (resampledDifferences (List.replicate 5 1) group bootstrapResamples seed).countP taken =
      lightResamples mask := by
  rw [← hlength] at hgroup
  have htaken' : ∀ marks < group.length + 1,
      taken (differenceOfMarks 2 4 1 group.length marks) = Nat.ble marks 3 := by
    rw [hlength]
    exact htaken
  rw [countP_two_values hgroup hconstant htaken', hlength]
  rfl

/-- What the numbers of the sample come to. -/
structure Computed : Prop where
  /-- The resamples of the two orders. -/
  light : lightResamples 0b110000 = 1794 ∧ lightResamples 0b011000 = 1818
  constant : median (List.replicate 5 (1 : ℚ)) = some 1
  below : ∀ marks < 7, decide (differenceOfMarks 2 4 1 6 marks < 3) = Nat.ble marks 3
  upTo : ∀ marks < 7, decide (differenceOfMarks 2 4 1 6 marks ≤ 2) = Nat.ble marks 3
  marked : (∀ place < 6, [2, 2, 2, 2, 4, 4].getD place (0 : ℚ) =
      if marked 0b110000 place then 4 else 2) ∧
    ∀ place < 6, [2, 2, 2, 4, 4, 2].getD place (0 : ℚ) = if marked 0b011000 place then 4 else 2
  /-- The places that the upper end is read from. -/
  places : ⌊(17991 / 10 : ℚ)⌋₊ = 1799 ∧ ⌈(17991 / 10 : ℚ)⌉₊ = 1800
  early : input.settledEarly = none

theorem computed : Computed where
  light := by decide +kernel
  constant := by decide +kernel
  below := by decide +kernel
  upTo := by decide +kernel
  marked := by decide +kernel
  places := by decide +kernel
  early := by decide +kernel

private theorem upper_eq (group : List ℚ) {other : FeatureComparisonInput}
    (hgroup : finiteValues other.group = group)
    (hcomparison : finiteValues other.comparison = List.replicate 5 1) :
    (other.ends platform (4 / 5)).2 = percentileOf (ascending (resampledDifferences
      (List.replicate 5 1) group bootstrapResamples seed)) (9 / 10) := by
  have htail : (1 : ℚ) - (1 - 4 / 5) / 2 = 9 / 10 := by norm_num
  simp only [ends, differences, createBootstrapSeed_eq, hgroup, hcomparison, htail]

theorem position_eq (group : List ℚ) : (((resampledDifferences (List.replicate 5 1) group
    bootstrapResamples seed).length : ℚ) - 1) * (9 / 10) = 17991 / 10 := by
  rw [length_resampledDifferences]
  norm_num [bootstrapResamples]

private theorem le_upper : 3 ≤ (input.ends platform (4 / 5)).2 := by
  have hcomputed := computed
  rw [upper_eq [2, 2, 2, 2, 4, 4] (by decide) (by decide)]
  refine le_percentileOf (position_eq _) (by norm_num) ?_ ?_
  · rw [length_resampledDifferences, hcomputed.places.2]
    norm_num [bootstrapResamples]
  · rw [countP_differences 0b110000 rfl hcomputed.marked.1 hcomputed.constant hcomputed.below,
      hcomputed.light.1, hcomputed.places.1]
    norm_num

private theorem upper_le :
    ((input.reordered group' input.comparison).ends platform (4 / 5)).2 ≤ 2 := by
  have hcomputed := computed
  rw [upper_eq [2, 2, 2, 4, 4, 2] (by decide) (by decide)]
  refine percentileOf_le (position_eq _) (by norm_num) ?_ ?_
  · rw [length_resampledDifferences, hcomputed.places.2]
    norm_num [bootstrapResamples]
  · rw [countP_differences 0b011000 rfl hcomputed.marked.2 hcomputed.constant hcomputed.upTo,
      hcomputed.light.2, hcomputed.places.2]
    norm_num

end OrderSample

open OrderSample

/-- **Order independence of a statistic.** In another order of its posts a comparison shows the
same effect, spreads and sensitivity, and is seeded alike. It shows the same in everything if a
check settles it before its resamples are drawn, or if the places that are drawn hold the same
values in both orders. -/
theorem same_statistic (platform : StatisticsPlatform) (input : FeatureComparisonInput)
    (group' comparison' : List JsNumber) (hgroup : input.group.Perm group')
    (hcomparison : input.comparison.Perm comparison') :
    (∀ classification reason interval,
        (calculateFeatureStatistic platform (input.reordered group' comparison')).settle
            classification reason interval =
          (calculateFeatureStatistic platform input).settle classification reason interval) ∧
      platform.createBootstrapSeed (finiteValues comparison') (finiteValues group') input.key =
        platform.createBootstrapSeed (finiteValues input.comparison) (finiteValues input.group)
          input.key ∧
      ((input.ReachesBootstrap → input.SamePlaces group' comparison') →
        calculateFeatureStatistic platform (input.reordered group' comparison') =
          calculateFeatureStatistic platform input) := by
  refine ⟨fun classification reason interval => ?_, ?_, statistic_reordered hgroup hcomparison⟩
  · rw [calculateFeatureStatistic_settle, calculateFeatureStatistic_settle,
      base_reordered hgroup hcomparison]
  · exact (createBootstrapSeed_eq_of_perm (finiteValues_perm hcomparison)
      (finiteValues_perm hgroup) input.key).symm

/-- The posts of the sample show the same in two orders as long as they are of two dates. -/
theorem same_statistic_sample :
    calculateFeatureStatistic OrderSample.platform
        ({ OrderSample.input with distinctPublicationDates := 2 }.reordered group'
          input.comparison) =
      calculateFeatureStatistic platform
        { input with distinctPublicationDates := 2 } := by
  refine (same_statistic platform
    { input with distinctPublicationDates := 2 } group'
    input.comparison input_perm.1 input_perm.2).2.2 ?_
  intro hreaches
  exact absurd hreaches.publicationDates (by decide)

/-- **The order matters.** Six posts in two orders, drawn by one seed, have two intervals. -/
theorem order_matters : ¬ ∀ (platform : StatisticsPlatform) (input : FeatureComparisonInput)
    (group' comparison' : List JsNumber), input.group.Perm group' →
    input.comparison.Perm comparison' →
    calculateFeatureStatistic platform (input.reordered group' comparison') =
      calculateFeatureStatistic platform input := by
  have hcomputed := computed
  intro h
  have hsame := h platform input group'
    input.comparison input_perm.1 input_perm.2
  have hearly : input.settledEarly = none := hcomputed.early
  have hearly' := settledEarly_reordered input_perm.1 input_perm.2
  rw [calculateFeatureStatistic_eq, calculateFeatureStatistic_eq, hearly', hearly] at hsame
  have hinterval := congrArg FeatureStatistic.interval hsame
  simp only [FeatureStatistic.settle, Option.some.injEq] at hinterval
  have hupper := congrArg BootstrapInterval.upper hinterval
  -- there are too few posts for the supported class, so both intervals are those of 80 percent
  have hfew : input.meetsSupportedSamples = false := by decide
  have hfew' := meetsSupportedSamples_reordered input_perm.1 input_perm.2
  simp only [interval, settledConfidence, reachesSupported, hfew', hfew, Bool.false_and,
    Bool.false_eq_true, if_false] at hupper
  have hle := upper_le
  have hge := le_upper
  rw [hupper] at hle
  exact absurd (hge.trans hle) (by norm_num)

end ContentAutomation
