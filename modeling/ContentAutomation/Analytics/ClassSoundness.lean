import ContentAutomation.Analytics.FeatureFamily

/-!
# What the classes say

A comparison comes to the moderate or to the supported class through a cascade of checks. Each
class carries the conditions that are written of it, and the supported one all those of the
moderate one: the interval of 80 percent is within that of 95 percent.
-/

namespace ContentAutomation

open OrderStatistic FeatureComparisonInput List

variable {platform : StatisticsPlatform} {input : FeatureComparisonInput}

/-! ### Intervals within intervals -/

theorem percentileOf_mono {sorted : List ℚ} (hsorted : sorted.Pairwise (· ≤ ·))
    (hlength : 0 < sorted.length) {fraction larger : ℚ} (hfraction : 0 ≤ fraction)
    (hle : fraction ≤ larger) (hlarger : larger ≤ 1) :
    percentileOf sorted fraction ≤ percentileOf sorted larger := by
  have hlast : (0 : ℚ) ≤ sorted.length - 1 := by
    have : (1 : ℚ) ≤ sorted.length := by exact_mod_cast hlength
    linarith
  have hposition : (sorted.length - 1 : ℚ) * larger ≤ ((sorted.length - 1 : ℕ) : ℚ) := by
    rw [Nat.cast_sub hlength, Nat.cast_one]
    exact mul_le_of_le_one_right hlast hlarger
  refine valueAt_mono hsorted (mul_nonneg hlast hfraction) (mul_le_mul_of_nonneg_left hle hlast) ?_
  have hceil := Nat.ceil_le.mpr hposition
  omega

/-- **Nested intervals.** Of two confidences, the ends of the greater one enclose those of the
other. -/
theorem ends_nested (platform : StatisticsPlatform) (input : FeatureComparisonInput)
    {confidence greater : ℚ} (hconfidence : 0 ≤ confidence) (hle : confidence ≤ greater)
    (hgreater : greater ≤ 1) :
    (input.ends platform greater).1 ≤ (input.ends platform confidence).1 ∧
      (input.ends platform confidence).1 ≤ (input.ends platform confidence).2 ∧
      (input.ends platform confidence).2 ≤ (input.ends platform greater).2 := by
  have hsorted : (input.differences platform).Pairwise (· ≤ ·) := ascending_pairwise _
  have hlength : 0 < (input.differences platform).length := by
    rw [differences, length_ascending, length_resampledDifferences]
    decide
  refine ⟨?_, ?_, ?_⟩
  · exact percentileOf_mono hsorted hlength (by linarith) (by linarith) (by linarith)
  · exact percentileOf_mono hsorted hlength (by linarith) (by linarith) (by linarith)
  · exact percentileOf_mono hsorted hlength (by linarith) (by linarith) (by linarith)

private theorem excludesZero_of_supported (h : excludesZero (input.ends platform (19 / 20))) :
    excludesZero (input.ends platform (4 / 5)) := by
  have hnested : (input.ends platform (19 / 20)).1 ≤ (input.ends platform (4 / 5)).1 ∧
      (input.ends platform (4 / 5)).1 ≤ (input.ends platform (4 / 5)).2 ∧
      (input.ends platform (4 / 5)).2 ≤ (input.ends platform (19 / 20)).2 :=
    ends_nested platform input (by norm_num) (by norm_num) (by norm_num)
  obtain ⟨hlower, hends, hupper⟩ := hnested
  simp only [excludesZero, Bool.or_eq_true, Bool.and_eq_true, decide_eq_true_eq] at h ⊢
  rcases h with ⟨hpositive, -⟩ | ⟨-, hnegative⟩
  · exact .inl ⟨by linarith, by linarith⟩
  · exact .inr ⟨by linarith, by linarith⟩

/-! ### The conditions of the classes -/

/-- The median of the group without the post at a position, and its difference to the
comparison. -/
def RefitAt (comparison group : List ℚ) (index : ℕ) (refit comparisonMedian : ℚ) : Prop :=
  median (group.eraseIdx index) = some refit ∧ median comparison = some comparisonMedian

/-- What the documentation demands of a moderate association. -/
structure MeetsModerate (platform : StatisticsPlatform) (input : FeatureComparisonInput) :
    Prop where
  group : 8 ≤ (finiteValues input.group).length
  comparison : 12 ≤ (finiteValues input.comparison).length
  total : 20 ≤ (finiteValues input.group).length + (finiteValues input.comparison).length
  publicationDates : 3 ≤ input.distinctPublicationDates
  missing : input.missingRatio ≤ maximumMissingRatio
  /-- No post holds more than half of what is counted of the group. -/
  topPost : input.metricIsCount = true → ∀ value ∈ finiteValues input.group,
    2 * value ≤ ((finiteValues input.group).filter fun value => 0 ≤ value).sum
  /-- Where no count is negative, that is the total of the group. -/
  topCount : input.metricIsCount = true → (∀ value ∈ finiteValues input.group, 0 ≤ value) →
    ∀ value ∈ finiteValues input.group, 2 * value ≤ (finiteValues input.group).sum
  effect : ∃ groupMedian comparisonMedian, median (finiteValues input.group) = some groupMedian ∧
    median (finiteValues input.comparison) = some comparisonMedian ∧ comparisonMedian ≠ 0 ∧
      practicalEffectThreshold ≤ |groupMedian - comparisonMedian| / |comparisonMedian|
  /-- Without any one of its posts, the group differs in the same direction. -/
  direction : ∀ groupMedian, median (finiteValues input.group) = some groupMedian →
    ∀ index < (finiteValues input.group).length, ∃ refit comparisonMedian,
      RefitAt (finiteValues input.comparison) (finiteValues input.group) index refit
          comparisonMedian ∧
        SignType.sign (refit - comparisonMedian) = SignType.sign (groupMedian - comparisonMedian)
  source : input.dominatedByOneSource = false
  interval : (bootstrapMedianDifference (finiteValues input.comparison) (4 / 5)
    (finiteValues input.group) (platform.createBootstrapSeed (finiteValues input.comparison)
      (finiteValues input.group) input.key)).any (·.excludesNoDifference) = true

/-- What the documentation demands of a supported association beyond that. -/
structure MeetsSupported (platform : StatisticsPlatform) (input : FeatureComparisonInput) : Prop
    extends MeetsModerate platform input where
  supportedGroup : 12 ≤ (finiteValues input.group).length
  supportedComparison : 24 ≤ (finiteValues input.comparison).length
  publicationWeeks : 6 ≤ input.distinctPublicationWeeks
  supportedInterval : (bootstrapMedianDifference (finiteValues input.comparison) (19 / 20)
    (finiteValues input.group) (platform.createBootstrapSeed (finiteValues input.comparison)
      (finiteValues input.group) input.key)).any (·.excludesNoDifference) = true
  /-- Without any one of its posts, the group keeps half of the least effect. -/
  halfEffect : ∀ index < (finiteValues input.group).length, ∀ refit comparisonMedian,
    RefitAt (finiteValues input.comparison) (finiteValues input.group) index refit
      comparisonMedian →
    practicalEffectThreshold / 2 ≤ |refit - comparisonMedian| / |comparisonMedian|
  independent : input.observationsClusterBySource = false
  corrected : input.survivesMultipleTesting ≠ some false

/-! ### What the checks before the resamples leave -/

private theorem exists_median {values : List ℚ} (h : values ≠ []) :
    ∃ value, median values = some value := by
  have hlength : 0 < (ascending values).length := by
    rw [length_ascending]
    exact length_pos_iff.mpr h
  unfold median percentile
  split
  · next hnil =>
    rw [hnil] at hlength
    cases hlength
  · exact ⟨_, rfl⟩
  · exact ⟨_, rfl⟩

private theorem mem_refitMedians {group : List ℚ} {index : ℕ} (hindex : index < group.length)
    {refit : ℚ} (h : median (group.eraseIdx index) = some refit) : refit ∈ refitMedians group :=
  mem_filterMap.mpr ⟨index, mem_range.mpr hindex, h⟩

/-- What it takes that a sensitivity keeps the direction. -/
theorem direction_of_preserves {comparison group : List ℚ}
    (h : (evaluateSensitivity comparison group).preservesDirection) :
    ∀ groupMedian, median group = some groupMedian → ∀ index < group.length,
      ∃ refit comparisonMedian, RefitAt comparison group index refit comparisonMedian ∧
        SignType.sign (refit - comparisonMedian) =
          SignType.sign (groupMedian - comparisonMedian) := by
  intro groupMedian hgroup index hindex
  unfold evaluateSensitivity at h
  rw [hgroup] at h
  cases hcomparison : median comparison with
  | none =>
    rw [hcomparison] at h
    cases h
  | some comparisonMedian =>
    rw [hcomparison] at h
    dsimp only at h
    split at h
    · cases h
    · next hlength =>
      have hrest : group.eraseIdx index ≠ [] := by
        apply ne_nil_of_length_pos
        rw [length_eraseIdx_of_lt hindex]
        omega
      obtain ⟨refit, hrefit⟩ := exists_median hrest
      have hkeeps := all_eq_true.mp h refit (mem_refitMedians hindex hrefit)
      exact ⟨refit, comparisonMedian, ⟨hrefit, hcomparison⟩, by simpa using hkeeps⟩

private theorem halfEffect_of_minimum {comparison group : List ℚ} {bound : ℚ}
    (h : ((evaluateSensitivity comparison group).minimumRelativeEffect.any fun effect =>
      bound ≤ effect)) :
    ∀ index < group.length, ∀ refit comparisonMedian,
      RefitAt comparison group index refit comparisonMedian →
      bound ≤ |refit - comparisonMedian| / |comparisonMedian| := by
  rintro index hindex refit comparisonMedian ⟨hrefit, hcomparison⟩
  unfold evaluateSensitivity at h
  rw [hcomparison] at h
  cases hgroup : median group with
  | none =>
    rw [hgroup] at h
    cases h
  | some groupMedian =>
    rw [hgroup] at h
    dsimp only at h
    split at h
    · cases h
    · obtain ⟨least, hleast, hbound⟩ := (Option.any_eq_true _ _).mp h
      rw [decide_eq_true_eq] at hbound
      obtain ⟨hmem, hleast⟩ := List.min?_eq_some_iff.mp hleast
      -- with a comparison median of zero there is no relative effect at all
      have hnonzero : comparisonMedian ≠ 0 := by
        rintro rfl
        obtain ⟨other, -, hother⟩ := mem_filterMap.mp hmem
        simp [relativeEffect] at hother
      refine hbound.trans (hleast _ (mem_filterMap.mpr
        ⟨refit, mem_refitMedians hindex hrefit, ?_⟩))
      simp only [relativeEffect, if_neg hnonzero, Option.map_some, abs_div, abs_abs]

private theorem topPost_of_share {values : List ℚ}
    (h : ∀ share ∈ topContributorShare values, share ≤ 1 / 2) :
    ∀ value ∈ values, 2 * value ≤ (values.filter fun value => 0 ≤ value).sum := by
  intro value hvalue
  have hnonneg : ∀ other ∈ (values.filter fun value => 0 ≤ value), (0 : ℚ) ≤ other := by
    intro other hother
    exact of_decide_eq_true (mem_filter.mp hother).2
  have hsum := sum_nonneg hnonneg
  rcases le_or_gt 0 value with hpositive | hnegative
  · have hcounted : value ∈ (values.filter fun value => 0 ≤ value) :=
      mem_filter.mpr ⟨hvalue, decide_eq_true hpositive⟩
    have hle := single_le_sum hnonneg value hcounted
    rcases eq_or_lt_of_le hsum with hzero | hpos
    · linarith
    · obtain ⟨top, htop⟩ : ∃ top, (values.filter fun value => 0 ≤ value).max? = some top := by
        rw [← Option.isSome_iff_exists, isSome_max?_iff]
        exact ne_nil_of_mem hcounted
      have hshare := h (top / (values.filter fun value => 0 ≤ value).sum) (by
        have hlength : (values.filter fun value => 0 ≤ value).length ≠ 0 :=
          (length_pos_of_mem hcounted).ne'
        simp only [topContributorShare, not_le.mpr hpos, hlength, or_self, if_false, htop,
          Option.map_some, Option.mem_some_iff])
      have hmax := (List.max?_eq_some_iff.mp htop).2 value hcounted
      rw [div_le_iff₀ hpos] at hshare
      linarith
  · linarith

private theorem effect_of_reaches (h : input.ReachesBootstrap) : ∃ groupMedian comparisonMedian,
    median (finiteValues input.group) = some groupMedian ∧
      median (finiteValues input.comparison) = some comparisonMedian ∧ comparisonMedian ≠ 0 ∧
        practicalEffectThreshold ≤ |groupMedian - comparisonMedian| / |comparisonMedian| := by
  obtain ⟨effect, hmem, hbound⟩ := h.effect
  have heffect : (do
      relativeEffect (← median (finiteValues input.group))
        (← median (finiteValues input.comparison))) = some effect := hmem
  obtain ⟨groupMedian, hgroup, heffect⟩ := Option.bind_eq_some_iff.mp heffect
  obtain ⟨comparisonMedian, hcomparison, heffect⟩ := Option.bind_eq_some_iff.mp heffect
  unfold relativeEffect at heffect
  split at heffect
  · cases heffect
  · next hnonzero =>
    cases heffect
    rw [abs_div, abs_abs] at hbound
    exact ⟨groupMedian, comparisonMedian, hgroup, hcomparison, hnonzero, hbound⟩

/-- With enough posts and an interval of 80 percent that excludes zero, a comparison that comes to
its resamples meets the conditions of the moderate class. -/
theorem FeatureComparisonInput.ReachesBootstrap.meetsModerate (h : input.ReachesBootstrap)
    (hsamples : input.meetsModerateSamples)
    (hinterval : excludesZero (input.ends platform (4 / 5))) :
    MeetsModerate platform input := by
  simp only [meetsModerateSamples, Bool.and_eq_true, decide_eq_true_eq] at hsamples
  obtain ⟨⟨hgroup, hcomparison⟩, htotal⟩ := hsamples
  have htop : input.metricIsCount = true → ∀ value ∈ finiteValues input.group,
      2 * value ≤ ((finiteValues input.group).filter fun value => 0 ≤ value).sum := by
    intro hcount
    refine topPost_of_share fun share hshare => h.share share ?_
    simp only [FeatureComparisonInput.base, baseStatistic, hcount, if_true]
    exact hshare
  refine ⟨hgroup, hcomparison, htotal, h.publicationDates, h.missingRatio, htop, ?_,
    effect_of_reaches h, direction_of_preserves h.direction, h.source, ?_⟩
  · intro hcount hnonneg
    have hcounted : ((finiteValues input.group).filter fun value => 0 ≤ value) =
        finiteValues input.group :=
      filter_eq_self.mpr fun value hvalue => decide_eq_true (hnonneg value hvalue)
    have hall := htop hcount
    rwa [hcounted] at hall
  · rw [bootstrapMedianDifference_eq h.group h.comparison, Option.any_some]
    exact hinterval

private theorem meetsModerateSamples_of_supported (h : input.meetsSupportedSamples) :
    input.meetsModerateSamples := by
  simp only [meetsSupportedSamples, meetsModerateSamples, Bool.and_eq_true,
    decide_eq_true_eq] at h ⊢
  omega

/-! ### Soundness -/

private theorem settledLate_of_class {verdict : ConfidenceClass}
    (hverdict : verdict = .moderateAssociation ∨ verdict = .statisticallySupportedAssociation)
    (h : (calculateFeatureStatistic platform input).classification = verdict) :
    input.ReachesBootstrap ∧ (input.settledLate platform).1 = verdict := by
  rw [calculateFeatureStatistic_eq] at h
  cases hearly : input.settledEarly with
  | some settled =>
    rw [hearly] at h
    have hclass : settled.1 = verdict := h
    have hmem := settledEarly_mem hearly
    simp only [mem_cons, not_mem_nil, or_false] at hmem
    rw [← hclass] at hverdict
    rcases hmem with rfl | rfl | rfl | rfl | rfl | rfl | rfl | rfl <;> simp at hverdict
  | none =>
    rw [hearly] at h
    exact ⟨settledEarly_eq_none_iff.mp hearly, h⟩

private theorem meetsModerate_of_class
    (h : (calculateFeatureStatistic platform input).classification = .moderateAssociation ∨
      (calculateFeatureStatistic platform input).classification =
        .statisticallySupportedAssociation) : MeetsModerate platform input := by
  obtain ⟨hreaches, hlate⟩ := settledLate_of_class h rfl
  by_cases hsupported : input.reachesSupported platform = true
  · obtain ⟨hsamples, hexcludes⟩ := Bool.and_eq_true_iff.mp hsupported
    exact hreaches.meetsModerate (meetsModerateSamples_of_supported hsamples)
      (excludesZero_of_supported hexcludes)
  · unfold settledLate at hlate
    rw [if_neg hsupported] at hlate
    split at hlate
    · next hmoderate =>
      obtain ⟨hsamples, hexcludes⟩ := Bool.and_eq_true_iff.mp hmoderate
      exact hreaches.meetsModerate hsamples hexcludes
    · split at hlate <;> rw [← hlate] at h <;> simp at h

private theorem meetsSupported_of_class
    (h : (calculateFeatureStatistic platform input).classification =
    .statisticallySupportedAssociation) : MeetsSupported platform input := by
  have hmoderate := meetsModerate_of_class (.inr h)
  obtain ⟨hreaches, hlate⟩ := settledLate_of_class (.inr rfl) h
  have hsupported : input.reachesSupported platform = true := by
    by_contra hnot
    unfold settledLate at hlate
    rw [if_neg hnot] at hlate
    split_ifs at hlate
  unfold settledLate at hlate
  rw [if_pos hsupported] at hlate
  obtain ⟨hsamples, hexcludes⟩ := Bool.and_eq_true_iff.mp hsupported
  simp only [meetsSupportedSamples, Bool.and_eq_true, decide_eq_true_eq] at hsamples
  obtain ⟨⟨hgroup, hcomparison⟩, hweeks⟩ := hsamples
  split at hlate
  · cases hlate
  · next hindependent =>
    split at hlate
    · cases hlate
    · next hcorrected =>
      split at hlate
      · next hedges =>
        refine ⟨hmoderate, hgroup, hcomparison, hweeks, ?_,
          halfEffect_of_minimum (Bool.and_eq_true_iff.mp hedges).1, by simpa using hindependent,
          hcorrected⟩
        rw [bootstrapMedianDifference_eq hreaches.group hreaches.comparison, Option.any_some]
        exact hexcludes
      · cases hlate

/-- **The classes are sound.** Whatever the comparison, a moderate or supported result meets every
condition of the moderate class, and a supported one those of the supported class besides. -/
theorem classes_are_sound (platform : StatisticsPlatform) (input : FeatureComparisonInput) :
    ((calculateFeatureStatistic platform input).classification = .moderateAssociation ∨
        (calculateFeatureStatistic platform input).classification =
          .statisticallySupportedAssociation → MeetsModerate platform input) ∧
      ((calculateFeatureStatistic platform input).classification =
        .statisticallySupportedAssociation → MeetsSupported platform input) :=
  ⟨meetsModerate_of_class, meetsSupported_of_class⟩

/-- The supported category of the sample meets the conditions of its class. -/
theorem question_is_sound : MeetsSupported FamilySample.platform.toStatisticsPlatform
    (FamilySample.inputOf FamilySample.question) :=
  (classes_are_sound FamilySample.platform.toStatisticsPlatform
    (FamilySample.inputOf FamilySample.question)).2 FamilySample.question_build.1

end ContentAutomation
