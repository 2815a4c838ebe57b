import ContentAutomation.Analytics.ClassSoundness

/-!
# Spreads

The figures of a spread are quantiles of the finite numbers of a list. They stand in their order,
they are of the numbers whatever their order, and they rise with each of the numbers. The ends of
an interval that is drawn with more confidence enclose those that are drawn with less.
-/

namespace ContentAutomation

open OrderStatistic List

/-! ### Figures -/

/-- A figure is at most another, where there are both. -/
def AtMost (figure other : Option ℚ) : Prop := ∀ value ∈ figure, ∀ bound ∈ other, value ≤ bound

namespace CohortSpread

/-- The quantiles of a spread, from the least value to the greatest. -/
def quantiles (spread : CohortSpread) : List (Option ℚ) :=
  [spread.minimum, spread.firstQuartile, spread.median, spread.thirdQuartile, spread.maximum]

/-- All that a spread tells, its count apart. -/
def figures (spread : CohortSpread) : List (Option ℚ) :=
  spread.interquartileRange :: spread.quantiles

end CohortSpread

/-- A number is raised to another. One that is not finite is left as it is. -/
def JsNumber.Raised : JsNumber → JsNumber → Prop
  | .finite value, .finite raised => value ≤ raised
  | value, other => value = other

private theorem finiteValues_raised {values others : List JsNumber}
    (h : List.Forall₂ JsNumber.Raised values others) :
    List.Forall₂ (· ≤ ·) (finiteValues values) (finiteValues others) := by
  induction h with
  | nil => exact .nil
  | @cons value other values others hraised _ ih =>
    cases value with
    | finite value =>
      cases other with
      | finite other => exact .cons hraised ih
      | infinite | notANumber => cases hraised
    | infinite negative =>
      cases other <;> cases hraised
      exact ih
    | notANumber =>
      cases other <;> cases hraised
      exact ih

private theorem finiteValues_eq_nil {values : List JsNumber} :
    finiteValues values = [] ↔ ∀ value : ℚ, .finite value ∉ values := by
  rw [finiteValues, filterMap_eq_nil_iff]
  constructor
  · intro h value hmem
    cases h _ hmem
  · intro h value hmem
    cases value with
    | finite value => exact absurd hmem (h value)
    | infinite | notANumber => rfl

/-! ### Percentiles -/

variable {values others sorted : List ℚ} {fraction : ℚ}

private theorem percentile_eq (sorted : List ℚ) (fraction : ℚ) :
    percentile sorted fraction = if sorted = [] then none else some (percentileOf sorted fraction) := by
  unfold percentile
  split
  · rfl
  · next value =>
    have hposition : ((List.length [value] : ℚ) - 1) * fraction = (0 : ℕ) := by simp
    rw [if_neg (by simp), percentileOf, hposition, valueAt_natCast, getD_cons_zero]
  · next hnil _ => rw [if_neg hnil, percentileOf]

private theorem percentile_eq_none : percentile sorted fraction = none ↔ sorted = [] := by
  rw [percentile_eq]
  split_ifs with h <;> simp [h]

private theorem percentile_mono (hsorted : sorted.Pairwise (· ≤ ·)) {larger : ℚ}
    (hfraction : 0 ≤ fraction) (hle : fraction ≤ larger) (hlarger : larger ≤ 1) :
    AtMost (percentile sorted fraction) (percentile sorted larger) := by
  rw [percentile_eq, percentile_eq]
  split_ifs with hnil
  · rintro _ ⟨⟩
  rintro _ ⟨⟩ _ ⟨⟩
  exact percentileOf_mono hsorted (length_pos_iff.mpr hnil) hfraction hle hlarger

private theorem percentile_raised (h : List.Forall₂ (· ≤ ·) values others)
    (hfraction : 0 ≤ fraction) :
    AtMost (percentile (ascending values) fraction) (percentile (ascending others) fraction) := by
  have hlength : (ascending values).length = (ascending others).length := by
    rw [length_ascending, length_ascending, h.length_eq]
  rw [percentile_eq, percentile_eq]
  split_ifs with hnil hnil'
  · rintro _ ⟨⟩
  · rintro _ ⟨⟩
  · rintro _ _ _ ⟨⟩
  rintro _ ⟨⟩ _ ⟨⟩
  rw [percentileOf, percentileOf, hlength]
  refine valueAt_le_valueAt (fun rank => getD_ascending_mono h rank 0) (mul_nonneg ?_ hfraction)
  have hpos : 1 ≤ (ascending others).length := hlength ▸ length_pos_iff.mpr hnil
  rw [sub_nonneg]
  exact_mod_cast hpos

theorem head?_eq_percentile (sorted : List ℚ) : sorted.head? = percentile sorted 0 := by
  rw [percentile_eq, percentileOf, mul_zero]
  cases sorted with
  | nil => rfl
  | cons value rest => rw [if_neg (by simp), ← Nat.cast_zero, valueAt_natCast]; rfl

theorem getLast?_eq_percentile (sorted : List ℚ) : sorted.getLast? = percentile sorted 1 := by
  rw [percentile_eq, percentileOf, mul_one]
  cases sorted with
  | nil => rfl
  | cons value rest =>
    have hposition : ((value :: rest).length - 1 : ℚ) = rest.length := by simp
    rw [if_neg (by simp), hposition, valueAt_natCast, List.getLast?_eq_getElem?]
    simp

/-- The fractions that the quantiles of a spread are taken at. -/
def spreadFractions : List ℚ := [0, 1 / 4, 1 / 2, 3 / 4, 1]

private theorem quantiles_summariseSpread (values : List ℚ) :
    (summariseSpread values).quantiles = spreadFractions.map (percentile (ascending values)) := by
  rw [CohortSpread.quantiles, summariseSpread, head?_eq_percentile, getLast?_eq_percentile]
  rfl

private theorem spreadFractions_bounds :
    ∀ fraction ∈ spreadFractions, 0 ≤ fraction ∧ fraction ≤ 1 := by
  decide +kernel

private theorem quantiles_pairwise (values : List ℚ) :
    (summariseSpread values).quantiles.Pairwise AtMost := by
  have hfractions : spreadFractions.Pairwise (· ≤ ·) := by decide +kernel
  rw [quantiles_summariseSpread, pairwise_map]
  refine hfractions.imp_of_mem fun hfraction hlarger hle => ?_
  exact percentile_mono (ascending_pairwise values) (spreadFractions_bounds _ hfraction).1 hle
    (spreadFractions_bounds _ hlarger).2

private theorem interquartileRange_nonneg (values : List ℚ) :
    AtMost (some 0) (summariseSpread values).interquartileRange := by
  rintro _ ⟨⟩ range hrange
  obtain ⟨third, hthird, hrange⟩ := Option.bind_eq_some_iff.mp hrange
  obtain ⟨first, hfirst, hrange⟩ := Option.bind_eq_some_iff.mp hrange
  cases hrange
  exact sub_nonneg.mpr (percentile_mono (ascending_pairwise values) (by norm_num) (by norm_num)
    (by norm_num) first hfirst third hthird)

private theorem figures_eq_none (values : List ℚ) :
    ∀ figure ∈ (summariseSpread values).figures, figure = none ↔ values = [] := by
  have hnil : ascending values = [] ↔ values = [] := by
    rw [← length_eq_zero_iff, length_ascending, length_eq_zero_iff]
  intro figure hfigure
  rcases mem_cons.mp hfigure with rfl | hfigure
  · have hthird : percentile (ascending values) (3 / 4) = none ↔ values = [] :=
      percentile_eq_none.trans hnil
    have hfirst : percentile (ascending values) (1 / 4) = none ↔ values = [] :=
      percentile_eq_none.trans hnil
    simp only [summariseSpread]
    cases hq3 : percentile (ascending values) (3 / 4) <;>
      cases hq1 : percentile (ascending values) (1 / 4) <;> simp_all
  · rw [quantiles_summariseSpread] at hfigure
    obtain ⟨fraction, -, rfl⟩ := mem_map.mp hfigure
    exact percentile_eq_none.trans hnil

private theorem quantiles_raised (h : List.Forall₂ (· ≤ ·) values others) :
    List.Forall₂ AtMost (summariseSpread values).quantiles (summariseSpread others).quantiles := by
  rw [quantiles_summariseSpread, quantiles_summariseSpread, forall₂_map_left_iff,
    forall₂_map_right_iff, forall₂_same]
  exact fun fraction hfraction => percentile_raised h (spreadFractions_bounds fraction hfraction).1

/-- **Enclosing intervals.** The ends of an interval of more confidence enclose those of one of
less, of the same resamples. -/
theorem bootstrapMedianDifference_encloses {comparison group : List ℚ} {seed : UInt32}
    {confidence greater : ℚ} (hconfidence : -1 ≤ confidence) (hle : confidence ≤ greater)
    (hgreater : greater ≤ 1) {interval : BootstrapInterval}
    (hinterval : bootstrapMedianDifference comparison confidence group seed = some interval) :
    ∃ wider, bootstrapMedianDifference comparison greater group seed = some wider ∧
      wider.lower ≤ interval.lower ∧ interval.upper ≤ wider.upper := by
  unfold bootstrapMedianDifference at hinterval ⊢
  split at hinterval
  · cases hinterval
  · next hfilled =>
    cases hinterval
    rw [if_neg hfilled]
    refine ⟨_, rfl, ?_⟩
    have hsorted := ascending_pairwise
      (resampledDifferences comparison group bootstrapResamples seed)
    have hlength : 0 < (ascending
        (resampledDifferences comparison group bootstrapResamples seed)).length := by
      rw [length_ascending, length_resampledDifferences]
      decide
    constructor
    · exact percentileOf_mono hsorted hlength (by linarith) (by linarith) (by linarith)
    · exact percentileOf_mono hsorted hlength (by linarith) (by linarith) (by linarith)

/-- **Ordered spreads.** The quantiles of a spread ascend, and its range is not negative. There are
figures when there is a finite number. No order of the numbers changes them, and to raise numbers
lowers no quantile. The bootstrap's ends at a greater confidence enclose those at a smaller one;
between -1 and 1 both ends are positions among the resamples. -/
theorem spreads_are_ordered (values : List JsNumber) :
    (summariseSpread (finiteValues values)).quantiles.Pairwise AtMost ∧
      AtMost (some 0) (summariseSpread (finiteValues values)).interquartileRange ∧
      (∀ figure ∈ (summariseSpread (finiteValues values)).figures,
        figure = none ↔ ∀ value : ℚ, .finite value ∉ values) ∧
      (∀ others, values.Perm others →
        summariseSpread (finiteValues values) = summariseSpread (finiteValues others)) ∧
      (∀ others, List.Forall₂ JsNumber.Raised values others →
        List.Forall₂ AtMost (summariseSpread (finiteValues values)).quantiles
          (summariseSpread (finiteValues others)).quantiles) ∧
      ∀ (comparison : List JsNumber) (seed : UInt32) (confidence greater : ℚ),
        -1 ≤ confidence → confidence ≤ greater → greater ≤ 1 →
          ∀ interval ∈ bootstrapMedianDifference (finiteValues comparison) confidence
              (finiteValues values) seed,
            ∃ wider ∈ bootstrapMedianDifference (finiteValues comparison) greater
              (finiteValues values) seed,
              wider.lower ≤ interval.lower ∧ interval.upper ≤ wider.upper := by
  refine ⟨quantiles_pairwise _, interquartileRange_nonneg _, ?_, ?_, ?_, ?_⟩
  · intro figure hfigure
    rw [figures_eq_none _ figure hfigure, finiteValues_eq_nil]
  · exact fun others hperm => summariseSpread_eq_of_perm (hperm.filterMap _)
  · exact fun others hraised => quantiles_raised (finiteValues_raised hraised)
  · intro comparison seed confidence greater hconfidence hle hgreater interval hinterval
    exact bootstrapMedianDifference_encloses hconfidence hle hgreater hinterval

end ContentAutomation
