import ContentAutomation.Analytics.DerivedMetrics

/-!
# When a derived metric has a value

A derived metric has a value exactly if each of its components has been measured in its unit, their
sum is a whole number that the runtime holds exactly, and what it is divided by has been measured
and is positive. The value is then finite and not negative.
-/

namespace ContentAutomation

/-- The value of an input, if it has one. -/
def MetricInputSet.valueOf (inputs : MetricInputSet) (key : MetricInputKey) : ℚ :=
  match inputs.values key with
  | .available _ _ value => value
  | .unavailable _ => 0

/-- The sum of the components of a metric. -/
def DerivedMetricDefinition.sum (definition : DerivedMetricDefinition) (inputs : MetricInputSet) :
    Option ℚ :=
  sumComponents (definition.numerator.map inputs.valueOf)

/-- No input is negative. -/
def MetricInputSet.IsNonNegative (inputs : MetricInputSet) : Prop :=
  ∀ key source unit value, inputs.values key = .available source unit value → 0 ≤ value

/-- The milliseconds of a duration, as the runtime calculates them. -/
def milliseconds (seconds : ℚ) : Option ℚ := Binary64.rounded (seconds * 1000)

/-- What the metric is divided by has been measured, and is positive. -/
def MetricInputSet.HasDivisor (inputs : MetricInputSet) : DerivedMetricDenominator → Prop
  | .nothing => True
  | .metric key => ∃ value, inputs.values key = .available .insight .count value ∧ 0 < value
  | .duration => ∃ seconds, inputs.duration.seconds = some seconds ∧ 0 < seconds ∧
      ∀ denominator ∈ milliseconds seconds, 0 < denominator

/-- The metric can be calculated. -/
structure IsCalculable (definition : DerivedMetricDefinition) (inputs : MetricInputSet) : Prop where
  measured : ∀ key ∈ definition.numerator,
    inputs.values key = .available .insight definition.numeratorUnit (inputs.valueOf key)
  exact : ∃ numerator, definition.sum inputs = some numerator ∧
    (definition.numeratorUnit ≠ .ratio → isSafeNumber numerator = true)
  divisible : inputs.HasDivisor definition.denominator
  representable : ∀ numerator divisor, definition.sum inputs = some numerator →
    readDenominator inputs definition.denominator = .ok divisor →
    (divide numerator divisor).isSome = true

namespace MetricBounds

variable {inputs : MetricInputSet} {unit : InstagramMetricUnit} {keys missing : List MetricInputKey}
  {components : List ℚ} {definition : DerivedMetricDefinition} {metric : DerivedMetric}
  {denominator : DerivedMetricDenominator} {divisor : DerivedMetricDivisor} {value : ℚ}

/-! ### The numerator -/

/-- The loop over the numerator finds nothing missing exactly if each component has been measured,
and then it finds their values. -/
theorem readNumerator_eq_ok_iff : readNumerator inputs unit keys = .ok ([], components) ↔
    (∀ key ∈ keys, inputs.values key = .available .insight unit (inputs.valueOf key)) ∧
      components = keys.map inputs.valueOf := by
  induction keys generalizing components with
  | nil =>
    rw [readNumerator, Except.ok.injEq, Prod.mk.injEq]
    simp [eq_comm]
  | cons key keys ih =>
    rw [List.forall_mem_cons, List.map_cons]
    unfold readNumerator
    cases hkey : inputs.values key with
    | unavailable reason =>
      cases hread : readNumerator inputs unit keys with
      | error result => simp [Except.map]
      | ok read => simp [Except.map]
    | available source measured value =>
      have hvalue : inputs.valueOf key = value := by
        unfold MetricInputSet.valueOf
        rw [hkey]
      dsimp only
      rw [hvalue]
      split_ifs with hsource hunit
      · simp [hsource]
      · simp [hunit]
      · rw [not_not] at hsource hunit
        subst hsource hunit
        have hmap : ((readNumerator inputs measured keys).map fun read =>
            (read.1, value :: read.2)) = .ok ([], components) ↔
            ∃ rest, readNumerator inputs measured keys = .ok ([], rest) ∧
              components = value :: rest := by
          cases readNumerator inputs measured keys with
          | error result => simp [Except.map]
          | ok read =>
            obtain ⟨missing, values⟩ := read
            simp [Except.map, eq_comm]
        rw [hmap]
        constructor
        · rintro ⟨rest, hread, rfl⟩
          obtain ⟨hmeasured, rfl⟩ := ih.mp hread
          exact ⟨⟨rfl, hmeasured⟩, rfl⟩
        · rintro ⟨⟨-, hmeasured⟩, rfl⟩
          exact ⟨_, ih.mpr ⟨hmeasured, rfl⟩, rfl⟩

private theorem sumComponents_spec (hcomponents : ∀ component ∈ components, 0 ≤ component)
    (h : sumComponents components = some value) : 0 ≤ value ∧ value < 2 ^ 1024 := by
  have hfold : ∀ (components : List ℚ) (total : Option ℚ),
      (∀ component ∈ components, 0 ≤ component) → (∀ sum ∈ total, 0 ≤ sum ∧ sum < 2 ^ 1024) →
      ∀ sum ∈ components.foldl (fun total value =>
        total.bind fun sum => Binary64.rounded (sum + value)) total, 0 ≤ sum ∧ sum < 2 ^ 1024 := by
    intro components
    induction components with
    | nil => exact fun total _ htotal => htotal
    | cons component components ih =>
      intro total hcomponents htotal
      obtain ⟨hcomponent, hrest⟩ := List.forall_mem_cons.mp hcomponents
      refine ih _ hrest fun sum hsum => ?_
      obtain ⟨before, hbefore, hrounded⟩ := Option.bind_eq_some_iff.mp hsum
      exact Binary64.rounded_spec hrounded (add_nonneg (htotal before hbefore).1 hcomponent)
  refine hfold components (some 0) hcomponents ?_ value h
  intro sum hsum
  rw [← Option.some.inj hsum]
  exact ⟨le_refl 0, by positivity⟩

private theorem sum_spec (hinputs : inputs.IsNonNegative) (h : definition.sum inputs = some value) :
    0 ≤ value ∧ value < 2 ^ 1024 := by
  refine sumComponents_spec (fun component hcomponent => ?_) h
  obtain ⟨key, -, rfl⟩ := List.mem_map.mp hcomponent
  unfold MetricInputSet.valueOf
  split
  · next source unit value hkey => exact hinputs key source unit value hkey
  · exact le_refl 0

/-! ### The denominator -/

/-- **No division by zero.** What is divided by has been measured, and is positive. -/
theorem readDenominator_spec (h : readDenominator inputs denominator = .ok divisor) :
    inputs.HasDivisor denominator ∧ ∀ value, divisor = .finite value → 0 < value := by
  unfold readDenominator at h
  split at h
  · cases h
    exact ⟨trivial, fun _ hfinite => by cases hfinite⟩
  · split at h
    · cases h
    · next seconds hseconds =>
      split_ifs at h with hpositive
      rw [not_le] at hpositive
      split at h
      · next hinfinite =>
        cases h
        refine ⟨⟨seconds, hseconds, hpositive, fun denominator hfinite => ?_⟩, fun _ hfinite => by
          cases hfinite⟩
        cases hinfinite.symm.trans hfinite
      · next denominator hfinite =>
        split_ifs at h with hzero
        rw [not_le] at hzero
        cases h
        refine ⟨⟨seconds, hseconds, hpositive, fun other hother => ?_⟩, fun value hvalue => ?_⟩
        · rwa [Option.some.inj (hother.symm.trans hfinite)]
        · rwa [← DerivedMetricDivisor.finite.inj hvalue]
  · next key =>
    split at h
    · cases h
    · next source unit value hkey =>
      split_ifs at h with hsource hunit hpositive
      rw [not_not] at hsource hunit
      rw [not_le] at hpositive
      subst hsource hunit
      cases h
      exact ⟨⟨value, hkey, hpositive⟩, fun other hother => by
        rwa [← DerivedMetricDivisor.finite.inj hother]⟩

private theorem exists_readDenominator (h : inputs.HasDivisor denominator) :
    ∃ divisor, readDenominator inputs denominator = .ok divisor := by
  cases denominator with
  | nothing => exact ⟨.nothing, rfl⟩
  | metric key =>
    obtain ⟨value, hkey, hpositive⟩ := h
    refine ⟨.finite value, ?_⟩
    simp [readDenominator, hkey, not_le.mpr hpositive]
  | duration =>
    obtain ⟨seconds, hseconds, hpositive, hdenominator⟩ := h
    unfold milliseconds at hdenominator
    cases hrounded : Binary64.rounded (seconds * 1000) with
    | none =>
      refine ⟨.infinite, ?_⟩
      simp [readDenominator, hseconds, not_le.mpr hpositive, hrounded]
    | some denominator =>
      refine ⟨.finite denominator, ?_⟩
      have hzero := not_le.mpr (hdenominator denominator hrounded)
      simp [readDenominator, hseconds, not_le.mpr hpositive, hrounded, hzero]

private theorem divide_spec {numerator ratio : ℚ} (hnumerator : 0 ≤ numerator)
    (hfinite : numerator < 2 ^ 1024) (hdivisor : ∀ value, divisor = .finite value → 0 < value)
    (h : divide numerator divisor = some ratio) : 0 ≤ ratio ∧ ratio < 2 ^ 1024 := by
  cases divisor with
  | nothing =>
    rw [← Option.some.inj h]
    exact ⟨hnumerator, hfinite⟩
  | infinite =>
    rw [← Option.some.inj h]
    exact ⟨le_refl 0, by positivity⟩
  | finite value =>
    exact Binary64.rounded_spec h (div_nonneg hnumerator (hdivisor value rfl).le)

/-! ### The metric -/

/-- How a metric comes to a value. -/
theorem calculateDerivedMetric_value_iff : (calculateDerivedMetric metric inputs).value =
      some value ↔
    ∃ numerator divisor ratio,
      (∀ key ∈ (derivedMetricDefinitions metric).numerator,
        inputs.values key = .available .insight (derivedMetricDefinitions metric).numeratorUnit
          (inputs.valueOf key)) ∧
      (derivedMetricDefinitions metric).sum inputs = some numerator ∧
      ((derivedMetricDefinitions metric).numeratorUnit ≠ .ratio →
        isSafeNumber numerator) ∧
      readDenominator inputs (derivedMetricDefinitions metric).denominator = .ok divisor ∧
      divide numerator divisor = some ratio ∧
      value = if (derivedMetricDefinitions metric).bounded then min 1 ratio else ratio := by
  generalize hdefinition : derivedMetricDefinitions metric = definition
  constructor
  · intro h
    unfold calculateDerivedMetric at h
    rw [hdefinition] at h
    dsimp only at h
    cases hread : readNumerator inputs definition.numeratorUnit definition.numerator with
    | error result =>
      rw [hread] at h
      dsimp only at h
      obtain ⟨reason, missing, rfl⟩ := unavailable_of_readNumerator hread
      cases h
    | ok read =>
      obtain ⟨missing, components⟩ := read
      rw [hread] at h
      dsimp only at h
      split at h
      · cases h
      · next hmissing =>
        rw [not_not] at hmissing
        subst hmissing
        obtain ⟨hmeasured, rfl⟩ := readNumerator_eq_ok_iff.mp hread
        split at h
        · cases h
        · next numerator hsum =>
          split at h
          · cases h
          · next hexact =>
            split at h
            · next result hresult =>
              obtain ⟨reason, missing, rfl⟩ := unavailable_of_readDenominator hresult
              cases h
            · next divisor hdivisor =>
              split at h
              · cases h
              · next ratio hratio =>
                refine ⟨numerator, divisor, ratio, hmeasured, hsum, fun hunit => ?_, hdivisor,
                  hratio, (Option.some.inj h).symm⟩
                by_contra hunsafe
                exact hexact ⟨hunit, Bool.eq_false_of_not_eq_true hunsafe⟩
  · rintro ⟨numerator, divisor, ratio, hmeasured, hsum, hsafe, hdivisor, hratio, rfl⟩
    have hread : readNumerator inputs definition.numeratorUnit definition.numerator =
        .ok ([], definition.numerator.map inputs.valueOf) :=
      readNumerator_eq_ok_iff.mpr ⟨hmeasured, rfl⟩
    unfold DerivedMetricDefinition.sum at hsum
    have hexact : ¬ (definition.numeratorUnit ≠ .ratio ∧ isSafeNumber numerator = false) := by
      rintro ⟨hunit, hunsafe⟩
      rw [hsafe hunit] at hunsafe
      cases hunsafe
    unfold calculateDerivedMetric
    rw [hdefinition]
    simp only [hread, ne_eq, not_true_eq_false, if_false, hsum, hdivisor, hratio]
    rw [if_neg hexact]
    rfl

private theorem isAvailable_iff : (calculateDerivedMetric metric inputs).isAvailable ↔
    IsCalculable (derivedMetricDefinitions metric) inputs := by
  have hdefinite : (calculateDerivedMetric metric inputs).isAvailable = true ↔
      ∃ value, (calculateDerivedMetric metric inputs).value = some value := by
    rcases definite_calculateDerivedMetric metric inputs with
      ⟨havailable, -, -, hvalue⟩ | ⟨hunavailable, -, hvalue⟩
    · exact iff_of_true havailable (Option.isSome_iff_exists.mp hvalue)
    · rw [hunavailable, hvalue]
      simp
  rw [hdefinite]
  constructor
  · rintro ⟨value, hvalue⟩
    obtain ⟨numerator, divisor, ratio, hmeasured, hsum, hsafe, hdivisor, hratio, -⟩ :=
      calculateDerivedMetric_value_iff.mp hvalue
    refine ⟨hmeasured, ⟨numerator, hsum, hsafe⟩, (readDenominator_spec hdivisor).1, ?_⟩
    intro other otherDivisor hother hotherDivisor
    obtain rfl := Option.mem_unique hsum hother
    obtain rfl := Except.ok.inj (hdivisor.symm.trans hotherDivisor)
    exact Option.isSome_iff_exists.mpr ⟨ratio, hratio⟩
  · rintro ⟨hmeasured, ⟨numerator, hsum, hsafe⟩, hdivisible, hrepresentable⟩
    obtain ⟨divisor, hdivisor⟩ := exists_readDenominator hdivisible
    obtain ⟨ratio, hratio⟩ :=
      Option.isSome_iff_exists.mp (hrepresentable numerator divisor hsum hdivisor)
    exact ⟨_, calculateDerivedMetric_value_iff.mpr
      ⟨numerator, divisor, ratio, hmeasured, hsum, hsafe, hdivisor, hratio, rfl⟩⟩

private theorem value_spec (hinputs : inputs.IsNonNegative)
    (h : (calculateDerivedMetric metric inputs).value = some value) :
    0 ≤ value ∧ value < 2 ^ 1024 ∧
      ((derivedMetricDefinitions metric).bounded → value ≤ 1) := by
  obtain ⟨numerator, divisor, ratio, -, hsum, -, hdivisor, hratio, rfl⟩ :=
    calculateDerivedMetric_value_iff.mp h
  obtain ⟨hnumerator, hfinite⟩ := sum_spec hinputs hsum
  obtain ⟨hlow, hhigh⟩ := divide_spec hnumerator hfinite (readDenominator_spec hdivisor).2 hratio
  split
  · next hbounded =>
    exact ⟨le_min zero_le_one hlow, (min_le_right 1 ratio).trans_lt hhigh,
      fun _ => min_le_left 1 ratio⟩
  · next hunbounded => exact ⟨hlow, hhigh, fun hbounded => absurd hbounded hunbounded⟩

end MetricBounds

/-- **Derived metrics are total and bounded.** Of inputs that are not negative, a metric has a value
exactly if it can be calculated, nothing is divided by what is not positive, and the value is
finite, not negative, and for the completion proxy at most one. -/
theorem derived_metric_total (metric : DerivedMetric) (inputs : MetricInputSet)
    (hinputs : inputs.IsNonNegative) :
    ((calculateDerivedMetric metric inputs).isAvailable = true ↔
        IsCalculable (derivedMetricDefinitions metric) inputs) ∧
      (∀ divisor, readDenominator inputs (derivedMetricDefinitions metric).denominator =
        .ok (.finite divisor) → 0 < divisor) ∧
      ∀ value, (calculateDerivedMetric metric inputs).value = some value →
        0 ≤ value ∧ value < 2 ^ 1024 ∧ (metric = .completionProxy → value ≤ 1) := by
  refine ⟨MetricBounds.isAvailable_iff, fun divisor hdivisor => ?_, fun value hvalue => ?_⟩
  · exact (MetricBounds.readDenominator_spec hdivisor).2 divisor rfl
  · obtain ⟨hlow, hhigh, hbounded⟩ := MetricBounds.value_spec hinputs hvalue
    refine ⟨hlow, hhigh, fun hproxy => hbounded ?_⟩
    rw [hproxy]
    rfl

/-- The input has a value of whatever source and unit. -/
def MetricInputSet.IsPresent (inputs : MetricInputSet) (key : MetricInputKey) : Prop :=
  ∃ source unit value, inputs.values key = .available source unit value

/-- What the metric is divided by has a positive value. -/
def MetricInputSet.HasPositiveDenominator (inputs : MetricInputSet) :
    DerivedMetricDenominator → Prop
  | .nothing => True
  | .metric key => ∃ source unit value, inputs.values key = .available source unit value ∧ 0 < value
  | .duration => ∃ seconds, inputs.duration.seconds = some seconds ∧ 0 < seconds

namespace MetricSample

/-- Counts of a post that each fit, while their sum does not. -/
def values : MetricInputKey → MetricInputState
  | .likes => .available .insight .count 9007199254740991
  | .comments => .available .insight .count 1
  | .reach => .available .insight .count 10
  | _ => .available .insight .count 0

def inputs : MetricInputSet := ⟨emptyDuration, "s", values⟩

private theorem inputs_nonNegative : inputs.IsNonNegative := by
  intro key source unit value h
  have hvalue : inputs.valueOf key = value := by
    unfold MetricInputSet.valueOf
    rw [h]
  rw [← hvalue]
  cases key <;> decide

/-- The rate of the comments is calculated. -/
theorem comments_have_a_rate :
    (calculateDerivedMetric .commentRateReach inputs).isAvailable = true ∧
      ((calculateDerivedMetric .commentRateReach inputs).isAvailable = true ↔
        IsCalculable (derivedMetricDefinitions .commentRateReach) inputs) ∧
      ∀ value, (calculateDerivedMetric .commentRateReach inputs).value = some value →
        0 ≤ value ∧ value < 2 ^ 1024 := by
  obtain ⟨hcalculable, -, hvalue⟩ :=
    derived_metric_total .commentRateReach inputs inputs_nonNegative
  refine ⟨by decide +kernel, hcalculable, fun value h => ?_⟩
  obtain ⟨hlow, hhigh, -⟩ := hvalue value h
  exact ⟨hlow, hhigh⟩

/-- **A sum that the runtime does not hold exactly is refused**, though each component is there. -/
theorem large_sum_is_refused : ¬ ∀ (metric : DerivedMetric) (inputs : MetricInputSet),
    inputs.IsNonNegative →
      ((calculateDerivedMetric metric inputs).isAvailable = true ↔
        (∀ key ∈ (derivedMetricDefinitions metric).numerator, inputs.IsPresent key) ∧
          inputs.HasPositiveDenominator (derivedMetricDefinitions metric).denominator) := by
  intro h
  have hpresent : ∀ key ∈ (derivedMetricDefinitions .engagementCount).numerator,
      inputs.IsPresent key := by
    intro key _
    cases key <;> exact ⟨_, _, _, rfl⟩
  have havailable := (h .engagementCount inputs inputs_nonNegative).mpr ⟨hpresent, trivial⟩
  revert havailable
  decide +kernel

end MetricSample

end ContentAutomation
