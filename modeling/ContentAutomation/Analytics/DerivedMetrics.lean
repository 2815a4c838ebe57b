import ContentAutomation.Instagram.Observations
import ContentAutomation.Strategy.Evidence

/-!
# Derived metrics

What the analytics calculate of one snapshot: sums of its counts, and their ratios to a count or
to the duration of the video. A result names what was missing for it, and never substitutes a
zero.
-/

namespace ContentAutomation

/-- `derivedMetrics`. -/
def derivedMetrics : List DerivedMetric :=
  [.engagementCount, .engagementRateReach, .likeRateReach, .commentRateReach, .shareRateReach,
    .saveRateReach, .profileVisitRateReach, .followConversionRate, .followRateReach,
    .averageWatchPercentage, .completionProxy]

/-- `MetricInputKey`. -/
inductive MetricInputKey
  | likes | comments | shares | saves | reach | follows | profileVisits | averageWatchTimeMs

/-- The canonical metric that an input reads. -/
def MetricInputKey.canonical : MetricInputKey → InstagramCanonicalMetric
  | .likes => .likes
  | .comments => .comments
  | .shares => .shares
  | .saves => .saves
  | .reach => .reach
  | .follows => .follows
  | .profileVisits => .profileVisits
  | .averageWatchTimeMs => .averageWatchTimeMs

/-- `MetricValueSource`. -/
inductive MetricValueSource
  | insight | metadata
  deriving DecidableEq

/-- `DerivedMetricUnavailabilityReason`. -/
inductive DerivedMetricUnavailabilityReason
  | componentUnavailable | denominatorUnavailable | denominatorNotPositive | durationUnavailable
  | durationNotPositive | incompatibleSource | incompatibleUnit | valueRejected | notRepresentable
  deriving DecidableEq

/-- `MetricInputState`. -/
inductive MetricInputState
  | available (source : MetricValueSource) (unit : InstagramMetricUnit) (value : ℚ)
  | unavailable (reason : DerivedMetricUnavailabilityReason)

/-- What a calculation reads of a `MetricDurationResolution`. -/
structure MetricDurationResolution where
  seconds : Option ℚ
  rejected : Bool

/-- `emptyDuration`. -/
def emptyDuration : MetricDurationResolution := ⟨none, false⟩

/-- `MetricInputSet`. -/
structure MetricInputSet where
  duration : MetricDurationResolution
  snapshotId : String
  values : MetricInputKey → MetricInputState

/-- `DerivedMetricDenominator`. -/
inductive DerivedMetricDenominator
  | nothing
  | metric (key : MetricInputKey)
  | duration

/-- What a calculation reads of a `DerivedMetricDefinition`. -/
structure DerivedMetricDefinition where
  bounded : Bool
  denominator : DerivedMetricDenominator
  numerator : List MetricInputKey
  numeratorUnit : InstagramMetricUnit

/-- What a calculation finds out, of a `DerivedMetricResult`. -/
structure DerivedMetricResult where
  isAvailable : Bool
  missing : List MetricInputKey
  reason : Option DerivedMetricUnavailabilityReason
  value : Option ℚ

/-- `engagementComponents`. -/
def engagementComponents : List MetricInputKey := [.likes, .comments, .shares, .saves]

/-- `rate`. -/
def DerivedMetricDefinition.rate (numerator : List MetricInputKey) : DerivedMetricDefinition :=
  ⟨false, .metric .reach, numerator, .count⟩

/-- `derivedMetricDefinitions`. -/
def derivedMetricDefinitions : DerivedMetric → DerivedMetricDefinition
  | .engagementCount => ⟨false, .nothing, engagementComponents, .count⟩
  | .engagementRateReach => .rate engagementComponents
  | .likeRateReach => .rate [.likes]
  | .commentRateReach => .rate [.comments]
  | .shareRateReach => .rate [.shares]
  | .saveRateReach => .rate [.saves]
  | .profileVisitRateReach => .rate [.profileVisits]
  | .followConversionRate => ⟨false, .metric .profileVisits, [.follows], .count⟩
  | .followRateReach => .rate [.follows]
  | .averageWatchPercentage => ⟨false, .duration, [.averageWatchTimeMs], .milliseconds⟩
  | .completionProxy => ⟨true, .duration, [.averageWatchTimeMs], .milliseconds⟩

/-- `Number.isSafeInteger`, of any number. -/
def isSafeNumber (value : ℚ) : Bool :=
  decide (value.den = 1) && decide (value.num.natAbs ≤ 9007199254740991)

/-- `readInputValue`. -/
def readInputValue (observation : InstagramMetricObservation) : MetricInputState :=
  if observation.availability ≠ .available then .unavailable .componentUnavailable
  else
    match observation.value with
    | none => .unavailable .componentUnavailable
    | some value =>
      if value < 0 then .unavailable .valueRejected
      else if isSafeNumber value = false ∧ observation.unit ≠ some .ratio then
        if value.den ≠ 1 then .unavailable .valueRejected else .unavailable .notRepresentable
      else .available .insight (observation.unit.getD .count) value

/-- `createMetricInputs`, without a duration. Of several observations of one metric the last
counts. -/
def createMetricInputs (observations : List InstagramMetricObservation) (snapshotId : String) :
    MetricInputSet where
  duration := emptyDuration
  snapshotId := snapshotId
  values key :=
    match (observations.filter fun entry => entry.canonical = key.canonical).getLast? with
    | none => .unavailable .componentUnavailable
    | some observation => readInputValue observation

/-- `unavailable`. -/
def DerivedMetricResult.unavailable (reason : DerivedMetricUnavailabilityReason)
    (missing : List MetricInputKey) : DerivedMetricResult := ⟨false, missing, some reason, none⟩

/-- `available`. -/
def DerivedMetricResult.available (value : ℚ) : DerivedMetricResult := ⟨true, [], none, some value⟩

/-- The loop over the numerator: what is missing and the components, unless the loop returns. -/
def readNumerator (inputs : MetricInputSet) (numeratorUnit : InstagramMetricUnit) :
    List MetricInputKey → Except DerivedMetricResult (List MetricInputKey × List ℚ)
  | [] => .ok ([], [])
  | key :: keys =>
    match inputs.values key with
    | .unavailable _ =>
      (readNumerator inputs numeratorUnit keys).map fun read => (key :: read.1, read.2)
    | .available source unit value =>
      if source ≠ .insight then .error (.unavailable .incompatibleSource [key])
      else if unit ≠ numeratorUnit then .error (.unavailable .incompatibleUnit [key])
      else (readNumerator inputs numeratorUnit keys).map fun read => (read.1, value :: read.2)

/-- Why a numerator is not available: the reason of the first component that was rejected. -/
def missingReason (inputs : MetricInputSet) (missing : List MetricInputKey) :
    DerivedMetricUnavailabilityReason :=
  (missing.findSome? fun key =>
    match inputs.values key with
    | .unavailable reason => if reason = .componentUnavailable then none else some reason
    | .available .. => none).getD .componentUnavailable

/-- The sum of the components, none being infinite. -/
def sumComponents (components : List ℚ) : Option ℚ :=
  components.foldl (fun total value => total.bind fun sum => Binary64.rounded (sum + value)) (some 0)

/-- What a numerator is divided by, if by anything. -/
inductive DerivedMetricDivisor
  | nothing
  | infinite
  | finite (value : ℚ)

/-- What a numerator is divided by. -/
def readDenominator (inputs : MetricInputSet) :
    DerivedMetricDenominator → Except DerivedMetricResult DerivedMetricDivisor
  | .nothing => .ok .nothing
  | .duration =>
    match inputs.duration.seconds with
    | none =>
      .error (.unavailable
        (if inputs.duration.rejected then .durationNotPositive else .durationUnavailable) [])
    | some seconds =>
      if seconds ≤ 0 then .error (.unavailable .durationNotPositive [])
      else
        match Binary64.rounded (seconds * 1000) with
        | none => .ok .infinite
        | some denominator =>
          if denominator ≤ 0 then .error (.unavailable .durationNotPositive [])
          else .ok (.finite denominator)
  | .metric key =>
    match inputs.values key with
    | .unavailable reason =>
      .error (.unavailable
        (if reason = .componentUnavailable then .denominatorUnavailable else reason) [key])
    | .available source unit value =>
      if source ≠ .insight then .error (.unavailable .incompatibleSource [key])
      else if unit ≠ .count then .error (.unavailable .incompatibleUnit [key])
      else if value ≤ 0 then .error (.unavailable .denominatorNotPositive [])
      else .ok (.finite value)

/-- The ratio of a numerator to what it is divided by, none being infinite. -/
def divide (numerator : ℚ) : DerivedMetricDivisor → Option ℚ
  | .nothing => some numerator
  | .infinite => some 0
  | .finite denominator => Binary64.rounded (numerator / denominator)

/-- `calculateDerivedMetric`. -/
def calculateDerivedMetric (metric : DerivedMetric) (inputs : MetricInputSet) :
    DerivedMetricResult :=
  let definition := derivedMetricDefinitions metric
  match readNumerator inputs definition.numeratorUnit definition.numerator with
  | .error result => result
  | .ok (missing, components) =>
    if missing ≠ [] then .unavailable (missingReason inputs missing) missing
    else
      match sumComponents components with
      | none => .unavailable .notRepresentable []
      | some numerator =>
        if definition.numeratorUnit ≠ .ratio ∧ isSafeNumber numerator = false then
          .unavailable .notRepresentable []
        else
          match readDenominator inputs definition.denominator with
          | .error result => result
          | .ok divisor =>
            match divide numerator divisor with
            | none => .unavailable .notRepresentable []
            | some ratio => .available (if definition.bounded then min 1 ratio else ratio)

/-- The result has a value and nothing is missing for it, or it has a reason instead. -/
def DerivedMetricResult.Definite (result : DerivedMetricResult) : Prop :=
  (result.isAvailable = true ∧ result.missing = [] ∧ result.reason = none ∧
      result.value.isSome = true) ∨
    (result.isAvailable = false ∧ result.reason.isSome = true ∧ result.value = none)

private theorem definite_unavailable {reason : DerivedMetricUnavailabilityReason}
    {missing : List MetricInputKey} : (DerivedMetricResult.unavailable reason missing).Definite :=
  Or.inr ⟨rfl, rfl, rfl⟩

private theorem definite_available {value : ℚ} : (DerivedMetricResult.available value).Definite :=
  Or.inl ⟨rfl, rfl, rfl, rfl⟩

/-- What the loop over the numerator returns has no value. -/
theorem unavailable_of_readNumerator {inputs : MetricInputSet} {unit : InstagramMetricUnit}
    {keys : List MetricInputKey} {result : DerivedMetricResult}
    (h : readNumerator inputs unit keys = .error result) :
    ∃ reason missing, result = .unavailable reason missing := by
  have hmap {α β : Type} {f : α → β} {read : Except DerivedMetricResult α}
      (h : read.map f = .error result) : read = .error result := by
    cases read with
    | error other =>
      cases h
      rfl
    | ok value => cases h
  induction keys with
  | nil => cases h
  | cons key keys ih =>
    unfold readNumerator at h
    split at h
    · exact ih (hmap h)
    · split_ifs at h
      · cases h
        exact ⟨_, _, rfl⟩
      · cases h
        exact ⟨_, _, rfl⟩
      · exact ih (hmap h)

theorem unavailable_of_readDenominator {inputs : MetricInputSet}
    {denominator : DerivedMetricDenominator} {result : DerivedMetricResult}
    (h : readDenominator inputs denominator = .error result) :
    ∃ reason missing, result = .unavailable reason missing := by
  unfold readDenominator at h
  split at h
  · cases h
  · split at h
    · cases h
      exact ⟨_, _, rfl⟩
    · split at h
      · cases h
        exact ⟨_, _, rfl⟩
      · split at h
        · cases h
        · split_ifs at h
          cases h
          exact ⟨_, _, rfl⟩
  · split at h
    · cases h
      exact ⟨_, _, rfl⟩
    · split_ifs at h <;> cases h <;> exact ⟨_, _, rfl⟩

/-- **A derived metric has a value or a reason.** -/
theorem definite_calculateDerivedMetric (metric : DerivedMetric) (inputs : MetricInputSet) :
    (calculateDerivedMetric metric inputs).Definite := by
  unfold calculateDerivedMetric
  dsimp only
  split
  · next result hresult =>
    obtain ⟨reason, missing, rfl⟩ := unavailable_of_readNumerator hresult
    exact definite_unavailable
  · split
    · exact definite_unavailable
    · split
      · exact definite_unavailable
      · split
        · exact definite_unavailable
        · split
          · next result hresult =>
            obtain ⟨reason, missing, rfl⟩ := unavailable_of_readDenominator hresult
            exact definite_unavailable
          · split
            · exact definite_unavailable
            · exact definite_available

end ContentAutomation
