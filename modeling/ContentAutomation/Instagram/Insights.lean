import ContentAutomation.Instagram.Provider
import ContentAutomation.Instagram.Snapshots

/-!
# Insights

Which metrics are requested of the provider, how an answer becomes observations,
and the set of observations that a snapshot job assembles: one for every metric
there is.
-/

namespace ContentAutomation

open Utf16

/-! ### The capability map -/

/-- `InstagramMetricDefinition`. -/
structure InstagramMetricDefinition where
  canonical : InstagramCanonicalMetric
  provider : Utf16
  providerUnit : InstagramMetricUnit
  unit : InstagramMetricUnit
  deriving DecidableEq

/-- `InstagramInsightGroup`. -/
structure InstagramInsightGroup where
  key : String
  metrics : List InstagramMetricDefinition
  deriving DecidableEq

/-- `metric`. -/
def metric (canonical : InstagramCanonicalMetric) (provider : String)
    (unit : InstagramMetricUnit) : InstagramMetricDefinition where
  canonical := canonical
  provider := ofString provider
  providerUnit := unit
  unit := unit

/-- `reelGroupsV25`. -/
def reelGroupsV25 : List InstagramInsightGroup :=
  [⟨"distribution", [metric .views "views" .count, metric .reach "reach" .count]⟩,
    ⟨"engagement",
      [metric .likes "likes" .count, metric .comments "comments" .count,
        metric .shares "shares" .count, metric .saves "saved" .count,
        metric .totalInteractions "total_interactions" .count]⟩,
    ⟨"watch_time",
      [metric .totalWatchTimeMs "ig_reels_video_view_total_time" .milliseconds,
        metric .averageWatchTimeMs "ig_reels_avg_watch_time" .milliseconds]⟩,
    ⟨"retention", [metric .skipRate "reels_skip_rate" .ratio]⟩]

/-- `instagramInsightGroups` of `instagramApiVersion`. -/
def instagramInsightGroups (mediaKind : InstagramMediaKind) : List InstagramInsightGroup :=
  match mediaKind with
  | .reel => reelGroupsV25
  | _ => []

/-- `instagramRequestedMetrics` of `instagramApiVersion`. -/
def instagramRequestedMetrics (mediaKind : InstagramMediaKind) : List InstagramCanonicalMetric :=
  (instagramInsightGroups mediaKind).flatMap fun group =>
    group.metrics.map InstagramMetricDefinition.canonical

/-- `instagramCanonicalMetrics`. -/
def instagramCanonicalMetrics : List InstagramCanonicalMetric :=
  [.views, .plays, .reach, .likes, .comments, .shares, .saves, .totalInteractions,
    .totalWatchTimeMs, .averageWatchTimeMs, .skipRate, .follows, .profileVisits, .profileActivity]

/-- `instagramUnrequestedObservations`. -/
def instagramUnrequestedObservations (requested : List InstagramCanonicalMetric) :
    List InstagramMetricObservation :=
  (instagramCanonicalMetrics.filter fun canonical => ¬ canonical ∈ requested).map
    (observation .notRequested)

/-! ### Normalising an item -/

/-- `InstagramInsightRejectionReason`. -/
inductive InstagramInsightRejectionReason
  | itemNotObject | metricUnknown | valueNotFinite | valueNegative | valueOutOfRange

/-- `maximumRatio`. -/
def maximumRatio : ℚ := 1

/-- `maximumCount`. -/
def maximumCount : ℚ := 9007199254740991

/-- `maximumMilliseconds`. -/
def maximumMilliseconds : ℚ := 315360000000

/-- The greatest value of a unit that is accepted. -/
def InstagramMetricUnit.ceiling : InstagramMetricUnit → ℚ
  | .ratio => maximumRatio
  | .milliseconds => maximumMilliseconds
  | .count => maximumCount

/-- `readNumber`: `total_value.value`, or else the first number among the `values`. -/
def readNumber (fields : List (Utf16 × Json)) : Option JsNumber :=
  let totalValue := ((Json.field? fields "total_value").bind Json.fields?).bind fun total =>
    (Json.field? total "value").bind Json.number?
  match totalValue with
  | some value => some value
  | none =>
    (((Json.field? fields "values").bind Json.array?).getD []).findSome? fun entry =>
      entry.fields?.bind fun inner => (Json.field? inner "value").bind Json.number?

/-- `readString` of insights: trimmed, not empty and bounded. -/
def readInsightString (fields : List (Utf16 × Json)) (key : String) : Option Utf16 :=
  match Json.field? fields key with
  | some (.string value) => if 0 < (trim value).length then some ((trim value).take 512) else none
  | _ => none

/-- The texts and units that an observation of a definition carries. -/
def InstagramMetricDefinition.shared (definition : InstagramMetricDefinition)
    (availability : InstagramMetricAvailability) (value : Option ℚ)
    (fields : List (Utf16 × Json)) : InstagramMetricObservation where
  availability := availability
  canonical := definition.canonical
  value := value
  description := readInsightString fields "description"
  period := readInsightString fields "period"
  providerName := some definition.provider
  providerUnit := some definition.providerUnit
  title := readInsightString fields "title"
  unit := some definition.unit

/-- `normaliseInstagramInsightItem`. -/
def normaliseInstagramInsightItem (item : Json) (definitions : List InstagramMetricDefinition) :
    Except InstagramInsightRejectionReason InstagramMetricObservation :=
  match item.fields? with
  | none => .error .itemNotObject
  | some fields =>
    match definitions.find? fun entry => some entry.provider = readInsightString fields "name" with
    | none => .error .metricUnknown
    | some definition =>
      match readNumber fields with
      | none => .ok (definition.shared .unavailable none fields)
      | some (.finite raw) =>
        if raw < 0 then .error .valueNegative
        else if definition.unit.ceiling < raw then .error .valueOutOfRange
        else .ok (definition.shared .available (some raw) fields)
      | some _ => .error .valueNotFinite

/-- An accepted item is of a metric of the group; it has no number, or one in range. -/
theorem normaliseInstagramInsightItem_eq_ok {item : Json}
    {definitions : List InstagramMetricDefinition} {entry : InstagramMetricObservation}
    (h : normaliseInstagramInsightItem item definitions = .ok entry) :
    ∃ fields definition, item.fields? = some fields ∧
      (definitions.find? fun entry => some entry.provider = readInsightString fields "name") =
        some definition ∧
      ((readNumber fields = none ∧ entry = definition.shared .unavailable none fields) ∨
        ∃ raw, readNumber fields = some (.finite raw) ∧ 0 ≤ raw ∧ raw ≤ definition.unit.ceiling ∧
          entry = definition.shared .available (some raw) fields) := by
  unfold normaliseInstagramInsightItem at h
  split at h
  · cases h
  next fields hfields =>
  split at h
  · cases h
  next definition hfind =>
  refine ⟨fields, definition, hfields, hfind, ?_⟩
  split at h
  next hnumber =>
    cases h
    exact Or.inl ⟨hnumber, rfl⟩
  next raw hnumber =>
    split_ifs at h with hnegative hbeyond
    cases h
    exact Or.inr ⟨raw, hnumber, not_lt.mp hnegative, not_lt.mp hbeyond, rfl⟩
  · cases h

/-! ### A group of metrics -/

/-- The observation of a requested metric about which nothing is known. -/
def InstagramMetricDefinition.absent (definition : InstagramMetricDefinition)
    (availability : InstagramMetricAvailability) : InstagramMetricObservation :=
  { observation availability definition.canonical with
    providerName := some definition.provider
    providerUnit := some definition.providerUnit
    unit := some definition.unit }

/-- The observations of the items that are accepted. -/
def acceptedObservations (body : Json) (group : InstagramInsightGroup) :
    List InstagramMetricObservation :=
  ((body.fields?.bind fun fields => (Json.field? fields "data").bind Json.array?).getD []).filterMap
    fun item => (normaliseInstagramInsightItem item group.metrics).toOption

/-- The observations of `readInstagramInsightGroup`. Of several items for one metric the last
counts. -/
def readInstagramInsightGroup (body : Json) (group : InstagramInsightGroup) :
    List InstagramMetricObservation :=
  group.metrics.map fun definition =>
    ((acceptedObservations body group).reverse.find? fun entry =>
      entry.canonical = definition.canonical).getD (definition.absent .unavailable)

/-- `InstagramResponseClass`. -/
inductive InstagramResponseClass
  | authorisation | invalidRequest | rateLimit | transient | unsupported
  deriving DecidableEq

/-- `instagramGroupFailureAvailability`. -/
def instagramGroupFailureAvailability : InstagramResponseClass → InstagramMetricAvailability
  | .authorisation => .permissionMissing
  | .unsupported => .notApplicable
  | _ => .providerError

/-- `instagramFailedGroupObservations`. -/
def instagramFailedGroupObservations (group : InstagramInsightGroup)
    (availability : InstagramMetricAvailability) : List InstagramMetricObservation :=
  group.metrics.map fun definition => definition.absent availability

/-! ### What a snapshot job assembles -/

/-- What the provider made of the request for one group. -/
inductive InsightGroupAnswer
  | body (body : Json)
  | failure (responseClass : InstagramResponseClass)

/-- The observations that `captureSnapshot` takes from an answer, unless the job fails. -/
def groupObservations (group : InstagramInsightGroup) :
    InsightGroupAnswer → Option (List InstagramMetricObservation)
  | .body body => some (readInstagramInsightGroup body group)
  | .failure responseClass =>
    if responseClass = .rateLimit ∨ responseClass = .transient then none
    else some (instagramFailedGroupObservations group
      (instagramGroupFailureAvailability responseClass))

/-- The observations of all requested groups. -/
def requestedObservations (answer : InstagramInsightGroup → InsightGroupAnswer) :
    List InstagramInsightGroup → Option (List InstagramMetricObservation)
  | [] => some []
  | group :: groups => do
    let observations ← groupObservations group (answer group)
    let others ← requestedObservations answer groups
    return observations ++ others

/-- The observations that `captureSnapshot` hands to `recordInstagramMetricSnapshot`. -/
def assembleObservations (mediaKind : InstagramMediaKind)
    (answer : InstagramInsightGroup → InsightGroupAnswer) :
    Option (List InstagramMetricObservation) :=
  if instagramInsightGroups mediaKind = [] then none
  else (requestedObservations answer (instagramInsightGroups mediaKind)).map fun requested =>
    requested ++ instagramUnrequestedObservations (instagramRequestedMetrics mediaKind)

end ContentAutomation
