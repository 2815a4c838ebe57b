import ContentAutomation.Instagram.Insights
import ContentAutomation.Library.Binary64

/-!
# Reading observations back

A snapshot splits its observations into value columns and a map of everything
else about them. Reading joins the two again. What comes back is what was
assembled, but for the title, exactly when no value is rounded on its way into
its column.
-/

namespace ContentAutomation

open Utf16 List InstagramMetricObservation

/-- The keys of `metricColumns`, in their order, which is also the order of `localeCompare`. -/
def metricColumns : List InstagramCanonicalMetric :=
  [.averageWatchTimeMs, .comments, .follows, .likes, .plays, .profileActivity, .profileVisits,
    .reach, .saves, .shares, .skipRate, .totalInteractions, .totalWatchTimeMs, .views]

/-- What a map written entry by entry has for a key: the last entry counts. -/
def lastEntry {α : Type} (entries : List (InstagramCanonicalMetric × α))
    (canonical : InstagramCanonicalMetric) : Option α :=
  ((entries.filter fun entry => entry.1 = canonical).getLast?).map Prod.snd

/-- `readColumnValue`. The watch time and the ratio come back through `Number`. -/
def readColumnValue (canonical : InstagramCanonicalMetric) (row : InstagramMetricSnapshot) :
    Option ℚ :=
  (lastEntry row.values canonical).map fun raw =>
    if canonical = .totalWatchTimeMs ∨ canonical = .skipRate then Binary64.nearest raw else raw

/-- The observation of one metric, if the map has it. -/
def readObservation (row : InstagramMetricSnapshot) (canonical : InstagramCanonicalMetric) :
    Option InstagramMetricObservation :=
  (lastEntry row.availability canonical).map fun entry =>
    { availability := entry.availability
      canonical := canonical
      value := if entry.availability = .available then readColumnValue canonical row else none
      description := entry.description
      period := entry.period
      providerName := entry.providerName
      providerUnit := entry.providerUnit
      title := none
      unit := entry.unit }

/-- `readInstagramSnapshotObservations`. -/
def readInstagramSnapshotObservations (row : InstagramMetricSnapshot) :
    List InstagramMetricObservation :=
  metricColumns.filterMap (readObservation row)

/-- What the fingerprint of an observation set covers, in the order of the metrics. -/
def canonicalisedObservations (observations : List InstagramMetricObservation) :
    List (InstagramCanonicalMetric × InstagramMetricAvailability × Option ℚ) :=
  (observations.insertionSort fun left right =>
    metricColumns.idxOf left.canonical ≤ metricColumns.idxOf right.canonical).map
      fun entry => (entry.canonical, entry.availability, entry.value)

/-- `hashInstagramInsightObservations`, for a digest of what it covers. -/
def hashInstagramInsightObservations
    (digest : List (InstagramCanonicalMetric × InstagramMetricAvailability × Option ℚ) → String)
    (observations : List InstagramMetricObservation) : String :=
  digest (canonicalisedObservations observations)

/-- An observation without its display title. -/
def InstagramMetricObservation.withoutTitle (entry : InstagramMetricObservation) :
    InstagramMetricObservation := { entry with title := none }

/-- No rounding happens between the value of an observation and its column: the ratio is the
number that a decimal of five places denotes, and every other value is whole. -/
def InstagramMetricObservation.ExactInColumn (entry : InstagramMetricObservation) : Prop :=
  ∀ value, entry.value = some value →
    if entry.canonical = .skipRate then
      ∃ k : ℤ, 0 ≤ k ∧ k ≤ 100000 ∧ value = Binary64.nearest (k / 100000)
    else ∃ n : ℤ, value = n

/-- A set that a snapshot job assembles from answers of the provider. -/
def Assembled (observations : List InstagramMetricObservation) : Prop :=
  ∃ mediaKind answer, assembleObservations mediaKind answer = some observations

/-- The row that is written for a set of observations. -/
def RecordedAs (hash : List InstagramMetricObservation → String)
    (observations : List InstagramMetricObservation) (row : InstagramMetricSnapshot) : Prop :=
  ∃ workspaceId snapshotId input, input.observations = observations ∧
    requestedSnapshot hash workspaceId snapshotId input = .ok row

/-! ### Sets that can be assembled -/

/-- An observation has a value exactly when it is available; the value is one that the
normaliser accepts. -/
def InstagramMetricObservation.Accepted (entry : InstagramMetricObservation) : Prop :=
  (entry.availability ≠ .available ∧ entry.value = none) ∨
    (entry.availability = .available ∧ ∃ value, entry.value = some value ∧ 0 ≤ value ∧
      value ≤ maximumCount ∧ (entry.canonical = .skipRate → value ≤ 1))

variable {group : InstagramInsightGroup} {entry : InstagramMetricObservation}
  {hash : List InstagramMetricObservation → String} {value : ℚ}

/-- The definitions of the capability map bound a ratio by one and nothing beyond the greatest
exact count. -/
theorem ceiling_le (hgroup : group ∈ reelGroupsV25)
    {definition : InstagramMetricDefinition} (h : definition ∈ group.metrics) :
    definition.unit.ceiling ≤ maximumCount ∧
      (definition.canonical = .skipRate → definition.unit.ceiling ≤ 1) := by
  have hall : ∀ group ∈ reelGroupsV25, ∀ definition ∈ group.metrics,
      definition.unit.ceiling ≤ maximumCount ∧
        (definition.canonical = .skipRate → definition.unit.ceiling ≤ 1) := by
    decide
  exact hall group hgroup definition h

private theorem accepted_of_normalise (hgroup : group ∈ reelGroupsV25)
    {item : Json} (h : normaliseInstagramInsightItem item group.metrics = .ok entry) :
    entry.Accepted := by
  obtain ⟨fields, definition, -, hfind, ⟨-, rfl⟩ | ⟨raw, -, hlow, hhigh, rfl⟩⟩ :=
    normaliseInstagramInsightItem_eq_ok h
  · exact Or.inl ⟨by simp [InstagramMetricDefinition.shared], rfl⟩
  · have hceiling := ceiling_le hgroup (mem_of_find?_eq_some hfind)
    exact Or.inr ⟨rfl, raw, rfl, hlow, hhigh.trans hceiling.1, fun hratio =>
      hhigh.trans (hceiling.2 hratio)⟩

/-- The observations of an answer are accepted, and are those of the metrics of the group. -/
theorem groupObservations_spec (hgroup : group ∈ reelGroupsV25)
    {answer : InsightGroupAnswer} {observations : List InstagramMetricObservation}
    (h : groupObservations group answer = some observations) :
    (∀ entry ∈ observations, entry.Accepted) ∧
      observations.map canonical =
        group.metrics.map InstagramMetricDefinition.canonical := by
  have habsent (definition : InstagramMetricDefinition)
      {availability : InstagramMetricAvailability} (hother : availability ≠ .available) :
      (definition.absent availability).Accepted := Or.inl ⟨hother, rfl⟩
  cases answer with
  | body body =>
    cases h
    constructor
    · intro entry hentry
      obtain ⟨definition, -, rfl⟩ := mem_map.mp hentry
      cases hfind : (acceptedObservations body group).reverse.find? fun entry =>
          entry.canonical = definition.canonical with
      | none => exact habsent definition (by decide)
      | some found =>
        have hmem := mem_reverse.mp (mem_of_find?_eq_some hfind)
        obtain ⟨item, -, hitem⟩ := mem_filterMap.mp hmem
        cases hresult : normaliseInstagramInsightItem item group.metrics with
        | error reason => simp [hresult, Except.toOption] at hitem
        | ok accepted =>
          rw [hresult] at hitem
          cases hitem
          exact accepted_of_normalise hgroup hresult
    · rw [readInstagramInsightGroup, map_map]
      refine map_congr_left fun definition _ => ?_
      cases hfind : (acceptedObservations body group).reverse.find? fun entry =>
          entry.canonical = definition.canonical with
      | none => simp [hfind, InstagramMetricDefinition.absent, observation]
      | some found =>
        have hsame := List.find?_some hfind
        simpa [hfind] using hsame
  | failure responseClass =>
    unfold groupObservations at h
    dsimp only at h
    split_ifs at h
    cases h
    have hother : instagramGroupFailureAvailability responseClass ≠ .available := by
      cases responseClass <;> decide
    constructor
    · intro entry hentry
      obtain ⟨definition, -, rfl⟩ := mem_map.mp hentry
      exact habsent definition hother
    · rw [instagramFailedGroupObservations, map_map]
      rfl

private theorem requestedObservations_spec {answer : InstagramInsightGroup → InsightGroupAnswer}
    {groups : List InstagramInsightGroup} (hgroups : ∀ group ∈ groups, group ∈ reelGroupsV25)
    {observations : List InstagramMetricObservation}
    (h : requestedObservations answer groups = some observations) :
    (∀ entry ∈ observations, entry.Accepted) ∧
      observations.map canonical =
        groups.flatMap fun group => group.metrics.map InstagramMetricDefinition.canonical := by
  induction groups generalizing observations with
  | nil =>
    cases h
    simp
  | cons group groups ih =>
    rw [forall_mem_cons] at hgroups
    obtain ⟨first, hfirst, h⟩ := Option.bind_eq_some_iff.mp h
    obtain ⟨others, hothers, h⟩ := Option.bind_eq_some_iff.mp h
    cases h
    have hgroup := groupObservations_spec hgroups.1 hfirst
    have hrest := ih hgroups.2 hothers
    constructor
    · intro entry hentry
      rcases mem_append.mp hentry with hmem | hmem
      · exact hgroup.1 entry hmem
      · exact hrest.1 entry hmem
    · rw [map_append, hgroup.2, hrest.2, flatMap_cons]

theorem Assembled.spec {observations : List InstagramMetricObservation}
    (h : Assembled observations) :
    (∀ entry ∈ observations, entry.Accepted) ∧
      (observations.map canonical).Perm metricColumns := by
  obtain ⟨mediaKind, answer, h⟩ := h
  unfold assembleObservations at h
  split_ifs at h with hnone
  obtain ⟨requested, hrequested, rfl⟩ := Option.map_eq_some_iff.mp h
  have hreel : mediaKind = .reel := by
    cases mediaKind with
    | reel => rfl
    | _ => exact absurd rfl hnone
  subst hreel
  obtain ⟨haccepted, hcanonical⟩ := requestedObservations_spec (fun _ hgroup => hgroup) hrequested
  constructor
  · intro entry hentry
    rcases mem_append.mp hentry with hmem | hmem
    · exact haccepted entry hmem
    · obtain ⟨canonical, -, rfl⟩ := mem_map.mp hmem
      exact Or.inl ⟨by simp [observation], rfl⟩
  · have hunrequested : (instagramUnrequestedObservations (instagramRequestedMetrics .reel)).map
        canonical =
          [.plays, .follows, .profileVisits, .profileActivity] := by
      decide
    rw [map_append, hcanonical, hunrequested]
    decide

/-! ### Writing and reading one observation -/

/-- What the column of an accepted value holds. -/
def columnOf (canonical : InstagramCanonicalMetric) (value : ℚ) : ℚ :=
  if canonical = .skipRate then roundHalfUp (value * 100000) / 100000 else roundHalfUp value

/-- The column that an observation is written to. -/
def storedColumn (entry : InstagramMetricObservation) : Option (InstagramCanonicalMetric × ℚ) :=
  entry.value.map fun value => (entry.canonical, columnOf entry.canonical value)

theorem toColumns_of_accepted {observations : List InstagramMetricObservation}
    (h : ∀ entry ∈ observations, entry.Accepted) :
    toColumns observations = .ok (observations.filterMap storedColumn) := by
  induction observations with
  | nil => rfl
  | cons entry entries ih =>
    rw [forall_mem_cons] at h
    rcases h.1 with ⟨hother, hnone⟩ | ⟨havailable, value, hsome, hlow, -, hratio⟩
    · simp [toColumns, storedColumn, hnone, ih h.2]
    · have hcolumn : toColumn entry.canonical value = .ok (columnOf entry.canonical value) := by
        unfold toColumn columnOf
        rw [if_neg (by linarith)]
        split_ifs with hskip hbeyond
        · exact absurd (hratio hskip) (by linarith)
        · rfl
        · rfl
      simp [toColumns, storedColumn, havailable, hsome, hcolumn, ih h.2, bind, Except.bind, pure,
        Except.pure]

/-- An entry that a list of distinct keys writes is the last one for its key. -/
theorem lastEntry_filterMap {α : Type}
    (write : InstagramMetricObservation → Option (InstagramCanonicalMetric × α))
    (hkey : ∀ entry written, write entry = some written → written.1 = entry.canonical)
    {observations : List InstagramMetricObservation}
    (hnodup : (observations.map canonical).Nodup)
    (hentry : entry ∈ observations) :
    lastEntry (observations.filterMap write) entry.canonical = (write entry).map Prod.snd := by
  have hfilter : (observations.filterMap write).filter (fun written =>
      written.1 = entry.canonical) = (write entry).toList := by
    induction observations with
    | nil => simp at hentry
    | cons first others ih =>
      rw [map_cons, nodup_cons] at hnodup
      have hwrite : (write first).toList.filter (fun written => written.1 = entry.canonical) =
          if first.canonical = entry.canonical then (write first).toList else [] := by
        cases hfirst : write first with
        | none => simp
        | some written =>
          rw [Option.toList_some, filter_singleton, hkey first written hfirst]
          split_ifs with hsame <;> simp [hsame]
      have hcons : (first :: others).filterMap write =
          (write first).toList ++ others.filterMap write := by
        cases hfirst : write first <;> simp [hfirst]
      rw [hcons, filter_append, hwrite]
      rcases mem_cons.mp hentry with rfl | hrest
      · rw [if_pos rfl, filter_eq_nil_iff.mpr, append_nil]
        intro written hwritten
        obtain ⟨other, hother, hsome⟩ := mem_filterMap.mp hwritten
        have hdifferent : other.canonical ≠ entry.canonical := fun hsame =>
          hnodup.1 (hsame ▸ mem_map_of_mem hother)
        simpa [hkey other written hsome] using hdifferent
      · have hdifferent : first.canonical ≠ entry.canonical := fun hsame =>
          hnodup.1 (hsame ▸ mem_map_of_mem hrest)
        rw [if_neg hdifferent, nil_append, ih hnodup.2 hrest]
  unfold lastEntry
  rw [hfilter]
  cases write entry <;> rfl

/-- What comes back of a value that was put into its column. -/
def columnReading (canonical : InstagramCanonicalMetric) (value : ℚ) : ℚ :=
  if canonical = .totalWatchTimeMs ∨ canonical = .skipRate then
    Binary64.nearest (columnOf canonical value)
  else columnOf canonical value

/-- What comes back of an observation. -/
def InstagramMetricObservation.readBack (entry : InstagramMetricObservation) :
    InstagramMetricObservation :=
  { entry.withoutTitle with value := entry.value.map (columnReading entry.canonical) }

/-- Reading a row gives back what became of each observation. -/
theorem readObservation_of_recordedAs {observations : List InstagramMetricObservation}
    {row : InstagramMetricSnapshot} (hassembled : Assembled observations)
    (hrow : RecordedAs hash observations row) (hentry : entry ∈ observations) :
    readObservation row entry.canonical = some entry.readBack := by
  obtain ⟨haccepted, hperm⟩ := hassembled.spec
  obtain ⟨workspaceId, snapshotId, input, rfl, hrequested⟩ := hrow
  have hnodup : (input.observations.map canonical).Nodup :=
    hperm.nodup_iff.mpr (by decide)
  unfold requestedSnapshot at hrequested
  split_ifs at hrequested
  rw [toColumns_of_accepted haccepted] at hrequested
  cases hrequested
  have hvalue : readColumnValue entry.canonical
      (metricSnapshotRow hash workspaceId snapshotId input
        (input.observations.filterMap storedColumn)) =
      entry.value.map (columnReading entry.canonical) := by
    have hlast := lastEntry_filterMap storedColumn (fun other written h => by
      obtain ⟨value, -, rfl⟩ := Option.map_eq_some_iff.mp h
      rfl) hnodup hentry
    show (lastEntry (input.observations.filterMap storedColumn) entry.canonical).map _ = _
    rw [hlast, storedColumn, Option.map_map, Option.map_map]
    rfl
  have hlast := lastEntry_filterMap
    (fun other => some (other.canonical, other.availabilityEntry))
    (fun other written h => by cases h; rfl) hnodup hentry
  have hentries : lastEntry (metricSnapshotRow hash workspaceId snapshotId input
      (input.observations.filterMap storedColumn)).availability entry.canonical =
      some entry.availabilityEntry := by
    rw [filterMap_eq_map'] at hlast
    exact hlast
  unfold readObservation
  rw [hentries, Option.map_some, hvalue]
  have hnone : (if entry.availabilityEntry.availability = .available then
      entry.value.map (columnReading entry.canonical) else none) =
      entry.value.map (columnReading entry.canonical) := by
    rcases haccepted entry hentry with ⟨hother, hvalue⟩ | ⟨havailable, -⟩
    · simp [hvalue]
    · exact if_pos havailable
  rw [hnone]
  rfl

/-- Reading a row gives back what became of the observations, in the order of the metrics. -/
theorem readInstagramSnapshotObservations_perm {observations : List InstagramMetricObservation}
    {row : InstagramMetricSnapshot} (hassembled : Assembled observations)
    (hrow : RecordedAs hash observations row) :
    (readInstagramSnapshotObservations row).Perm
      (observations.map readBack) := by
  have hread : observations.map readBack =
      (observations.map canonical).filterMap (readObservation row) := by
    rw [filterMap_map, ← filterMap_eq_map]
    refine filterMap_congr fun entry hentry => ?_
    exact (readObservation_of_recordedAs hassembled hrow hentry).symm
  rw [hread]
  exact (hassembled.spec.2.filterMap _).symm

/-! ### Exact values -/

private theorem roundHalfUp_eq_of_abs_sub_lt {n : ℤ} (h : |value - n| < 1 / 2) :
    roundHalfUp value = n := by
  rw [abs_lt] at h
  unfold roundHalfUp
  rw [Int.floor_eq_iff]
  constructor <;> linarith

theorem roundHalfUp_mem {low high : ℤ} (hlow : low ≤ value) (hhigh : value ≤ high) :
    low ≤ roundHalfUp value ∧ roundHalfUp value ≤ high := by
  unfold roundHalfUp
  constructor
  · rw [Int.le_floor]
    linarith
  · have hlt : ⌊value + 1 / 2⌋ < high + 1 := by
      rw [Int.floor_lt]
      push_cast
      linarith
    omega

/-- A ratio comes back exactly when a decimal of five places denotes it. -/
theorem skipRate_reading_iff (hlow : 0 ≤ value) (hhigh : value ≤ 1) :
    columnReading .skipRate value = value ↔
      ∃ k : ℤ, 0 ≤ k ∧ k ≤ 100000 ∧ value = Binary64.nearest (k / 100000) := by
  have hreading : columnReading .skipRate value =
      Binary64.nearest (roundHalfUp (value * 100000) / 100000) := rfl
  rw [hreading]
  constructor
  · intro h
    have hbounds : 0 ≤ roundHalfUp (value * 100000) ∧ roundHalfUp (value * 100000) ≤ 100000 :=
      roundHalfUp_mem (by push_cast; linarith) (by push_cast; linarith)
    exact ⟨_, hbounds.1, hbounds.2, h.symm⟩
  · rintro ⟨k, hk, hbound, rfl⟩
    have hsmall : |(k : ℚ) / 100000| ≤ 1 := by
      have hpos : (0 : ℚ) ≤ k := by exact_mod_cast hk
      have htop : (k : ℚ) ≤ 100000 := by exact_mod_cast hbound
      rw [abs_le]
      constructor <;> linarith
    have hnear := Binary64.abs_nearest_sub_lt hsmall
    have hround : roundHalfUp (Binary64.nearest (k / 100000) * 100000) = k := by
      apply roundHalfUp_eq_of_abs_sub_lt
      rw [abs_lt] at hnear ⊢
      constructor <;> linarith
    rw [hround]

private theorem count_reading_iff {canonical : InstagramCanonicalMetric}
    (hother : canonical ≠ .skipRate) (hlow : 0 ≤ value) (hhigh : value ≤ maximumCount) :
    columnReading canonical value = value ↔ ∃ n : ℤ, value = n := by
  have hbounds : 0 ≤ roundHalfUp value ∧ roundHalfUp value ≤ 9007199254740991 :=
    roundHalfUp_mem (by push_cast; linarith) (by push_cast; exact hhigh)
  have hreading : columnReading canonical value = roundHalfUp value := by
    have hcolumn : columnOf canonical value = roundHalfUp value := if_neg hother
    have hnear : Binary64.nearest (roundHalfUp value) = roundHalfUp value := by
      apply Binary64.nearest_intCast
      rw [abs_lt]
      omega
    unfold columnReading
    rw [hcolumn, hnear, ite_self]
  rw [hreading]
  constructor
  · intro h
    exact ⟨_, h.symm⟩
  · rintro ⟨n, rfl⟩
    rw [roundHalfUp_eq_of_abs_sub_lt (n := n) (by norm_num)]

private theorem readBack_eq_iff (h : entry.Accepted) :
    entry.readBack = entry.withoutTitle ↔ entry.ExactInColumn := by
  have hvalue : entry.readBack = entry.withoutTitle ↔
      entry.value.map (columnReading entry.canonical) = entry.value := by
    constructor
    · intro heq
      exact congrArg value heq
    · intro heq
      unfold readBack
      rw [heq]
      rfl
  rw [hvalue]
  unfold ExactInColumn
  rcases h with ⟨-, hnone⟩ | ⟨-, value, hsome, hlow, hhigh, hratio⟩
  · simp [hnone]
  · rw [hsome, Option.map_some, Option.some.injEq]
    by_cases hskip : entry.canonical = .skipRate
    · rw [hskip, skipRate_reading_iff hlow (hratio hskip)]
      simp
    · rw [count_reading_iff hskip hlow hhigh]
      simp [hskip]

private theorem Assembled.recordedAs {input : InstagramSnapshotInput}
    (h : Assembled input.observations)
    (hash : List InstagramMetricObservation → String) (workspaceId snapshotId : String) :
    RecordedAs hash input.observations (metricSnapshotRow hash workspaceId snapshotId input
      (input.observations.filterMap storedColumn)) := by
  have hsome : input.observations ≠ [] := by
    intro hnil
    have hlength := h.spec.2.length_eq
    rw [hnil] at hlength
    exact absurd hlength (by decide)
  refine ⟨workspaceId, snapshotId, input, rfl, ?_⟩
  rw [requestedSnapshot, if_neg hsome, toColumns_of_accepted h.spec.1]
  rfl

/-! ### What comes back of a set -/

private theorem Assembled.eq_of_canonical_eq {observations : List InstagramMetricObservation}
    (h : Assembled observations) {other : InstagramMetricObservation}
    (hentry : entry ∈ observations) (hother : other ∈ observations)
    (hsame : entry.canonical = other.canonical) : entry = other := by
  have hnodup : (observations.map canonical).Nodup :=
    h.spec.2.nodup_iff.mpr (by decide)
  exact inj_on_of_nodup_map hnodup hentry hother hsame

/-- A row reads back as the set it was written from exactly when every value of the set is
exact in its column. -/
theorem perm_withoutTitle_iff {observations : List InstagramMetricObservation}
    {row : InstagramMetricSnapshot} (hassembled : Assembled observations)
    (hrow : RecordedAs hash observations row) :
    (readInstagramSnapshotObservations row).Perm
        (observations.map withoutTitle) ↔
      ∀ entry ∈ observations, entry.ExactInColumn := by
  have hperm := readInstagramSnapshotObservations_perm hassembled hrow
  constructor
  · intro h entry hentry
    have hmem : entry.readBack ∈ observations.map withoutTitle :=
      h.subset (hperm.mem_iff.mpr (mem_map_of_mem hentry))
    obtain ⟨other, hother, hsame⟩ := mem_map.mp hmem
    have hcanonical := congrArg canonical hsame
    rw [hassembled.eq_of_canonical_eq hother hentry hcanonical] at hsame
    exact (readBack_eq_iff (hassembled.spec.1 entry hentry)).mp hsame.symm
  · intro h
    have hback : observations.map readBack =
        observations.map withoutTitle :=
      map_congr_left fun entry hentry =>
        (readBack_eq_iff (hassembled.spec.1 entry hentry)).mpr (h entry hentry)
    rwa [hback] at hperm

private theorem canonicalisedObservations_perm (observations : List InstagramMetricObservation) :
    (canonicalisedObservations observations).Perm
      (observations.map fun entry => (entry.canonical, entry.availability, entry.value)) :=
  (perm_insertionSort _ _).map _

private theorem read_values_eq_of_canonicalised_eq
    {observations others : List InstagramMetricObservation}
    {row other : InstagramMetricSnapshot} (hassembled : Assembled observations)
    (hothers : Assembled others) (hrow : RecordedAs hash observations row)
    (hother : RecordedAs hash others other)
    (hsame : canonicalisedObservations observations = canonicalisedObservations others) :
    (readInstagramSnapshotObservations row).map (fun entry => (entry.canonical, entry.value)) =
      (readInstagramSnapshotObservations other).map
        fun entry => (entry.canonical, entry.value) := by
  unfold readInstagramSnapshotObservations
  rw [map_filterMap, map_filterMap]
  refine filterMap_congr fun canonical hcanonical => ?_
  obtain ⟨entry, hentry, rfl⟩ := mem_map.mp (hassembled.spec.2.mem_iff.mpr hcanonical)
  have hcovered : (entry.canonical, entry.availability, entry.value) ∈
      canonicalisedObservations others := by
    rw [← hsame]
    exact (canonicalisedObservations_perm observations).mem_iff.mpr
      (mem_map_of_mem (f := fun entry => (entry.canonical, entry.availability, entry.value))
        hentry)
  obtain ⟨found, hfound, heq⟩ := mem_map.mp
    ((canonicalisedObservations_perm others).mem_iff.mp hcovered)
  simp only [Prod.mk.injEq] at heq
  rw [readObservation_of_recordedAs hassembled hrow hentry, ← heq.1,
    readObservation_of_recordedAs hothers hother hfound]
  simp [readBack, withoutTitle, heq.1,
    heq.2.2]

/-- **What a snapshot reads back.** A row reads back as the set it was written from, but for
the titles, exactly when no value is rounded on the way into its column. Rows with the same
fingerprint read back the same values, where the digest tells their sets apart. -/
theorem snapshot_reads_back_iff_exact
    {digest : List (InstagramCanonicalMetric × InstagramMetricAvailability × Option ℚ) → String}
    {observations others : List InstagramMetricObservation} {row other : InstagramMetricSnapshot}
    (hassembled : Assembled observations) (hothers : Assembled others)
    (hrow : RecordedAs (hashInstagramInsightObservations digest) observations row)
    (hother : RecordedAs (hashInstagramInsightObservations digest) others other)
    (hcollision : digest (canonicalisedObservations observations) =
        digest (canonicalisedObservations others) →
      canonicalisedObservations observations = canonicalisedObservations others) :
    ((readInstagramSnapshotObservations row).Perm
        (observations.map InstagramMetricObservation.withoutTitle) ↔
      ∀ entry ∈ observations, entry.ExactInColumn) ∧
    (row.rawPayloadHash = other.rawPayloadHash →
      (readInstagramSnapshotObservations row).map (fun entry => (entry.canonical, entry.value)) =
        (readInstagramSnapshotObservations other).map
          fun entry => (entry.canonical, entry.value)) := by
  refine ⟨perm_withoutTitle_iff hassembled hrow, fun hsame => ?_⟩
  have hhash (hash : List InstagramMetricObservation → String)
      {set : List InstagramMetricObservation} {stored : InstagramMetricSnapshot}
      (h : RecordedAs hash set stored) : stored.rawPayloadHash = hash set := by
    obtain ⟨workspaceId, snapshotId, input, rfl, hrequested⟩ := h
    obtain ⟨values, rfl⟩ := requestedSnapshot_eq_ok hrequested
    rfl
  rw [hhash _ hrow, hhash _ hother] at hsame
  exact read_values_eq_of_canonicalised_eq hassembled hothers hrow hother (hcollision hsame)

namespace ObservationSample

/-- An insight item with a value. -/
def item (name : String) (value : ℚ) : Json :=
  .object [(ofString "name", .string (ofString name)),
    (ofString "period", .string (ofString "lifetime")),
    (ofString "title", .string (ofString "Title")),
    (ofString "total_value", .object [(ofString "value", .number (.finite value))])]

/-- The provider answers with this average watch time, and denies every other group. -/
def answer (milliseconds : ℚ) (group : InstagramInsightGroup) : InsightGroupAnswer :=
  if group.key = "watch_time" then
    .body (.object [(ofString "data", .array [item "ig_reels_avg_watch_time" milliseconds])])
  else .failure .authorisation

/-- The observations of a reel with this average watch time. -/
def observations (milliseconds : ℚ) : List InstagramMetricObservation :=
  (assembleObservations .reel (answer milliseconds)).getD []

/-- The input of a capture an hour after the publication. -/
def input (milliseconds : ℚ) : InstagramSnapshotInput where
  apiVersion := instagramApiVersion
  capturedAt := 3600000
  followerCount := none
  instagramPostId := "post"
  observations := observations milliseconds
  postAgeSeconds := 3600

/-- The digests of the sets with an average watch time of 4321 and of 4321.5 milliseconds. -/
def digest (set : List (InstagramCanonicalMetric × InstagramMetricAvailability × Option ℚ)) :
    String :=
  if (InstagramCanonicalMetric.averageWatchTimeMs, .available, some 4321) ∈ set then
    "4e566e65375a46616ff77cd01d520032d9075cac9ef085ab5358db967215f347"
  else "e998d288f2f9b555fa38e2b16fae180757bf06efedfb4c402b26acd70604b28f"

/-- The row of this capture. -/
def row (milliseconds : ℚ) : InstagramMetricSnapshot :=
  metricSnapshotRow (hashInstagramInsightObservations digest) "workspace" "snapshot"
    (input milliseconds) ((observations milliseconds).filterMap storedColumn)

private theorem assembled_whole : Assembled (observations 4321) := ⟨.reel, answer 4321, by decide⟩

private theorem assembled_half : Assembled (observations (8643 / 2)) :=
  ⟨.reel, answer (8643 / 2), by decide +kernel⟩

/-- A whole watch time reads back as it was. -/
theorem whole_watch_time_reads_back :
    (readInstagramSnapshotObservations (row 4321)).Perm
        ((observations 4321).map InstagramMetricObservation.withoutTitle) ↔
      ∀ entry ∈ observations 4321, entry.ExactInColumn :=
  (snapshot_reads_back_iff_exact assembled_whole assembled_half
    (Assembled.recordedAs (show Assembled (input 4321).observations from assembled_whole)
      (hashInstagramInsightObservations digest) "workspace" "snapshot")
    (Assembled.recordedAs (show Assembled (input (8643 / 2)).observations from assembled_half)
      (hashInstagramInsightObservations digest) "workspace" "snapshot")
    (fun h => absurd h (by decide +kernel))).1

/-- Half a millisecond does not read back. -/
theorem half_watch_time_is_rounded :
    Assembled (observations (8643 / 2)) ∧
      RecordedAs (hashInstagramInsightObservations digest) (observations (8643 / 2))
        (row (8643 / 2)) ∧
      ¬ (readInstagramSnapshotObservations (row (8643 / 2))).Perm
        ((observations (8643 / 2)).map InstagramMetricObservation.withoutTitle) := by
  have hrecorded := Assembled.recordedAs
    (show Assembled (input (8643 / 2)).observations from assembled_half)
    (hashInstagramInsightObservations digest) "workspace" "snapshot"
  refine ⟨assembled_half, hrecorded, fun hperm => ?_⟩
  have hexact := (perm_withoutTitle_iff assembled_half hrecorded).mp hperm
  have hwatch : ∃ entry ∈ observations (8643 / 2), entry.canonical = .averageWatchTimeMs ∧
      entry.value = some (8643 / 2) := by decide +kernel
  obtain ⟨entry, hentry, hcanonical, hvalue⟩ := hwatch
  have hwhole := hexact entry hentry (8643 / 2) hvalue
  rw [hcanonical, if_neg (by decide)] at hwhole
  obtain ⟨n, hn⟩ := hwhole
  have hdouble : (8643 : ℚ) = (2 * n : ℤ) := by
    push_cast
    linarith
  have hint : (8643 : ℤ) = 2 * n := by exact_mod_cast hdouble
  omega

end ObservationSample

end ContentAutomation
