import ContentAutomation.Analytics.StatisticReuse
import ContentAutomation.Jobs.Enqueue
import ContentAutomation.Library.Joined
import ContentAutomation.Library.Keyset
import ContentAutomation.Worker.Tables

/-!
# The list of trends

The statistics of the active run of a scope are listed by their signed effect, the greatest first
and those without an effect before all of them, and the list is cut at the size of a page before
the sections of a reader are made of it.
-/

namespace ContentAutomation

open Relational Keyset List

/-! ### The list -/

/-- A row of `account_feature_statistics`. -/
structure TrendStatistic extends AccountFeatureStatistic where
  id : String
  workspaceId : String

/-- The tables that trends are read of. -/
structure TrendTables where
  runs : Table accountAnalyticsRunSchema
  published : Table accountAnalyticsRunStatisticSchema
  statistics : List TrendStatistic

/-- `TrendListFilters`. -/
structure TrendListFilters where
  confidence : Option ConfidenceClass := none
  featurePath : Option String := none
  /-- Absent, or the account of the calculation, which is none for the pooled one. -/
  instagramAccountId : Option (Option String)
  matchesNothing : Bool := false
  metric : Option String := none

/-- `TrendList`. -/
structure TrendList where
  calculation : Option AccountAnalyticsRun
  trends : List TrendStatistic

/-- `trendPageSize`. -/
def trendPageSize : ℕ := 200

/-- `orderBy: [{ statistic: { relativeEffect: "desc" } }, { statisticId: "asc" }]`, where nulls are
first. -/
def trendOrder (statistic : TrendStatistic) : WithBot ℚ ×ₗ String :=
  toLex (descending statistic.relativeEffect, statistic.id)

namespace TrendListFilters

variable (db : TrendTables) (context : WorkspaceContext) (filters : TrendListFilters)

def scope : Option (Option String) :=
  if filters.matchesNothing then none
  else filters.instagramAccountId.filter fun scope => scope.all isUuidV7

def calculation : Option AccountAnalyticsRun :=
  filters.scope.bind fun scope =>
    (db.runs.rows.find? fun row => row.instagramAccountId == scope && row.state == .active &&
      row.workspaceId == context.workspaceId).filter fun run => run.activatedAt.isSome

/-- `where: { statistic }`. An empty path is no filter. -/
def selects (statistic : TrendStatistic) : Bool :=
  filters.confidence.all (· == statistic.confidence) &&
    filters.featurePath.all (fun path => path == "" || path == statistic.featurePath) &&
    filters.metric.all (· == statistic.metric)

/-- The statistics that a run publishes and the filters select. -/
def matching (run : AccountAnalyticsRun) : List TrendStatistic :=
  (db.published.rows.filter fun row =>
    row.runId == run.id && row.workspaceId == context.workspaceId).filterMap fun row =>
      (db.statistics.find? fun statistic =>
        statistic.id == row.statisticId && statistic.workspaceId == row.workspaceId).filter
        filters.selects

/-- `loadAccountTrends`. -/
def loadAccountTrends : TrendList :=
  match filters.calculation db context with
  | none => ⟨none, []⟩
  | some run =>
    ⟨some run, (ordered trendOrder (filters.matching db context run)).take trendPageSize⟩

end TrendListFilters

/-! ### What a reader is shown -/

/-- `TrendSectionKey`. -/
inductive TrendSectionKey
  | supported | directional | outlier | limited
  deriving DecidableEq

/-- `trendSectionFor`. -/
def trendSectionFor : ConfidenceClass → TrendSectionKey
  | .statisticallySupportedAssociation | .moderateAssociation => .supported
  | .weakDirectionalSignal => .directional
  | .singlePostOutlier => .outlier
  | .insufficientEvidence => .limited

/-- The statistic is moderate or supported. -/
def TrendStatistic.isStrong (statistic : TrendStatistic) : Bool :=
  trendSectionFor statistic.confidence == .supported

/-- The statistic has no effect, or too little evidence. -/
def TrendStatistic.IsSilent (statistic : TrendStatistic) : Prop :=
  statistic.relativeEffect = none ∨ statistic.confidence = .insufficientEvidence

/-- **The strongest evidence is shown**: every strong statistic is listed unless there are too many
of them, and none is left out for a silent one. -/
structure ShowsStrongest (matching listed : List TrendStatistic) : Prop where
  complete : (matching.filter TrendStatistic.isStrong).length ≤ trendPageSize →
    ∀ statistic ∈ matching, statistic.isStrong = true → statistic ∈ listed
  undisplaced : ∀ statistic ∈ matching, statistic.isStrong = true → statistic ∉ listed →
    ∀ other ∈ listed, ¬ other.IsSilent

namespace TrendListFilters

variable {db : TrendTables} {context : WorkspaceContext} {filters : TrendListFilters}
  {run : AccountAnalyticsRun}

private theorem pairwise_matching :
    (filters.matching db context run).Pairwise fun statistic other =>
    trendOrder statistic ≠ trendOrder other := by
  refine pairwise_filterMap.mpr ?_
  refine Pairwise.imp_of_mem (fun {row other} hrow hother hdistinct => ?_)
    (db.published.pairwise.filter _)
  intro statistic hstatistic statistic' hstatistic' hsame
  have hid {row : AccountAnalyticsRunStatistic} {statistic : TrendStatistic}
      (h : (db.statistics.find? fun statistic => statistic.id == row.statisticId &&
        statistic.workspaceId == row.workspaceId).filter filters.selects = some statistic) :
      statistic.id = row.statisticId := by
    have hfound := List.find?_some (Option.filter_eq_some_iff.mp h).1
    exact beq_iff_eq.mp (Bool.and_eq_true_iff.mp hfound).1
  have hof {row : AccountAnalyticsRunStatistic} (h : row ∈ db.published.rows.filter fun row =>
      row.runId == run.id && row.workspaceId == context.workspaceId) :
      row.runId = run.id ∧ row.workspaceId = context.workspaceId := by
    simpa using (mem_filter.mp h).2
  have hids : statistic.id = statistic'.id := congrArg Prod.snd hsame
  have hrows : row = other := by
    cases row
    cases other
    have hleft := hof hrow
    have hright := hof hother
    have hleft' := hid hstatistic
    have hright' := hid hstatistic'
    simp_all
  subst hrows
  simp [accountAnalyticsRunStatisticSchema, Schema.collision] at hdistinct

private theorem mem_trends_iff (h : filters.calculation db context = some run)
    {statistic : TrendStatistic} :
    statistic ∈ (filters.loadAccountTrends db context).trends ↔
      statistic ∈ filters.matching db context run ∧
        before trendOrder (trendOrder statistic) (filters.matching db context run) <
          trendPageSize := by
  have hperm : (ordered trendOrder (filters.matching db context run)).Perm
      (filters.matching db context run) := perm_insertionSort _ _
  rw [loadAccountTrends, h, mem_take_iff_before (pairwise_ordered pairwise_matching),
    before_perm hperm, hperm.mem_iff]

/-- **The list shows the strongest evidence** exactly when every strong statistic has fewer than a
page of statistics before it, or the strong ones are too many and every silent one has a page
before it. -/
theorem trends_show_strongest_iff (h : filters.calculation db context = some run) :
    ShowsStrongest (filters.matching db context run)
        (filters.loadAccountTrends db context).trends ↔
      (∀ statistic ∈ filters.matching db context run, statistic.isStrong = true →
        before trendOrder (trendOrder statistic) (filters.matching db context run) <
          trendPageSize) ∨
      trendPageSize < ((filters.matching db context run).filter TrendStatistic.isStrong).length ∧
        ∀ statistic ∈ filters.matching db context run, statistic.IsSilent →
          trendPageSize ≤
            before trendOrder (trendOrder statistic) (filters.matching db context run) := by
  constructor
  · intro hshows
    by_cases hfront : ∀ statistic ∈ filters.matching db context run,
        statistic.isStrong = true →
        before trendOrder (trendOrder statistic) (filters.matching db context run) < trendPageSize
    · exact Or.inl hfront
    push Not at hfront
    obtain ⟨statistic, hmem, hstrong, hbehind⟩ := hfront
    have hunlisted : statistic ∉ (filters.loadAccountTrends db context).trends :=
      fun hlisted => absurd ((mem_trends_iff h).mp hlisted).2 (Nat.not_lt.mpr hbehind)
    refine Or.inr ⟨?_, fun other hother hsilent => ?_⟩
    · by_contra hfew
      exact hunlisted (hshows.complete (Nat.not_lt.mp hfew) statistic hmem hstrong)
    · by_contra hbefore
      exact hshows.undisplaced statistic hmem hstrong hunlisted other
        ((mem_trends_iff h).mpr ⟨hother, Nat.lt_of_not_le hbefore⟩) hsilent
  · rintro (hfront | ⟨hmany, hbehind⟩)
    · have hlisted : ∀ statistic ∈ filters.matching db context run, statistic.isStrong = true →
          statistic ∈ (filters.loadAccountTrends db context).trends :=
        fun statistic hmem hstrong => (mem_trends_iff h).mpr ⟨hmem, hfront statistic hmem hstrong⟩
      exact ⟨fun _ => hlisted, fun statistic hmem hstrong hunlisted =>
        absurd (hlisted statistic hmem hstrong) hunlisted⟩
    · refine ⟨fun hfew => absurd hmany (Nat.not_lt.mpr hfew), ?_⟩
      intro statistic hmem hstrong hunlisted other hother hsilent
      obtain ⟨hmatches, hbefore⟩ := (mem_trends_iff h).mp hother
      exact absurd hbefore (Nat.not_lt.mpr (hbehind other hmatches hsilent))

end TrendListFilters

/-! ### A run larger than a page -/

namespace TrendSample

/-- A statistic of a class, with its effect. -/
def statistic (id : String) (confidence : ConfidenceClass) (relativeEffect : Option ℚ) :
    TrendStatistic where
  id
  workspaceId := "workspace"
  ageWindow := .day7
  analysisSchemaVersion := analysisSchemaVersion
  analyticsVersion := analyticsVersion
  bootstrapResamples := none
  bootstrapSeed := none
  classificationReason := .belowMinimumSamples
  cohortVersion := cohortSelectionVersion
  comparisonCount := 20
  comparisonIqr := none
  comparisonMedian := none
  confidence
  differenceOfMedians := none
  distinctPublicationDates := 20
  distinctPublicationWeeks := 10
  featurePath := "content.hook.category"
  featureValue := id
  groupCount := 20
  groupIqr := none
  groupMedian := none
  inputFingerprint := Utf16.ofString id
  instagramAccountId := none
  intervalConfidence := 19 / 20
  intervalLower := none
  intervalUpper := none
  metric := "reach_engagement_rate"
  missingRatio := 0
  multipleTestingApplied := false
  publishedFrom := 0
  publishedTo := 1
  relativeEffect
  sensitivityHoldsDirection := true
  statisticsVersion := "v1"
  topContributorShare := none

def run : AccountAnalyticsRun where
  id := "run"
  workspaceId := "workspace"
  instagramAccountId := none
  state := .active
  ageWindow := .day7
  publishedFrom := 0
  publishedTo := 1
  inputFingerprint := ""
  statisticCount := 0
  analysisCount := 0
  startedAt := 0
  activatedAt := some 1
  durationMs := none
  failureCode := none

/-- The membership of a statistic. -/
def member (statistic : TrendStatistic) : AccountAnalyticsRunStatistic :=
  ⟨"workspace", "run", statistic.id⟩

/-- The tables of a run with statistics. -/
def tables (statistics : List TrendStatistic) (h : (statistics.map TrendStatistic.id).Nodup) :
    TrendTables where
  runs := ⟨[run], by decide⟩
  published := ⟨statistics.map member, by
    refine Schema.violation_eq_none.mpr ⟨fun _ _ => rfl, pairwise_map.mpr ?_⟩
    refine (pairwise_map.mp h).imp fun {one other} hne => ?_
    have hmembers : member one ≠ member other := fun heq =>
      hne (congrArg AccountAnalyticsRunStatistic.statisticId heq)
    simp [accountAnalyticsRunStatisticSchema, Schema.collision, hmembers]⟩
  statistics

def filters : TrendListFilters where
  instagramAccountId := some none

private theorem matching_tables {statistics : List TrendStatistic}
    (h : (statistics.map TrendStatistic.id).Nodup)
    (hworkspace : ∀ one ∈ statistics, one.workspaceId = "workspace") :
    filters.matching (tables statistics h) ⟨"workspace"⟩ run = statistics := by
  have hmembers : (statistics.map member).filter (fun row => row.runId == "run" &&
      row.workspaceId == "workspace") = statistics.map member := by
    refine filter_eq_self.mpr fun row hrow => ?_
    obtain ⟨one, -, rfl⟩ := mem_map.mp hrow
    rfl
  have hfound : ∀ one ∈ statistics, (statistics.find? fun other => other.id == one.id &&
      other.workspaceId == "workspace") = some one := by
    intro one hone
    refine find?_eq_some_of_pairwise ?_ hone (by simp [hworkspace one hone])
    refine (pairwise_map.mp h).imp fun {left right} hne hboth => hne ?_
    simp only [Bool.and_eq_true, beq_iff_eq] at hboth
    exact hboth.1.1.trans hboth.2.1.symm
  unfold TrendListFilters.matching
  refine (congrArg _ hmembers).trans ?_
  rw [filterMap_map, filterMap_congr fun one hone => ?_, filterMap_some]
  exact congrArg (Option.filter filters.selects) (hfound one hone)

/-- Two hundred comparisons that could not be answered, and a supported one whose effect is
negative. -/
def sample (n : ℕ) : TrendStatistic :=
  if n < 200 then statistic (toString n) .insufficientEvidence none
  else statistic (toString n) .statisticallySupportedAssociation (some (-1 / 2))

private theorem nodup_sample (count : ℕ) :
    (((List.range count).map sample).map TrendStatistic.id).Nodup := by
  have hid (n : ℕ) : (sample n).id = toString n := by
    unfold sample
    split <;> rfl
  rw [map_map]
  refine nodup_range.map fun n m hsame => ?_
  simp only [Function.comp_apply, hid] at hsame
  exact Nat.repr_injective hsame

private theorem matching_sample (count : ℕ) :
    filters.matching (tables _ (nodup_sample count)) ⟨"workspace"⟩ run =
      (List.range count).map sample := by
  refine matching_tables _ fun one hone => ?_
  obtain ⟨n, -, rfl⟩ := mem_map.mp hone
  unfold sample
  split <;> rfl

private theorem calculation_sample (count : ℕ) :
    filters.calculation (tables _ (nodup_sample count)) ⟨"workspace"⟩ = some run := rfl

/-- Two associations, the stronger of them negative, and a comparison that could not be
answered. -/
def strong : List TrendStatistic :=
  [statistic "a" .moderateAssociation (some (1 / 4)), statistic "b" .insufficientEvidence none,
    statistic "c" .statisticallySupportedAssociation (some (-1 / 2))]

private theorem nodup_strong : (strong.map TrendStatistic.id).Nodup := by decide

/-- Both associations of a run of one page are listed. -/
theorem strong_run : (strong.filter TrendStatistic.isStrong).length = 2 ∧ ShowsStrongest
    (filters.matching (tables strong nodup_strong) ⟨"workspace"⟩ run)
    (filters.loadAccountTrends (tables strong nodup_strong) ⟨"workspace"⟩).trends := by
  have hmatching : filters.matching (tables strong nodup_strong) ⟨"workspace"⟩ run = strong :=
    matching_tables nodup_strong (by decide)
  refine ⟨by decide, (TrendListFilters.trends_show_strongest_iff rfl).mpr (.inl ?_)⟩
  intro statistic _ _
  rw [hmatching]
  exact lt_of_le_of_lt countP_le_length (by decide)

/-- **The only supported statistic is left out** for two hundred without an effect. -/
theorem supported_is_not_listed : ¬ ShowsStrongest
    (filters.matching (tables _ (nodup_sample 201)) ⟨"workspace"⟩ run)
    (filters.loadAccountTrends (tables _ (nodup_sample 201)) ⟨"workspace"⟩).trends := by
  intro hshows
  have hmatching := matching_sample 201
  have hstrong : sample 200 ∈ (List.range 201).map sample :=
    mem_map_of_mem (mem_range.mpr (by omega))
  have hfew : (((List.range 201).map sample).filter TrendStatistic.isStrong).length ≤
      trendPageSize := by
    have hweak : sample 0 ∈ (List.range 201).map sample :=
      mem_map_of_mem (mem_range.mpr (by omega))
    have hlt := length_filter_lt_length_iff_exists.mpr
      ⟨sample 0, hweak, (by decide : ¬ TrendStatistic.isStrong (sample 0) = true)⟩
    rw [length_map, length_range] at hlt
    exact Nat.lt_succ_iff.mp hlt
  have hlisted := hshows.complete (by rw [hmatching]; exact hfew) (sample 200)
    (by rw [hmatching]; exact hstrong) rfl
  have hbefore := ((TrendListFilters.mem_trends_iff (calculation_sample 201)).mp hlisted).2
  have hfront : ((List.range 200).map sample).length ≤
      before trendOrder (trendOrder (sample 200)) ((List.range 201).map sample) := by
    have hsublist : ((List.range 200).map sample).Sublist ((List.range 201).map sample) :=
      (range_sublist.mpr (by omega)).map sample
    refine le_trans (countP_eq_length.mpr fun one hone => decide_eq_true ?_).ge
      hsublist.countP_le
    obtain ⟨n, hn, rfl⟩ := mem_map.mp hone
    rw [sample, if_pos (mem_range.mp hn)]
    exact Prod.Lex.left _ _ (WithBot.bot_lt_coe _)
  rw [length_map, length_range] at hfront
  rw [hmatching] at hbefore
  exact absurd hbefore (Nat.not_lt.mpr hfront)

end TrendSample

end ContentAutomation
