import ContentAutomation.Strategy.SelectionClaims
import ContentAutomation.Strategy.Validation

/-!
# The statistics that survive the caps

Within its category a statistic has its place by the size of its effect, and the caps keep the first
places. How strong the class of a statistic is plays no part in this, so that a weaker class with a
larger effect can keep a stronger one out.
-/

namespace ContentAutomation

open FirstCopies StrategyBudget List

namespace StrategyEvidenceRequest

section Places

variable (platform : EvidencePlatform) (db : StrategyEvidenceTables) (context : WorkspaceContext)
  (request : StrategyEvidenceRequest) (run : AccountAnalyticsRun)

/-- The statistics of a category, the larger effects first. -/
def ranking (category : StrategyEvidenceCategory) : List StrategyEvidenceCandidate :=
  firstCopies referenceKey ((((request.publishedStatistics db context run).map
    statisticCandidate).filter fun candidate => decide (candidate.category = category)).insertionSort
      (precedes platform))

/-- The place of a statistic in its category. -/
def place (statistic : PublishedStatistic) : ℕ :=
  (request.ranking platform db context run (statisticCandidate statistic).category).idxOf
    (statisticCandidate statistic)

/-- The leading statistics of a category fit the budget, with those of the categories before it. -/
def CategoryFits (category : StrategyEvidenceCategory) : Prop :=
  estimateStrategyPromptTokens (renderCandidates (frontOf (categoryOrder category + 1)
    (request.leadingStatistics platform db context run))) ≤ strategyInputTokenBudget

end Places

end StrategyEvidenceRequest

/-- A manifest has the statistic among its entries. -/
def StrategyEvidenceSelection.HasStatistic (selection : StrategyEvidenceSelection)
    (statistic : PublishedStatistic) : Prop :=
  statisticCandidate statistic ∈
    selection.entries.map StrategyEvidenceEntry.toStrategyEvidenceCandidate

/-- A statistic is left out where its category has as many entries as its cap, or the manifest as
many statistics as it may have. -/
def StrategyEvidenceSelection.LeavesOut (selection : StrategyEvidenceSelection)
    (statistic : PublishedStatistic) : Prop :=
  ¬ selection.HasStatistic statistic ∧
    (strategyEvidenceCaps (statisticCandidate statistic).category ≤
        (selection.entries.countP fun entry =>
          decide (entry.category = (statisticCandidate statistic).category)) ∨
      strategyManifestStatisticCap ≤
        selection.entries.countP fun entry => isStatistic entry.toStrategyEvidenceCandidate)

/-- The class of a statistic is stronger than that of another. -/
def PublishedStatistic.Outranks (statistic other : PublishedStatistic) : Prop :=
  evidenceClassRank (evidenceClasses other.confidence) <
    evidenceClassRank (evidenceClasses statistic.confidence)

/-- The statistics of the highest confidence survive the caps. -/
structure HighestConfidenceSurvives (statistics : List PublishedStatistic)
    (selection : StrategyEvidenceSelection) : Prop where
  /-- No statistic is left out beside one of a weaker class. -/
  classes : ∀ statistic ∈ statistics, ∀ other ∈ statistics, selection.HasStatistic statistic →
    (statisticCandidate other).category = (statisticCandidate statistic).category →
      other.Outranks statistic → ¬ selection.LeavesOut other
  /-- No statistic with an effect is left out beside a positive pattern without one. -/
  effects : ∀ statistic ∈ statistics, ∀ other ∈ statistics, selection.HasStatistic statistic →
    (statisticCandidate statistic).category = .positiveStatistic →
      (statisticCandidate other).category = .positiveStatistic →
        statistic.relativeEffect = none → other.relativeEffect ≠ none → ¬ selection.LeavesOut other

namespace StrategyEvidenceRequest

/-! ### Places -/

section Survival

variable {platform : EvidencePlatform} {db : StrategyEvidenceTables} {context : WorkspaceContext}
  {request : StrategyEvidenceRequest} {run : AccountAnalyticsRun}
  {loaded : StrategyEvidenceCandidates} {statistic other : PublishedStatistic}
  {category : StrategyEvidenceCategory}

/-- What stands before a member of the first entries of a sorted list is one of them. -/
theorem mem_take_of_not_after {T : Type*} {r : T → T → Prop} {rows : List T} {count : ℕ}
    {first last : T} (hsorted : rows.Pairwise r) (hfirst : first ∈ rows.take count)
    (hlast : last ∈ rows) (h : ¬ r first last) : last ∈ rows.take count := by
  rw [← take_append_drop count rows] at hlast hsorted
  refine (mem_append.mp hlast).resolve_right fun hafter => h ?_
  exact (pairwise_append.mp hsorted).2.2 first hfirst last hafter

private theorem pairwise_ranking :
    (request.ranking platform db context run category).Pairwise (precedes platform) :=
  (pairwise_insertionSort (precedes platform) _).sublist unseen_sublist

private theorem mem_ranking (hstatistic : statistic ∈ request.publishedStatistics db context run) :
    statisticCandidate statistic ∈
      request.ranking platform db context run (statisticCandidate statistic).category := by
  have hmem := mem_map_of_mem (f := statisticCandidate) hstatistic
  refine mem_firstCopies.mpr ?_
  unfold IsFirst
  have hsorted : statisticCandidate statistic ∈ (((request.publishedStatistics db context run).map
      statisticCandidate).filter fun candidate =>
        decide (candidate.category = (statisticCandidate statistic).category)).insertionSort
          (precedes platform) :=
    (mem_insertionSort _).mpr (mem_filter.mpr ⟨hmem, by simp⟩)
  obtain ⟨first, hfirst⟩ := Option.isSome_iff_exists.mp
    (List.find?_isSome (p := fun other => decide (referenceKey other =
      referenceKey (statisticCandidate statistic))).mpr ⟨_, hsorted, decide_eq_true rfl⟩)
  have hread := (mem_insertionSort _).mp (mem_of_find?_eq_some hfirst)
  have hkey := List.find?_some hfirst
  rw [decide_eq_true_eq] at hkey
  rw [hfirst, statistic_eq_of_referenceKey (mem_of_mem_filter hread) hmem hkey]

private theorem mem_leading_iff
    (hstatistic : statistic ∈ request.publishedStatistics db context run) :
    statisticCandidate statistic ∈
        request.leading platform db context run (statisticCandidate statistic).category ↔
      request.place platform db context run statistic <
        strategyEvidenceCaps (statisticCandidate statistic).category :=
  mem_take_iff_idxOf_lt (mem_ranking hstatistic)

private theorem categoryOrder_statistic (statistic : PublishedStatistic) :
    categoryOrder (statisticCandidate statistic).category < 3 := by
  rcases statisticCandidate_category statistic with h | h | h <;> rw [h] <;> decide

private theorem mem_leadingStatistics_iff :
    statisticCandidate statistic ∈ request.leadingStatistics platform db context run ↔
      statisticCandidate statistic ∈
        request.leading platform db context run (statisticCandidate statistic).category := by
  unfold leadingStatistics
  rw [mem_append, mem_append]
  constructor
  · rintro ((h | h) | h)
    · rwa [(mem_leading h).2]
    · rwa [(mem_leading h).2]
    · rwa [(mem_leading h).2]
  · intro h
    rcases statisticCandidate_category statistic with hcategory | hcategory | hcategory <;>
      rw [hcategory] at h
    · exact Or.inl (Or.inl h)
    · exact Or.inl (Or.inr h)
    · exact Or.inr h

private theorem leading_sublist (statistic : PublishedStatistic) :
    (request.leading platform db context run (statisticCandidate statistic).category).Sublist
      (frontOf (categoryOrder (statisticCandidate statistic).category + 1)
        (request.leadingStatistics platform db context run)) := by
  have hself : frontOf (categoryOrder (statisticCandidate statistic).category + 1)
      (request.leading platform db context run (statisticCandidate statistic).category) =
        request.leading platform db context run (statisticCandidate statistic).category := by
    refine filter_eq_self.mpr fun candidate hcandidate => ?_
    rw [(mem_leading hcandidate).2]
    simp
  rw [← hself]
  refine List.Sublist.filter _ ?_
  unfold leadingStatistics
  rcases statisticCandidate_category statistic with h | h | h <;> rw [h]
  · exact (sublist_append_left _ _).trans (sublist_append_left _ _)
  · exact (sublist_append_right _ _).trans (sublist_append_left _ _)
  · exact sublist_append_right _ _

variable (hrun : request.activeRun db context = some run)
  (hloaded : loadStrategyEvidenceCandidates db context request = some loaded)

include hrun hloaded

private theorem frontOf_cappedEvidence {bound : ℕ} (hbound : bound ≤ 3) :
    frontOf bound (cappedEvidence platform loaded.candidates) =
      frontOf bound (request.leadingStatistics platform db context run) := by
  have hfront := EvidenceSelection.frontOf_capped platform loaded.candidates 3
  rw [front_leadingStatistics hrun hloaded] at hfront
  rw [← hfront]
  unfold frontOf
  rw [filter_filter]
  refine filter_congr fun candidate _ => ?_
  by_cases hlt : categoryOrder candidate.category < bound
  · simp [hlt, lt_of_lt_of_le hlt hbound]
  · simp [hlt]

/-- **What a manifest has of the statistics**: those whose place is below the cap of their category,
where the category fits the budget. -/
theorem hasStatistic_iff (hstatistic : statistic ∈ request.publishedStatistics db context run) :
    (selectStrategyEvidence platform loaded.candidates none).HasStatistic statistic ↔
      request.CategoryFits platform db context run (statisticCandidate statistic).category ∧
        request.place platform db context run statistic <
          strategyEvidenceCaps (statisticCandidate statistic).category := by
  obtain ⟨kept, hkept, hentries⟩ := selected_longestFitting platform loaded.candidates none
  have horder := categoryOrder_statistic statistic
  have hchosen : statisticCandidate statistic ∈ cappedEvidence platform loaded.candidates ↔
      statisticCandidate statistic ∈ request.leadingStatistics platform db context run := by
    have hfront := EvidenceSelection.frontOf_capped platform loaded.candidates 3
    rw [front_leadingStatistics hrun hloaded] at hfront
    rw [← hfront]
    unfold frontOf
    rw [mem_filter, decide_eq_true horder]
    exact (and_iff_left rfl).symm
  unfold StrategyEvidenceSelection.HasStatistic CategoryFits
  rw [hentries, map_rankEntries, hkept.mem_iff, hchosen, mem_leadingStatistics_iff,
    mem_leading_iff hstatistic, frontOf_cappedEvidence hrun hloaded (Nat.succ_le_of_lt horder),
    estimate_le_iff, and_comm]
  rfl

/-- A category with an entry has as many as its cap, if it has a statistic for each. -/
theorem le_countP_entries
    (hselected : (selectStrategyEvidence platform loaded.candidates none).HasStatistic statistic)
    (hlength : strategyEvidenceCaps (statisticCandidate statistic).category ≤
      (request.ranking platform db context run (statisticCandidate statistic).category).length) :
    strategyEvidenceCaps (statisticCandidate statistic).category ≤
      (selectStrategyEvidence platform loaded.candidates none).entries.countP fun entry =>
        decide (entry.category = (statisticCandidate statistic).category) := by
  obtain ⟨kept, hkept, hentries⟩ := selected_longestFitting platform loaded.candidates none
  obtain ⟨bound, hbound⟩ := hkept.front
  have hmem : statisticCandidate statistic ∈ kept := by
    unfold StrategyEvidenceSelection.HasStatistic at hselected
    rwa [hentries, map_rankEntries] at hselected
  rw [hbound] at hmem
  have hlt := of_decide_eq_true (mem_filter.mp hmem).2
  have hpart : (request.leading platform db context run
      (statisticCandidate statistic).category).Sublist kept := by
    rw [hbound]
    refine List.Sublist.trans ?_ (frontOf_sublist hlt)
    rw [frontOf_cappedEvidence hrun hloaded
      (Nat.succ_le_of_lt (categoryOrder_statistic statistic))]
    exact leading_sublist statistic
  have hleading : (request.leading platform db context run
      (statisticCandidate statistic).category).length =
        strategyEvidenceCaps (statisticCandidate statistic).category :=
    length_take_of_le hlength
  have hcount : countOf (statisticCandidate statistic).category (request.leading platform db context
      run (statisticCandidate statistic).category) =
        strategyEvidenceCaps (statisticCandidate statistic).category := by
    rw [← hleading]
    exact countP_eq_length.mpr fun candidate hcandidate =>
      decide_eq_true (mem_leading hcandidate).2
  rw [hentries, countP_rankEntries fun candidate =>
    decide (candidate.category = (statisticCandidate statistic).category), ← hcount]
  exact hpart.countP_le

/-- Beside a statistic of its category, a statistic is left out exactly when its place is not below
the cap. -/
theorem leavesOut_iff (hstatistic : statistic ∈ request.publishedStatistics db context run)
    (hother : other ∈ request.publishedStatistics db context run)
    (hselected : (selectStrategyEvidence platform loaded.candidates none).HasStatistic statistic)
    (hcategory : (statisticCandidate other).category = (statisticCandidate statistic).category) :
    (selectStrategyEvidence platform loaded.candidates none).LeavesOut other ↔
      strategyEvidenceCaps (statisticCandidate other).category ≤
        request.place platform db context run other := by
  have hfits := ((hasStatistic_iff hrun hloaded hstatistic).mp hselected).1
  rw [← hcategory] at hfits
  unfold StrategyEvidenceSelection.LeavesOut
  rw [hasStatistic_iff hrun hloaded hother, not_and, not_lt]
  constructor
  · exact fun h => h.1 hfits
  · intro hplace
    refine ⟨fun _ => hplace, Or.inl ?_⟩
    rw [hcategory] at hplace ⊢
    refine le_countP_entries hrun hloaded hselected (hplace.trans ?_)
    rw [← hcategory]
    exact (idxOf_lt_length_iff.mpr (mem_ranking hother)).le

/-- No statistic of a stronger class is left out exactly when none has its place behind a weaker one
that is not left out. -/
theorem classes_iff : (∀ statistic ∈ request.publishedStatistics db context run,
      ∀ other ∈ request.publishedStatistics db context run,
        (selectStrategyEvidence platform loaded.candidates none).HasStatistic statistic →
          (statisticCandidate other).category = (statisticCandidate statistic).category →
            other.Outranks statistic →
              ¬ (selectStrategyEvidence platform loaded.candidates none).LeavesOut other) ↔
    ∀ statistic ∈ request.publishedStatistics db context run,
      ∀ other ∈ request.publishedStatistics db context run,
        (statisticCandidate other).category = (statisticCandidate statistic).category →
          request.CategoryFits platform db context run (statisticCandidate statistic).category →
            other.Outranks statistic →
              request.place platform db context run statistic <
                  strategyEvidenceCaps (statisticCandidate statistic).category →
                request.place platform db context run other <
                  strategyEvidenceCaps (statisticCandidate statistic).category := by
  constructor
  · intro h statistic hstatistic other hother hcategory hfits houtranks hplace
    have hselected : (selectStrategyEvidence platform loaded.candidates none).HasStatistic
        statistic := (hasStatistic_iff hrun hloaded hstatistic).mpr ⟨hfits, hplace⟩
    have hkept := h statistic hstatistic other hother hselected hcategory houtranks
    rw [leavesOut_iff hrun hloaded hstatistic hother hselected hcategory, hcategory] at hkept
    exact not_le.mp hkept
  · intro h statistic hstatistic other hother hselected hcategory houtranks
    obtain ⟨hfits, hplace⟩ := (hasStatistic_iff hrun hloaded hstatistic).mp hselected
    rw [leavesOut_iff hrun hloaded hstatistic hother hselected hcategory, hcategory]
    exact not_le.mpr (h statistic hstatistic other hother hcategory hfits houtranks hplace)

/-- A statistic with an effect is not left out beside one of its category without. -/
theorem effects_survive (hstatistic : statistic ∈ request.publishedStatistics db context run)
    (hother : other ∈ request.publishedStatistics db context run)
    (hselected : (selectStrategyEvidence platform loaded.candidates none).HasStatistic statistic)
    (hcategory : (statisticCandidate other).category = (statisticCandidate statistic).category)
    (hnone : statistic.relativeEffect = none) (hsome : other.relativeEffect ≠ none) :
    ¬ (selectStrategyEvidence platform loaded.candidates none).LeavesOut other := by
  have hplace := ((hasStatistic_iff hrun hloaded hstatistic).mp hselected).2
  obtain ⟨effect, heffect⟩ := Option.ne_none_iff_exists'.mp hsome
  have hscore : (statisticCandidate statistic).rankScore = none := by
    simp [statisticCandidate, hnone]
  have hscore' : (statisticCandidate other).rankScore = some |Binary64.nearest effect| := by
    simp [statisticCandidate, heffect]
  -- a statistic without an effect ranks before none with one
  have hafter : ¬ precedes platform (statisticCandidate statistic) (statisticCandidate other) := by
    rintro (hlt | ⟨-, hranks⟩)
    · rw [hcategory] at hlt
      exact lt_irrefl _ hlt
    · rw [ranksBefore_iff, hscore, hscore'] at hranks
      rcases hranks with habove | ⟨hsame, -⟩
      · cases habove
      · cases hsame
  have hranked : statisticCandidate other ∈ request.ranking platform db context run
      (statisticCandidate other).category := mem_ranking hother
  have hleading := (mem_leading_iff hstatistic).mpr hplace
  rw [leavesOut_iff hrun hloaded hstatistic hother hselected hcategory, not_le,
    ← mem_leading_iff hother, hcategory]
  rw [hcategory] at hranked
  exact mem_take_of_not_after pairwise_ranking hleading hranked hafter

end Survival

/-- **When the highest confidence survives.** In the manifest of a run no statistic is left out for
the caps beside one of a weaker class, nor one with an effect beside a positive pattern without,
exactly when in each category that fits the budget, no statistic has its place behind the cap and a
stronger class than one before it. -/
theorem highest_confidence_survives_iff (platform : EvidencePlatform) (db : StrategyEvidenceTables)
    (context : WorkspaceContext) (request : StrategyEvidenceRequest) (run : AccountAnalyticsRun)
    (loaded : StrategyEvidenceCandidates) (hrun : request.activeRun db context = some run)
    (hloaded : loadStrategyEvidenceCandidates db context request = some loaded) :
    HighestConfidenceSurvives (request.publishedStatistics db context run)
        (selectStrategyEvidence platform loaded.candidates none) ↔
      ∀ statistic ∈ request.publishedStatistics db context run,
        ∀ other ∈ request.publishedStatistics db context run,
          (statisticCandidate other).category = (statisticCandidate statistic).category →
            request.CategoryFits platform db context run (statisticCandidate statistic).category →
              other.Outranks statistic →
                request.place platform db context run statistic <
                    strategyEvidenceCaps (statisticCandidate statistic).category →
                  request.place platform db context run other <
                    strategyEvidenceCaps (statisticCandidate statistic).category := by
  rw [← classes_iff hrun hloaded]
  refine ⟨HighestConfidenceSurvives.classes, fun hclasses => ⟨hclasses, ?_⟩⟩
  intro statistic hstatistic other hother hselected hpositive hpositive' hnone hsome
  exact effects_survive hrun hloaded hstatistic hother hselected (hpositive'.trans hpositive.symm)
    hnone hsome

/-! ### Nine statistics -/

namespace PlacesSample

/-- A statistic of the hook, with a class and an effect. -/
def statistic (id : String) (confidence : ConfidenceClass) (effect : ℚ) : PublishedStatistic where
  id := id
  workspaceId := "w"
  classificationReason := "effect"
  comparisonCount := 5
  confidence := confidence
  featurePath := "content.hook.category"
  featureValue := id
  groupCount := 5
  members := [id]
  metric := "engagement_count"
  relativeEffect := some effect
  sensitivityHoldsDirection := some true
  topContributorShare := none

/-- Eight statistics without enough evidence, of large effects. -/
def insufficient : List PublishedStatistic :=
  ["a", "b", "c", "d", "e", "f", "g", "h"].map fun id =>
    statistic id .insufficientEvidence (9 / 10)

def supported : PublishedStatistic := statistic "i" .statisticallySupportedAssociation (1 / 5)

def tables : StrategyEvidenceTables :=
  { PooledQuestion.Sample.tables with
    published := ⟨(insufficient ++ [supported]).map fun statistic => ⟨"w", "r", statistic.id⟩,
      by decide⟩
    statistics := insufficient ++ [supported] }

def request : StrategyEvidenceRequest := ⟨[], none, [], .engagementCount⟩

private theorem activeRun_eq : request.activeRun tables ⟨"w"⟩ = some PooledQuestion.Sample.run := by
  decide

def loaded : StrategyEvidenceCandidates :=
  (loadStrategyEvidenceCandidates tables ⟨"w"⟩ request).get (by decide)

private theorem loaded_eq : loadStrategyEvidenceCandidates tables ⟨"w"⟩ request = some loaded :=
  (Option.some_get _).symm

private theorem publishedStatistics_eq :
    request.publishedStatistics tables ⟨"w"⟩ PooledQuestion.Sample.run =
      insufficient ++ [supported] := rfl

def selection : StrategyEvidenceSelection :=
  selectStrategyEvidence StrategyManifest.Sample.lowerCase loaded.candidates none

/-- The place of one of them. -/
abbrev placeOf (statistic : PublishedStatistic) : ℕ :=
  request.place StrategyManifest.Sample.lowerCase tables ⟨"w"⟩ PooledQuestion.Sample.run statistic

private theorem positive_fits : request.CategoryFits StrategyManifest.Sample.lowerCase tables ⟨"w"⟩
    PooledQuestion.Sample.run .positiveStatistic := by
  unfold CategoryFits
  rw [estimate_le_iff, renderCandidates, units_intercalate (by decide)]
  decide +kernel

end PlacesSample

open PlacesSample

/-- The places of the nine statistics. -/
theorem highest_confidence_of_nine :
    HighestConfidenceSurvives (PlacesSample.request.publishedStatistics PlacesSample.tables ⟨"w"⟩
        PooledQuestion.Sample.run) PlacesSample.selection ↔
      ∀ statistic ∈ PlacesSample.request.publishedStatistics PlacesSample.tables ⟨"w"⟩
          PooledQuestion.Sample.run,
        ∀ other ∈ PlacesSample.request.publishedStatistics PlacesSample.tables ⟨"w"⟩
            PooledQuestion.Sample.run,
          (statisticCandidate other).category = (statisticCandidate statistic).category →
            PlacesSample.request.CategoryFits StrategyManifest.Sample.lowerCase PlacesSample.tables
                ⟨"w"⟩ PooledQuestion.Sample.run (statisticCandidate statistic).category →
              other.Outranks statistic →
                PlacesSample.placeOf statistic <
                    strategyEvidenceCaps (statisticCandidate statistic).category →
                  PlacesSample.placeOf other <
                    strategyEvidenceCaps (statisticCandidate statistic).category :=
  highest_confidence_survives_iff StrategyManifest.Sample.lowerCase tables ⟨"w"⟩
    request PooledQuestion.Sample.run loaded activeRun_eq
    loaded_eq

/-- **The strongest statistic is left out.** Eight statistics without enough evidence keep a
supported one out of the manifest, whose effect is smaller. -/
theorem supported_is_left_out : ¬ ∀ (platform : EvidencePlatform) (db : StrategyEvidenceTables)
    (context : WorkspaceContext) (request : StrategyEvidenceRequest) (run : AccountAnalyticsRun)
    (loaded : StrategyEvidenceCandidates), request.activeRun db context = some run →
    loadStrategyEvidenceCandidates db context request = some loaded →
      HighestConfidenceSurvives (request.publishedStatistics db context run)
        (selectStrategyEvidence platform loaded.candidates none) := by
  intro h
  have hsurvives := h StrategyManifest.Sample.lowerCase tables ⟨"w"⟩
    request PooledQuestion.Sample.run loaded activeRun_eq
    loaded_eq
  have hclasses := (classes_iff activeRun_eq loaded_eq).mp
    hsurvives.classes
  rw [publishedStatistics_eq] at hclasses
  have hcategory : ∀ statistic ∈ insufficient ++ [supported],
      (statisticCandidate statistic).category = .positiveStatistic := by decide +kernel
  have hweak : statistic "a" .insufficientEvidence (9 / 10) ∈
      insufficient ++ [supported] := mem_cons_self
  have hstrong : supported ∈ insufficient ++ [supported] :=
    mem_append_right _ (mem_singleton_self _)
  have houtranks : supported.Outranks
      (statistic "a" .insufficientEvidence (9 / 10)) := by
    unfold PublishedStatistic.Outranks
    decide
  have hfirst : placeOf (statistic "a" .insufficientEvidence (9 / 10)) =
      0 := by decide +kernel
  have hlast : placeOf supported = 8 := by decide +kernel
  have hplace := hclasses _ hweak _ hstrong
    ((hcategory _ hstrong).trans (hcategory _ hweak).symm)
  rw [hcategory _ hweak] at hplace
  have hbelow := hplace positive_fits houtranks (hfirst.trans_lt (by decide))
  exact absurd (hlast.symm.trans_lt hbelow) (by decide)

end StrategyEvidenceRequest

end ContentAutomation
