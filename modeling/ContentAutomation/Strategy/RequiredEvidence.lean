import ContentAutomation.Strategy.PostEvidence

/-!
# Required evidence under a budget

A candidate that has to be named among the limitations is marked as such where it is built, and
the budget drops whole categories from the back without a look at the mark. The candidate that
says how much of the scope could be seen is the only one of the last category, and so the first
that is dropped.
-/

namespace ContentAutomation

open StrategyBudget List EvidenceSelection

section Survival

variable (platform : EvidencePlatform) (candidates : List StrategyEvidenceCandidate)
  (tokenBudget : Option ℕ)

/-- The summaries of the required candidates fit the budget on their own. -/
def RequiredFit : Prop :=
  estimateStrategyPromptTokens
      (renderCandidates (candidates.filter StrategyEvidenceCandidate.requiredInLimitations)) ≤
    tokenBudget.getD strategyInputTokenBudget

instance : Decidable (RequiredFit candidates tokenBudget) := inferInstanceAs (Decidable (_ ≤ _))

/-- Required evidence survives the budget: where it fits on its own, every required candidate that
the caps admit is selected. -/
def RequiredSurvives : Prop :=
  RequiredFit candidates tokenBudget → ∀ candidate ∈ cappedEvidence platform candidates,
    candidate.requiredInLimitations = true →
      candidate ∈ (selectStrategyEvidence platform candidates tokenBudget).entries.map
        StrategyEvidenceEntry.toStrategyEvidenceCandidate

/-- What is admitted up to the category of a candidate fits the budget. -/
def FitsUpTo (candidate : StrategyEvidenceCandidate) : Prop :=
  estimateStrategyPromptTokens (renderCandidates
      (frontOf (categoryOrder candidate.category + 1) (cappedEvidence platform candidates))) ≤
    tokenBudget.getD strategyInputTokenBudget

/-- The manifest of a loaded scope says how much of it could be seen. -/
def CoverageSurvives (db : StrategyEvidenceTables) (context : WorkspaceContext)
    (request : StrategyEvidenceRequest) : Prop :=
  ∀ loaded, loadStrategyEvidenceCandidates db context request = some loaded →
    ∃ entry ∈ (selectStrategyEvidence platform loaded.candidates tokenBudget).entries,
      entry.evidenceType = .dataQuality ∧ entry.requiredInLimitations = true

/-- All that is admitted of a loaded scope fits the budget. -/
def LoadedFits (db : StrategyEvidenceTables) (context : WorkspaceContext)
    (request : StrategyEvidenceRequest) : Prop :=
  ∀ loaded, loadStrategyEvidenceCandidates db context request = some loaded →
    estimateStrategyPromptTokens (renderCandidates (cappedEvidence platform loaded.candidates)) ≤
      tokenBudget.getD strategyInputTokenBudget

variable {platform candidates tokenBudget} {candidate : StrategyEvidenceCandidate}

private theorem selected_iff_fitsUpTo (hadmitted : candidate ∈ cappedEvidence platform candidates) :
    candidate ∈ (selectStrategyEvidence platform candidates tokenBudget).entries.map
        StrategyEvidenceEntry.toStrategyEvidenceCandidate ↔
      FitsUpTo platform candidates tokenBudget candidate := by
  obtain ⟨kept, hkept, hentries⟩ := selected_longestFitting platform candidates tokenBudget
  rw [hentries, map_rankEntries, hkept.mem_iff, and_iff_right hadmitted]
  exact estimate_le_iff.symm

private theorem admitted_of_selected {entry : StrategyEvidenceEntry}
    (h : entry ∈ (selectStrategyEvidence platform candidates tokenBudget).entries) :
    entry.toStrategyEvidenceCandidate ∈ cappedEvidence platform candidates := by
  obtain ⟨kept, hkept, hentries⟩ := selected_longestFitting platform candidates tokenBudget
  rw [hentries] at h
  exact (hkept.mem_iff.mp (of_mem_rankEntries h).1).1

private theorem read_of_admitted (h : candidate ∈ cappedEvidence platform candidates) :
    candidate ∈ candidates := by
  rw [← frontOf_all (cappedEvidence platform candidates), frontOf_capped] at h
  exact (mem_front platform candidates h).1

end Survival

/-! ### The coverage of a scope -/

namespace StrategyEvidenceRequest

variable {platform : EvidencePlatform} {db : StrategyEvidenceTables} {context : WorkspaceContext}
  {request : StrategyEvidenceRequest} {run : AccountAnalyticsRun}
  {loaded : StrategyEvidenceCandidates} {candidate : StrategyEvidenceCandidate}

private theorem referenceKey_take_one (candidate : StrategyEvidenceCandidate) :
    (referenceKey candidate).toList.take 1 = (word candidate.evidenceType).toList.take 1 := by
  unfold referenceKey
  simp only [String.toList_append, append_assoc]
  cases candidate.evidenceType <;> exact take_append_of_le_length (by decide)

/-- A candidate that is read is the coverage, or of another type and an earlier category. -/
theorem of_read (hrun : request.activeRun db context = some run)
    (hloaded : loadStrategyEvidenceCandidates db context request = some loaded) :
    ∃ analysed comparable, coverageCandidate run request analysed comparable ∈ loaded.candidates ∧
      (∀ candidate ∈ loaded.candidates,
        candidate = coverageCandidate run request analysed comparable ∨
          (candidate.evidenceType = .featureStatistic ∨ candidate.evidenceType = .post ∨
            candidate.evidenceType = .recentRecommendation) ∧ candidate.category ≠ .dataQuality) ∧
      (loaded.candidates.filter fun candidate => decide (candidate.category = .dataQuality)) =
        [coverageCandidate run request analysed comparable] := by
  obtain ⟨analysed, comparable, heq⟩ := candidates_of_loaded hrun hloaded
  have hother : ∀ candidate ∈ (request.publishedStatistics db context run).map statisticCandidate ++
        request.postCandidates db context run ++
        (request.priorGenerations db context).zipIdx.map (fun entry =>
          generationCandidate entry.1 entry.2),
      (candidate.evidenceType = .featureStatistic ∨ candidate.evidenceType = .post ∨
        candidate.evidenceType = .recentRecommendation) ∧ candidate.category ≠ .dataQuality := by
    intro candidate hcandidate
    simp only [mem_append, mem_map] at hcandidate
    rcases hcandidate with (⟨statistic, -, rfl⟩ | hpost) | ⟨entry, -, rfl⟩
    · refine ⟨Or.inl rfl, ?_⟩
      rcases statisticCandidate_category statistic with hsame | hsame | hsame <;> rw [hsame] <;>
        decide
    · obtain ⟨entry, -, hpost⟩ := mem_filterMap.mp hpost
      refine ⟨Or.inr (Or.inl (of_postCandidate hpost).2.1), ?_⟩
      rcases (of_postCandidate hpost).1 with hsame | hsame <;> rw [hsame] <;> decide
    · exact ⟨Or.inr (Or.inr rfl), by simp [generationCandidate]⟩
  refine ⟨analysed, comparable, ?_, ?_, ?_⟩
  · rw [heq]
    exact mem_append_right _ (mem_singleton_self _)
  · intro candidate hcandidate
    rw [heq] at hcandidate
    rcases mem_append.mp hcandidate with hcandidate | hcandidate
    · exact Or.inr (hother candidate hcandidate)
    · exact Or.inl (mem_singleton.mp hcandidate)
  · rw [heq, filter_append, filter_eq_nil_iff.mpr fun candidate hcandidate =>
      by simpa using (hother candidate hcandidate).2]
    rfl

variable (platform) in
/-- The coverage of a loaded scope is admitted. -/
theorem coverage_admitted (hrun : request.activeRun db context = some run)
    (hloaded : loadStrategyEvidenceCandidates db context request = some loaded) :
    ∃ analysed comparable, coverageCandidate run request analysed comparable ∈
        cappedEvidence platform loaded.candidates ∧
      ∀ candidate ∈ loaded.candidates, candidate.evidenceType = .dataQuality →
        candidate = coverageCandidate run request analysed comparable := by
  obtain ⟨analysed, comparable, -, hread, hlast⟩ := of_read hrun hloaded
  refine ⟨analysed, comparable, ?_, ?_⟩
  · have hcounted := counted_front platform loaded.candidates
      (categoryOrder .dataQuality)
    have htakes : (front platform loaded.candidates
        (categoryOrder .dataQuality)).takes
          (coverageCandidate run request analysed comparable) = true := by
      refine hcounted.takes_iff.mpr ⟨?_, ?_, nofun, nofun⟩
      · -- what was selected before is of another type
        intro hseen
        obtain ⟨other, hother, hsame⟩ := mem_map.mp hseen
        obtain ⟨hmem, hbefore⟩ := mem_front platform loaded.candidates hother
        have hletter := congrArg (fun text : String => text.toList.take 1) hsame
        simp only [referenceKey_take_one] at hletter
        rcases hread other hmem with rfl | ⟨htype, -⟩
        · exact lt_irrefl _ hbefore
        · change _ = (word StrategyEvidenceType.dataQuality).toList.take 1 at hletter
          rcases htype with htype | htype | htype <;> rw [htype] at hletter <;>
            exact absurd hletter (by decide)
      · have hnone := countP_front platform loaded.candidates .dataQuality
        change (front platform loaded.candidates
          (categoryOrder .dataQuality)).selected.countP _ < 8
        rw [show (coverageCandidate run request analysed comparable).category =
          .dataQuality from rfl, hnone]
        decide
    have hfront := frontOf_capped platform loaded.candidates
      (categoryOrder .dataQuality + 1)
    rw [front_succ, hlast, insertionSort_cons, insertionSort_nil, orderedInsert_nil, foldl_cons,
      foldl_nil, selected_next, if_pos htakes] at hfront
    have hmem : coverageCandidate run request analysed comparable ∈
        frontOf (categoryOrder .dataQuality + 1) (cappedEvidence platform loaded.candidates) := by
      rw [hfront]
      exact mem_append_right _ (mem_singleton_self _)
    exact mem_of_mem_filter hmem
  · intro candidate hcandidate htype
    refine (hread candidate hcandidate).resolve_right fun hother => ?_
    rcases hother.1 with hother | hother | hother <;> rw [hother] at htype <;> cases htype

/-- The coverage of a scope is in its manifest exactly if all that is admitted fits the budget. -/
theorem coverageSurvives_iff (platform : EvidencePlatform) (db : StrategyEvidenceTables)
    (context : WorkspaceContext) (request : StrategyEvidenceRequest) (tokenBudget : Option ℕ) :
    CoverageSurvives platform tokenBudget db context request ↔
      LoadedFits platform tokenBudget db context request := by
  refine forall₂_congr fun loaded hloaded => ?_
  obtain ⟨run, hrun, -⟩ := Option.map_eq_some_iff.mp hloaded
  obtain ⟨analysed, comparable, hadmitted, honly⟩ := coverage_admitted platform hrun hloaded
  have hfits : coverageCandidate run request analysed comparable ∈ _ ↔
      FitsUpTo platform loaded.candidates tokenBudget _ := selected_iff_fitsUpTo hadmitted
  have hall : frontOf (categoryOrder (coverageCandidate run request analysed comparable).category + 1)
      (cappedEvidence platform loaded.candidates) = cappedEvidence platform loaded.candidates :=
    frontOf_all _
  unfold FitsUpTo at hfits
  rw [hall] at hfits
  rw [← hfits]
  constructor
  · rintro ⟨entry, hentry, htype, -⟩
    have hread := read_of_admitted (admitted_of_selected hentry)
    rw [← honly entry.toStrategyEvidenceCandidate hread htype]
    exact mem_map_of_mem hentry
  · intro hselected
    obtain ⟨entry, hentry, hcoverage⟩ := mem_map.mp hselected
    refine ⟨entry, hentry, ?_, ?_⟩ <;> rw [hcoverage] <;> rfl

end StrategyEvidenceRequest

/-- **When required evidence survives the budget**: exactly where each required candidate that is
admitted fits together with all that is admitted of its category and of the categories before it.
The coverage of a scope is of the last category, so it survives exactly where everything fits. -/
theorem required_survives_iff (platform : EvidencePlatform) :
    (∀ candidates tokenBudget, RequiredSurvives platform candidates tokenBudget ↔
      (RequiredFit candidates tokenBudget → ∀ candidate ∈ cappedEvidence platform candidates,
        candidate.requiredInLimitations = true →
          FitsUpTo platform candidates tokenBudget candidate)) ∧
    ∀ db context request tokenBudget, CoverageSurvives platform tokenBudget db context request ↔
      LoadedFits platform tokenBudget db context request := by
  constructor
  · intro candidates tokenBudget
    refine imp_congr_right fun _ => forall₂_congr fun candidate hadmitted => ?_
    exact imp_congr_right fun _ => selected_iff_fitsUpTo hadmitted
  · intro db context request tokenBudget
    exact StrategyEvidenceRequest.coverageSurvives_iff platform db context request tokenBudget

open StrategyManifest.Sample in
/-- **Coverage that is dropped.** Five tokens are enough for the coverage, but not for a statistic
before it as well, and the budget keeps the statistic. -/
theorem coverage_is_dropped : ¬ ∀ (platform : EvidencePlatform)
    (candidates : List StrategyEvidenceCandidate) (tokenBudget : Option ℕ),
      RequiredSurvives platform candidates tokenBudget := by
  intro hall
  have hadmitted : (cappedEvidence lowerCase [statistic, coverage])[1]? = some coverage := by
    decide
  have hselected : ((selectStrategyEvidence lowerCase [statistic, coverage] (some 5)).entries.map
      StrategyEvidenceEntry.toStrategyEvidenceCandidate).map
        StrategyEvidenceCandidate.category = [.positiveStatistic] := by
    decide
  have hfit : RequiredFit [statistic, coverage] (some 5) := by
    decide
  have hkept := hall lowerCase [statistic, coverage] (some 5) hfit coverage
    (mem_of_getElem? hadmitted) rfl
  have hcategory := mem_map_of_mem (f := StrategyEvidenceCandidate.category) hkept
  rw [hselected] at hcategory
  exact absurd hcategory (by decide)

end ContentAutomation
