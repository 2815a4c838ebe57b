import ContentAutomation.Library.Joined
import ContentAutomation.Strategy.Manifest

/-!
# The budget of a manifest

A selection is cut to its budget by the summaries alone, whole categories from the back. The
text that is rendered from it also has a line for each entry and an indentation for each line
of a summary.
-/

namespace ContentAutomation

open JoinedText List

/-- The code units of a text. -/
def units (text : String) : ℕ := (Utf16.ofString text).length

namespace StrategyBudget

variable {platform : EvidencePlatform} {scope : StrategyManifestScope} {budget : ℕ}
  {candidates chosen kept kept' : List StrategyEvidenceCandidate}

/-! ### The length of a manifest -/

private theorem additiveSize_units : AdditiveSize units where
  empty := rfl
  append first rest := by
    unfold units
    rw [Utf16.ofString_append, length_append]

/-- An estimate is within a budget exactly if there are at most three code units a token. -/
theorem estimate_le_iff {text : String} :
    estimateStrategyPromptTokens text ≤ budget ↔ units text ≤ 3 * budget := by
  unfold estimateStrategyPromptTokens units
  omega

/-- The code units of joined words. -/
def joinedUnits (words : List String) : ℕ := (words.map units).sum + (words.length - 1)

/-- The code units of an entry's line. -/
def lineUnits (entry : StrategyEvidenceEntry) : ℕ :=
  65 + units entry.evidenceKey + units (word entry.evidenceType) +
    joinedUnits (entry.allowedRoles.map word) +
    units ((entry.classification.map word).getD "none") +
    (if entry.dimensions.isEmpty then 4 else joinedUnits (entry.dimensions.map word)) +
    (match entry.sampleSize with
      | none => 0
      | some sampleSize => 13 + units (toString sampleSize)) +
    if entry.requiredInLimitations then 30 else 0

/-- The lines of a text. -/
def lineCount (text : String) : ℕ := (text.toList.splitOn '\n').length

/-- The code units of an entry's note: its summary, and four spaces for each line of it. -/
def noteUnits (entry : StrategyEvidenceEntry) : ℕ :=
  4 + units entry.evidenceKey + units entry.summaryText + 4 * lineCount entry.summaryText

/-- The code units of a manifest. -/
def manifestUnits (scope : StrategyManifestScope) (entries : List StrategyEvidenceEntry) : ℕ :=
  296 + units (scope.instagramAccountId.getD "every linked account, pooled") +
    units scope.primaryMetric + units scope.ageWindow + units scope.publishedFrom +
    units scope.publishedTo + (entries.map lineUnits).sum + (entries.map noteUnits).sum +
    2 * (entries.length - 1)

theorem units_intercalate {separator : String} (h : units separator = 1) (words : List String) :
    units (separator.intercalate words) = joinedUnits words := by
  rw [additiveSize_units.intercalate, h, mul_one]
  rfl

private theorem units_manifestLine (entry : StrategyEvidenceEntry) :
    units (manifestLine entry) = lineUnits entry := by
  have hsize : ∀ first rest, units (first ++ rest) = units first + units rest :=
    additiveSize_units.append
  have hdash : units "- " = 2 := by decide
  have hsemicolon : units "; " = 2 := by decide
  have hid : units "evidenceId=" = 11 := by decide
  have htype : units "type=" = 5 := by decide
  have hroles : units "allowedRoles=" = 13 := by decide
  have hclass : units "classification=" = 15 := by decide
  have hdimensions : units "dimensions=" = 11 := by decide
  have hsample : units "sampleSize=" = 11 := by decide
  have hmark : units "mustAppearInLimitations=true" = 28 := by decide
  have hnone : units "none" = 4 := by decide
  have hbar : units "|" = 1 := by decide
  unfold manifestLine lineUnits
  rw [hsize, additiveSize_units.intercalate]
  cases hsampleSize : entry.sampleSize <;> cases hrequired : entry.requiredInLimitations <;>
    cases hempty : entry.dimensions.isEmpty <;>
    simp only [Option.map_none, Option.map_some, Option.toList_none, Option.toList_some,
      append_nil, cons_append, nil_append, map_cons, map_nil,
      sum_cons, sum_nil, length_cons, length_nil, hsize, hdash, hsemicolon,
      hid, htype, hroles, hclass, hdimensions, hsample, hmark, hnone, units_intercalate hbar,
      if_true, if_false, Bool.false_eq_true] <;>
    omega

private theorem units_indentEvidence (value : String) :
    units (indentEvidence value) = units value + 4 * lineCount value := by
  have hfeed : units "\n" = 1 := by decide
  have hspaces : units "    " = 4 := by decide
  have hvalue : "\n".intercalate ((value.toList.splitOn '\n').map String.ofList) = value := by
    apply String.toList_injective
    rw [String.toList_intercalate, map_map]
    have hid : (String.toList ∘ String.ofList) = id := by
      funext line
      simp
    rw [hid, map_id]
    exact intercalate_splitOn '\n'
  have hunits : units value = joinedUnits ((value.toList.splitOn '\n').map String.ofList) := by
    rw [← units_intercalate hfeed, hvalue]
  have hlines : ∀ lines : List (List Char),
      (((lines.map fun line => "    " ++ String.ofList line).map units).sum =
        ((lines.map String.ofList).map units).sum + 4 * lines.length) := by
    intro lines
    induction lines with
    | nil => rfl
    | cons line lines ih =>
      simp only [map_cons, sum_cons, length_cons, additiveSize_units.append,
        hspaces] at ih ⊢
      omega
  unfold indentEvidence lineCount
  rw [units_intercalate hfeed, hunits]
  unfold joinedUnits
  rw [hlines, length_map, length_map]
  omega

private theorem units_manifestNote (entry : StrategyEvidenceEntry) :
    units (manifestNote entry) = noteUnits entry := by
  have hdash : units "- " = 2 := by decide
  have hcolon : units ":\n" = 2 := by decide
  unfold manifestNote noteUnits
  rw [additiveSize_units.append, additiveSize_units.append, additiveSize_units.append,
    units_indentEvidence, hdash, hcolon]
  omega

/-- **The length of a manifest.** -/
theorem units_renderStrategyManifest (scope : StrategyManifestScope)
    (entries : List StrategyEvidenceEntry) :
    units (renderStrategyManifest scope entries) = manifestUnits scope entries := by
  have hfeed : units "\n" = 1 := by decide
  have hmetric : units ", metric " = 9 := by decide
  have hwindow : units ", observation window " = 21 := by decide
  have hperiod : units ", period " = 9 := by decide
  have hto : units " to " = 4 := by decide
  have hend : units ")\n\n" = 3 := by decide
  have hevidence : units "\n\nThe evidence itself:\n" = 23 := by decide
  have hnumbers : units
      "\n\nEvery number you state must appear above or be arithmetic you performed on numbers " =
        85 := by
    decide
  have hcalculation : units
      "that appear above. When it is your own calculation, say so and say how many posts it covers."
        = 92 := by
    decide
  have hstart : units "FROZEN EVIDENCE MANIFEST (untrusted data; account " = 50 := by
    decide
  have hlines : (entries.map manifestLine).map units = entries.map lineUnits := by
    rw [map_map]
    exact map_congr_left fun entry _ => units_manifestLine entry
  have hnotes : (entries.map manifestNote).map units = entries.map noteUnits := by
    rw [map_map]
    exact map_congr_left fun entry _ => units_manifestNote entry
  unfold renderStrategyManifest manifestBody manifestUnits
  simp only [additiveSize_units.append, units_intercalate hfeed, hmetric, hwindow, hperiod, hto,
    hend, hevidence, hstart, hnumbers, hcalculation]
  unfold joinedUnits
  rw [hlines, hnotes, length_map, length_map]
  omega

/-! ### What the budget keeps -/

/-- The candidates that the caps leave, in order. -/
def cappedEvidence (platform : EvidencePlatform) (candidates : List StrategyEvidenceCandidate) :
    List StrategyEvidenceCandidate :=
  ((candidates.insertionSort (precedes platform)).foldl EvidenceSelection.next
    EvidenceSelection.start).selected

/-- The candidates of the categories before a bound. -/
def frontOf (bound : ℕ) (chosen : List StrategyEvidenceCandidate) :
    List StrategyEvidenceCandidate :=
  chosen.filter fun candidate => categoryOrder candidate.category < bound

/-- The longest front of whole categories whose summaries fit the budget. -/
structure LongestFitting (budget : ℕ) (chosen kept : List StrategyEvidenceCandidate) : Prop where
  front : ∃ bound, kept = frontOf bound chosen
  fits : kept = [] ∨ units (renderCandidates kept) ≤ 3 * budget
  longest : ∀ bound, kept.length < (frontOf bound chosen).length →
    3 * budget < units (renderCandidates (frontOf bound chosen))

theorem frontOf_sublist {bound bound' : ℕ} (h : bound ≤ bound') :
    (frontOf bound chosen).Sublist (frontOf bound' chosen) := by
  apply monotone_filter_right
  intro candidate hlt
  simp only [decide_eq_true_eq] at hlt ⊢
  omega

/-- Of two fronts, the shorter is a part of the longer; two of one length are the same. -/
theorem frontOf_eq_of_length {bound bound' : ℕ}
    (h : (frontOf bound chosen).length = (frontOf bound' chosen).length) :
    frontOf bound chosen = frontOf bound' chosen := by
  rcases le_total bound bound' with hle | hle
  · exact (frontOf_sublist hle).eq_of_length h
  · exact ((frontOf_sublist hle).eq_of_length h.symm).symm

theorem LongestFitting.unique (h : LongestFitting budget chosen kept)
    (h' : LongestFitting budget chosen kept') : kept = kept' := by
  have hshorter : ∀ {first second : List StrategyEvidenceCandidate},
      LongestFitting budget chosen first → LongestFitting budget chosen second →
        ¬ first.length < second.length := by
    intro first second hfirst hsecond hlt
    obtain ⟨bound, rfl⟩ := hsecond.front
    have hover := hfirst.longest bound hlt
    rcases hsecond.fits with hnone | hfits
    · rw [hnone] at hlt
      exact absurd hlt (Nat.not_lt_zero _)
    · omega
  obtain ⟨bound, hkept⟩ := h.front
  obtain ⟨bound', hkept'⟩ := h'.front
  have hlength : kept.length = kept'.length :=
    le_antisymm (not_lt.mp (hshorter h' h)) (not_lt.mp (hshorter h h'))
  rw [hkept, hkept'] at hlength ⊢
  exact frontOf_eq_of_length hlength

theorem units_renderCandidates_le (h : kept.Sublist chosen) :
    units (renderCandidates kept) ≤ units (renderCandidates chosen) := by
  have hsum : (kept.map fun candidate => units candidate.summaryText).sum ≤
      (chosen.map fun candidate => units candidate.summaryText).sum :=
    (h.map _).sum_le_sum fun _ _ => Nat.zero_le _
  have hlength := h.length_le
  have hseparator : units "\n" = 1 := rfl
  unfold renderCandidates
  rw [units_intercalate hseparator, units_intercalate hseparator]
  unfold joinedUnits
  rw [map_map, map_map, length_map, length_map]
  exact Nat.add_le_add hsum (by omega)

/-- What is kept are the candidates whose summaries fit with all those of their category and of
the categories before it. -/
theorem LongestFitting.mem_iff (h : LongestFitting budget chosen kept)
    {candidate : StrategyEvidenceCandidate} : candidate ∈ kept ↔ candidate ∈ chosen ∧
      units (renderCandidates (frontOf (categoryOrder candidate.category + 1) chosen)) ≤
        3 * budget := by
  obtain ⟨bound, hkept⟩ := h.front
  constructor
  · intro hmem
    have hcandidate := mem_filter.mp (hkept ▸ hmem)
    have hfits : units (renderCandidates kept) ≤ 3 * budget :=
      h.fits.resolve_left fun hnil => by
        rw [hnil] at hmem
        cases hmem
    have hpart : (frontOf (categoryOrder candidate.category + 1) chosen).Sublist kept := by
      rw [hkept]
      exact frontOf_sublist (of_decide_eq_true hcandidate.2)
    exact ⟨hcandidate.1, (units_renderCandidates_le hpart).trans hfits⟩
  · rintro ⟨hmem, hfits⟩
    have hlength : ¬ kept.length < (frontOf (categoryOrder candidate.category + 1) chosen).length :=
      fun hlt => absurd (h.longest _ hlt) (not_lt.mpr hfits)
    have hfront : candidate ∈ frontOf (categoryOrder candidate.category + 1) chosen :=
      mem_filter.mpr ⟨hmem, by simp⟩
    rw [hkept] at hlength ⊢
    rcases le_total bound (categoryOrder candidate.category + 1) with hle | hle
    · rw [(frontOf_sublist hle).eq_of_length_le (not_lt.mp hlength)]
      exact hfront
    · exact (frontOf_sublist hle).subset hfront

private theorem InCategoryOrder.le_last {last candidate : StrategyEvidenceCandidate}
    (hordered : InCategoryOrder kept) (hlast : kept.getLast? = some last)
    (hmem : candidate ∈ kept) : categoryOrder candidate.category ≤ categoryOrder last.category := by
  obtain ⟨front, rfl⟩ := List.getLast?_eq_some_iff.mp hlast
  rcases mem_append.mp hmem with hfront | hself
  · exact (pairwise_append.mp hordered).2.2 candidate hfront last (mem_singleton_self _)
  · rw [mem_singleton.mp hself]

private theorem frontOf_drop {bound : ℕ} {last : StrategyEvidenceCandidate}
    (hordered : InCategoryOrder (frontOf bound chosen))
    (hlast : (frontOf bound chosen).getLast? = some last) :
    ((frontOf bound chosen).filter fun candidate => candidate.category ≠ last.category) =
      frontOf (categoryOrder last.category) chosen := by
  have hbound : categoryOrder last.category < bound := by
    simpa using (mem_filter.mp (mem_of_getLast? hlast)).2
  have hsame : ((frontOf bound chosen).filter fun candidate =>
        candidate.category ≠ last.category) =
      (frontOf bound chosen).filter fun candidate =>
        categoryOrder candidate.category < categoryOrder last.category := by
    apply filter_congr
    intro candidate hmem
    have hle := InCategoryOrder.le_last hordered hlast hmem
    by_cases heq : candidate.category = last.category
    · simp [heq]
    · have hne : categoryOrder candidate.category ≠ categoryOrder last.category :=
        fun hsame => heq (categoryOrder_injective hsame)
      rw [decide_eq_true heq, eq_comm]
      exact decide_eq_true (by omega)
  rw [hsame]
  unfold frontOf
  rw [filter_filter]
  apply filter_congr
  intro candidate _
  by_cases hlt : categoryOrder candidate.category < categoryOrder last.category
  · simp [hlt, hlt.trans hbound]
  · simp [hlt]

/-- What the rounds of `applyTokenBudget` leave is the longest front that fits, if every longer
one than they began with did not. -/
theorem longestFitting_applyTokenBudget {rounds bound : ℕ} (hordered : InCategoryOrder chosen)
    (trimmed : List StrategyEvidenceCategory) (hrounds : (frontOf bound chosen).length ≤ rounds)
    (hlonger : ∀ other, (frontOf bound chosen).length < (frontOf other chosen).length →
      3 * budget < units (renderCandidates (frontOf other chosen))) :
    LongestFitting budget chosen
      (applyTokenBudget budget rounds (frontOf bound chosen) trimmed).1 := by
  induction rounds generalizing bound trimmed with
  | zero =>
    have hnone := length_eq_zero_iff.mp (Nat.le_zero.mp hrounds)
    exact ⟨⟨bound, rfl⟩, Or.inl hnone, hlonger⟩
  | succ rounds ih =>
    have hfront : InCategoryOrder (frontOf bound chosen) := hordered.sublist filter_sublist
    unfold applyTokenBudget
    split
    · next hlast => exact ⟨⟨bound, rfl⟩, Or.inl (List.getLast?_eq_none_iff.mp hlast), hlonger⟩
    · next last hlast =>
      split
      · next hover =>
        have hmem := mem_of_getLast? hlast
        rw [frontOf_drop hfront hlast]
        have hshorter : (frontOf (categoryOrder last.category) chosen).length <
            (frontOf bound chosen).length := by
          rw [← frontOf_drop hfront hlast]
          exact length_filter_lt_length_iff_exists.mpr ⟨last, hmem, by simp⟩
        refine ih _ (by omega) fun other hlt => ?_
        rcases lt_or_ge (frontOf bound chosen).length (frontOf other chosen).length with hmore | hle
        · exact hlonger other hmore
        · -- a front that has the last candidate has all of the front that is over the budget
          have hother : categoryOrder last.category < other := by
            by_contra hnot
            exact absurd hlt (not_lt.mpr (frontOf_sublist (not_lt.mp hnot)).length_le)
          have hpart : (frontOf bound chosen).Sublist (frontOf other chosen) := by
            have hagain : frontOf bound chosen =
                (frontOf bound chosen).filter fun candidate =>
                  categoryOrder candidate.category < other := by
              refine (filter_eq_self.mpr fun candidate hcandidate => ?_).symm
              have hcategory := InCategoryOrder.le_last hfront hlast hcandidate
              simp only [decide_eq_true_eq]
              omega
            rw [hagain]
            exact filter_sublist.filter _
          rw [← hpart.eq_of_length_le hle]
          exact not_le.mp fun hfits => not_lt.mpr (estimate_le_iff.mpr hfits) hover
      · next hfits =>
        exact ⟨⟨bound, rfl⟩, Or.inr (estimate_le_iff.mp (not_lt.mp hfits)), hlonger⟩

theorem frontOf_all (chosen : List StrategyEvidenceCandidate) :
    frontOf strategyEvidenceCategories.length chosen = chosen := by
  apply filter_eq_self.mpr
  intro candidate _
  have hmem : candidate.category ∈ strategyEvidenceCategories :=
    Vocabulary.complete candidate.category
  exact decide_eq_true (idxOf_lt_length_iff.mpr hmem)

/-- **What a selection keeps**: of the candidates that the caps leave, the longest front of whole
categories whose summaries fit the budget. -/
theorem selected_longestFitting (platform : EvidencePlatform)
    (candidates : List StrategyEvidenceCandidate) (tokenBudget : Option ℕ) :
    ∃ kept, LongestFitting (tokenBudget.getD strategyInputTokenBudget)
        (cappedEvidence platform candidates) kept ∧
      (selectStrategyEvidence platform candidates tokenBudget).entries =
        rankEntries (fun _ => 0) kept := by
  have hordered : InCategoryOrder (cappedEvidence platform candidates) := by
    obtain ⟨added, hselected, hsublist⟩ := selected_sublist
      (candidates.insertionSort (precedes platform)) EvidenceSelection.start
    unfold cappedEvidence
    rw [hselected]
    exact (inCategoryOrder_insertionSort platform candidates).sublist hsublist
  refine ⟨_, ?_, rfl⟩
  have hall := frontOf_all (cappedEvidence platform candidates)
  have hshorter : ∀ other, ¬ (frontOf strategyEvidenceCategories.length
      (cappedEvidence platform candidates)).length <
        (frontOf other (cappedEvidence platform candidates)).length := by
    intro other hlt
    rw [hall] at hlt
    exact absurd hlt (not_lt.mpr filter_sublist.length_le)
  have hlongest : ∀ budget trimmed, LongestFitting budget (cappedEvidence platform candidates)
      (applyTokenBudget budget (cappedEvidence platform candidates).length
        (frontOf strategyEvidenceCategories.length (cappedEvidence platform candidates))
        trimmed).1 := fun budget trimmed =>
    longestFitting_applyTokenBudget hordered trimmed filter_sublist.length_le
      fun other hlt => absurd hlt (hshorter other)
  rw [hall] at hlongest
  exact hlongest _ _

/-- **When a manifest is within its budget.** The estimate of the text that is rendered from a
selection is within the budget of the selection exactly if the longest front of whole categories
whose summaries fit leaves room for the scope, a line for each of its entries and an indentation
for each line of a summary as well. -/
theorem within_budget_iff (platform : EvidencePlatform) (scope : StrategyManifestScope)
    (candidates : List StrategyEvidenceCandidate) (tokenBudget : Option ℕ) :
    estimateStrategyPromptTokens (renderStrategyManifest scope
        (selectStrategyEvidence platform candidates tokenBudget).entries) ≤
          tokenBudget.getD strategyInputTokenBudget ↔
      ∃ kept, LongestFitting (tokenBudget.getD strategyInputTokenBudget)
          (cappedEvidence platform candidates) kept ∧
        manifestUnits scope (rankEntries (fun _ => 0) kept) ≤
          3 * tokenBudget.getD strategyInputTokenBudget := by
  obtain ⟨kept, hkept, hentries⟩ := selected_longestFitting platform candidates tokenBudget
  rw [estimate_le_iff, units_renderStrategyManifest, hentries]
  constructor
  · intro hfits
    exact ⟨kept, hkept, hfits⟩
  · rintro ⟨other, hother, hfits⟩
    rwa [hkept.unique hother]

open StrategyManifest.Sample in
/-- **A manifest over its budget.** A summary of thirteen characters fits five tokens, and the
text that is rendered from it is far longer. -/
theorem over_budget : ¬ ∀ (platform : EvidencePlatform) (scope : StrategyManifestScope)
    (candidates : List StrategyEvidenceCandidate) (tokenBudget : Option ℕ),
      estimateStrategyPromptTokens (renderStrategyManifest scope
        (selectStrategyEvidence platform candidates tokenBudget).entries) ≤
          tokenBudget.getD strategyInputTokenBudget := by
  intro hall
  have hfits := hall lowerCase
    ⟨"day_30", some account, "engagement_rate_reach", "1970-01-01", "1970-01-02"⟩ [coverage]
    (some 5)
  rw [estimate_le_iff, units_renderStrategyManifest] at hfits
  revert hfits
  decide

end StrategyBudget

end ContentAutomation
