import ContentAutomation.Strategy.Contract
import ContentAutomation.Strategy.PostEvidence

/-!
# The caps and the claims of a selection

Candidates are taken in the order of their categories and ranks, each one if its reference is new,
if its category and the manifest have room for it, and if no post of its own was claimed before it.
Whole categories are then dropped from the back until the summaries fit the budget, and each of
the rest is keyed by its category and rank.
-/

namespace ContentAutomation

open List Function StrategyBudget

/-! ### The keys of a manifest -/

/-- The key of the entry of a category at a rank. -/
def evidenceKeyOf (category : StrategyEvidenceCategory) (rank : ℕ) : String :=
  categoryPrefixes category ++ "_" ++ toString rank

private theorem isDigit_of_mem_rank {rank : ℕ} {c : Char} (h : c ∈ (toString rank).toList) :
    Text.isDigit c := by
  have hdigit : c.isDigit = true :=
    Nat.isDigit_of_mem_toDigits (b := 10) (n := rank) (by omega) (by omega) (by simpa using h)
  simpa [Char.isDigit, Text.isDigit, Char.le_def] using hdigit

private theorem prefix_isEvidenceId (category : StrategyEvidenceCategory) :
    Text.leadingThenBounded (fun c => Text.isAlphanumeric c || c == '_' || c == '-')
      (fun c => Text.isAlphanumeric c || c == '_' || c == '-') 10 (categoryPrefixes category) =
        true := by
  cases category <;> decide

theorem isEvidenceId_evidenceKeyOf (category : StrategyEvidenceCategory) {rank : ℕ}
    (hrank : rank < 30) : isEvidenceId (evidenceKeyOf category rank) := by
  have hlength : (toString rank).toList.length ≤ 2 := by
    have hdigits : (Nat.toDigits 10 rank).length ≤ 2 :=
      (Nat.length_toDigits_le_iff (by omega) (by omega)).mpr (by omega)
    simpa using hdigits
  have hunderscore : "_".toList = ['_'] := rfl
  have hkey := Text.leadingThenBounded_append 69 ("_" ++ toString rank)
    (prefix_isEvidenceId category) (fun c hc => by
      rw [String.toList_append, hunderscore] at hc
      rcases mem_cons.mp hc with rfl | hc
      · decide
      · simp [Text.isAlphanumeric, isDigit_of_mem_rank hc]) (by
      rw [String.toList_append, hunderscore, length_append, length_singleton]
      omega)
  rw [← String.append_assoc] at hkey
  exact hkey

private theorem rank_of_evidenceKeyOf (category : StrategyEvidenceCategory) (rank : ℕ) :
    (evidenceKeyOf category rank).toList.reverse.takeWhile (fun c => c != '_') =
      (toString rank).toList.reverse := by
  have hunderscore : "_".toList = ['_'] := rfl
  unfold evidenceKeyOf
  rw [String.toList_append, String.toList_append, hunderscore, reverse_append,
    reverse_append, takeWhile_append_of_pos]
  · simp
  · intro c hc
    have hdigit := isDigit_of_mem_rank (mem_reverse.mp hc)
    rw [bne_iff_ne]
    rintro rfl
    exact absurd hdigit (by decide)

private theorem evidenceKeyOf_inj {category category' : StrategyEvidenceCategory} {rank rank' : ℕ}
    (hrank : rank < 30) (hrank' : rank' < 30)
    (h : evidenceKeyOf category rank = evidenceKeyOf category' rank') :
    category = category' ∧ rank = rank' := by
  have hnumbers : ∀ first < 30, ∀ second < 30,
      (toString first).toList.reverse = (toString second).toList.reverse → first = second := by
    decide
  have hsame : rank = rank' := by
    refine hnumbers _ hrank _ hrank' ?_
    rw [← rank_of_evidenceKeyOf category rank, h, rank_of_evidenceKeyOf category' rank']
  subst hsame
  have hprefix : categoryPrefixes category = categoryPrefixes category' := by
    unfold evidenceKeyOf at h
    simpa only [String.append_assoc, String.append_left_inj] using h
  refine ⟨?_, rfl⟩
  revert hprefix
  cases category <;> cases category' <;> decide

private theorem key_of_mem_rankEntries {ranks : StrategyEvidenceCategory → ℕ}
    {candidates : List StrategyEvidenceCandidate} {entry : StrategyEvidenceEntry}
    (h : entry ∈ rankEntries ranks candidates) :
    entry.evidenceKey = evidenceKeyOf entry.category entry.rank ∧
      entry.rank < ranks entry.category +
        candidates.countP fun candidate => decide (candidate.category = entry.category) := by
  induction candidates generalizing ranks with
  | nil => cases h
  | cons candidate candidates ih =>
    rcases mem_cons.mp h with rfl | htail
    · refine ⟨rfl, ?_⟩
      simp
    · obtain ⟨hkey, hrank⟩ := ih htail
      refine ⟨hkey, ?_⟩
      by_cases hsame : entry.category = candidate.category
      · rw [hsame, update_self] at hrank
        rw [hsame, countP_cons_of_pos (by simp)]
        omega
      · rw [update_of_ne hsame] at hrank
        rw [countP_cons_of_neg (by simpa using Ne.symm hsame)]
        exact hrank

theorem EvidenceSelection.Counted.countP_le {state : EvidenceSelection} (h : state.Counted)
    (hcaps : ∀ category, (state.selected.countP fun candidate =>
      decide (candidate.category = category)) ≤ strategyEvidenceCaps category)
    (rows : List StrategyEvidenceCandidate) (category : StrategyEvidenceCategory) :
    ((rows.foldl EvidenceSelection.next state).selected.countP fun candidate =>
      decide (candidate.category = category)) ≤ strategyEvidenceCaps category := by
  induction rows generalizing state with
  | nil => exact hcaps category
  | cons row rows ih =>
    refine ih (h.next row) fun other => ?_
    rw [EvidenceSelection.selected_next]
    split_ifs with htaken
    · by_cases hsame : row.category = other
      · have hroom := (h.takes_iff.mp htaken).2.1
        rw [hsame] at hroom
        rw [countP_append, countP_singleton, if_pos (by simpa using hsame)]
        exact hroom
      · rw [countP_append, countP_singleton, if_neg (by simpa using hsame)]
        exact hcaps other
    · exact hcaps other

section Entries

variable {platform : EvidencePlatform} {candidates : List StrategyEvidenceCandidate}
  {tokenBudget : Option ℕ} {entry other : StrategyEvidenceEntry}

variable (platform candidates tokenBudget) in
theorem countP_entries_le (category : StrategyEvidenceCategory) :
    ((selectStrategyEvidence platform candidates tokenBudget).entries.countP fun entry =>
      decide (entry.category = category)) ≤ strategyEvidenceCaps category := by
  obtain ⟨kept, hkept, hentries⟩ := selected_longestFitting platform candidates tokenBudget
  have hmap : ((rankEntries (fun _ => 0) kept).countP fun entry =>
      decide (entry.category = category)) =
      kept.countP fun candidate => decide (candidate.category = category) := by
    conv_rhs => rw [← map_rankEntries (fun _ => 0) kept]
    rw [countP_map]
    rfl
  obtain ⟨bound, rfl⟩ := hkept.front
  rw [hentries, hmap]
  refine (filter_sublist.countP_le).trans ?_
  exact EvidenceSelection.counted_start.countP_le (fun _ => Nat.zero_le _) _ category

/-- An entry is a candidate, under a key of its category whose rank is below its cap. -/
theorem of_mem_entries (h : entry ∈ (selectStrategyEvidence platform candidates tokenBudget).entries) :
    entry.toStrategyEvidenceCandidate ∈ candidates ∧
      entry.evidenceKey = evidenceKeyOf entry.category entry.rank ∧ entry.rank < 30 := by
  have hcap := countP_entries_le platform candidates tokenBudget entry.category
  obtain ⟨kept, hkept, hentries⟩ := selected_longestFitting platform candidates tokenBudget
  have hmap : ((rankEntries (fun _ => 0) kept).countP fun other =>
      decide (other.category = entry.category)) =
      kept.countP fun candidate => decide (candidate.category = entry.category) := by
    conv_rhs => rw [← map_rankEntries (fun _ => 0) kept]
    rw [countP_map]
    rfl
  rw [hentries] at h hcap
  rw [hmap] at hcap
  obtain ⟨hkey, hrank⟩ := key_of_mem_rankEntries h
  obtain ⟨bound, hfront⟩ := hkept.front
  have hmem : entry.toStrategyEvidenceCandidate ∈
      cappedEvidence platform candidates := by
    have hkeptMem := (of_mem_rankEntries h).1
    rw [hfront] at hkeptMem
    exact mem_of_mem_filter hkeptMem
  have hread : entry.toStrategyEvidenceCandidate ∈ candidates := by
    obtain ⟨added, hselected, hsublist⟩ := selected_sublist
      (candidates.insertionSort (precedes platform)) EvidenceSelection.start
    unfold cappedEvidence at hmem
    rw [hselected] at hmem
    exact (mem_insertionSort _).mp (hsublist.subset hmem)
  have hthirty : strategyEvidenceCaps entry.category ≤ 30 := by
    cases entry.category <;> decide
  exact ⟨hread, hkey, by omega⟩

theorem nodup_keys :
    ((selectStrategyEvidence platform candidates tokenBudget).entries.map (·.evidenceKey)).Nodup := by
  rw [List.Nodup, pairwise_map]
  refine (pairwise_selectStrategyEvidence platform candidates tokenBudget).imp_of_mem ?_
  intro entry other hentry hother hbefore hsame
  obtain ⟨-, hkey, hrank⟩ := of_mem_entries hentry
  obtain ⟨-, hkey', hrank'⟩ := of_mem_entries hother
  rw [hkey, hkey'] at hsame
  obtain ⟨hcategory, hranks⟩ := evidenceKeyOf_inj hrank hrank' hsame
  rcases hbefore with hlt | ⟨-, hlt⟩
  · rw [hcategory] at hlt
    exact lt_irrefl _ hlt
  · omega

end Entries

/-! ### What the caps keep -/

/-- The candidates of a category, counted. -/
def countOf (category : StrategyEvidenceCategory) (rows : List StrategyEvidenceCandidate) : ℕ :=
  rows.countP fun candidate => decide (candidate.category = category)

/-- A candidate of a post uses no post that the one before it uses. -/
def SeparatePosts (before candidate : StrategyEvidenceCandidate) : Prop :=
  isPost candidate = true → ∀ postId ∈ candidate.postIds, postId ∉ before.postIds

namespace EvidenceSelection

/-- What has been selected of some candidates is within the caps, and what is trimmed is what has
lost one of them. -/
structure Bounded (state : EvidenceSelection) (rows : List StrategyEvidenceCandidate) : Prop where
  counted : state.Counted
  references : (state.selected.map referenceKey).Nodup
  separate : state.selected.Pairwise SeparatePosts
  caps : ∀ category, countOf category state.selected ≤ strategyEvidenceCaps category
  posts : state.selected.countP isPost ≤ strategyManifestPostCap
  statistics : state.selected.countP isStatistic ≤ strategyManifestStatisticCap
  fewer : ∀ category, countOf category state.selected ≤ countOf category rows
  trimmed : ∀ category, category ∈ state.trimmed ↔
    countOf category state.selected < countOf category rows

variable {state : EvidenceSelection} {rows : List StrategyEvidenceCandidate}

private theorem bounded_start : Bounded start [] where
  counted := counted_start
  references := nodup_nil
  separate := Pairwise.nil
  caps _ := Nat.zero_le _
  posts := Nat.zero_le _
  statistics := Nat.zero_le _
  fewer _ := le_rfl
  trimmed _ := iff_of_false not_mem_nil (lt_irrefl _)

private theorem countOf_concat (category : StrategyEvidenceCategory)
    (rows : List StrategyEvidenceCandidate) (candidate : StrategyEvidenceCandidate) :
    countOf category (rows ++ [candidate]) =
      countOf category rows + if candidate.category = category then 1 else 0 := by
  simp [countOf, countP_append, countP_singleton]

/-- A candidate that is taken keeps the caps. -/
theorem Bounded.take (h : Bounded state rows) {candidate : StrategyEvidenceCandidate}
    (htaken : state.takes candidate) :
    Bounded (state.take candidate) (rows ++ [candidate]) := by
  obtain ⟨hreference, hcap, hstatistics, hposts⟩ := h.counted.takes_iff.mp htaken
  have hnext : state.next candidate = state.take candidate := if_pos htaken
  have hfewer := h.fewer
  have hcaps := h.caps
  constructor
  case counted =>
    rw [← hnext]
    exact h.counted.next candidate
  case references =>
    change ((state.selected ++ [candidate]).map referenceKey).Nodup
    rw [map_append, map_singleton, ← concat_eq_append]
    exact h.references.concat hreference
  case separate =>
    refine pairwise_append.mpr ⟨h.separate, pairwise_singleton _ _, ?_⟩
    intro before hbefore other hother hpost postId hpostId hused
    obtain rfl := mem_singleton.mp hother
    exact (hposts hpost).1 postId hpostId (mem_flatMap.mpr ⟨before, hbefore, hused⟩)
  case caps =>
    intro category
    have hcategory := hcaps category
    change countOf category (state.selected ++ [candidate]) ≤ _
    rw [countOf_concat]
    split_ifs with hsame
    · subst hsame
      exact hcap
    · exact hcategory
  case posts =>
    change (state.selected ++ [candidate]).countP isPost ≤ _
    have hle := h.posts
    rw [countP_append, countP_singleton]
    split_ifs with hpost
    · exact (hposts hpost).2
    · exact hle
  case statistics =>
    change (state.selected ++ [candidate]).countP isStatistic ≤ _
    have hle := h.statistics
    rw [countP_append, countP_singleton]
    split_ifs with hstatistic
    · exact hstatistics hstatistic
    · exact hle
  case fewer =>
    intro category
    change countOf category (state.selected ++ [candidate]) ≤ _
    rw [countOf_concat, countOf_concat]
    exact Nat.add_le_add_right (hfewer category) _
  case trimmed =>
    intro category
    change category ∈ state.trimmed ↔ countOf category (state.selected ++ [candidate]) < _
    rw [countOf_concat, countOf_concat, h.trimmed, Nat.add_lt_add_iff_right]

theorem Bounded.skip (h : Bounded state rows) (candidate : StrategyEvidenceCandidate) :
    Bounded { state with trimmed := state.trimmed.insert candidate.category }
      (rows ++ [candidate]) where
  counted := ⟨h.counted.seen, h.counted.claimed, h.counted.perCategory, h.counted.posts,
    h.counted.statistics⟩
  references := h.references
  separate := h.separate
  caps := h.caps
  posts := h.posts
  statistics := h.statistics
  fewer category := by
    rw [countOf_concat]
    exact (h.fewer category).trans (Nat.le_add_right _ _)
  trimmed category := by
    have hfewer := h.fewer category
    have htrimmed := h.trimmed category
    rw [countOf_concat, mem_insert_iff]
    split_ifs with hsame
    · exact iff_of_true (.inl hsame.symm) (by dsimp only; omega)
    · rw [Nat.add_zero, htrimmed, or_iff_right (Ne.symm hsame)]

theorem Bounded.next (h : Bounded state rows) (candidate : StrategyEvidenceCandidate) :
    Bounded (state.next candidate) (rows ++ [candidate]) := by
  unfold EvidenceSelection.next
  split
  · next htaken => exact h.take htaken
  · exact h.skip candidate

theorem Bounded.foldl (h : Bounded state rows) (more : List StrategyEvidenceCandidate) :
    Bounded (more.foldl EvidenceSelection.next state) (rows ++ more) := by
  induction more generalizing state rows with
  | nil => rwa [append_nil]
  | cons candidate more ih =>
    have hmore := ih (h.next candidate)
    rwa [append_assoc, singleton_append] at hmore

end EvidenceSelection

open EvidenceSelection

/-! ### What the budget drops -/

/-- The budget reports the categories that it drops. -/
theorem applyTokenBudget_trimmed (budget rounds : ℕ) (kept : List StrategyEvidenceCandidate)
    (trimmed : List StrategyEvidenceCategory) (category : StrategyEvidenceCategory) :
    category ∈ (applyTokenBudget budget rounds kept trimmed).2 ↔ category ∈ trimmed ∨
      countOf category (applyTokenBudget budget rounds kept trimmed).1 < countOf category kept := by
  induction rounds generalizing kept trimmed with
  | zero => simp [applyTokenBudget]
  | succ rounds ih =>
    unfold applyTokenBudget
    split
    · simp
    · next last hlast =>
      split
      · rw [ih, mem_insert_iff]
        have hle := (applyTokenBudget_sublist budget rounds
          (kept.filter fun candidate => candidate.category ≠ last.category)
          (trimmed.insert last.category)).countP_le
            (p := fun candidate => decide (candidate.category = category))
        by_cases hsame : category = last.category
        · -- no candidate of the category is left
          subst hsame
          have hnone : countOf last.category
              (kept.filter fun candidate => candidate.category ≠ last.category) = 0 := by
            simp [countOf, countP_filter]
          have hsome : 0 < countOf last.category kept :=
            countP_pos_iff.mpr ⟨last, mem_of_getLast? hlast, by simp⟩
          have hzero := hle.trans hnone.le
          exact iff_of_true (.inl (.inl rfl)) (.inr (lt_of_le_of_lt hzero hsome))
        · have hkept : countOf category
              (kept.filter fun candidate => candidate.category ≠ last.category) =
                countOf category kept := by
            simp only [countOf, countP_filter]
            refine countP_congr fun candidate _ => ?_
            simp only [Bool.and_eq_true, decide_eq_true_eq]
            exact ⟨And.left, fun h => ⟨h, by rw [h]; exact hsame⟩⟩
          rw [hkept, or_iff_right hsame]
      · simp

/-! ### What is selected -/

/-- A candidate that was selected before another one claims its reference or, of a post, one of its
posts. -/
def DisplacedBy (platform : EvidencePlatform) (candidates : List StrategyEvidenceCandidate)
    (candidate claimant : StrategyEvidenceCandidate) : Prop :=
  ∃ before after, candidates.insertionSort (precedes platform) = before ++ candidate :: after ∧
    claimant ∈ (before.foldl next start).selected ∧
    (referenceKey claimant = referenceKey candidate ∨ ¬ SeparatePosts claimant candidate)

/-- The ranks of the entries of a category. -/
def ranksOf (category : StrategyEvidenceCategory) (entries : List StrategyEvidenceEntry) : List ℕ :=
  (entries.filter fun entry => decide (entry.category = category)).map (·.rank)

/-- The caps and the claims of a selection: what is selected of some candidates within a budget. -/
structure SelectionKeepsCaps (platform : EvidencePlatform)
    (candidates : List StrategyEvidenceCandidate) (tokenBudget : Option ℕ)
    (selection : StrategyEvidenceSelection) : Prop where
  keys : (selection.entries.map (·.evidenceKey)).Nodup
  references : (selection.entries.map fun entry =>
    referenceKey entry.toStrategyEvidenceCandidate).Nodup
  ranks : ∀ category, ranksOf category selection.entries =
    List.range (selection.entries.countP fun entry => decide (entry.category = category))
  caps : ∀ category, (selection.entries.countP fun entry => decide (entry.category = category)) ≤
    strategyEvidenceCaps category
  posts : (selection.entries.countP fun entry => isPost entry.toStrategyEvidenceCandidate) ≤
    strategyManifestPostCap
  statistics : (selection.entries.countP fun entry =>
    isStatistic entry.toStrategyEvidenceCandidate) ≤ strategyManifestStatisticCap
  separate : selection.entries.Pairwise fun before entry =>
    SeparatePosts before.toStrategyEvidenceCandidate entry.toStrategyEvidenceCandidate
  budget : estimateStrategyPromptTokens (renderCandidates
    (selection.entries.map StrategyEvidenceEntry.toStrategyEvidenceCandidate)) ≤
      tokenBudget.getD strategyInputTokenBudget
  trimmed : ∀ category, category ∈ selection.trimmed ↔
    (selection.entries.countP fun entry => decide (entry.category = category)) <
      countOf category candidates
  /-- Where the claimant of a candidate is dropped, no category from the candidate's on is left. -/
  claims : ∀ candidate claimant, DisplacedBy platform candidates candidate claimant →
    claimant ∉ selection.entries.map StrategyEvidenceEntry.toStrategyEvidenceCandidate →
      ∀ entry ∈ selection.entries, categoryOrder entry.category < categoryOrder candidate.category

section Selected

variable {platform : EvidencePlatform} {candidates kept : List StrategyEvidenceCandidate}

private theorem ranksOf_rankEntries (ranks : StrategyEvidenceCategory → ℕ)
    (kept : List StrategyEvidenceCandidate) (category : StrategyEvidenceCategory) :
    ranksOf category (rankEntries ranks kept) =
      List.range' (ranks category) (countOf category kept) := by
  induction kept generalizing ranks with
  | nil => rfl
  | cons candidate kept ih =>
    have htail := ih (update ranks candidate.category (ranks candidate.category + 1))
    unfold ranksOf countOf at htail ⊢
    rw [rankEntries, filter_cons, countP_cons]
    by_cases hsame : candidate.category = category
    · subst hsame
      rw [update_self] at htail
      rw [if_pos (decide_eq_true rfl), if_pos (decide_eq_true rfl), map_cons, htail,
        range'_succ]
    · rw [update_of_ne (Ne.symm hsame)] at htail
      rw [if_neg (by simpa using hsame), if_neg (by simpa using hsame), htail, Nat.add_zero]

theorem countP_rankEntries (test : StrategyEvidenceCandidate → Bool)
    (ranks : StrategyEvidenceCategory → ℕ) (kept : List StrategyEvidenceCandidate) :
    ((rankEntries ranks kept).countP fun entry => test entry.toStrategyEvidenceCandidate) =
      kept.countP test := by
  conv_rhs => rw [← map_rankEntries ranks kept]
  rw [countP_map]
  rfl

variable (platform candidates) in
private theorem bounded_cappedEvidence :
    ((candidates.insertionSort (precedes platform)).foldl next
      start).Bounded (candidates.insertionSort (precedes platform)) := by
  have hbounded := bounded_start.foldl
    (candidates.insertionSort (precedes platform))
  rwa [nil_append] at hbounded

theorem DisplacedBy.le {candidate claimant : StrategyEvidenceCandidate}
    (h : DisplacedBy platform candidates candidate claimant) :
    claimant ∈ cappedEvidence platform candidates ∧
      categoryOrder claimant.category ≤ categoryOrder candidate.category := by
  obtain ⟨before, after, hsorted, hclaimant, -⟩ := h
  have hordered := inCategoryOrder_insertionSort platform candidates
  obtain ⟨added, hselected, hsublist⟩ := selected_sublist before start
  have hmem : claimant ∈ before := by
    rw [hselected] at hclaimant
    exact hsublist.subset hclaimant
  obtain ⟨more, hmore, -⟩ := selected_sublist (candidate :: after)
    (before.foldl next start)
  refine ⟨?_, ?_⟩
  · unfold cappedEvidence
    rw [hsorted, foldl_append, hmore]
    exact mem_append_left _ hclaimant
  · rw [hsorted] at hordered
    exact (pairwise_append.mp hordered).2.2 claimant hmem candidate mem_cons_self

end Selected

/-- **The caps and the claims of a selection.** -/
theorem selection_keeps_caps (platform : EvidencePlatform)
    (candidates : List StrategyEvidenceCandidate) (tokenBudget : Option ℕ) :
    SelectionKeepsCaps platform candidates tokenBudget
      (selectStrategyEvidence platform candidates tokenBudget) := by
  have hbounded := bounded_cappedEvidence platform candidates
  obtain ⟨kept, hkept, hentries⟩ :=
    selected_longestFitting platform candidates tokenBudget
  obtain ⟨bound, hbound⟩ := hkept.front
  have hsublist : kept.Sublist (cappedEvidence platform candidates) := by
    rw [hbound]
    exact filter_sublist
  have hcount : ∀ category, ((selectStrategyEvidence platform candidates tokenBudget).entries.countP
      fun entry => decide (entry.category = category)) = countOf category kept := by
    intro category
    rw [hentries]
    exact countP_rankEntries (fun candidate => decide (candidate.category = category)) _ kept
  have hmap : (selectStrategyEvidence platform candidates tokenBudget).entries.map
      StrategyEvidenceEntry.toStrategyEvidenceCandidate = kept := by
    rw [hentries, map_rankEntries]
  constructor
  case keys => exact nodup_keys
  case references =>
    have hreferences : ((selectStrategyEvidence platform candidates tokenBudget).entries.map
        fun entry => referenceKey entry.toStrategyEvidenceCandidate) = kept.map referenceKey := by
      rw [← hmap, map_map]
      rfl
    rw [hreferences]
    exact (hsublist.map referenceKey).nodup hbounded.references
  case ranks =>
    intro category
    rw [hcount, hentries, ranksOf_rankEntries, range_eq_range']
  case caps =>
    intro category
    exact countP_entries_le platform candidates tokenBudget category
  case posts =>
    rw [hentries, countP_rankEntries]
    exact hsublist.countP_le.trans hbounded.posts
  case statistics =>
    rw [hentries, countP_rankEntries]
    exact hsublist.countP_le.trans hbounded.statistics
  case separate =>
    rw [← pairwise_map (f := StrategyEvidenceEntry.toStrategyEvidenceCandidate)
      (R := SeparatePosts), hmap]
    exact hbounded.separate.sublist hsublist
  case budget =>
    rw [hmap, estimate_le_iff]
    rcases hkept.fits with hnone | hfits
    · rw [hnone]
      exact Nat.zero_le _
    · exact hfits
  case trimmed =>
    intro category
    have hwithin : (applyTokenBudget (tokenBudget.getD strategyInputTokenBudget)
        (cappedEvidence platform candidates).length
        (cappedEvidence platform candidates)
        ((candidates.insertionSort (precedes platform)).foldl next
          start).trimmed).1 = kept := by
      rw [← hmap]
      exact (map_rankEntries _ _).symm
    have hreported : category ∈ (selectStrategyEvidence platform candidates tokenBudget).trimmed ↔
        category ∈ ((candidates.insertionSort (precedes platform)).foldl next
          start).trimmed ∨ countOf category kept <
            countOf category (cappedEvidence platform candidates) := by
      rw [← hwithin, ← applyTokenBudget_trimmed]
      exact mem_insertionSort _
    have hsorted : countOf category (candidates.insertionSort (precedes platform)) =
        countOf category candidates := (perm_insertionSort _ candidates).countP_eq _
    have hkeptLe : countOf category kept ≤
        countOf category (cappedEvidence platform candidates) :=
      hsublist.countP_le
    have hcappedLe : countOf category (cappedEvidence platform candidates) ≤
        countOf category (candidates.insertionSort (precedes platform)) := hbounded.fewer category
    have htrimmed : _ ↔ countOf category (cappedEvidence platform candidates) <
        countOf category (candidates.insertionSort (precedes platform)) := hbounded.trimmed category
    rw [hreported, htrimmed, hcount]
    omega
  case claims =>
    intro candidate claimant hdisplaced habsent entry hentry
    obtain ⟨hchosen, hle⟩ := hdisplaced.le
    rw [hmap, hbound] at habsent
    have hdropped : bound ≤ categoryOrder claimant.category := by
      by_contra hlt
      exact habsent (mem_filter.mpr ⟨hchosen, decide_eq_true (not_le.mp hlt)⟩)
    have hmem : entry.toStrategyEvidenceCandidate ∈ kept := by
      rw [← hmap]
      exact mem_map_of_mem hentry
    rw [hbound] at hmem
    have hfront := of_decide_eq_true (mem_filter.mp hmem).2
    omega

/-! ### A claimant that is dropped -/

namespace SelectionClaimsSample

open StrategyManifest.Sample

def recent : StrategyEvidenceCandidate where
  allowedNumericClaims := []
  allowedRoles := [.context]
  category := .recentPost
  classification := none
  dimensions := [.contentPillar]
  evidenceType := .post
  postIds := ["post"]
  rankScore := some 0
  referenceId := some "post"
  requiredInLimitations := false
  retrievalReason := "most_recent"
  sampleSize := none
  summaryText := "published"

/-- **A claimant that is dropped.** The post is left out for the statistic that speaks for it, and
the budget then drops the statistic. -/
theorem claimant_is_dropped : ¬ ∀ (platform : EvidencePlatform)
    (candidates : List StrategyEvidenceCandidate) (tokenBudget : Option ℕ)
    (candidate claimant : StrategyEvidenceCandidate),
    DisplacedBy platform candidates candidate claimant →
      claimant ∈ (selectStrategyEvidence platform candidates tokenBudget).entries.map
        StrategyEvidenceEntry.toStrategyEvidenceCandidate := by
  intro h
  have hsorted : [statistic, recent].insertionSort (precedes lowerCase) = [statistic, recent] := by
    decide +kernel
  have hclaimant : statistic ∈
      ([statistic].foldl next start).selected := by
    decide +kernel
  have hclaims : ¬ SeparatePosts statistic recent := fun hseparate =>
    hseparate rfl "post" mem_cons_self mem_cons_self
  have hkept := h lowerCase [statistic, recent] (some 4) recent statistic
    ⟨[statistic], [], hsorted, hclaimant, .inr hclaims⟩
  have hnone : (selectStrategyEvidence lowerCase [statistic, recent] (some 4)).entries = [] := by
    decide
  rw [hnone] at hkept
  cases hkept

end SelectionClaimsSample

end ContentAutomation
