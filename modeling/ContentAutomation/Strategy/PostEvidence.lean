import ContentAutomation.Library.SortedParts
import ContentAutomation.Strategy.Budget
import ContentAutomation.Strategy.CrossPosts
import ContentAutomation.Strategy.Eligibility

/-!
# The posts that a selection leaves

A statistic that is selected speaks for all of its members, and a post that one of them speaks for
is not selected beside it. Which statistics are selected, and which posts are left after them, is
told by the records that were read: the statistics that lead their categories, and the newest posts
that none of these speaks for.
-/

namespace ContentAutomation

open Relational FirstCopies SortedParts List StrategyEvidenceCandidate StrategyBudget

/-! ### The caps, category by category -/

namespace EvidenceSelection

/-- The counters of a state are those of what was selected. -/
structure Counted (state : EvidenceSelection) : Prop where
  seen : ∀ reference, reference ∈ state.seenReferences ↔ reference ∈ state.selected.map referenceKey
  claimed : ∀ postId, postId ∈ state.claimedPosts ↔
    postId ∈ state.selected.flatMap postIds
  perCategory : ∀ category, state.perCategory category =
    state.selected.countP fun candidate => decide (candidate.category = category)
  posts : state.posts = state.selected.countP isPost
  statistics : state.statistics = state.selected.countP isStatistic

theorem counted_start : Counted start where
  seen _ := Iff.rfl
  claimed _ := Iff.rfl
  perCategory _ := rfl
  posts := rfl
  statistics := rfl

variable {state : EvidenceSelection} {candidate : StrategyEvidenceCandidate}
  {category : StrategyEvidenceCategory} {rows : List StrategyEvidenceCandidate}

theorem Counted.next (h : Counted state) (candidate : StrategyEvidenceCandidate) :
    Counted (state.next candidate) := by
  unfold EvidenceSelection.next
  split
  · constructor
    case seen =>
      intro reference
      simp [take, h.seen, or_comm]
    case claimed =>
      intro postId
      simp [take, h.claimed, or_comm]
    case perCategory =>
      intro category
      by_cases hsame : candidate.category = category
      · subst hsame
        simp [take, h.perCategory]
      · simp [take, h.perCategory, Function.update_of_ne (Ne.symm hsame), hsame]
    case posts =>
      cases hpost : isPost candidate <;> simp [take, h.posts, hpost]
    case statistics =>
      cases hstatistic : isStatistic candidate <;> simp [take, h.statistics, hstatistic]
  · exact ⟨h.seen, h.claimed, h.perCategory, h.posts, h.statistics⟩

theorem Counted.foldl (h : Counted state) (rows : List StrategyEvidenceCandidate) :
    Counted (rows.foldl EvidenceSelection.next state) := by
  induction rows generalizing state with
  | nil => exact h
  | cons candidate rows ih => exact ih (h.next candidate)

theorem Counted.takes_iff (h : Counted state) : state.takes candidate ↔
    referenceKey candidate ∉ state.selected.map referenceKey ∧
      (state.selected.countP fun other => decide (other.category = candidate.category)) <
        strategyEvidenceCaps candidate.category ∧
      (isStatistic candidate →
        state.selected.countP isStatistic < strategyManifestStatisticCap) ∧
      (isPost candidate →
        (∀ postId ∈ candidate.postIds,
          postId ∉ state.selected.flatMap postIds) ∧
        state.selected.countP isPost < strategyManifestPostCap) := by
  unfold takes
  rw [h.perCategory, h.posts, h.statistics]
  simp only [Bool.and_eq_true, Bool.not_eq_true', contains_eq_mem, decide_eq_true_eq,
    decide_eq_false_iff_not, h.seen, Bool.and_eq_false_imp, not_le, Bool.or_eq_false_iff,
    any_eq_false, h.claimed, and_assoc]

theorem selected_next : (state.next candidate).selected =
    if state.takes candidate then state.selected ++ [candidate] else state.selected := by
  unfold next
  split <;> rfl

variable (category rows) in
/-- Of the statistics of a category, the first copies are selected up to its cap. -/
theorem Counted.selected_statistics (h : Counted state)
    (hrows : ∀ row ∈ rows, row.category = category ∧ isStatistic row ∧ isPost row = false)
    (hroom : state.selected.countP isStatistic + (strategyEvidenceCaps category -
      state.selected.countP fun other => decide (other.category = category)) ≤
        strategyManifestStatisticCap) :
    (rows.foldl EvidenceSelection.next state).selected = state.selected ++
      (unseen referenceKey (state.selected.map referenceKey) rows).take
        (strategyEvidenceCaps category -
          state.selected.countP fun other => decide (other.category = category)) := by
  induction rows generalizing state with
  | nil => simp [unseen]
  | cons row rows ih =>
    obtain ⟨hcategory, hstatistic, hpost⟩ := hrows row mem_cons_self
    have hrest := fun other hother => hrows other (mem_cons_of_mem row hother)
    have htakes : state.takes row = true ↔ _ := h.takes_iff
    rw [hcategory, hstatistic, hpost] at htakes
    rw [foldl_cons]
    by_cases htaken : state.takes row = true
    · obtain ⟨hnew, hcap, -⟩ := htakes.mp htaken
      have hselected : (state.next row).selected = state.selected ++ [row] := by
        rw [selected_next, if_pos htaken]
      have hcount : ((state.selected ++ [row]).countP fun other =>
          decide (other.category = category)) =
          (state.selected.countP fun other => decide (other.category = category)) + 1 := by
        simp [hcategory]
      have hstatistics : (state.selected ++ [row]).countP isStatistic =
          state.selected.countP isStatistic + 1 := by
        simp [hstatistic]
      have hseen : unseen referenceKey ((state.selected ++ [row]).map referenceKey) rows =
          unseen referenceKey (referenceKey row :: state.selected.map referenceKey) rows :=
        FirstCopies.unseen_congr fun other _ => by simp [or_comm]
      have hroom' : (strategyEvidenceCaps category -
          state.selected.countP fun other => decide (other.category = category)) =
          (strategyEvidenceCaps category -
            ((state.selected.countP fun other => decide (other.category = category)) + 1)) + 1 := by
        omega
      rw [ih (h.next row) hrest (by rw [hselected, hcount, hstatistics]; omega), hselected, hcount,
        hseen, unseen, if_neg hnew, hroom', take_succ_cons, append_assoc]
      rfl
    · have hselected : (state.next row).selected = state.selected := by
        rw [selected_next, if_neg htaken]
      rw [ih (h.next row) hrest (by rw [hselected]; exact hroom), hselected, unseen]
      split_ifs with hseen
      · rfl
      · -- a statistic that was not seen is left out where its category is full
        have hfull : (strategyEvidenceCaps category -
            state.selected.countP fun other => decide (other.category = category)) = 0 := by
          by_contra hmore
          exact htaken (htakes.mpr ⟨hseen, by omega, fun _ => by omega, fun hfalse => by cases hfalse⟩)
        rw [hfull]
        rfl

variable (category rows) in
/-- Of the posts of a category, those that nothing speaks for are selected up to its cap. -/
theorem Counted.selected_posts (h : Counted state)
    (hrows : ∀ row ∈ rows, row.category = category ∧ isStatistic row = false ∧ isPost row ∧
      ∃ postId, row.postIds = [postId])
    (hnew : ∀ row ∈ rows, referenceKey row ∉ state.selected.map referenceKey)
    (hreferences : (rows.map referenceKey).Nodup)
    (hposts : (rows.flatMap postIds).Nodup)
    (hroom : state.selected.countP isPost + (strategyEvidenceCaps category -
      state.selected.countP fun other => decide (other.category = category)) ≤
        strategyManifestPostCap) :
    (rows.foldl EvidenceSelection.next state).selected = state.selected ++
      (rows.filter fun row => decide (∀ postId ∈ row.postIds,
        postId ∉ state.selected.flatMap postIds)).take
          (strategyEvidenceCaps category -
            state.selected.countP fun other => decide (other.category = category)) := by
  induction rows generalizing state with
  | nil => simp
  | cons row rows ih =>
    obtain ⟨hcategory, hstatistic, hpost, postId, hpostId⟩ := hrows row mem_cons_self
    have hrest := fun other hother => hrows other (mem_cons_of_mem row hother)
    obtain ⟨hreference, hreferences⟩ := nodup_cons.mp hreferences
    rw [flatMap_cons, hpostId, singleton_append] at hposts
    obtain ⟨hother, hposts⟩ := nodup_cons.mp hposts
    have htakes : state.takes row = true ↔ _ := h.takes_iff
    rw [hcategory, hstatistic, hpost] at htakes
    rw [foldl_cons]
    by_cases htaken : state.takes row = true
    · obtain ⟨-, hcap, -, hunclaimed⟩ := htakes.mp htaken
      have hselected : (state.next row).selected = state.selected ++ [row] := by
        rw [selected_next, if_pos htaken]
      have hcount : ((state.selected ++ [row]).countP fun other =>
          decide (other.category = category)) =
          (state.selected.countP fun other => decide (other.category = category)) + 1 := by
        simp [hcategory]
      have hcountPosts : (state.selected ++ [row]).countP isPost =
          state.selected.countP isPost + 1 := by
        simp [hpost]
      have hnew' : ∀ other ∈ rows, referenceKey other ∉ (state.selected ++ [row]).map referenceKey := by
        intro other hmem hseen
        rw [map_append, mem_append] at hseen
        rcases hseen with hseen | hseen
        · exact hnew other (mem_cons_of_mem _ hmem) hseen
        · exact hreference (mem_map.mpr ⟨other, hmem, mem_singleton.mp hseen⟩)
      -- no later row is of the post that was taken
      have hfilter : (rows.filter fun other => decide (∀ postId ∈ other.postIds,
          postId ∉ (state.selected ++ [row]).flatMap postIds)) =
          rows.filter fun other => decide (∀ postId ∈ other.postIds,
            postId ∉ state.selected.flatMap postIds) := by
        refine filter_congr fun other hmem => decide_eq_decide.mpr ?_
        rw [flatMap_append, flatMap_singleton, hpostId]
        refine forall₂_congr fun otherId hotherId => ?_
        have hne : otherId ≠ postId := by
          rintro rfl
          exact hother (mem_flatMap.mpr ⟨other, hmem, hotherId⟩)
        simp [hne]
      have hroom' : (strategyEvidenceCaps category -
          state.selected.countP fun other => decide (other.category = category)) =
          (strategyEvidenceCaps category -
            ((state.selected.countP fun other => decide (other.category = category)) + 1)) + 1 := by
        omega
      rw [ih (h.next row) hrest (by rw [hselected]; exact hnew') hreferences hposts
          (by rw [hselected, hcount, hcountPosts]; omega),
        hselected, hcount, hfilter, filter_cons_of_pos (by simpa using (hunclaimed rfl).1),
        hroom', take_succ_cons, append_assoc]
      rfl
    · have hselected : (state.next row).selected = state.selected := by
        rw [selected_next, if_neg htaken]
      rw [ih (h.next row) hrest
        (by rw [hselected]; exact fun other hmem => hnew other (mem_cons_of_mem _ hmem))
        hreferences hposts (by rw [hselected]; exact hroom), hselected, filter_cons]
      split_ifs with hunclaimed
      · -- a post that nothing speaks for is left out where its category is full
        have hfull : (strategyEvidenceCaps category -
            state.selected.countP fun other => decide (other.category = category)) = 0 := by
          by_contra hmore
          exact htaken (htakes.mpr ⟨hnew row mem_cons_self, by omega,
            (fun hfalse => by cases hfalse),
            fun _ => ⟨of_decide_eq_true hunclaimed, by omega⟩⟩)
        rw [hfull]
        rfl
      · rfl

/-! ### Front by front -/

section Fronts

variable (platform : EvidencePlatform) (candidates : List StrategyEvidenceCandidate)

/-- The state after the candidates of the categories before a bound. -/
def front (bound : ℕ) : EvidenceSelection :=
  ((candidates.insertionSort (precedes platform)).filter fun candidate =>
    decide (categoryOrder candidate.category < bound)).foldl next start

variable (category : StrategyEvidenceCategory)

theorem front_succ :
    front platform candidates (categoryOrder category + 1) =
      ((candidates.filter fun candidate => decide (candidate.category = category)).insertionSort
        (precedes platform)).foldl next (front platform candidates (categoryOrder category)) := by
  have hpart : ((candidates.insertionSort (precedes platform)).filter fun candidate =>
      decide (categoryOrder candidate.category = categoryOrder category)) =
      (candidates.filter fun candidate => decide (candidate.category = category)).insertionSort
        (precedes platform) := by
    rw [← filter_insertionSort]
    refine filter_congr fun candidate _ => decide_eq_decide.mpr ?_
    exact ⟨fun h => categoryOrder_injective h, fun h => by rw [h]⟩
  unfold front
  rw [filter_le_succ (inCategoryOrder_insertionSort platform candidates), foldl_append, hpart]

theorem mem_front {bound : ℕ} {candidate : StrategyEvidenceCandidate}
    (h : candidate ∈ (front platform candidates bound).selected) :
    candidate ∈ candidates ∧ categoryOrder candidate.category < bound := by
  obtain ⟨added, hselected, hsublist⟩ := selected_sublist
    ((candidates.insertionSort (precedes platform)).filter fun candidate =>
      decide (categoryOrder candidate.category < bound)) start
  unfold front at h
  rw [hselected] at h
  have hmem := mem_filter.mp (hsublist.subset h)
  exact ⟨(mem_insertionSort _).mp hmem.1, of_decide_eq_true hmem.2⟩

theorem frontOf_capped (bound : ℕ) :
    frontOf bound (cappedEvidence platform candidates) =
      (front platform candidates bound).selected := by
  have hsplit := filter_lt_append (inCategoryOrder_insertionSort platform candidates) bound
  obtain ⟨added, hselected, hsublist⟩ := selected_sublist
    ((candidates.insertionSort (precedes platform)).filter fun candidate =>
      decide (bound ≤ categoryOrder candidate.category)) (front platform candidates bound)
  have hadded : added.filter (fun candidate =>
      decide (categoryOrder candidate.category < bound)) = [] := by
    rw [filter_eq_nil_iff]
    intro candidate hcandidate
    have hle := of_decide_eq_true (mem_filter.mp (hsublist.subset hcandidate)).2
    simpa using hle
  unfold frontOf cappedEvidence
  rw [← hsplit, foldl_append]
  change (List.foldl next (front platform candidates bound) _).selected.filter _ = _
  rw [hselected, filter_append, hadded, append_nil]
  exact filter_eq_self.mpr fun candidate hcandidate =>
    decide_eq_true (mem_front platform candidates hcandidate).2

theorem counted_front (bound : ℕ) : Counted (front platform candidates bound) :=
  counted_start.foldl _

theorem countP_front :
    ((front platform candidates (categoryOrder category)).selected.countP fun other =>
      decide (other.category = category)) = 0 := by
  rw [countP_eq_zero]
  intro other hother hsame
  have hlt := (mem_front platform candidates hother).2
  rw [of_decide_eq_true hsame] at hlt
  exact lt_irrefl _ hlt

private theorem front_succ_of_nil
    (h : (candidates.filter fun candidate => decide (candidate.category = category)) = []) :
    front platform candidates (categoryOrder category + 1) =
      front platform candidates (categoryOrder category) := by
  rw [front_succ, h]
  rfl

end Fronts

end EvidenceSelection

open EvidenceSelection

/-! ### The records that are read -/

namespace StrategyEvidenceRequest

section Records

variable (platform : EvidencePlatform) (db : StrategyEvidenceTables) (context : WorkspaceContext)
  (request : StrategyEvidenceRequest) (run : AccountAnalyticsRun)

/-- The statistics that lead a category: the first of it by their effects, up to its cap. -/
def leading (category : StrategyEvidenceCategory) : List StrategyEvidenceCandidate :=
  (firstCopies referenceKey ((((request.publishedStatistics db context run).map
    statisticCandidate).filter fun candidate => decide (candidate.category = category)).insertionSort
      (precedes platform))).take (strategyEvidenceCaps category)

def leadingStatistics : List StrategyEvidenceCandidate :=
  request.leading platform db context run .positiveStatistic ++
    request.leading platform db context run .negativeStatistic ++
    request.leading platform db context run .counterexample

/-- The posts of a category among the sixty newest that no leading statistic speaks for, the first of
them up to its cap. -/
def unclaimed (category : StrategyEvidenceCategory) : List StrategyEvidenceCandidate :=
  (((request.postCandidates db context run).filter fun candidate =>
    decide (candidate.category = category)).filter fun candidate =>
      decide (∀ postId ∈ candidate.postIds, postId ∉
        (request.leadingStatistics platform db context run).flatMap
          postIds)).take (strategyEvidenceCaps category)

/-- The posts that stand first after the statistics: those without a requested emphasis or, where
there are none, those with one. -/
def firstPosts : List StrategyEvidenceCandidate :=
  if request.unclaimed platform db context run .recentPost = [] then
    request.unclaimed platform db context run .comparatorPost
  else request.unclaimed platform db context run .recentPost

/-- A post remains beside the statistics: some post of the sixty newest is spoken for by none of the
leading ones, and their summaries fit the budget together. -/
structure PostRemains : Prop where
  some : request.firstPosts platform db context run ≠ []
  fits : estimateStrategyPromptTokens (renderCandidates
    (request.leadingStatistics platform db context run ++
      request.firstPosts platform db context run)) ≤ strategyInputTokenBudget

end Records

variable {platform : EvidencePlatform} {db : StrategyEvidenceTables} {context : WorkspaceContext}
  {request : StrategyEvidenceRequest} {run : AccountAnalyticsRun}
  {loaded : StrategyEvidenceCandidates} {candidate other : StrategyEvidenceCandidate}
  {category : StrategyEvidenceCategory}

theorem statisticCandidate_category (statistic : PublishedStatistic) :
    (statisticCandidate statistic).category = .positiveStatistic ∨
      (statisticCandidate statistic).category = .negativeStatistic ∨
      (statisticCandidate statistic).category = .counterexample := by
  unfold statisticCandidate
  dsimp only
  split_ifs <;> simp

theorem of_postCandidate {post : InstagramPost} {index : ℕ}
    (h : postCandidate db request post index = some candidate) :
    (candidate.category = .recentPost ∨ candidate.category = .comparatorPost) ∧
      candidate.evidenceType = .post ∧ candidate.postIds = [post.id] ∧
      candidate.referenceId = some post.id ∧ candidate.rankScore = some (-(index : ℚ)) ∧
      candidate.allowedRoles = [.context] ∧ candidate.requiredInLimitations = false := by
  unfold postCandidate at h
  obtain ⟨analysis, -, rfl⟩ := Option.map_eq_some_iff.mp h
  refine ⟨?_, rfl, rfl, rfl, rfl, rfl, rfl⟩
  dsimp only
  split_ifs <;> simp

theorem candidates_of_loaded (hrun : request.activeRun db context = some run)
    (hloaded : loadStrategyEvidenceCandidates db context request = some loaded) :
    ∃ analysed comparable, loaded.candidates =
      (request.publishedStatistics db context run).map statisticCandidate ++
        request.postCandidates db context run ++
        (request.priorGenerations db context).zipIdx.map (fun entry =>
          generationCandidate entry.1 entry.2) ++
        [coverageCandidate run request analysed comparable] := by
  unfold loadStrategyEvidenceCandidates at hloaded
  rw [hrun] at hloaded
  cases hloaded
  exact ⟨_, _, rfl⟩

private theorem filter_statistics (hrun : request.activeRun db context = some run)
    (hloaded : loadStrategyEvidenceCandidates db context request = some loaded)
    (hcategory : category = .positiveStatistic ∨ category = .negativeStatistic ∨
      category = .counterexample) :
    (loaded.candidates.filter fun candidate => decide (candidate.category = category)) =
      ((request.publishedStatistics db context run).map statisticCandidate).filter
        fun candidate => decide (candidate.category = category) := by
  obtain ⟨analysed, comparable, heq⟩ := candidates_of_loaded hrun hloaded
  have hposts : ((request.postCandidates db context run).filter fun candidate =>
      decide (candidate.category = category)) = [] := by
    rw [filter_eq_nil_iff]
    intro candidate hcandidate
    obtain ⟨entry, -, hpost⟩ := mem_filterMap.mp hcandidate
    rcases (of_postCandidate hpost).1 with hsame | hsame <;> rw [hsame] <;>
      rcases hcategory with rfl | rfl | rfl <;> decide
  have hgenerations : (((request.priorGenerations db context).zipIdx.map fun entry =>
      generationCandidate entry.1 entry.2).filter fun candidate =>
        decide (candidate.category = category)) = [] := by
    rw [filter_eq_nil_iff]
    intro candidate hcandidate
    obtain ⟨entry, -, rfl⟩ := mem_map.mp hcandidate
    rcases hcategory with rfl | rfl | rfl <;> simp [generationCandidate]
  rw [heq]
  simp only [filter_append, hposts, hgenerations, append_nil]
  rcases hcategory with rfl | rfl | rfl <;> simp [coverageCandidate]

private theorem filter_posts (hrun : request.activeRun db context = some run)
    (hloaded : loadStrategyEvidenceCandidates db context request = some loaded)
    (hcategory : category = .topPost ∨ category = .weakPost ∨ category = .recentPost ∨
      category = .comparatorPost) :
    (loaded.candidates.filter fun candidate => decide (candidate.category = category)) =
      (request.postCandidates db context run).filter fun candidate =>
        decide (candidate.category = category) := by
  obtain ⟨analysed, comparable, heq⟩ := candidates_of_loaded hrun hloaded
  have hstatistics : (((request.publishedStatistics db context run).map statisticCandidate).filter
      fun candidate => decide (candidate.category = category)) = [] := by
    rw [filter_eq_nil_iff]
    intro candidate hcandidate
    obtain ⟨statistic, -, rfl⟩ := mem_map.mp hcandidate
    rcases statisticCandidate_category statistic with hsame | hsame | hsame <;> rw [hsame] <;>
      rcases hcategory with rfl | rfl | rfl | rfl <;> decide
  have hgenerations : (((request.priorGenerations db context).zipIdx.map fun entry =>
      generationCandidate entry.1 entry.2).filter fun candidate =>
        decide (candidate.category = category)) = [] := by
    rw [filter_eq_nil_iff]
    intro candidate hcandidate
    obtain ⟨entry, -, rfl⟩ := mem_map.mp hcandidate
    rcases hcategory with rfl | rfl | rfl | rfl <;> simp [generationCandidate]
  rw [heq]
  simp only [filter_append, hstatistics, hgenerations, append_nil, nil_append]
  rcases hcategory with rfl | rfl | rfl | rfl <;> simp [coverageCandidate]

private theorem filter_postCandidates_eq_nil
    (hcategory : category = .topPost ∨ category = .weakPost) :
    ((request.postCandidates db context run).filter fun candidate =>
      decide (candidate.category = category)) = [] := by
  rw [filter_eq_nil_iff]
  intro candidate hcandidate
  obtain ⟨entry, -, hpost⟩ := mem_filterMap.mp hcandidate
  rcases (of_postCandidate hpost).1 with hsame | hsame <;> rw [hsame] <;>
    rcases hcategory with rfl | rfl <;> decide

theorem statistic_eq_of_referenceKey
    (hfirst : candidate ∈ (request.publishedStatistics db context run).map statisticCandidate)
    (hsecond : other ∈ (request.publishedStatistics db context run).map statisticCandidate)
    (hsame : referenceKey candidate = referenceKey other) : candidate = other := by
  obtain ⟨first, hfirstMem, rfl⟩ := mem_map.mp hfirst
  obtain ⟨second, hsecondMem, rfl⟩ := mem_map.mp hsecond
  have hid : first.id = second.id := by
    have hparts : word StrategyEvidenceType.featureStatistic ++ ":" ++ first.id =
        word StrategyEvidenceType.featureStatistic ++ ":" ++ second.id := hsame
    exact (JoinedText.append_inj hparts rfl).2
  obtain ⟨row, hrow, hfound⟩ := mem_filterMap.mp hfirstMem
  obtain ⟨row', hrow', hfound'⟩ := mem_filterMap.mp hsecondMem
  have hworkspace : row.workspaceId = row'.workspaceId := by
    have hrow := (mem_filter.mp hrow).2
    have hrow' := (mem_filter.mp hrow').2
    simp only [Bool.and_eq_true, beq_iff_eq] at hrow hrow'
    rw [hrow.2, hrow'.2]
  have hfirstId := List.find?_some hfound
  have hsecondId := List.find?_some hfound'
  simp only [Bool.and_eq_true, beq_iff_eq] at hfirstId hsecondId
  have hstatistic : row.statisticId = row'.statisticId := by
    rw [← hfirstId.1.1, ← hsecondId.1.1, hid]
  rw [hworkspace, hstatistic, hfound'] at hfound
  rw [Option.some.inj hfound]

private theorem statistic_reference_ne (first second : String) :
    word StrategyEvidenceType.featureStatistic ++ ":" ++ first ≠
      word StrategyEvidenceType.post ++ ":" ++ second := by
  intro hsame
  have hletters := congrArg (fun text : String => text.toList.take 1) hsame
  simp only [String.toList_append, append_assoc] at hletters
  rw [take_append_of_le_length (by decide),
    take_append_of_le_length (by decide)] at hletters
  exact absurd hletters (by decide)

/-! ### The posts that are read -/

theorem nodup_posts : ((request.posts db context run).map InstagramPost.id).Nodup := by
  refine Nodup.map_on (fun post hpost other hother hid => ?_)
    ((take_sublist _ _).nodup nodup_newestPosts)
  exact Table.eq_of_key instagramPostSchema_keyedBy_id
    (mem_newestPosts.mp (mem_of_mem_take hpost)).1
    (mem_newestPosts.mp (mem_of_mem_take hother)).1 hid

theorem nodup_postIds :
    ((request.postCandidates db context run).flatMap postIds).Nodup := by
  have hposts : postEvidence (request.postCandidates db context run) =
      ((request.posts db context run).take strategyEvidenceRecentPosts).map InstagramPost.id :=
    postEvidence_postCandidates _ 0 fun post hpost =>
      currentAnalysis_isSome (mem_of_mem_take hpost)
  have hall : (request.postCandidates db context run).filter
      (fun candidate => candidate.evidenceType == .post) = request.postCandidates db context run := by
    refine filter_eq_self.mpr fun candidate hcandidate => ?_
    obtain ⟨entry, -, hpost⟩ := mem_filterMap.mp hcandidate
    rw [(of_postCandidate hpost).2.1]
    rfl
  unfold postEvidence at hposts
  rw [hall] at hposts
  rw [hposts]
  exact ((take_sublist _ _).map _).nodup nodup_posts

private theorem referenceKey_postCandidate
    (hcandidate : candidate ∈ request.postCandidates db context run) :
    candidate.postIds.map (fun postId => word StrategyEvidenceType.post ++ ":" ++ postId) =
      [referenceKey candidate] := by
  obtain ⟨entry, -, hpost⟩ := mem_filterMap.mp hcandidate
  obtain ⟨-, htype, hposts, hreference, -⟩ := of_postCandidate hpost
  rw [hposts, referenceKey, htype, hreference]
  rfl

private theorem nodup_postReferences {rows : List StrategyEvidenceCandidate}
    (hrows : rows.Sublist (request.postCandidates db context run)) :
    (rows.map referenceKey).Nodup := by
  have hmap : (request.postCandidates db context run).map referenceKey =
      ((request.postCandidates db context run).flatMap postIds).map
        fun postId => word StrategyEvidenceType.post ++ ":" ++ postId := by
    rw [map_flatMap, flatMap_congr fun candidate hcandidate =>
      referenceKey_postCandidate hcandidate, map_eq_flatMap]
  refine (hrows.map _).nodup ?_
  rw [hmap]
  exact nodup_postIds.map fun first second hsame => (JoinedText.append_inj hsame rfl).2

private theorem pairwise_postCandidates :
    (request.postCandidates db context run).Pairwise fun first second =>
      first.category = second.category → precedes platform first second := by
  unfold postCandidates
  rw [pairwise_filterMap]
  have hindices : (((request.posts db context run).take strategyEvidenceRecentPosts).zipIdx).Pairwise
      fun first second => first.2 < second.2 := by
    have hrange : (List.range' 0 ((request.posts db context run).take
        strategyEvidenceRecentPosts).length).Pairwise (· < ·) := pairwise_lt_range'
    rw [← zipIdx_map_snd, pairwise_map] at hrange
    exact hrange
  refine hindices.imp fun {first second} hlt candidate hcandidate other hother hsame => ?_
  have hscore := (of_postCandidate hcandidate).2.2.2.2.1
  have hscore' := (of_postCandidate hother).2.2.2.2.1
  refine .inr ⟨by rw [hsame], ranksBefore_iff.mpr (.inl ?_)⟩
  rw [hscore, hscore']
  simpa [scoresAbove] using hlt

/-! ### What is selected of them -/

private theorem length_leading_le :
    (request.leading platform db context run category).length ≤ strategyEvidenceCaps category :=
  length_take_le _ _

theorem mem_leading (h : candidate ∈ request.leading platform db context run category) :
    candidate ∈ (request.publishedStatistics db context run).map statisticCandidate ∧
      candidate.category = category := by
  have hmem := (mem_firstCopies.mp (mem_of_mem_take h)).mem
  rw [mem_insertionSort] at hmem
  exact ⟨(mem_filter.mp hmem).1, of_decide_eq_true (mem_filter.mp hmem).2⟩

private theorem mem_leadingStatistics
    (h : candidate ∈ request.leadingStatistics platform db context run) :
    candidate ∈ (request.publishedStatistics db context run).map statisticCandidate := by
  rcases mem_append.mp h with h | h
  · rcases mem_append.mp h with h | h
    · exact (mem_leading h).1
    · exact (mem_leading h).1
  · exact (mem_leading h).1

variable (platform category) in
/-- After the categories before it, the leading statistics of a category are selected. -/
theorem front_statistics (hrun : request.activeRun db context = some run)
    (hloaded : loadStrategyEvidenceCandidates db context request = some loaded)
    (hcategory : category = .positiveStatistic ∨ category = .negativeStatistic ∨
      category = .counterexample)
    (hbefore : ∀ other ∈ (front platform loaded.candidates
      (categoryOrder category)).selected,
        other ∈ (request.publishedStatistics db context run).map statisticCandidate)
    (hroom : (front platform loaded.candidates
      (categoryOrder category)).selected.length + strategyEvidenceCaps category ≤
        strategyManifestStatisticCap) :
    (front platform loaded.candidates (categoryOrder category + 1)).selected =
      (front platform loaded.candidates (categoryOrder category)).selected ++
        request.leading platform db context run category := by
  have hcount := countP_front platform loaded.candidates category
  have hmem : ∀ row ∈ (((request.publishedStatistics db context run).map
      statisticCandidate).filter fun candidate =>
        decide (candidate.category = category)).insertionSort (precedes platform),
      row ∈ (request.publishedStatistics db context run).map statisticCandidate ∧
        row.category = category := by
    intro row hrow
    rw [mem_insertionSort, mem_filter] at hrow
    exact ⟨hrow.1, of_decide_eq_true hrow.2⟩
  have hstatistics := (counted_front platform loaded.candidates
    (categoryOrder category)).selected_statistics category
    ((((request.publishedStatistics db context run).map statisticCandidate).filter
      fun candidate => decide (candidate.category = category)).insertionSort (precedes platform))
  rw [front_succ, filter_statistics hrun hloaded hcategory, hstatistics, hcount,
    Nat.sub_zero]
  · congr 2
    refine FirstCopies.unseen_congr fun row hrow => iff_of_false ?_ not_mem_nil
    -- a statistic of the reference was of an earlier category
    intro hseen
    obtain ⟨other, hother, hsame⟩ := mem_map.mp hseen
    have heq := statistic_eq_of_referenceKey (hbefore other hother) (hmem row hrow).1 hsame
    have hlt := (mem_front platform loaded.candidates hother).2
    rw [heq, (hmem row hrow).2] at hlt
    exact lt_irrefl _ hlt
  · intro row hrow
    obtain ⟨statistic, -, rfl⟩ := mem_map.mp (hmem row hrow).1
    exact ⟨(hmem _ hrow).2, rfl, rfl⟩
  · rw [hcount, Nat.sub_zero]
    exact (Nat.add_le_add_right countP_le_length _).trans hroom

/-- The leading statistics are selected. -/
theorem front_leadingStatistics (hrun : request.activeRun db context = some run)
    (hloaded : loadStrategyEvidenceCandidates db context request = some loaded) :
    (front platform loaded.candidates 3).selected =
      request.leadingStatistics platform db context run := by
  have hnone : (front platform loaded.candidates 0).selected = [] := by
    rw [eq_nil_iff_forall_not_mem]
    intro other hother
    exact absurd (mem_front platform loaded.candidates hother).2 (Nat.not_lt_zero _)
  have hpositive : (front platform loaded.candidates 1).selected =
      request.leading platform db context run .positiveStatistic := by
    have hadded := front_statistics platform .positiveStatistic hrun hloaded (.inl rfl)
      (fun other hother => by
        change other ∈ (front platform loaded.candidates 0).selected at hother
        rw [hnone] at hother
        cases hother)
      (by
        change (front platform loaded.candidates 0).selected.length + 8 ≤ 20
        rw [hnone]
        decide)
    change _ = (front platform loaded.candidates 0).selected ++ _ at hadded
    rw [hnone, nil_append] at hadded
    exact hadded
  have hnegative : (front platform loaded.candidates 2).selected =
      request.leading platform db context run .positiveStatistic ++
        request.leading platform db context run .negativeStatistic := by
    have hlength : (request.leading platform db context run .positiveStatistic).length ≤ 8 :=
      length_leading_le
    have hadded := front_statistics platform .negativeStatistic hrun hloaded
      (.inr (.inl rfl))
      (fun other hother => by
        change other ∈ (front platform loaded.candidates 1).selected at hother
        rw [hpositive] at hother
        exact (mem_leading hother).1)
      (by
        change (front platform loaded.candidates 1).selected.length + 6 ≤ 20
        rw [hpositive]
        omega)
    change _ = (front platform loaded.candidates 1).selected ++ _ at hadded
    rw [hpositive] at hadded
    exact hadded
  have hlength : (request.leading platform db context run .positiveStatistic).length ≤ 8 :=
    length_leading_le
  have hlength' : (request.leading platform db context run .negativeStatistic).length ≤ 6 :=
    length_leading_le
  have hadded := front_statistics platform .counterexample hrun hloaded (.inr (.inr rfl))
    (fun other hother => by
      change other ∈ (front platform loaded.candidates 2).selected at hother
      rw [hnegative] at hother
      rcases mem_append.mp hother with hother | hother
      · exact (mem_leading hother).1
      · exact (mem_leading hother).1)
    (by
      change (front platform loaded.candidates 2).selected.length + 4 ≤ 20
      rw [hnegative, length_append]
      omega)
  change _ = (front platform loaded.candidates 2).selected ++ _ at hadded
  rw [hnegative] at hadded
  exact hadded

variable (category) in
/-- The posts of a category that no statistic speaks for are selected after the statistics, where
no other posts are. -/
theorem front_posts (hrun : request.activeRun db context = some run)
    (hloaded : loadStrategyEvidenceCandidates db context request = some loaded)
    (hcategory : category = .recentPost ∨ category = .comparatorPost)
    (hbefore : (front platform loaded.candidates
      (categoryOrder category)).selected = request.leadingStatistics platform db context run) :
    (front platform loaded.candidates (categoryOrder category + 1)).selected =
      request.leadingStatistics platform db context run ++
        request.unclaimed platform db context run category := by
  have hcount := countP_front platform loaded.candidates category
  have hsublist : ((request.postCandidates db context run).filter fun candidate =>
      decide (candidate.category = category)).Sublist (request.postCandidates db context run) :=
    filter_sublist
  have hsorted : ((request.postCandidates db context run).filter fun candidate =>
      decide (candidate.category = category)).insertionSort (precedes platform) =
      (request.postCandidates db context run).filter fun candidate =>
        decide (candidate.category = category) := by
    apply Pairwise.insertionSort_eq
    refine (pairwise_postCandidates.sublist hsublist).imp_of_mem
      fun {first second} hfirst hsecond hprecedes => hprecedes ?_
    rw [of_decide_eq_true (mem_filter.mp hfirst).2,
      of_decide_eq_true (mem_filter.mp hsecond).2]
  have hposts : (request.leadingStatistics platform db context run).countP isPost = 0 := by
    rw [countP_eq_zero]
    intro candidate hcandidate
    obtain ⟨statistic, -, rfl⟩ := mem_map.mp (mem_leadingStatistics hcandidate)
    exact Bool.false_ne_true
  have hcap : strategyEvidenceCaps category ≤ strategyManifestPostCap := by
    rcases hcategory with rfl | rfl <;> decide
  have hselected := (counted_front platform loaded.candidates
    (categoryOrder category)).selected_posts category
    ((request.postCandidates db context run).filter fun candidate =>
      decide (candidate.category = category))
  rw [hbefore] at hcount
  rw [front_succ, filter_posts hrun hloaded (.inr (.inr hcategory)), hsorted,
    hselected, hbefore, hcount, Nat.sub_zero]
  · rfl
  · intro row hrow
    obtain ⟨entry, -, hpost⟩ := mem_filterMap.mp (mem_of_mem_filter hrow)
    obtain ⟨-, htype, hpostIds, -⟩ := of_postCandidate hpost
    refine ⟨of_decide_eq_true (mem_filter.mp hrow).2, ?_, ?_, entry.1.id, hpostIds⟩
    · rw [isStatistic, htype]
      rfl
    · rw [isPost, htype]
      rfl
  · -- the reference of a post is not that of a statistic
    rw [hbefore]
    intro row hrow hseen
    obtain ⟨other, hother, hsame⟩ := mem_map.mp hseen
    obtain ⟨statistic, -, rfl⟩ := mem_map.mp (mem_leadingStatistics hother)
    obtain ⟨entry, -, hpost⟩ := mem_filterMap.mp (mem_of_mem_filter hrow)
    obtain ⟨-, htype, -, hreference, -⟩ := of_postCandidate hpost
    rw [referenceKey, referenceKey, htype, hreference] at hsame
    exact statistic_reference_ne _ _ hsame
  · exact nodup_postReferences hsublist
  · exact (hsublist.flatMap _).nodup nodup_postIds
  · rw [hbefore, hcount, hposts]
    omega

private theorem front_recent (hrun : request.activeRun db context = some run)
    (hloaded : loadStrategyEvidenceCandidates db context request = some loaded) :
    (front platform loaded.candidates 5).selected =
      request.leadingStatistics platform db context run := by
  have htop : front platform loaded.candidates 4 =
      front platform loaded.candidates 3 :=
    front_succ_of_nil platform loaded.candidates .topPost (by
      rw [filter_posts hrun hloaded (.inl rfl), filter_postCandidates_eq_nil (.inl rfl)])
  have hweak : front platform loaded.candidates 5 =
      front platform loaded.candidates 4 :=
    front_succ_of_nil platform loaded.candidates .weakPost (by
      rw [filter_posts hrun hloaded (.inr (.inl rfl)),
        filter_postCandidates_eq_nil (.inr rfl)])
  rw [hweak, htop, front_leadingStatistics hrun hloaded]

variable (platform) in
private theorem front_recentPosts (hrun : request.activeRun db context = some run)
    (hloaded : loadStrategyEvidenceCandidates db context request = some loaded) :
    (front platform loaded.candidates 6).selected =
      request.leadingStatistics platform db context run ++
        request.unclaimed platform db context run .recentPost :=
  front_posts .recentPost hrun hloaded (.inl rfl) (front_recent hrun hloaded)

private theorem front_comparatorPosts (hrun : request.activeRun db context = some run)
    (hloaded : loadStrategyEvidenceCandidates db context request = some loaded)
    (hnone : request.unclaimed platform db context run .recentPost = []) :
    (front platform loaded.candidates 7).selected =
      request.leadingStatistics platform db context run ++
        request.unclaimed platform db context run .comparatorPost := by
  refine front_posts .comparatorPost hrun hloaded (.inr rfl) ?_
  have hrecent := front_recentPosts platform hrun hloaded
  rw [hnone, append_nil] at hrecent
  exact hrecent

/-! ### What is left of them -/

private theorem category_of_post (hrun : request.activeRun db context = some run)
    (hloaded : loadStrategyEvidenceCandidates db context request = some loaded)
    (hcandidate : candidate ∈ loaded.candidates) : candidate.evidenceType = .post ↔
      candidate.category = .recentPost ∨ candidate.category = .comparatorPost := by
  obtain ⟨analysed, comparable, heq⟩ := candidates_of_loaded hrun hloaded
  rw [heq] at hcandidate
  simp only [mem_append, mem_map, mem_singleton] at hcandidate
  rcases hcandidate with ((⟨statistic, -, rfl⟩ | hpost) | ⟨entry, -, rfl⟩) | rfl
  · refine iff_of_false (fun h => by cases h) ?_
    rcases statisticCandidate_category statistic with hsame | hsame | hsame <;> rw [hsame] <;> decide
  · obtain ⟨entry, -, hpost⟩ := mem_filterMap.mp hpost
    exact iff_of_true (of_postCandidate hpost).2.1 (of_postCandidate hpost).1
  · exact iff_of_false (fun h => by cases h) (by simp [generationCandidate])
  · exact iff_of_false (fun h => by cases h) (by simp [coverageCandidate])

/-- **When a selection keeps a post**: exactly where one remains beside the statistics. -/
theorem post_selected_iff (hrun : request.activeRun db context = some run)
    (hloaded : loadStrategyEvidenceCandidates db context request = some loaded) :
    (∃ entry ∈ (selectStrategyEvidence platform loaded.candidates none).entries,
      entry.evidenceType = .post) ↔ request.PostRemains platform db context run := by
  obtain ⟨kept, hkept, hentries⟩ :=
    selected_longestFitting platform loaded.candidates none
  have hfront := frontOf_capped platform loaded.candidates
  have hrecent := front_recentPosts platform hrun hloaded
  -- an entry is a candidate that is kept
  have hentry : (∃ entry ∈ (selectStrategyEvidence platform loaded.candidates none).entries,
      entry.evidenceType = .post) ↔ ∃ candidate ∈ kept, candidate.evidenceType = .post := by
    rw [hentries]
    constructor
    · rintro ⟨entry, hentry, htype⟩
      exact ⟨entry.toStrategyEvidenceCandidate, (of_mem_rankEntries hentry).1, htype⟩
    · rintro ⟨candidate, hcandidate, htype⟩
      rw [← map_rankEntries (fun _ => 0) kept] at hcandidate
      obtain ⟨entry, hentry, rfl⟩ := mem_map.mp hcandidate
      exact ⟨entry, hentry, htype⟩
  have hmem : ∀ {bound candidate}, candidate ∈ (front platform loaded.candidates
      bound).selected → candidate ∈ cappedEvidence platform loaded.candidates := by
    intro bound candidate h
    rw [← hfront] at h
    exact mem_of_mem_filter h
  rw [hentry]
  constructor
  · rintro ⟨candidate, hcandidate, htype⟩
    obtain ⟨hchosen, hfits⟩ := hkept.mem_iff.mp hcandidate
    have hread : candidate ∈ loaded.candidates := by
      have hall := frontOf_all (cappedEvidence platform loaded.candidates)
      rw [hfront] at hall
      rw [← hall] at hchosen
      exact (mem_front platform loaded.candidates hchosen).1
    have hselected : candidate ∈ (front platform loaded.candidates
        (categoryOrder candidate.category + 1)).selected := by
      rw [← hfront]
      exact mem_filter.mpr ⟨hchosen, by simp⟩
    rw [hfront] at hfits
    -- the candidate is not a statistic
    have hposts : ∀ {posts}, candidate ∈ request.leadingStatistics platform db context run ++ posts →
        candidate ∈ posts := by
      intro posts hcandidate
      refine (mem_append.mp hcandidate).resolve_left fun hstatistic => ?_
      obtain ⟨statistic, -, rfl⟩ := mem_map.mp (mem_leadingStatistics hstatistic)
      cases htype
    rcases (category_of_post hrun hloaded hread).mp htype with hcategory | hcategory
    · rw [hcategory] at hfits hselected
      change candidate ∈ (front platform loaded.candidates 6).selected at hselected
      change units (renderCandidates
        (front platform loaded.candidates 6).selected) ≤ _ at hfits
      rw [hrecent] at hselected hfits
      have hsome := ne_nil_of_mem (hposts hselected)
      refine ⟨by rwa [firstPosts, if_neg hsome], ?_⟩
      rw [firstPosts, if_neg hsome, estimate_le_iff]
      exact hfits
    · rw [hcategory] at hfits hselected
      change candidate ∈ (front platform loaded.candidates 7).selected at hselected
      change units (renderCandidates
        (front platform loaded.candidates 7).selected) ≤ _ at hfits
      by_cases hnone : request.unclaimed platform db context run .recentPost = []
      · rw [front_comparatorPosts hrun hloaded hnone] at hselected hfits
        refine ⟨by rw [firstPosts, if_pos hnone]; exact ne_nil_of_mem (hposts hselected), ?_⟩
        rw [firstPosts, if_pos hnone, estimate_le_iff]
        exact hfits
      · -- the recent posts stand before those with a requested emphasis
        have hshorter : (front platform loaded.candidates 6).selected.Sublist
            (front platform loaded.candidates 7).selected := by
          rw [← hfront, ← hfront]
          exact frontOf_sublist (by decide)
        have hrecentFits := (units_renderCandidates_le hshorter).trans hfits
        rw [hrecent] at hrecentFits
        refine ⟨by rwa [firstPosts, if_neg hnone], ?_⟩
        rw [firstPosts, if_neg hnone, estimate_le_iff]
        exact hrecentFits
  · rintro ⟨hsome, hfits⟩
    rw [estimate_le_iff] at hfits
    obtain ⟨candidate, hcandidate⟩ := exists_mem_of_ne_nil _ hsome
    -- the first posts are selected in their category
    obtain ⟨category, hcategory, hselected⟩ : ∃ category,
        (category = .recentPost ∨ category = .comparatorPost) ∧
          (front platform loaded.candidates (categoryOrder category + 1)).selected =
            request.leadingStatistics platform db context run ++
              request.firstPosts platform db context run ∧
          ∀ candidate ∈ request.firstPosts platform db context run, candidate.category = category := by
      have hunclaimed : ∀ {category candidate},
          candidate ∈ request.unclaimed platform db context run category →
            candidate.category = category := fun h =>
        of_decide_eq_true (mem_filter.mp (mem_of_mem_filter (mem_of_mem_take h))).2
      by_cases hnone : request.unclaimed platform db context run .recentPost = []
      · rw [firstPosts, if_pos hnone]
        exact ⟨.comparatorPost, .inr rfl, front_comparatorPosts hrun hloaded hnone,
          fun _ => hunclaimed⟩
      · rw [firstPosts, if_neg hnone]
        exact ⟨.recentPost, .inl rfl, hrecent, fun _ => hunclaimed⟩
    have hfirst : candidate ∈ (front platform loaded.candidates
        (categoryOrder category + 1)).selected := by
      rw [hselected.1]
      exact mem_append_right _ hcandidate
    have hread := (mem_front platform loaded.candidates hfirst).1
    rw [← hselected.2 candidate hcandidate] at hcategory
    refine ⟨candidate, hkept.mem_iff.mpr ⟨hmem hfirst, ?_⟩,
      (category_of_post hrun hloaded hread).mpr hcategory⟩
    rw [hfront, hselected.2 candidate hcandidate, hselected.1]
    exact hfits

end StrategyEvidenceRequest

end ContentAutomation
