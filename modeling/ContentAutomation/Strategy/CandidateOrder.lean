import ContentAutomation.Strategy.PostEvidence

/-!
# The order of the candidates

A selection sorts its candidates, so that it comes to the same entries in whatever order they were
read. The last rule of the order compares references in English, which tells identifiers of records
apart. Only the coverage of the scope is a candidate without a record.
-/

namespace ContentAutomation

open StrategyEvidenceRequest List

/-- A candidate points to a record of the database. -/
def StrategyEvidenceCandidate.NamesRecord (candidate : StrategyEvidenceCandidate) : Prop :=
  ∃ id, candidate.referenceId = some id ∧ isUuidV7 id = true

/-- `localeCompare` returns zero for no two different references to records. -/
def EvidencePlatform.TellsRecordsApart (platform : EvidencePlatform) : Prop :=
  ∀ a b : StrategyEvidenceCandidate, a.NamesRecord → b.NamesRecord →
    platform.collates (referenceKey a) (referenceKey b) = true →
    platform.collates (referenceKey b) (referenceKey a) = true → referenceKey a = referenceKey b

/-- Different candidates of one category point to records. -/
def PointToRecords (candidates : List StrategyEvidenceCandidate) : Prop :=
  ∀ a ∈ candidates, ∀ b ∈ candidates, a.category = b.category →
    a = b ∨ a.NamesRecord ∧ b.NamesRecord

/-- The comparison of the selection separates two candidates neither by their category nor by their
score nor by their reference. -/
structure StrategyEvidenceCandidate.Ties (platform : EvidencePlatform)
    (a b : StrategyEvidenceCandidate) : Prop where
  category : a.category = b.category
  rankScore : a.rankScore = b.rankScore
  before : platform.collates (referenceKey a) (referenceKey b) = true
  after : platform.collates (referenceKey b) (referenceKey a) = true

/-- Candidates of one category, one score and one reference are the same. -/
def IdenticalTies (candidates : List StrategyEvidenceCandidate) : Prop :=
  ∀ a ∈ candidates, ∀ b ∈ candidates, a.category = b.category → a.rankScore = b.rankScore →
    referenceKey a = referenceKey b → a = b

namespace CandidateOrder

variable {platform : EvidencePlatform} {a b : StrategyEvidenceCandidate}
  {candidates candidates' : List StrategyEvidenceCandidate}

/-- Candidates tie if each of them may stand before the other. -/
theorem ties_of_precedes (hfirst : precedes platform a b) (hsecond : precedes platform b a) :
    a.Ties platform b := by
  have hcategory : categoryOrder a.category = categoryOrder b.category := by
    rcases hfirst with hlt | ⟨heq, -⟩
    · rcases hsecond with hlt' | ⟨heq', -⟩ <;> omega
    · exact heq
  have hranks : ranksBefore platform a b = true :=
    (hfirst.resolve_left hcategory.not_lt).2
  have hranks' : ranksBefore platform b a = true :=
    (hsecond.resolve_left hcategory.not_gt).2
  rw [ranksBefore_iff] at hranks hranks'
  have hirrefl : ¬ scoresAbove a.rankScore a.rankScore = true := by
    cases a.rankScore <;> simp [scoresAbove]
  -- neither score is above the other
  have hscore : a.rankScore = b.rankScore := by
    rcases hranks with habove | ⟨hsame, -⟩
    · rcases hranks' with hbelow | ⟨hsame', -⟩
      · exact absurd (scoresAbove_trans habove hbelow) hirrefl
      · exact hsame'.symm
    · exact hsame
  refine ⟨categoryOrder_injective hcategory, hscore, ?_, ?_⟩
  · rw [← hscore] at hranks
    exact (hranks.resolve_left hirrefl).2
  · rw [← hscore] at hranks'
    exact (hranks'.resolve_left hirrefl).2

/-- Where candidates that tie are the same, a permutation is sorted to the same list. -/
theorem insertionSort_perm (hperm : candidates.Perm candidates')
    (hties : ∀ a ∈ candidates, ∀ b ∈ candidates, a.Ties platform b → a = b) :
    candidates.insertionSort (precedes platform) =
      candidates'.insertionSort (precedes platform) := by
  refine Perm.eq_of_pairwise ?_ (pairwise_insertionSort _ candidates)
    (pairwise_insertionSort _ candidates') ?_
  · intro a b ha hb hfirst hsecond
    have hmem := (mem_insertionSort _).mp ha
    have hmem' := hperm.mem_iff.mpr ((mem_insertionSort _).mp hb)
    exact hties a hmem b hmem' (ties_of_precedes hfirst hsecond)
  · exact (perm_insertionSort _ _).trans (hperm.trans (perm_insertionSort _ _).symm)

/-- What is loaded points to records, but for the one candidate of data quality. -/
theorem pointToRecords_of_loaded {db : StrategyEvidenceTables} {context : WorkspaceContext}
    {request : StrategyEvidenceRequest} {loaded : StrategyEvidenceCandidates}
    (hloaded : loadStrategyEvidenceCandidates db context request = some loaded)
    (hstatistics : ∀ row ∈ db.statistics, isUuidV7 row.id)
    (hposts : ∀ row ∈ db.posts.rows, isUuidV7 row.id)
    (hgenerations : ∀ row ∈ db.generations, isUuidV7 row.id) :
    PointToRecords loaded.candidates := by
  obtain ⟨run, hrun, -⟩ := Option.map_eq_some_iff.mp hloaded
  obtain ⟨analysed, comparable, heq⟩ := candidates_of_loaded hrun hloaded
  have hkinds : ∀ candidate ∈ loaded.candidates,
      candidate = coverageCandidate run request analysed comparable ∨
        candidate.NamesRecord ∧ candidate.category ≠ .dataQuality := by
    intro candidate hmem
    rw [heq] at hmem
    simp only [mem_append, mem_map, mem_singleton] at hmem
    rcases hmem with ((⟨statistic, hpublished, rfl⟩ | hpost) | ⟨entry, hentry, rfl⟩) | rfl
    · obtain ⟨row, -, hfound⟩ := mem_filterMap.mp hpublished
      refine .inr ⟨⟨_, rfl, hstatistics _ (mem_of_find?_eq_some hfound)⟩, ?_⟩
      rcases statisticCandidate_category statistic with h | h | h <;> rw [h] <;> decide
    · obtain ⟨entry, hentry, hpost⟩ := mem_filterMap.mp hpost
      obtain ⟨hcategory, -, -, hid, -⟩ := of_postCandidate hpost
      have hread := mem_of_mem_take (fst_mem_of_mem_zipIdx hentry)
      have hrow := (mem_newestPosts.mp (mem_of_mem_take hread)).1
      refine .inr ⟨⟨_, hid, hposts _ hrow⟩, ?_⟩
      rcases hcategory with h | h <;> rw [h] <;> decide
    · have hread := mem_of_mem_take (fst_mem_of_mem_zipIdx hentry)
      have hrow := mem_of_mem_filter ((mem_insertionSort _).mp hread)
      exact .inr ⟨⟨_, rfl, hgenerations _ hrow⟩, fun h => by cases h⟩
    · exact .inl rfl
  intro a ha b hb hcategory
  rcases hkinds a ha with rfl | ⟨hrecord, hother⟩
  · rcases hkinds b hb with rfl | ⟨-, hother⟩
    · exact .inl rfl
    · exact absurd hcategory.symm hother
  · rcases hkinds b hb with rfl | ⟨hrecord', -⟩
    · exact absurd hcategory hother
    · exact .inr ⟨hrecord, hrecord'⟩

end CandidateOrder

/-- **The order of the candidates is of no account.** Whatever the order in which candidates are
read, the entries, with their keys and ranks, the report of what was trimmed and the hash of the
manifest are the same. -/
theorem selection_is_order_independent {platform : EvidencePlatform}
    (hplatform : platform.TellsRecordsApart)
    {candidates permuted : List StrategyEvidenceCandidate} (hperm : permuted.Perm candidates)
    (hrecords : PointToRecords candidates) (hidentical : IdenticalTies candidates)
    (tokenBudget : Option ℕ) :
    selectStrategyEvidence platform permuted tokenBudget =
        selectStrategyEvidence platform candidates tokenBudget ∧
      ∀ identity,
        createStrategyManifestHash platform identity
            (selectStrategyEvidence platform permuted tokenBudget).entries =
          createStrategyManifestHash platform identity
            (selectStrategyEvidence platform candidates tokenBudget).entries := by
  have hties : ∀ a ∈ candidates, ∀ b ∈ candidates, a.Ties platform b → a = b := by
    intro a ha b hb hties
    rcases hrecords a ha b hb hties.category with hsame | ⟨hrecord, hrecord'⟩
    · exact hsame
    · have hkey := hplatform a b hrecord hrecord' hties.before hties.after
      exact hidentical a ha b hb hties.category hties.rankScore hkey
  have hselected : selectStrategyEvidence platform permuted tokenBudget =
      selectStrategyEvidence platform candidates tokenBudget := by
    simp only [selectStrategyEvidence, CandidateOrder.insertionSort_perm hperm.symm hties]
  refine ⟨hselected, fun identity => ?_⟩
  rw [hselected]

namespace CandidateOrderSample

/-- A statistic under an identifier. -/
def statistic (id : String) : StrategyEvidenceCandidate :=
  { StrategyManifest.Sample.statistic with referenceId := some id }

def earlier : StrategyEvidenceCandidate := statistic "0192f2a0-0000-7000-8000-000000000001"

def later : StrategyEvidenceCandidate := statistic "0192f2a0-0000-7000-8000-000000000002"

/-- Two statistics of one score and the coverage of the account are selected alike in two orders,
the statistics by their identifiers. -/
theorem statistics_of_one_score :
    (selectStrategyEvidence StrategyManifest.Sample.lowerCase
        [earlier, StrategyManifest.Sample.coverage, later] none).entries.map
          (fun entry => entry.referenceId) = [earlier.referenceId, later.referenceId, none] ∧
      selectStrategyEvidence StrategyManifest.Sample.lowerCase
          [later, earlier, StrategyManifest.Sample.coverage] none =
        selectStrategyEvidence StrategyManifest.Sample.lowerCase
          [earlier, StrategyManifest.Sample.coverage, later] none := by
  refine ⟨by decide +kernel, ?_⟩
  refine (selection_is_order_independent (fun a b _ _ hbefore hafter => ?_) ?_ ?_ ?_ none).1
  · exact le_antisymm (of_decide_eq_true hbefore) (of_decide_eq_true hafter)
  · exact (Perm.swap _ _ _).trans ((Perm.swap _ _ _).cons _)
  · intro a ha b hb hcategory
    simp only [mem_cons, not_mem_nil, or_false] at ha hb
    rcases ha with rfl | rfl | rfl <;> rcases hb with rfl | rfl | rfl
    all_goals first
      | exact .inl rfl
      | exact .inr ⟨⟨_, rfl, by decide⟩, ⟨_, rfl, by decide⟩⟩
      | exact absurd hcategory (by decide)
  · intro a ha b hb _ _ hkey
    simp only [mem_cons, not_mem_nil, or_false] at ha hb
    rcases ha with rfl | rfl | rfl <;> rcases hb with rfl | rfl | rfl
    all_goals first
      | rfl
      | exact absurd hkey (by decide)

end CandidateOrderSample

end ContentAutomation
