import ContentAutomation.Library.Calendar
import ContentAutomation.Library.Utf16
import ContentAutomation.Library.Vocabulary
import Mathlib.Data.List.Sort
import Mathlib.Tactic.Linarith

/-!
# The evidence of a strategy

The records that one strategy may argue from: how they are ordered, capped and keyed, and
the text that the model reads. The entries that are selected stand in the order of their
categories, and within a category in the order of their ranks.
-/

namespace ContentAutomation

open List Function

/-! ### The vocabulary of the contract -/

/-- `StrategyMode`. -/
inductive StrategyMode
  | evidenceLed | exploratory
  deriving DecidableEq

/-- `StrategyEvidenceRole`. -/
inductive StrategyEvidenceRole
  | supporting | counterexample | limitation | context
  deriving DecidableEq

/-- `StrategyEvidenceType`. -/
inductive StrategyEvidenceType
  | featureStatistic | postAnalysis | metricSnapshot | post | dataQuality | recentRecommendation
  deriving DecidableEq

/-- `StrategyEvidenceClass`. -/
inductive StrategyEvidenceClass
  | statisticallySupportedAssociation | moderateAssociation | weakDirectionalSignal
  | singlePostOutlier | insufficientEvidence | unsupported | creativeRecommendation
  deriving DecidableEq

/-- `StrategyClaimDimension`. -/
inductive StrategyClaimDimension
  | topic | topicSaturation | hook | format | duration | editingOrPacing | cta | presenterMode
  | visualApproach | contentPillar | other
  deriving DecidableEq

/-- `DerivedMetric`. -/
inductive DerivedMetric
  | engagementCount | engagementRateReach | likeRateReach | commentRateReach | shareRateReach
  | saveRateReach | profileVisitRateReach | followConversionRate | followRateReach
  | averageWatchPercentage | completionProxy
  deriving DecidableEq

/-- `StrategyEvidenceCategory`. -/
inductive StrategyEvidenceCategory
  | positiveStatistic | negativeStatistic | counterexample | topPost | weakPost | recentPost
  | comparatorPost | distribution | recentStrategy | dataQuality
  deriving DecidableEq

instance : Vocabulary StrategyMode where
  word
    | .evidenceLed => "evidence_led"
    | .exploratory => "exploratory"
  all := [.evidenceLed, .exploratory]
  complete member := by cases member <;> decide
  distinct := by decide

instance : Vocabulary StrategyEvidenceRole where
  word
    | .supporting => "supporting"
    | .counterexample => "counterexample"
    | .limitation => "limitation"
    | .context => "context"
  all := [.supporting, .counterexample, .limitation, .context]
  complete member := by cases member <;> decide
  distinct := by decide

instance : Vocabulary StrategyEvidenceType where
  word
    | .featureStatistic => "feature_statistic"
    | .postAnalysis => "post_analysis"
    | .metricSnapshot => "metric_snapshot"
    | .post => "post"
    | .dataQuality => "data_quality"
    | .recentRecommendation => "recent_recommendation"
  all := [.featureStatistic, .postAnalysis, .metricSnapshot, .post, .dataQuality,
    .recentRecommendation]
  complete member := by cases member <;> decide
  distinct := by decide

instance : Vocabulary StrategyEvidenceClass where
  word
    | .statisticallySupportedAssociation => "statistically_supported_association"
    | .moderateAssociation => "moderate_association"
    | .weakDirectionalSignal => "weak_directional_signal"
    | .singlePostOutlier => "single_post_outlier"
    | .insufficientEvidence => "insufficient_evidence"
    | .unsupported => "unsupported"
    | .creativeRecommendation => "creative_recommendation"
  all := [.statisticallySupportedAssociation, .moderateAssociation, .weakDirectionalSignal,
    .singlePostOutlier, .insufficientEvidence, .unsupported, .creativeRecommendation]
  complete member := by cases member <;> decide
  distinct := by decide

instance : Vocabulary StrategyClaimDimension where
  word
    | .topic => "topic"
    | .topicSaturation => "topic_saturation"
    | .hook => "hook"
    | .format => "format"
    | .duration => "duration"
    | .editingOrPacing => "editing_or_pacing"
    | .cta => "cta"
    | .presenterMode => "presenter_mode"
    | .visualApproach => "visual_approach"
    | .contentPillar => "content_pillar"
    | .other => "other"
  all := [.topic, .topicSaturation, .hook, .format, .duration, .editingOrPacing, .cta,
    .presenterMode, .visualApproach, .contentPillar, .other]
  complete member := by cases member <;> decide
  distinct := by decide

instance : Vocabulary DerivedMetric where
  word
    | .engagementCount => "engagement_count"
    | .engagementRateReach => "engagement_rate_reach"
    | .likeRateReach => "like_rate_reach"
    | .commentRateReach => "comment_rate_reach"
    | .shareRateReach => "share_rate_reach"
    | .saveRateReach => "save_rate_reach"
    | .profileVisitRateReach => "profile_visit_rate_reach"
    | .followConversionRate => "follow_conversion_rate"
    | .followRateReach => "follow_rate_reach"
    | .averageWatchPercentage => "average_watch_percentage"
    | .completionProxy => "completion_proxy"
  all := [.engagementCount, .engagementRateReach, .likeRateReach, .commentRateReach,
    .shareRateReach, .saveRateReach, .profileVisitRateReach, .followConversionRate,
    .followRateReach, .averageWatchPercentage, .completionProxy]
  complete member := by cases member <;> decide
  distinct := by decide

/-- `strategyEvidenceCategories`: the retrieval categories, in precedence order. -/
def strategyEvidenceCategories : List StrategyEvidenceCategory :=
  [.positiveStatistic, .negativeStatistic, .counterexample, .topPost, .weakPost, .recentPost,
    .comparatorPost, .distribution, .recentStrategy, .dataQuality]

instance : Vocabulary StrategyEvidenceCategory where
  word
    | .positiveStatistic => "positive_statistic"
    | .negativeStatistic => "negative_statistic"
    | .counterexample => "counterexample"
    | .topPost => "top_post"
    | .weakPost => "weak_post"
    | .recentPost => "recent_post"
    | .comparatorPost => "comparator_post"
    | .distribution => "distribution"
    | .recentStrategy => "recent_strategy"
    | .dataQuality => "data_quality"
  all := strategyEvidenceCategories
  complete member := by cases member <;> decide
  distinct := by decide

/-- The word of a member of the contract's vocabulary. -/
abbrev word {T : Type} [Vocabulary T] (member : T) : String := Vocabulary.word member

/-! ### Caps -/

/-- `strategyEvidenceCaps`. -/
def strategyEvidenceCaps : StrategyEvidenceCategory → ℕ
  | .comparatorPost => 20
  | .counterexample => 4
  | .dataQuality => 8
  | .distribution => 1
  | .negativeStatistic => 6
  | .positiveStatistic => 8
  | .recentPost => 30
  | .recentStrategy => 3
  | .topPost => 20
  | .weakPost => 12

/-- `strategyManifestCaps.posts`. -/
def strategyManifestPostCap : ℕ := 60

/-- `strategyManifestCaps.statistics`. -/
def strategyManifestStatisticCap : ℕ := 20

/-- `strategyInputTokenBudget`. -/
def strategyInputTokenBudget : ℕ := 120000

/-- `estimateStrategyPromptTokens`: a token for each three code units, rounded up. -/
def estimateStrategyPromptTokens (text : String) : ℕ := ((Utf16.ofString text).length + 2) / 3

/-- `categoryPrefixes`. -/
def categoryPrefixes : StrategyEvidenceCategory → String
  | .comparatorPost => "post_cmp"
  | .counterexample => "counter"
  | .dataQuality => "quality"
  | .distribution => "dist"
  | .negativeStatistic => "stat_neg"
  | .positiveStatistic => "stat_pos"
  | .recentPost => "post_recent"
  | .recentStrategy => "prior"
  | .topPost => "post_top"
  | .weakPost => "post_weak"

/-! ### Candidates -/

/-- `StrategyEvidenceCandidate`. -/
structure StrategyEvidenceCandidate where
  allowedNumericClaims : List String
  allowedRoles : List StrategyEvidenceRole
  category : StrategyEvidenceCategory
  classification : Option StrategyEvidenceClass
  dimensions : List StrategyClaimDimension
  evidenceType : StrategyEvidenceType
  postIds : List String
  rankScore : Option ℚ
  referenceId : Option String
  requiredInLimitations : Bool
  retrievalReason : String
  sampleSize : Option ℤ
  summaryText : String
  deriving DecidableEq

/-- `StrategyEvidenceEntry`. -/
structure StrategyEvidenceEntry extends StrategyEvidenceCandidate where
  evidenceKey : String
  rank : ℕ
  deriving DecidableEq

/-- What the selection and the columns rest on outside of the source. -/
structure EvidencePlatform where
  /-- `first.localeCompare(second, "en") <= 0`. -/
  collates : String → String → Bool
  collates_total : ∀ first second, collates first second = true ∨ collates second first = true
  collates_trans : ∀ first second third, collates first second = true →
    collates second third = true → collates first third = true
  /-- `createHash("sha256").update(text, "utf8").digest("hex")`. -/
  sha256 : Utf16 → String
  /-- How a column of identifiers spells an identifier that it takes. -/
  uuidColumn : String → Option String
  /-- The number that a column of scores gives back for a number that it takes. -/
  scoreColumn : ℚ → Option ℚ

/-- The place of a category in the order of precedence. -/
def categoryOrder (category : StrategyEvidenceCategory) : ℕ :=
  strategyEvidenceCategories.idxOf category

/-- `referenceKey`. -/
def referenceKey (candidate : StrategyEvidenceCandidate) : String :=
  word candidate.evidenceType ++ ":" ++ candidate.referenceId.getD candidate.summaryText

/-- `scoreA > scoreB`, where an absent score is less than every other. -/
def scoresAbove : Option ℚ → Option ℚ → Bool
  | some first, some second => second < first
  | some _, none => true
  | none, _ => false

/-- `compareCandidates(a, b) <= 0`. -/
def ranksBefore (platform : EvidencePlatform) (a b : StrategyEvidenceCandidate) : Bool :=
  scoresAbove a.rankScore b.rankScore ||
    (a.rankScore == b.rankScore && platform.collates (referenceKey a) (referenceKey b))

/-- The comparison of the selection: by category, and within one by rank. -/
def precedes (platform : EvidencePlatform) (a b : StrategyEvidenceCandidate) : Prop :=
  categoryOrder a.category < categoryOrder b.category ∨
    categoryOrder a.category = categoryOrder b.category ∧ ranksBefore platform a b = true

instance (platform : EvidencePlatform) : DecidableRel (precedes platform) := fun _ _ =>
  inferInstanceAs (Decidable (_ ∨ _))

/-- `isStatistic`. -/
def isStatistic (candidate : StrategyEvidenceCandidate) : Bool :=
  candidate.evidenceType == .featureStatistic

/-- `isPost`. -/
def isPost (candidate : StrategyEvidenceCandidate) : Bool :=
  candidate.evidenceType == .post || candidate.evidenceType == .postAnalysis

/-! ### Selection -/

/-- What `selectStrategyEvidence` has come to after some candidates. -/
structure EvidenceSelection where
  trimmed : List StrategyEvidenceCategory
  seenReferences : List String
  claimedPosts : List String
  perCategory : StrategyEvidenceCategory → ℕ
  selected : List StrategyEvidenceCandidate
  posts : ℕ
  statistics : ℕ

namespace EvidenceSelection

def start : EvidenceSelection := ⟨[], [], [], fun _ => 0, [], 0, 0⟩

/-- The candidate is a record of its own, within every cap. -/
def takes (state : EvidenceSelection) (candidate : StrategyEvidenceCandidate) : Bool :=
  !state.seenReferences.contains (referenceKey candidate) &&
    state.perCategory candidate.category < strategyEvidenceCaps candidate.category &&
    !(isStatistic candidate && strategyManifestStatisticCap ≤ state.statistics) &&
    !(isPost candidate && (candidate.postIds.any state.claimedPosts.contains ||
      strategyManifestPostCap ≤ state.posts))

/-- The candidate is selected. -/
def take (state : EvidenceSelection) (candidate : StrategyEvidenceCandidate) :
    EvidenceSelection where
  trimmed := state.trimmed
  seenReferences := referenceKey candidate :: state.seenReferences
  claimedPosts := candidate.postIds ++ state.claimedPosts
  perCategory := update state.perCategory candidate.category
    (state.perCategory candidate.category + 1)
  selected := state.selected ++ [candidate]
  posts := if isPost candidate then state.posts + 1 else state.posts
  statistics := if isStatistic candidate then state.statistics + 1 else state.statistics

/-- The next candidate is selected, or its category is trimmed. -/
def next (state : EvidenceSelection) (candidate : StrategyEvidenceCandidate) : EvidenceSelection :=
  if state.takes candidate then state.take candidate
  else { state with trimmed := state.trimmed.insert candidate.category }

end EvidenceSelection

/-- `renderCandidates`. -/
def renderCandidates (candidates : List StrategyEvidenceCandidate) : String :=
  "\n".intercalate (candidates.map StrategyEvidenceCandidate.summaryText)

/-- `applyTokenBudget`, in at most as many rounds: while the estimate is over the budget, the
category of the last candidate is dropped. -/
def applyTokenBudget (budget : ℕ) : ℕ → List StrategyEvidenceCandidate →
    List StrategyEvidenceCategory → List StrategyEvidenceCandidate × List StrategyEvidenceCategory
  | 0, kept, trimmed => (kept, trimmed)
  | rounds + 1, kept, trimmed =>
    match kept.getLast? with
    | none => (kept, trimmed)
    | some last =>
      if budget < estimateStrategyPromptTokens (renderCandidates kept) then
        applyTokenBudget budget rounds
          (kept.filter fun candidate => candidate.category ≠ last.category)
          (trimmed.insert last.category)
      else (kept, trimmed)

/-- The entries of candidates, of which so many of each category came before. -/
def rankEntries (ranks : StrategyEvidenceCategory → ℕ) :
    List StrategyEvidenceCandidate → List StrategyEvidenceEntry
  | [] => []
  | candidate :: candidates =>
    { candidate with
      evidenceKey := categoryPrefixes candidate.category ++ "_" ++
        toString (ranks candidate.category)
      rank := ranks candidate.category } ::
      rankEntries (update ranks candidate.category (ranks candidate.category + 1))
        candidates

/-- `StrategyEvidenceSelection`. -/
structure StrategyEvidenceSelection where
  entries : List StrategyEvidenceEntry
  trimmed : List StrategyEvidenceCategory

/-- `selectStrategyEvidence`. -/
def selectStrategyEvidence (platform : EvidencePlatform)
    (candidates : List StrategyEvidenceCandidate) (tokenBudget : Option ℕ) :
    StrategyEvidenceSelection :=
  let ordered := candidates.insertionSort (precedes platform)
  let state := ordered.foldl EvidenceSelection.next EvidenceSelection.start
  let (withinBudget, trimmed) := applyTokenBudget (tokenBudget.getD strategyInputTokenBudget)
    state.selected.length state.selected state.trimmed
  { entries := rankEntries (fun _ => 0) withinBudget
    trimmed := trimmed.insertionSort fun a b => categoryOrder a ≤ categoryOrder b }

/-! ### The text of a manifest -/

/-- `StrategyManifestEvidence`. -/
structure StrategyManifestEvidence where
  allowedNumericClaims : List String
  allowedRoles : List StrategyEvidenceRole
  classification : Option StrategyEvidenceClass
  dimensions : List StrategyClaimDimension
  evidenceId : String
  requiredInLimitations : Bool
  sampleSize : Option ℤ
  type : StrategyEvidenceType
  deriving DecidableEq

/-- `toStrategyManifestEvidence`. -/
def toStrategyManifestEvidence (entry : StrategyEvidenceEntry) : StrategyManifestEvidence where
  allowedNumericClaims := entry.allowedNumericClaims
  allowedRoles := entry.allowedRoles
  classification := entry.classification
  dimensions := entry.dimensions
  evidenceId := entry.evidenceKey
  requiredInLimitations := entry.requiredInLimitations
  sampleSize := entry.sampleSize
  type := entry.evidenceType

/-- The part of `StrategyManifestIdentity` that the text states. -/
structure StrategyManifestScope where
  ageWindow : String
  instagramAccountId : Option String
  primaryMetric : String
  publishedFrom : String
  publishedTo : String

/-- `indentEvidence`. -/
def indentEvidence (value : String) : String :=
  "\n".intercalate ((value.toList.splitOn '\n').map fun line => "    " ++ String.ofList line)

/-- The line of an entry. -/
def manifestLine (entry : StrategyEvidenceEntry) : String :=
  "- " ++ "; ".intercalate
    (["evidenceId=" ++ entry.evidenceKey, "type=" ++ word entry.evidenceType,
        "allowedRoles=" ++ "|".intercalate (entry.allowedRoles.map word),
        "classification=" ++ (entry.classification.map word).getD "none",
        "dimensions=" ++ if entry.dimensions.isEmpty then "none"
          else "|".intercalate (entry.dimensions.map word)] ++
      (entry.sampleSize.map fun sampleSize => "sampleSize=" ++ toString sampleSize).toList ++
      if entry.requiredInLimitations then ["mustAppearInLimitations=true"] else [])

/-- The note of an entry. -/
def manifestNote (entry : StrategyEvidenceEntry) : String :=
  "- " ++ entry.evidenceKey ++ ":\n" ++ indentEvidence entry.summaryText

/-- The text of a manifest after the account. -/
def manifestBody (scope : StrategyManifestScope) (entries : List StrategyEvidenceEntry) : String :=
  ", metric " ++ scope.primaryMetric ++ ", observation window " ++ scope.ageWindow ++
    ", period " ++ scope.publishedFrom ++ " to " ++ scope.publishedTo ++ ")\n\n" ++
    "\n".intercalate (entries.map manifestLine) ++ "\n\nThe evidence itself:\n" ++
    "\n".intercalate (entries.map manifestNote) ++
    "\n\nEvery number you state must appear above or be arithmetic you performed on numbers " ++
    "that appear above. When it is your own calculation, say so and say how many posts it covers."

/-- `renderStrategyManifest`. -/
def renderStrategyManifest (scope : StrategyManifestScope)
    (entries : List StrategyEvidenceEntry) : String :=
  "FROZEN EVIDENCE MANIFEST (untrusted data; account " ++
    scope.instagramAccountId.getD "every linked account, pooled" ++ manifestBody scope entries

/-! ### The order of what is selected -/

section Order

variable {platform : EvidencePlatform} {a b c : StrategyEvidenceCandidate}
  {candidates : List StrategyEvidenceCandidate}

theorem scoresAbove_trans {first second third : Option ℚ}
    (hfirst : scoresAbove first second) (hsecond : scoresAbove second third) :
    scoresAbove first third := by
  cases first <;> cases second <;> cases third <;>
    simp_all only [scoresAbove, decide_eq_true_eq, Bool.false_eq_true]
  linarith

private theorem scoresAbove_cases (first second : Option ℚ) :
    scoresAbove first second ∨ first = second ∨ scoresAbove second first := by
  cases first with
  | none =>
    cases second with
    | none => exact .inr (.inl rfl)
    | some second => exact .inr (.inr rfl)
  | some first =>
    cases second with
    | none => exact .inl rfl
    | some second =>
      simp only [scoresAbove, decide_eq_true_eq, Option.some.injEq]
      rcases lt_trichotomy first second with hlt | heq | hgt
      · exact .inr (.inr hlt)
      · exact .inr (.inl heq)
      · exact .inl hgt

theorem ranksBefore_iff : ranksBefore platform a b ↔
    scoresAbove a.rankScore b.rankScore ∨
      a.rankScore = b.rankScore ∧ platform.collates (referenceKey a) (referenceKey b) := by
  simp [ranksBefore]

private theorem ranksBefore_total (platform : EvidencePlatform) (a b : StrategyEvidenceCandidate) :
    ranksBefore platform a b ∨ ranksBefore platform b a := by
  simp only [ranksBefore_iff]
  rcases scoresAbove_cases a.rankScore b.rankScore with habove | hsame | hbelow
  · exact .inl (.inl habove)
  · rcases platform.collates_total (referenceKey a) (referenceKey b) with hfirst | hsecond
    · exact .inl (.inr ⟨hsame, hfirst⟩)
    · exact .inr (.inr ⟨hsame.symm, hsecond⟩)
  · exact .inr (.inl hbelow)

private theorem ranksBefore_trans (hfirst : ranksBefore platform a b)
    (hsecond : ranksBefore platform b c) : ranksBefore platform a c := by
  rw [ranksBefore_iff] at hfirst hsecond ⊢
  rcases hfirst with hfirst | ⟨hsame, hfirst⟩
  · rcases hsecond with hsecond | ⟨hsame', -⟩
    · exact .inl (scoresAbove_trans hfirst hsecond)
    · rw [← hsame']
      exact .inl hfirst
  · rcases hsecond with hsecond | ⟨hsame', hsecond⟩
    · rw [hsame]
      exact .inl hsecond
    · exact .inr ⟨hsame.trans hsame', platform.collates_trans _ _ _ hfirst hsecond⟩

instance : Std.Total (precedes platform) where
  total a b := by
    unfold precedes
    rcases lt_trichotomy (categoryOrder a.category) (categoryOrder b.category) with
      hlt | heq | hgt
    · exact .inl (.inl hlt)
    · rcases ranksBefore_total platform a b with hfirst | hsecond
      · exact .inl (.inr ⟨heq, hfirst⟩)
      · exact .inr (.inr ⟨heq.symm, hsecond⟩)
    · exact .inr (.inl hgt)

instance : IsTrans StrategyEvidenceCandidate (precedes platform) where
  trans a b c := by
    rintro (hfirst | ⟨hsame, hfirst⟩) (hsecond | ⟨hsame', hsecond⟩)
    · exact .inl (hfirst.trans hsecond)
    · exact .inl (hsame' ▸ hfirst)
    · exact .inl (hsame ▸ hsecond)
    · exact .inr ⟨hsame.trans hsame', ranksBefore_trans hfirst hsecond⟩

/-- The candidates stand in the order of their categories. -/
def InCategoryOrder (candidates : List StrategyEvidenceCandidate) : Prop :=
  candidates.Pairwise fun a b => categoryOrder a.category ≤ categoryOrder b.category

theorem inCategoryOrder_insertionSort (platform : EvidencePlatform)
    (candidates : List StrategyEvidenceCandidate) :
    InCategoryOrder (candidates.insertionSort (precedes platform)) := by
  refine (pairwise_insertionSort (precedes platform) candidates).imp ?_
  rintro a b (hlt | ⟨heq, -⟩)
  · exact hlt.le
  · exact heq.le

theorem selected_sublist (candidates : List StrategyEvidenceCandidate) (state : EvidenceSelection) :
    ∃ added, (candidates.foldl EvidenceSelection.next state).selected = state.selected ++ added ∧
      added.Sublist candidates := by
  induction candidates generalizing state with
  | nil => exact ⟨[], (append_nil _).symm, .slnil⟩
  | cons candidate candidates ih =>
    obtain ⟨added, hselected, hsublist⟩ := ih (state.next candidate)
    rw [foldl_cons, hselected]
    unfold EvidenceSelection.next
    split
    · exact ⟨candidate :: added, by simp [EvidenceSelection.take], hsublist.cons_cons _⟩
    · exact ⟨added, rfl, hsublist.cons _⟩

theorem applyTokenBudget_sublist (budget rounds : ℕ) (kept : List StrategyEvidenceCandidate)
    (trimmed : List StrategyEvidenceCategory) :
    (applyTokenBudget budget rounds kept trimmed).1.Sublist kept := by
  induction rounds generalizing kept trimmed with
  | zero => exact .refl _
  | succ rounds ih =>
    unfold applyTokenBudget
    split
    · exact .refl _
    · split
      · exact (ih _ _).trans filter_sublist
      · exact .refl _

/-- An entry stands before another: by its category, and within one by its rank. -/
def EntryBefore (a b : StrategyEvidenceEntry) : Prop :=
  categoryOrder a.category < categoryOrder b.category ∨
    categoryOrder a.category = categoryOrder b.category ∧ a.rank < b.rank

theorem categoryOrder_injective : Function.Injective categoryOrder := by
  intro first second h
  exact (idxOf_inj (l := strategyEvidenceCategories) (Vocabulary.complete first)).mp h

theorem of_mem_rankEntries {ranks : StrategyEvidenceCategory → ℕ}
    {entry : StrategyEvidenceEntry}
    (h : entry ∈ rankEntries ranks candidates) :
    entry.toStrategyEvidenceCandidate ∈ candidates ∧ ranks entry.category ≤ entry.rank := by
  induction candidates generalizing ranks with
  | nil => cases h
  | cons candidate candidates ih =>
    rcases mem_cons.mp h with rfl | htail
    · exact ⟨mem_cons_self, le_rfl⟩
    · obtain ⟨hmem, hrank⟩ := ih htail
      refine ⟨mem_cons_of_mem _ hmem, le_trans ?_ hrank⟩
      by_cases hsame : entry.category = candidate.category
      · rw [hsame, update_self]
        exact Nat.le_succ _
      · rw [update_of_ne hsame]

theorem map_rankEntries (ranks : StrategyEvidenceCategory → ℕ)
    (kept : List StrategyEvidenceCandidate) :
    (rankEntries ranks kept).map StrategyEvidenceEntry.toStrategyEvidenceCandidate = kept := by
  induction kept generalizing ranks with
  | nil => rfl
  | cons candidate kept ih =>
    rw [rankEntries, map_cons, ih]

private theorem pairwise_rankEntries (h : InCategoryOrder candidates)
    (ranks : StrategyEvidenceCategory → ℕ) :
    (rankEntries ranks candidates).Pairwise EntryBefore := by
  induction candidates generalizing ranks with
  | nil => exact .nil
  | cons candidate candidates ih =>
    obtain ⟨hhead, htail⟩ := pairwise_cons.mp h
    refine List.Pairwise.cons ?_ (ih htail _)
    intro entry hentry
    obtain ⟨hmem, hrank⟩ := of_mem_rankEntries hentry
    rcases (hhead _ hmem).lt_or_eq with hlt | heq
    · exact .inl hlt
    · refine .inr ⟨heq, ?_⟩
      rw [← categoryOrder_injective heq, update_self] at hrank
      exact hrank

/-- **The entries of a selection stand in order**, by category and rank. -/
theorem pairwise_selectStrategyEvidence (platform : EvidencePlatform)
    (candidates : List StrategyEvidenceCandidate) (tokenBudget : Option ℕ) :
    (selectStrategyEvidence platform candidates tokenBudget).entries.Pairwise EntryBefore := by
  apply pairwise_rankEntries
  obtain ⟨added, hselected, hsublist⟩ := selected_sublist
    (candidates.insertionSort (precedes platform)) EvidenceSelection.start
  have hordered := inCategoryOrder_insertionSort platform candidates
  apply Pairwise.sublist (applyTokenBudget_sublist _ _ _ _)
  rw [hselected]
  exact hordered.sublist hsublist

end Order

end ContentAutomation
