import ContentAutomation.Analytics.Inputs
import ContentAutomation.Library.Optimum

/-!
# The choice of a window

Of the windows that a run may publish for, the most mature one that covers enough posts is chosen;
without one, the widest that can compare anything; and without that, every observation together if
this shows more posts. The choice depends on what each window covers, and not on the order in which
the windows are offered.
-/

namespace ContentAutomation

open Optimum List

namespace AnalyticsWindowCandidate

/-- A window that has had at least as long to settle. -/
def AsMature (first second : AnalyticsWindowCandidate) : Prop :=
  snapshotAgeWindowMaturity second.ageWindow ≤ snapshotAgeWindowMaturity first.ageWindow

/-- A window that covers more posts, or as many and is as mature. -/
def AsWide (first second : AnalyticsWindowCandidate) : Prop :=
  second.eligiblePosts < first.eligiblePosts ∨
    second.eligiblePosts = first.eligiblePosts ∧ first.AsMature second

instance : Std.Refl AsMature where
  refl first := le_refl (snapshotAgeWindowMaturity first.ageWindow)

instance : Std.Refl AsWide where
  refl first := Or.inr ⟨rfl, le_refl (snapshotAgeWindowMaturity first.ageWindow)⟩

instance : IsTrans AnalyticsWindowCandidate AsMature where
  trans first second third h h' := by
    unfold AsMature at h h' ⊢
    omega

instance : IsTrans AnalyticsWindowCandidate AsWide where
  trans first second third h h' := by
    unfold AsWide AsMature at h h' ⊢
    omega

end AnalyticsWindowCandidate

open AnalyticsWindowCandidate

open AnalyticsWindowCandidate

/-! ### What is to be chosen -/

/-- The windows of a matched age that have posts, and at least a number of them. -/
def matchedWindows (candidates : List AnalyticsWindowCandidate) (coverage : ℕ) :
    List AnalyticsWindowCandidate :=
  candidates.filter fun candidate => decide (0 < candidate.eligiblePosts) &&
    decide (candidate.ageWindow ≠ .lifetime) && decide (coverage ≤ candidate.eligiblePosts)

/-- All observations together cover more posts than every window of a matched age. -/
def LifetimeLeads (candidates : List AnalyticsWindowCandidate) : Prop :=
  ∃ unmatched ∈ candidates, unmatched.ageWindow = .lifetime ∧ 0 < unmatched.eligiblePosts ∧
    ∀ candidate ∈ candidates, candidate.ageWindow ≠ .lifetime →
      candidate.eligiblePosts < unmatched.eligiblePosts

/-- The window that is to be published for. -/
structure IsPublishedWindow (candidates : List AnalyticsWindowCandidate)
    (adequateCoverage minimumMatchedPosts : ℕ) (answer : Option SnapshotAgeWindowKey) : Prop where
  covered : matchedWindows candidates adequateCoverage ≠ [] →
    ∃ winner, IsBest AsMature (matchedWindows candidates adequateCoverage) winner ∧
      answer = some winner.ageWindow
  usable : matchedWindows candidates adequateCoverage = [] →
    matchedWindows candidates minimumMatchedPosts ≠ [] →
    ∃ winner, IsBest AsWide (matchedWindows candidates minimumMatchedPosts) winner ∧
      answer = some winner.ageWindow
  unmatched : matchedWindows candidates adequateCoverage = [] →
    matchedWindows candidates minimumMatchedPosts = [] → LifetimeLeads candidates →
    answer = some .lifetime
  widest : matchedWindows candidates adequateCoverage = [] →
    matchedWindows candidates minimumMatchedPosts = [] → ¬ LifetimeLeads candidates →
    matchedWindows candidates 0 ≠ [] →
    ∃ winner, IsBest AsWide (matchedWindows candidates 0) winner ∧ answer = some winner.ageWindow
  nothing : answer = none ↔ ∀ candidate ∈ candidates, candidate.eligiblePosts = 0

namespace WindowChoice

variable {candidates permuted : List AnalyticsWindowCandidate} {coverage : ℕ}
  {adequateCoverage minimumMatchedPosts : ℕ} {first second : AnalyticsWindowCandidate}
  {rest : List AnalyticsWindowCandidate} {unmatched : AnalyticsWindowCandidate}
  {answer : Option SnapshotAgeWindowKey}

private theorem mem_matchedWindows : first ∈ matchedWindows candidates coverage ↔
    first ∈ candidates ∧ 0 < first.eligiblePosts ∧ first.ageWindow ≠ .lifetime ∧
      coverage ≤ first.eligiblePosts := by
  simp [matchedWindows, and_assoc]

variable (winner : AnalyticsWindowCandidate)

private theorem isBest_mostMature (rest : List AnalyticsWindowCandidate) :
    IsBest AsMature (winner :: rest) (mostMature winner rest) := by
  refine isBest_foldl ?_ ?_ ?_ winner rest
  · intro winner row
    split
    · exact Or.inr rfl
    · exact Or.inl rfl
  · intro winner row
    unfold AsMature
    split <;> omega
  · intro winner row
    unfold AsMature
    split <;> omega

private theorem isBest_widest (rest : List AnalyticsWindowCandidate) :
    IsBest AsWide (winner :: rest) (widest winner rest) := by
  refine isBest_foldl ?_ ?_ ?_ winner rest
  · intro winner row
    split
    · exact Or.inr rfl
    · exact Or.inl rfl
  · intro winner row
    unfold AsWide AsMature
    split <;> omega
  · intro winner row
    unfold AsWide AsMature
    split <;> omega

private theorem maturity_injective {first second : SnapshotAgeWindowKey}
    (h : snapshotAgeWindowMaturity first = snapshotAgeWindowMaturity second) : first = second := by
  cases first <;> cases second <;> first | rfl | cases h

private theorem filter_measured (candidates : List AnalyticsWindowCandidate) (coverage : ℕ) :
    (((candidates.filter fun candidate => decide (0 < candidate.eligiblePosts)).filter
      fun candidate => decide (candidate.ageWindow ≠ .lifetime)).filter
        fun candidate => decide (coverage ≤ candidate.eligiblePosts)) =
      matchedWindows candidates coverage := by
  rw [filter_filter, filter_filter]
  refine filter_congr fun candidate _ => ?_
  rw [Bool.and_comm, Bool.and_comm (decide (coverage ≤ candidate.eligiblePosts)), Bool.and_assoc]

private theorem filter_matched (candidates : List AnalyticsWindowCandidate) :
    ((candidates.filter fun candidate => decide (0 < candidate.eligiblePosts)).filter
      fun candidate => decide (candidate.ageWindow ≠ .lifetime)) = matchedWindows candidates 0 := by
  rw [← filter_measured candidates 0]
  simp

private theorem measured_eq_nil_iff :
    (candidates.filter fun candidate => decide (0 < candidate.eligiblePosts)) = [] ↔
      ∀ candidate ∈ candidates, candidate.eligiblePosts = 0 := by
  simp [filter_eq_nil_iff]

theorem selectAnalyticsAgeWindow_nothing
    (h : ∀ candidate ∈ candidates, candidate.eligiblePosts = 0) :
    selectAnalyticsAgeWindow candidates adequateCoverage minimumMatchedPosts = none := by
  have hmeasured := measured_eq_nil_iff.mpr h
  unfold selectAnalyticsAgeWindow
  simp only [hmeasured]

private theorem eq_of_lifetime (hdistinct : (candidates.map ageWindow).Nodup)
    (hfirst : first ∈ candidates) (hsecond : second ∈ candidates)
    (hlifetime : first.ageWindow = .lifetime) (hlifetime' : second.ageWindow = .lifetime) :
    first = second :=
  inj_on_of_nodup_map hdistinct hfirst hsecond (hlifetime.trans hlifetime'.symm)

private theorem measured_ne_nil (h : matchedWindows candidates coverage ≠ []) :
    (candidates.filter fun candidate => decide (0 < candidate.eligiblePosts)) ≠ [] := by
  intro hmeasured
  apply h
  rw [← filter_measured, hmeasured]
  rfl

private theorem selectAnalyticsAgeWindow_covered
    (h : matchedWindows candidates adequateCoverage = first :: rest) :
    selectAnalyticsAgeWindow candidates adequateCoverage minimumMatchedPosts =
      some (mostMature first rest).ageWindow := by
  obtain ⟨head, tail, hmeasured⟩ :=
    exists_cons_of_ne_nil (measured_ne_nil (h ▸ cons_ne_nil first rest))
  have hfilter := filter_measured candidates adequateCoverage
  unfold selectAnalyticsAgeWindow
  rw [hmeasured, h] at hfilter
  simp only [hmeasured, hfilter]

/-- What is chosen where a window can compare something, but none covers enough posts. -/
theorem selectAnalyticsAgeWindow_usable (hcovered : matchedWindows candidates adequateCoverage = [])
    (h : matchedWindows candidates minimumMatchedPosts = first :: rest) :
    selectAnalyticsAgeWindow candidates adequateCoverage minimumMatchedPosts =
      some (widest first rest).ageWindow := by
  obtain ⟨head, tail, hmeasured⟩ :=
    exists_cons_of_ne_nil (measured_ne_nil (h ▸ cons_ne_nil first rest))
  have hfilter := filter_measured candidates adequateCoverage
  have husable := filter_measured candidates minimumMatchedPosts
  unfold selectAnalyticsAgeWindow
  rw [hmeasured, hcovered] at hfilter
  rw [hmeasured, h] at husable
  simp only [hmeasured, hfilter, husable]

section Neither

variable (hcovered : matchedWindows candidates adequateCoverage = [])
  (husable : matchedWindows candidates minimumMatchedPosts = [])
  (hunmatched : (candidates.filter fun candidate => decide (0 < candidate.eligiblePosts)).find?
    (fun candidate => decide (candidate.ageWindow = .lifetime)) = some unmatched)

include hcovered husable

/-- What is chosen where no window can compare anything and not all observations are offered. -/
theorem selectAnalyticsAgeWindow_widest
    (hmeasured : (candidates.filter fun candidate => decide (0 < candidate.eligiblePosts)) =
      first :: rest)
    (hnone : (first :: rest).find? (fun candidate => decide (candidate.ageWindow = .lifetime)) =
      none) :
    selectAnalyticsAgeWindow candidates adequateCoverage minimumMatchedPosts =
      some (widest first rest).ageWindow := by
  have hfilter := filter_measured candidates adequateCoverage
  have husable' := filter_measured candidates minimumMatchedPosts
  unfold selectAnalyticsAgeWindow
  rw [hmeasured, hcovered] at hfilter
  rw [hmeasured, husable] at husable'
  simp only [hmeasured, hfilter, husable', hnone]

include hunmatched

/-- What is chosen where all observations are offered: them, or the widest of the windows that have
posts, though they can compare nothing. -/
theorem selectAnalyticsAgeWindow_lifetime :
    selectAnalyticsAgeWindow candidates adequateCoverage minimumMatchedPosts =
      some (match matchedWindows candidates 0 with
        | [] => unmatched.ageWindow
        | first :: rest =>
          if unmatched.eligiblePosts ≤ (widest first rest).eligiblePosts
          then (widest first rest).ageWindow else unmatched.ageWindow) := by
  have hfilter := filter_measured candidates adequateCoverage
  have husable' := filter_measured candidates minimumMatchedPosts
  have hmatched := filter_matched candidates
  unfold selectAnalyticsAgeWindow
  cases hmeasured : candidates.filter fun candidate => decide (0 < candidate.eligiblePosts) with
  | nil =>
    rw [hmeasured] at hunmatched
    cases hunmatched
  | cons head tail =>
    rw [hmeasured] at hunmatched hmatched
    rw [hmeasured, hcovered] at hfilter
    rw [hmeasured, husable] at husable'
    simp only [hfilter, husable', hunmatched]
    simp only [hmatched]
    cases matchedWindows candidates 0 <;> rfl

end Neither

private theorem find_lifetime_eq_some
    (hunmatched : (candidates.filter fun candidate => decide (0 < candidate.eligiblePosts)).find?
      (fun candidate => decide (candidate.ageWindow = .lifetime)) = some unmatched) :
    unmatched ∈ candidates ∧ unmatched.ageWindow = .lifetime ∧ 0 < unmatched.eligiblePosts := by
  obtain ⟨hmem, hposts⟩ := mem_filter.mp (mem_of_find?_eq_some hunmatched)
  have hlifetime := List.find?_some hunmatched
  exact ⟨hmem, of_decide_eq_true hlifetime, of_decide_eq_true hposts⟩

private theorem filter_measured_eq_matchedWindows
    (hnone : (candidates.filter fun candidate => decide (0 < candidate.eligiblePosts)).find?
      (fun candidate => decide (candidate.ageWindow = .lifetime)) = none) :
    (candidates.filter fun candidate => decide (0 < candidate.eligiblePosts)) =
      matchedWindows candidates 0 := by
  rw [← filter_matched, eq_comm, filter_eq_self]
  intro candidate hmem
  simpa using List.find?_eq_none.mp hnone candidate hmem

/-- All observations lead exactly if they cover more posts than the windows with posts. -/
theorem lifetimeLeads_iff (hdistinct : (candidates.map ageWindow).Nodup)
    (hunmatched : (candidates.filter fun candidate => decide (0 < candidate.eligiblePosts)).find?
      (fun candidate => decide (candidate.ageWindow = .lifetime)) = some unmatched) :
    LifetimeLeads candidates ↔
      ∀ candidate ∈ matchedWindows candidates 0,
        candidate.eligiblePosts < unmatched.eligiblePosts := by
  obtain ⟨hmem, hlifetime, hposts⟩ := find_lifetime_eq_some hunmatched
  constructor
  · rintro ⟨other, hother, hlifetime', -, hleads⟩ candidate hcandidate
    obtain rfl := eq_of_lifetime hdistinct hother hmem hlifetime' hlifetime
    obtain ⟨hcandidate, -, hmatched, -⟩ := mem_matchedWindows.mp hcandidate
    exact hleads candidate hcandidate hmatched
  · intro hleads
    refine ⟨unmatched, hmem, hlifetime, hposts, fun candidate hcandidate hmatched => ?_⟩
    rcases Nat.eq_zero_or_pos candidate.eligiblePosts with hzero | hpositive
    · omega
    · exact hleads candidate (mem_matchedWindows.mpr
        ⟨hcandidate, hpositive, hmatched, Nat.zero_le _⟩)

private theorem not_lifetimeLeads
    (hnone : (candidates.filter fun candidate => decide (0 < candidate.eligiblePosts)).find?
      (fun candidate => decide (candidate.ageWindow = .lifetime)) = none) :
    ¬ LifetimeLeads candidates := by
  rintro ⟨unmatched, hmem, hlifetime, hposts, -⟩
  have hmeasured : unmatched ∈ candidates.filter fun candidate =>
      decide (0 < candidate.eligiblePosts) :=
    mem_filter.mpr ⟨hmem, decide_eq_true hposts⟩
  exact List.find?_eq_none.mp hnone unmatched hmeasured (decide_eq_true hlifetime)

private theorem ne_none_of_isPublished {candidate : AnalyticsWindowCandidate}
    (hanswer : answer = some candidate.ageWindow)
    (hmeasured : (candidates.filter fun candidate => decide (0 < candidate.eligiblePosts)) ≠ []) :
    answer = none ↔ ∀ candidate ∈ candidates, candidate.eligiblePosts = 0 := by
  rw [hanswer, ← measured_eq_nil_iff]
  exact iff_of_false (Option.some_ne_none _) hmeasured

private theorem isPublishedWindow_neither
    (hcovered : matchedWindows candidates adequateCoverage = [])
    (husable : matchedWindows candidates minimumMatchedPosts = [])
    (hanswer : selectAnalyticsAgeWindow candidates adequateCoverage minimumMatchedPosts = answer)
    (hleads : LifetimeLeads candidates → answer = some .lifetime)
    (hwidest : ¬ LifetimeLeads candidates → matchedWindows candidates 0 ≠ [] →
      ∃ winner, IsBest AsWide (matchedWindows candidates 0) winner ∧
        answer = some winner.ageWindow)
    (hnothing : answer = none ↔ ∀ candidate ∈ candidates, candidate.eligiblePosts = 0) :
    IsPublishedWindow candidates adequateCoverage minimumMatchedPosts
      (selectAnalyticsAgeWindow candidates adequateCoverage minimumMatchedPosts) := by
  rw [hanswer]
  exact ⟨fun h => absurd hcovered h, fun _ h => absurd husable h, fun _ _ => hleads,
    fun _ _ => hwidest, hnothing⟩

/-- The choice where no window can compare anything and not all observations are offered. -/
theorem isPublishedWindow_of_none
    (hcovered : matchedWindows candidates adequateCoverage = [])
    (husable : matchedWindows candidates minimumMatchedPosts = [])
    (hnone : (candidates.filter fun candidate => decide (0 < candidate.eligiblePosts)).find?
      (fun candidate => decide (candidate.ageWindow = .lifetime)) = none) :
    IsPublishedWindow candidates adequateCoverage minimumMatchedPosts
      (selectAnalyticsAgeWindow candidates adequateCoverage minimumMatchedPosts) := by
  have hmeasured := filter_measured_eq_matchedWindows hnone
  have hleads := not_lifetimeLeads hnone
  cases hmatched : matchedWindows candidates 0 with
  | nil =>
    rw [hmatched] at hmeasured
    have hzero := measured_eq_nil_iff.mp hmeasured
    exact isPublishedWindow_neither hcovered husable (selectAnalyticsAgeWindow_nothing hzero)
      (fun h => absurd h hleads) (fun _ h => absurd hmatched h) (iff_of_true rfl hzero)
  | cons first rest =>
    rw [hmatched] at hmeasured
    rw [hmeasured] at hnone
    have hanswer := selectAnalyticsAgeWindow_widest hcovered husable hmeasured hnone
    refine isPublishedWindow_neither hcovered husable hanswer (fun h => absurd h hleads)
      (fun _ _ => ⟨_, hmatched ▸ isBest_widest first rest, rfl⟩)
      (ne_none_of_isPublished rfl ?_)
    rw [hmeasured]
    exact cons_ne_nil first rest

/-- The choice where no window can compare anything and all observations are offered. -/
theorem isPublishedWindow_of_some
    (hdistinct : (candidates.map ageWindow).Nodup)
    (hcovered : matchedWindows candidates adequateCoverage = [])
    (husable : matchedWindows candidates minimumMatchedPosts = [])
    (hunmatched : (candidates.filter fun candidate => decide (0 < candidate.eligiblePosts)).find?
      (fun candidate => decide (candidate.ageWindow = .lifetime)) = some unmatched) :
    IsPublishedWindow candidates adequateCoverage minimumMatchedPosts
      (selectAnalyticsAgeWindow candidates adequateCoverage minimumMatchedPosts) := by
  have hleads := lifetimeLeads_iff hdistinct hunmatched
  have hlifetime := (find_lifetime_eq_some hunmatched).2.1
  have hmeasured : (candidates.filter fun candidate => decide (0 < candidate.eligiblePosts)) ≠
      [] := ne_nil_of_mem (mem_of_find?_eq_some hunmatched)
  have hanswer := selectAnalyticsAgeWindow_lifetime hcovered husable hunmatched
  cases hmatched : matchedWindows candidates 0 with
  | nil =>
    simp only [hmatched] at hanswer
    exact isPublishedWindow_neither hcovered husable hanswer (fun _ => congrArg some hlifetime)
      (fun _ h => absurd hmatched h) (ne_none_of_isPublished rfl hmeasured)
  | cons first rest =>
    have hwidest : IsBest AsWide (matchedWindows candidates 0) (widest first rest) :=
      hmatched ▸ isBest_widest first rest
    simp only [hmatched] at hanswer
    by_cases hmore : unmatched.eligiblePosts ≤ (widest first rest).eligiblePosts
    · -- the widest window of a matched age covers as many posts
      rw [if_pos hmore] at hanswer
      have hnot : ¬ LifetimeLeads candidates := fun h =>
        absurd (hleads.mp h _ hwidest.mem) (not_lt.mpr hmore)
      exact isPublishedWindow_neither hcovered husable hanswer (fun h => absurd h hnot)
        (fun _ _ => ⟨_, hwidest, rfl⟩) (ne_none_of_isPublished rfl hmeasured)
    · rw [if_neg hmore] at hanswer
      have hleads' : LifetimeLeads candidates := by
        refine hleads.mpr fun candidate hcandidate => ?_
        have hbefore := hwidest.before candidate hcandidate
        unfold AsWide at hbefore
        omega
      exact isPublishedWindow_neither hcovered husable hanswer
        (fun _ => congrArg some hlifetime) (fun hnot => absurd hleads' hnot)
        (ne_none_of_isPublished rfl hmeasured)

/-- The window that is chosen has been offered. -/
theorem exists_of_select {ageWindow : SnapshotAgeWindowKey}
    (h : selectAnalyticsAgeWindow candidates adequateCoverage minimumMatchedPosts =
      some ageWindow) :
    ∃ candidate ∈ candidates, candidate.ageWindow = ageWindow := by
  have hwinner {winner : AnalyticsWindowCandidate} (hmem : winner ∈ candidates)
      (hanswer : selectAnalyticsAgeWindow candidates adequateCoverage minimumMatchedPosts =
        some winner.ageWindow) : ∃ candidate ∈ candidates, candidate.ageWindow = ageWindow :=
    ⟨winner, hmem, Option.some.inj (hanswer.symm.trans h)⟩
  cases hcovered : matchedWindows candidates adequateCoverage with
  | cons first rest =>
    have hbest := (isBest_mostMature first rest).mem
    rw [← hcovered] at hbest
    exact hwinner (mem_matchedWindows.mp hbest).1 (selectAnalyticsAgeWindow_covered hcovered)
  | nil =>
    cases husable : matchedWindows candidates minimumMatchedPosts with
    | cons first rest =>
      have hbest := (isBest_widest first rest).mem
      rw [← husable] at hbest
      exact hwinner (mem_matchedWindows.mp hbest).1 (selectAnalyticsAgeWindow_usable hcovered husable)
    | nil =>
      cases hmeasured : candidates.filter fun candidate => decide (0 < candidate.eligiblePosts) with
      | nil =>
        rw [selectAnalyticsAgeWindow_nothing (measured_eq_nil_iff.mp hmeasured)] at h
        cases h
      | cons first rest =>
        cases hfind : (first :: rest).find? fun candidate =>
            decide (candidate.ageWindow = .lifetime) with
        | none =>
          have hbest := (isBest_widest first rest).mem
          rw [← hmeasured] at hbest
          exact hwinner (mem_filter.mp hbest).1
            (selectAnalyticsAgeWindow_widest hcovered husable hmeasured hfind)
        | some unmatched =>
          rw [← hmeasured] at hfind
          have hunmatched := (find_lifetime_eq_some hfind).1
          have hanswer := selectAnalyticsAgeWindow_lifetime hcovered husable hfind
          cases hmatched : matchedWindows candidates 0 with
          | nil =>
            simp only [hmatched] at hanswer
            exact hwinner hunmatched hanswer
          | cons best others =>
            have hbest := (isBest_widest best others).mem
            rw [← hmatched] at hbest
            simp only [hmatched] at hanswer
            split_ifs at hanswer
            · exact hwinner (mem_matchedWindows.mp hbest).1 hanswer
            · exact hwinner hunmatched hanswer

/-- **The choice.** What is chosen is the window that is to be published for. -/
theorem isPublishedWindow_select
    (hdistinct : (candidates.map ageWindow).Nodup) :
    IsPublishedWindow candidates adequateCoverage minimumMatchedPosts
      (selectAnalyticsAgeWindow candidates adequateCoverage minimumMatchedPosts) := by
  cases hcovered : matchedWindows candidates adequateCoverage with
  | cons first rest =>
    have hchosen : selectAnalyticsAgeWindow candidates adequateCoverage minimumMatchedPosts = _ :=
      selectAnalyticsAgeWindow_covered hcovered
    have hmeasured := measured_ne_nil (hcovered ▸ cons_ne_nil first rest)
    refine ⟨fun _ => ⟨_, hcovered ▸ isBest_mostMature first rest, hchosen⟩, ?_, ?_, ?_,
      ne_none_of_isPublished hchosen hmeasured⟩ <;>
      · intro hnone
        cases hcovered.symm.trans hnone
  | nil =>
    cases husable : matchedWindows candidates minimumMatchedPosts with
    | cons first rest =>
      have hchosen := selectAnalyticsAgeWindow_usable hcovered husable
      have hmeasured := measured_ne_nil (husable ▸ cons_ne_nil first rest)
      refine ⟨fun hsome => absurd hcovered hsome,
        fun _ _ => ⟨_, husable ▸ isBest_widest first rest, hchosen⟩, ?_, ?_,
        ne_none_of_isPublished hchosen hmeasured⟩ <;>
        · intro _ hnone
          cases husable.symm.trans hnone
    | nil =>
      cases hfind : (candidates.filter fun candidate => decide (0 < candidate.eligiblePosts)).find?
          fun candidate => decide (candidate.ageWindow = .lifetime) with
      | none => exact isPublishedWindow_of_none hcovered husable hfind
      | some unmatched => exact isPublishedWindow_of_some hdistinct hcovered husable hfind

private theorem eq_of_asMature (hdistinct : (candidates.map ageWindow).Nodup)
    (hfirst : first ∈ candidates) (hsecond : second ∈ candidates) (h : first.AsMature second)
    (h' : second.AsMature first) : first = second := by
  have hwindow : first.ageWindow = second.ageWindow := maturity_injective (le_antisymm h' h)
  exact inj_on_of_nodup_map hdistinct hfirst hsecond hwindow

private theorem eq_of_asWide (hdistinct : (candidates.map ageWindow).Nodup)
    (hfirst : first ∈ candidates) (hsecond : second ∈ candidates) (h : first.AsWide second)
    (h' : second.AsWide first) : first = second := by
  unfold AsWide at h h'
  refine eq_of_asMature hdistinct hfirst hsecond ?_ ?_
  · rcases h with hmore | ⟨-, hmature⟩
    · omega
    · exact hmature
  · rcases h' with hmore | ⟨-, hmature⟩
    · omega
    · exact hmature

/-- No window has a post, if none of a matched age has one and all observations do not lead. -/
theorem eligiblePosts_eq_zero (hleads : ¬ LifetimeLeads candidates)
    (hmatched : matchedWindows candidates 0 = []) :
    ∀ candidate ∈ candidates, candidate.eligiblePosts = 0 := by
  have hzero : ∀ candidate ∈ candidates, candidate.ageWindow ≠ .lifetime →
      candidate.eligiblePosts = 0 := by
    intro candidate hmem hmatch
    by_contra hposts
    have hin : candidate ∈ matchedWindows candidates 0 :=
      mem_matchedWindows.mpr ⟨hmem, Nat.pos_of_ne_zero hposts, hmatch, Nat.zero_le _⟩
    rw [hmatched] at hin
    cases hin
  intro candidate hmem
  by_cases hlifetime : candidate.ageWindow = .lifetime
  · by_contra hposts
    refine hleads ⟨candidate, hmem, hlifetime, Nat.pos_of_ne_zero hposts, ?_⟩
    intro other hother hmatch
    rw [hzero other hother hmatch]
    exact Nat.pos_of_ne_zero hposts
  · exact hzero candidate hmem hlifetime

private theorem isPublishedWindow_unique
    (hdistinct : (candidates.map ageWindow).Nodup)
    {other : Option SnapshotAgeWindowKey}
    (h : IsPublishedWindow candidates adequateCoverage minimumMatchedPosts answer)
    (h' : IsPublishedWindow candidates adequateCoverage minimumMatchedPosts other) :
    answer = other := by
  have hwidest {coverage : ℕ} {winner winner' : AnalyticsWindowCandidate}
      (hbest : IsBest AsWide (matchedWindows candidates coverage) winner)
      (hbest' : IsBest AsWide (matchedWindows candidates coverage) winner') : winner = winner' :=
    hbest.eq hbest' fun _ hmem => eq_of_asWide hdistinct (mem_matchedWindows.mp hbest.mem).1
      (mem_matchedWindows.mp hmem).1
  by_cases hcovered : matchedWindows candidates adequateCoverage = []
  · by_cases husable : matchedWindows candidates minimumMatchedPosts = []
    · by_cases hleads : LifetimeLeads candidates
      · rw [h.unmatched hcovered husable hleads, h'.unmatched hcovered husable hleads]
      · by_cases hmatched : matchedWindows candidates 0 = []
        · have hzero := eligiblePosts_eq_zero hleads hmatched
          rw [h.nothing.mpr hzero, h'.nothing.mpr hzero]
        · obtain ⟨winner, hbest, rfl⟩ := h.widest hcovered husable hleads hmatched
          obtain ⟨winner', hbest', rfl⟩ := h'.widest hcovered husable hleads hmatched
          rw [hwidest hbest hbest']
    · obtain ⟨winner, hbest, rfl⟩ := h.usable hcovered husable
      obtain ⟨winner', hbest', rfl⟩ := h'.usable hcovered husable
      rw [hwidest hbest hbest']
  · obtain ⟨winner, hbest, rfl⟩ := h.covered hcovered
    obtain ⟨winner', hbest', rfl⟩ := h'.covered hcovered
    have hwinner : winner = winner' := hbest.eq hbest' fun _ hmem =>
      eq_of_asMature hdistinct (mem_matchedWindows.mp hbest.mem).1 (mem_matchedWindows.mp hmem).1
    rw [hwinner]

private theorem isPublishedWindow_of_perm (hperm : permuted.Perm candidates)
    (h : IsPublishedWindow permuted adequateCoverage minimumMatchedPosts answer) :
    IsPublishedWindow candidates adequateCoverage minimumMatchedPosts answer := by
  have hmatched (coverage : ℕ) :
      (matchedWindows permuted coverage).Perm (matchedWindows candidates coverage) :=
    hperm.filter _
  have hnil (coverage : ℕ) :
      matchedWindows permuted coverage = [] ↔ matchedWindows candidates coverage = [] := by
    rw [← length_eq_zero_iff, (hmatched coverage).length_eq, length_eq_zero_iff]
  have hleads : LifetimeLeads permuted ↔ LifetimeLeads candidates := by
    simp only [LifetimeLeads, hperm.mem_iff]
  have hbest {order : AnalyticsWindowCandidate → AnalyticsWindowCandidate → Prop} {coverage : ℕ}
      (hsome : ∃ winner, IsBest order (matchedWindows permuted coverage) winner ∧
        answer = some winner.ageWindow) :
      ∃ winner, IsBest order (matchedWindows candidates coverage) winner ∧
        answer = some winner.ageWindow := by
    obtain ⟨winner, hwinner, hanswer⟩ := hsome
    exact ⟨winner, hwinner.congr fun _ => (hmatched coverage).mem_iff, hanswer⟩
  refine ⟨fun hcovered => ?_, fun hcovered husable => ?_, fun hcovered husable hlead => ?_,
    fun hcovered husable hlead hposts => ?_, ?_⟩
  · exact hbest (h.covered (mt (hnil _).mp hcovered))
  · exact hbest (h.usable ((hnil _).mpr hcovered) (mt (hnil _).mp husable))
  · exact h.unmatched ((hnil _).mpr hcovered) ((hnil _).mpr husable) (hleads.mpr hlead)
  · exact hbest (h.widest ((hnil _).mpr hcovered) ((hnil _).mpr husable) (mt hleads.mp hlead)
      (mt (hnil _).mp hposts))
  · rw [h.nothing]
    simp only [hperm.mem_iff]

end WindowChoice

/-- **The window that is published for.** Of distinct windows, in whatever order they are offered,
the one that is chosen is the most mature with adequate coverage, else the widest that can compare
something, else all observations together if they cover more, else the widest. -/
theorem age_window_selection (candidates : List AnalyticsWindowCandidate)
    (hdistinct : (candidates.map AnalyticsWindowCandidate.ageWindow).Nodup)
    (adequateCoverage minimumMatchedPosts : ℕ) :
    IsPublishedWindow candidates adequateCoverage minimumMatchedPosts
        (selectAnalyticsAgeWindow candidates adequateCoverage minimumMatchedPosts) ∧
      (∀ answer, IsPublishedWindow candidates adequateCoverage minimumMatchedPosts answer →
        answer = selectAnalyticsAgeWindow candidates adequateCoverage minimumMatchedPosts) ∧
      ∀ permuted, permuted.Perm candidates →
        selectAnalyticsAgeWindow permuted adequateCoverage minimumMatchedPosts =
          selectAnalyticsAgeWindow candidates adequateCoverage minimumMatchedPosts := by
  have hchosen : IsPublishedWindow candidates adequateCoverage minimumMatchedPosts _ :=
    WindowChoice.isPublishedWindow_select hdistinct
  refine ⟨hchosen, fun answer hanswer => ?_, fun permuted hperm => ?_⟩
  · exact WindowChoice.isPublishedWindow_unique hdistinct hanswer hchosen
  · have hdistinct' : (permuted.map ageWindow).Nodup :=
      (hperm.map _).nodup_iff.mpr hdistinct
    have hpermuted : IsPublishedWindow permuted adequateCoverage minimumMatchedPosts _ :=
      WindowChoice.isPublishedWindow_select hdistinct'
    exact WindowChoice.isPublishedWindow_unique hdistinct
      (WindowChoice.isPublishedWindow_of_perm hperm hpermuted) hchosen

/-- An account whose posts were all old when it connected. -/
def settledAccountWindows : List AnalyticsWindowCandidate :=
  [⟨.day7, 0⟩, ⟨.day30, 5⟩, ⟨.mature, 5⟩, ⟨.lifetime, 9⟩]

theorem settled_account_reads_every_observation :
    (settledAccountWindows.map AnalyticsWindowCandidate.ageWindow).Nodup ∧
      IsPublishedWindow settledAccountWindows 20 8
        (selectAnalyticsAgeWindow settledAccountWindows 20 8) ∧
      selectAnalyticsAgeWindow settledAccountWindows 20 8 = some .lifetime ∧
      selectAnalyticsAgeWindow settledAccountWindows.reverse 20 8 = some .lifetime := by
  have hdistinct : (settledAccountWindows.map ageWindow).Nodup := by
    decide
  have hchosen := age_window_selection settledAccountWindows hdistinct 20 8
  have hlifetime : selectAnalyticsAgeWindow settledAccountWindows 20 8 = some .lifetime := by
    decide
  exact ⟨hdistinct, hchosen.1, hlifetime,
    (hchosen.2.2 _ (reverse_perm _)).trans hlifetime⟩

end ContentAutomation
