import ContentAutomation.Analytics.WindowChoice

/-!
# The inputs of several windows

A run may be offered any list of windows. One read spans all of them, each window measures what it
admits of it, and the window that is chosen is published with what it measured. The answer is the
one that asking for each window on its own gives.
-/

namespace ContentAutomation

open Relational List

/-- The least of some ages, as `Math.min` of at least one. -/
def leastBound (minimums : List ℤ) : ℤ := minimums.foldl min 9007199254740991

/-- The greatest of some upper bounds, as `Math.max` of at least one. -/
def greatestBound (maximums : List (Option ℤ)) : Option ℤ := maximums.foldl maxBound (some 0)

/-- `loadBestAnalyticsInputs`, of any candidates. -/
def loadBestAnalyticsInputsFor (candidates : List SnapshotAgeWindowKey) (db : AnalyticsTables)
    (context : WorkspaceContext) (scope : AnalyticsScope) : Option AnalyticsWindowSelection :=
  let posts := scope.readAnalyticsPosts db context
  if posts = [] then none
  else
    let windows := candidates.map snapshotAgeWindowFor
    let snapshots := db.readSnapshots context (posts.map InstagramPost.id)
      (leastBound (windows.map SnapshotAgeWindow.minimumSeconds))
      (greatestBound (windows.map SnapshotAgeWindow.maximumSeconds))
    let considered := candidates.map fun ageWindow =>
      ⟨ageWindow, (measureAnalyticsInputs db posts snapshots ageWindow).posts.length⟩
    (selectAnalyticsAgeWindow considered moderateTotal weakTotal).bind fun ageWindow =>
      if ageWindow ∈ candidates then
        some ⟨ageWindow, considered, measureAnalyticsInputs db posts snapshots ageWindow⟩
      else none

/-- What asking for each window on its own gives: how many posts each measures, the window that is
chosen by that, and its inputs. -/
def loadEachAnalyticsInputs (candidates : List SnapshotAgeWindowKey) (db : AnalyticsTables)
    (context : WorkspaceContext) (scope : AnalyticsScope) : Option AnalyticsWindowSelection :=
  let considered := candidates.map fun ageWindow =>
    ⟨ageWindow, (loadAnalyticsInputs db context scope ageWindow).posts.length⟩
  (selectAnalyticsAgeWindow considered moderateTotal weakTotal).map fun ageWindow =>
    ⟨ageWindow, considered, loadAnalyticsInputs db context scope ageWindow⟩

namespace WindowInputs

variable {candidates : List SnapshotAgeWindowKey} {db : AnalyticsTables}
  {context : WorkspaceContext} {scope : AnalyticsScope} {ageWindow : SnapshotAgeWindowKey}

/-! ### One span -/

private theorem leastBound_le {minimums : List ℤ} {minimumSeconds : ℤ}
    (h : minimumSeconds ∈ minimums) :
    leastBound minimums ≤ minimumSeconds := by
  have hfold : ∀ (rest : List ℤ) (least : ℤ), rest.foldl min least ≤ least ∧
      ∀ minimum ∈ rest, rest.foldl min least ≤ minimum := by
    intro rest
    induction rest with
    | nil => exact fun least => ⟨le_refl least, fun _ hmem => absurd hmem not_mem_nil⟩
    | cons minimum rest ih =>
      intro least
      obtain ⟨hleast, hrest⟩ := ih (min least minimum)
      rw [foldl_cons]
      refine ⟨hleast.trans (min_le_left _ _), fun other hother => ?_⟩
      rcases mem_cons.mp hother with rfl | hmem
      · exact hleast.trans (min_le_right _ _)
      · exact hrest other hmem
  exact (hfold minimums _).2 minimumSeconds h

private theorem isWithin_maxBound {postAgeSeconds : ℤ} {left right : Option ℤ}
    (h : isWithin postAgeSeconds left ∨ isWithin postAgeSeconds right) :
    isWithin postAgeSeconds (maxBound left right) := by
  cases left <;> cases right <;> simp_all [isWithin, maxBound]

private theorem isWithin_greatestBound {maximums : List (Option ℤ)} {maximumSeconds : Option ℤ}
    {postAgeSeconds : ℤ} (hmem : maximumSeconds ∈ maximums)
    (hwithin : isWithin postAgeSeconds maximumSeconds) :
    isWithin postAgeSeconds (greatestBound maximums) := by
  have hfold : ∀ (rest : List (Option ℤ)) (greatest : Option ℤ),
      (isWithin postAgeSeconds greatest = true ∨ maximumSeconds ∈ rest) →
        isWithin postAgeSeconds (rest.foldl maxBound greatest) = true := by
    intro rest
    induction rest with
    | nil =>
      rintro greatest (hgreatest | hmem)
      · exact hgreatest
      · cases hmem
    | cons maximum rest ih =>
      rintro greatest (hgreatest | hmem)
      · exact ih _ (.inl (isWithin_maxBound (.inl hgreatest)))
      · rcases mem_cons.mp hmem with rfl | hrest
        · exact ih _ (.inl (isWithin_maxBound (.inr hwithin)))
        · exact ih _ (.inr hrest)
  exact hfold maximums _ (.inr hmem)

private theorem within_span (h : ageWindow ∈ candidates) :
    (snapshotAgeWindowFor ageWindow).Within
      (leastBound ((candidates.map snapshotAgeWindowFor).map SnapshotAgeWindow.minimumSeconds))
      (greatestBound
        ((candidates.map snapshotAgeWindowFor).map SnapshotAgeWindow.maximumSeconds)) := by
  have hwindow := mem_map_of_mem (f := snapshotAgeWindowFor) h
  intro postAgeSeconds hadmits
  obtain ⟨hminimum, hmaximum⟩ :=
    (snapshotAgeWindowFor ageWindow).within_self postAgeSeconds hadmits
  exact ⟨(leastBound_le (mem_map_of_mem hwindow)).trans hminimum,
    isWithin_greatestBound (mem_map_of_mem hwindow) hmaximum⟩

private theorem measureAnalyticsInputs_span (h : ageWindow ∈ candidates) :
    measureAnalyticsInputs db (scope.readAnalyticsPosts db context)
        (db.readSnapshots context ((scope.readAnalyticsPosts db context).map InstagramPost.id)
          (leastBound ((candidates.map snapshotAgeWindowFor).map SnapshotAgeWindow.minimumSeconds))
          (greatestBound
            ((candidates.map snapshotAgeWindowFor).map SnapshotAgeWindow.maximumSeconds)))
        ageWindow =
      loadAnalyticsInputs db context scope ageWindow :=
  measureAnalyticsInputs_readSnapshots (within_span h)

end WindowInputs

/-- **Measuring all windows at once.** Whichever windows are offered, reading one span for all of
them gives the window, the counts and the inputs that reading each of them gives. -/
theorem load_best_eq_load_each (candidates : List SnapshotAgeWindowKey) (db : AnalyticsTables)
    (context : WorkspaceContext) (scope : AnalyticsScope) :
    loadBestAnalyticsInputsFor candidates db context scope =
      loadEachAnalyticsInputs candidates db context scope := by
  unfold loadBestAnalyticsInputsFor loadEachAnalyticsInputs
  dsimp only
  split
  · next hposts =>
    have hnone (ageWindow : SnapshotAgeWindowKey) :
        (loadAnalyticsInputs db context scope ageWindow).posts = [] := by
      unfold loadAnalyticsInputs
      rw [hposts]
      rfl
    rw [WindowChoice.selectAnalyticsAgeWindow_nothing, Option.map_none]
    intro candidate hcandidate
    obtain ⟨ageWindow, -, rfl⟩ := mem_map.mp hcandidate
    rw [hnone, length_nil]
  · rw [map_congr_left fun ageWindow hmem => by
      rw [WindowInputs.measureAnalyticsInputs_span hmem]]
    cases hchosen : selectAnalyticsAgeWindow (candidates.map fun ageWindow =>
        (⟨ageWindow, (loadAnalyticsInputs db context scope ageWindow).posts.length⟩ :
          AnalyticsWindowCandidate)) moderateTotal weakTotal with
    | none => rfl
    | some ageWindow =>
      obtain ⟨candidate, hcandidate, hwindow⟩ := WindowChoice.exists_of_select hchosen
      obtain ⟨offered, hoffered, rfl⟩ := mem_map.mp hcandidate
      obtain rfl : offered = ageWindow := hwindow
      rw [Option.bind_some, if_pos hoffered, Option.map_some,
        WindowInputs.measureAnalyticsInputs_span hoffered]

end ContentAutomation
