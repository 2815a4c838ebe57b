import ContentAutomation.Library.OrderStatistic
import Mathlib.Data.List.Induction

/-!
# Step-up selection

The values of a list are ranked, and the greatest rank whose value is within a threshold of its
rank takes all ranks before it with it. Whether a value is selected is told by counting.
-/

namespace StepUp

open OrderStatistic List

variable {K : Type*} [LinearOrder K]

/-- The values with their places, the least first. -/
def ranked (values : List K) : List (K × ℕ) :=
  values.zipIdx.insertionSort fun entry other => entry.1 ≤ other.1

/-- The greatest rank whose value is within the threshold of the rank; `-1` if there is none. -/
def largestWithin (threshold : ℕ → K) (entries : List (K × ℕ)) : ℤ :=
  entries.zipIdx.foldl
    (fun largest entry => if entry.1.1 ≤ threshold entry.2 then entry.2 else largest) (-1)

/-- For each place, whether its value is selected. -/
def selected (threshold : ℕ → K) (values : List K) : List Bool :=
  (List.range values.length).map fun place =>
    ((ranked values).take (largestWithin threshold (ranked values) + 1).toNat).any fun entry =>
      entry.2 == place

variable {threshold : ℕ → K} {values : List K} {place : ℕ}

/-! ### Ranks -/

private theorem map_ranked (values : List K) : (ranked values).map Prod.fst = ascending values := by
  have hmap := map_insertionSort (fun entry other : K × ℕ => entry.1 ≤ other.1) (· ≤ ·)
    Prod.fst values.zipIdx fun _ _ _ _ => Iff.rfl
  rw [ranked, hmap, zipIdx_map_fst]
  rfl

@[simp] theorem length_ranked (values : List K) : (ranked values).length = values.length := by
  simp [ranked]

private theorem exists_rank (hplace : place < values.length) :
    ∃ rank, ∃ hrank : rank < (ranked values).length,
      (ranked values)[rank] = (values[place], place) := by
  have hmem : (values[place], place) ∈ ranked values := by
    rw [ranked, mem_insertionSort, mk_mem_zipIdx_iff_getElem?]
    exact List.getElem?_eq_getElem hplace
  exact getElem_of_mem hmem

private theorem getElem_ranked {rank : ℕ} (hrank : rank < (ranked values).length)
    (hplace : place < values.length) (h : (ranked values)[rank].2 = place) :
    (ranked values)[rank].1 = values[place] := by
  have hmem : (ranked values)[rank] ∈ values.zipIdx :=
    (mem_insertionSort _).mp (getElem_mem hrank)
  have hvalue := mem_zipIdx_iff_getElem?.mp hmem
  rw [h, List.getElem?_eq_getElem hplace] at hvalue
  exact (Option.some.inj hvalue).symm

private theorem ranked_le_iff {rank : ℕ} (hrank : rank < (ranked values).length) (bound : K) :
    (ranked values)[rank].1 ≤ bound ↔ rank < values.countP (· ≤ bound) := by
  have hascending : rank < (ascending values).length := by simpa using hrank
  have hvalue : (ranked values)[rank].1 = (ascending values)[rank] := by
    simp only [← map_ranked, getElem_map]
  have hbelow : ∀ value other : K, value ≤ other → decide (other ≤ bound) = true →
      decide (value ≤ bound) = true := by
    intro value other hle hother
    exact decide_eq_true (hle.trans (of_decide_eq_true hother))
  rw [hvalue, ← getElem_ascending_below_iff _ hbelow hascending, decide_eq_true_iff]

/-! ### The greatest rank -/

private theorem largestWithin_append (entries : List (K × ℕ)) (entry : K × ℕ) :
    largestWithin threshold (entries ++ [entry]) =
      if entry.1 ≤ threshold entries.length then (entries.length : ℤ)
      else largestWithin threshold entries := by
  simp [largestWithin, zipIdx_append]

variable (threshold) in
/-- The greatest rank is one whose value is within its threshold, and no later one is. -/
theorem largestWithin_spec (entries : List (K × ℕ)) :
    (∀ rank, (hrank : rank < entries.length) → entries[rank].1 ≤ threshold rank →
        (rank : ℤ) ≤ largestWithin threshold entries) ∧
      (largestWithin threshold entries = -1 ∨ ∃ rank, ∃ hrank : rank < entries.length,
        largestWithin threshold entries = rank ∧ entries[rank].1 ≤ threshold rank) := by
  induction entries using List.reverseRecOn with
  | nil => exact ⟨fun rank hrank => absurd hrank (Nat.not_lt_zero rank), .inl rfl⟩
  | append_singleton entries entry ih =>
    obtain ⟨hlater, hown⟩ := ih
    have hsmall : largestWithin threshold entries < entries.length := by
      rcases hown with hnone | ⟨rank, hrank, heq, -⟩ <;> omega
    rw [largestWithin_append]
    constructor
    · intro rank hrank hwithin
      rw [length_append, length_singleton] at hrank
      rcases Nat.lt_or_eq_of_le (Nat.lt_succ_iff.mp hrank) with hlt | rfl
      · rw [getElem_append_left hlt] at hwithin
        have := hlater rank hlt hwithin
        split_ifs <;> omega
      · rw [getElem_append_right le_rfl] at hwithin
        simp only [Nat.sub_self, getElem_singleton] at hwithin
        rw [if_pos hwithin]
    · by_cases hwithin : entry.1 ≤ threshold entries.length
      · refine .inr ⟨entries.length, by simp, if_pos hwithin, ?_⟩
        simpa using hwithin
      · rw [if_neg hwithin]
        rcases hown with hnone | ⟨rank, hrank, heq, hle⟩
        · exact .inl hnone
        · refine .inr ⟨rank, by rw [length_append]; omega, heq, ?_⟩
          rw [getElem_append_left hrank]
          exact hle

/-! ### What is selected -/

theorem getD_selected_iff (hplace : place < values.length) :
    (selected threshold values).getD place false ↔
      ∃ rank, ∃ hrank : rank < (ranked values).length,
        (rank : ℤ) ≤ largestWithin threshold (ranked values) ∧
          (ranked values)[rank].2 = place := by
  rw [getD_eq_getElem _ _ (by simpa [selected] using hplace)]
  simp only [selected, getElem_map, getElem_range, any_eq_true, beq_iff_eq]
  constructor
  · rintro ⟨entry, hentry, rfl⟩
    obtain ⟨rank, hrank, rfl⟩ := getElem_of_mem hentry
    rw [length_take] at hrank
    exact ⟨rank, by omega, by omega, by rw [getElem_take]⟩
  · rintro ⟨rank, hrank, hle, rfl⟩
    exact ⟨(ranked values)[rank], mem_take_iff_getElem.mpr ⟨rank, by omega, rfl⟩, rfl⟩

/-- **Step-up by counting.** A value is selected exactly when some value from it on is within the
threshold of the values up to it. -/
theorem selected_iff (hmono : Monotone threshold) (hplace : place < values.length) :
    (selected threshold values).getD place false ↔ ∃ value ∈ values,
      values[place] ≤ value ∧ value ≤ threshold (values.countP (· ≤ value) - 1) := by
  obtain ⟨hlater, hown⟩ := largestWithin_spec threshold (ranked values)
  rw [getD_selected_iff hplace]
  constructor
  · rintro ⟨rank, hrank, hle, hplaceOf⟩
    rcases hown with hnone | ⟨last, hlast, heq, hwithin⟩
    · omega
    have hvalue := getElem_ranked hrank hplace hplaceOf
    have hmem : (ranked values)[last].1 ∈ values := by
      have := mem_map_of_mem (f := Prod.fst) (getElem_mem hlast)
      rw [map_ranked] at this
      exact (ascending_perm values).mem_iff.mp this
    have hcount := (ranked_le_iff hlast _).mp le_rfl
    refine ⟨(ranked values)[last].1, hmem, ?_, hwithin.trans (hmono (by omega))⟩
    rw [← hvalue, ranked_le_iff hrank]
    omega
  · rintro ⟨value, hmem, hle, hwithin⟩
    obtain ⟨rank, hrank, hentry⟩ := exists_rank hplace
    have hcount : 0 < values.countP (· ≤ value) :=
      countP_pos_iff.mpr ⟨value, hmem, by simp⟩
    have hlast : values.countP (· ≤ value) - 1 < (ranked values).length := by
      have := countP_le_length (p := (· ≤ value)) (l := values)
      rw [length_ranked]
      omega
    have hlargest := hlater _ hlast
      (((ranked_le_iff hlast value).mpr (by omega)).trans hwithin)
    have hranked : rank < values.countP (· ≤ value) := by
      rw [← ranked_le_iff hrank, hentry]
      exact hle
    exact ⟨rank, hrank, by omega, by rw [hentry]⟩

/-! ### The reference procedure -/

/-- The value at a rank is within the threshold of the rank. -/
def Within (threshold : ℕ → K) (values : List K) (rank : ℕ) : Prop :=
  ∃ value, (ascending values)[rank]? = some value ∧ value ≤ threshold rank

theorem within_iff {rank : ℕ} : Within threshold values rank ↔
    ∃ hrank : rank < (ranked values).length, (ranked values)[rank].1 ≤ threshold rank := by
  unfold Within
  rw [← map_ranked, List.getElem?_map]
  constructor
  · rintro ⟨value, hvalue, hle⟩
    obtain ⟨entry, hentry, rfl⟩ := Option.map_eq_some_iff.mp hvalue
    obtain ⟨hrank, rfl⟩ := List.getElem?_eq_some_iff.mp hentry
    exact ⟨hrank, hle⟩
  · rintro ⟨hrank, hle⟩
    exact ⟨_, by rw [List.getElem?_eq_getElem hrank]; rfl, hle⟩

private theorem largestWithin_eq_iff {rank : ℕ} : largestWithin threshold (ranked values) = rank ↔
    IsGreatest {rank | Within threshold values rank} rank := by
  obtain ⟨hlater, hown⟩ := largestWithin_spec threshold (ranked values)
  constructor
  · intro heq
    rcases hown with hnone | ⟨last, hlast, heq', hwithin⟩
    · omega
    · obtain rfl : rank = last := by omega
      refine ⟨within_iff.mpr ⟨hlast, hwithin⟩, fun other hother => ?_⟩
      obtain ⟨hrank, hle⟩ := within_iff.mp hother
      have := hlater other hrank hle
      omega
  · rintro ⟨hwithin, hupper⟩
    obtain ⟨hrank, hle⟩ := within_iff.mp hwithin
    have hleast := hlater rank hrank hle
    rcases hown with hnone | ⟨last, hlast, heq, hlastWithin⟩
    · omega
    · have hother := hupper (within_iff.mpr ⟨hlast, hlastWithin⟩ : Within threshold values last)
      omega

/-- **Step-up by the greatest rank.** A value is selected exactly when it is up to the value at the
greatest rank that is within its threshold, whatever the order among equal values. -/
theorem selected_iff_isGreatest (hmono : Monotone threshold) (hplace : place < values.length) :
    (selected threshold values).getD place false ↔
      ∃ rank, IsGreatest {rank | Within threshold values rank} rank ∧
        ∃ value, (ascending values)[rank]? = some value ∧ values[place] ≤ value := by
  obtain ⟨hlater, hown⟩ := largestWithin_spec threshold (ranked values)
  have hvalue : ∀ {rank} (hrank : rank < (ranked values).length),
      (ascending values)[rank]? = some (ranked values)[rank].1 := by
    intro rank hrank
    rw [← map_ranked, List.getElem?_map, List.getElem?_eq_getElem hrank]
    rfl
  rw [getD_selected_iff hplace]
  constructor
  · rintro ⟨rank, hrank, hle, hplaceOf⟩
    rcases hown with hnone | ⟨last, hlast, heq, -⟩
    · omega
    refine ⟨last, largestWithin_eq_iff.mp heq, _, hvalue hlast, ?_⟩
    have hcount := (ranked_le_iff hlast _).mp le_rfl
    rw [← getElem_ranked hrank hplace hplaceOf, ranked_le_iff hrank]
    omega
  · rintro ⟨last, hgreatest, value, hlastValue, hle⟩
    obtain ⟨hlast, hwithin⟩ := within_iff.mp hgreatest.1
    obtain rfl := Option.some.inj ((hvalue hlast).symm.trans hlastValue)
    obtain ⟨rank, hrank, hentry⟩ := exists_rank hplace
    refine ⟨rank, hrank, ?_, by rw [hentry]⟩
    rw [largestWithin_eq_iff.mpr hgreatest]
    by_contra hbeyond
    -- a later rank with no greater value is within its threshold as well
    have hrankWithin : (ranked values)[rank].1 ≤ threshold rank := by
      have hsame : (ranked values)[rank].1 ≤ (ranked values)[last].1 := by
        rw [hentry]
        exact hle
      exact hsame.trans (hwithin.trans (hmono (by omega)))
    have hupper := hgreatest.2 (within_iff.mpr ⟨hrank, hrankWithin⟩)
    omega

end StepUp
