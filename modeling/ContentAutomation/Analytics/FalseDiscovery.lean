import ContentAutomation.Analytics.FeatureFamily
import Mathlib.Logic.Equiv.Fin.Basic
import Mathlib.Order.Lattice.Nat

/-!
# The reference procedure of the correction

Benjamini and Hochberg rank the values of a family and keep those up to the value
at the greatest rank which is within its share of the rate. The loop over the
sorted entries keeps the same values: it looks past ranks that fail, and values
that are equal are kept or left together.
-/

namespace ContentAutomation

open OrderStatistic

variable {pValues : List ℚ} {rate : ℚ}

/-- The value of rank `k`, from 1, is within `k` shares of the rate. -/
def PassesRank (pValues : List ℚ) (rate : ℚ) (k : ℕ) : Prop :=
  1 ≤ k ∧ ∃ value, (ascending pValues)[k - 1]? = some value ∧
    value ≤ (k / pValues.length : ℚ) * rate

/-- A value that the reference procedure keeps: it is up to the value of the greatest rank
that passes. -/
def ReferenceKeeps (pValues : List ℚ) (rate pValue : ℚ) : Prop :=
  ∃ k, IsGreatest {k | PassesRank pValues rate k} k ∧
    ∃ value, (ascending pValues)[k - 1]? = some value ∧ pValue ≤ value

private theorem passesRank_succ {rank : ℕ} : PassesRank pValues rate (rank + 1) ↔
    StepUp.Within (fun rank => (rank + 1 : ℚ) / pValues.length * rate) pValues rank := by
  simp [PassesRank, StepUp.Within]

private theorem exists_succ_of_passesRank {k : ℕ} (h : PassesRank pValues rate k) :
    ∃ rank, k = rank + 1 := ⟨k - 1, by have := h.1; omega⟩

private theorem isGreatest_passesRank {rank : ℕ} :
    IsGreatest {k | PassesRank pValues rate k} (rank + 1) ↔
      IsGreatest {rank | StepUp.Within (fun rank => (rank + 1 : ℚ) / pValues.length * rate)
        pValues rank} rank := by
  constructor
  · rintro ⟨hpasses, hupper⟩
    refine ⟨passesRank_succ.mp hpasses, fun other hother => ?_⟩
    have hle := hupper (passesRank_succ.mpr hother)
    omega
  · rintro ⟨hwithin, hupper⟩
    refine ⟨passesRank_succ.mpr hwithin, fun k hk => ?_⟩
    obtain ⟨other, rfl⟩ := exists_succ_of_passesRank hk
    have hle := hupper (passesRank_succ.mp hk)
    omega

private theorem benjaminiHochberg_reference (hrate : 0 ≤ rate) {index : ℕ}
    (hindex : index < pValues.length) :
    (benjaminiHochberg pValues rate).getD index false ↔
      ReferenceKeeps pValues rate pValues[index] := by
  rw [benjaminiHochberg, StepUp.selected_iff_isGreatest (monotone_threshold _ hrate) hindex]
  constructor
  · rintro ⟨rank, hgreatest, hvalue⟩
    exact ⟨rank + 1, isGreatest_passesRank.mpr hgreatest, hvalue⟩
  · rintro ⟨k, hgreatest, hvalue⟩
    obtain ⟨rank, rfl⟩ := exists_succ_of_passesRank hgreatest.1
    exact ⟨rank, isGreatest_passesRank.mp hgreatest, hvalue⟩

private theorem not_passesRank_of_neg (hrate : rate < 0) (hvalues : ∀ value ∈ pValues, 0 ≤ value)
    (k : ℕ) : ¬ PassesRank pValues rate k := by
  rintro ⟨hk, value, hvalue, hle⟩
  have hmem : value ∈ pValues := (ascending_perm pValues).mem_iff.mp (List.mem_of_getElem? hvalue)
  have hpos : (0 : ℚ) < pValues.length := by
    exact_mod_cast List.length_pos_of_mem hmem
  have hshare : (0 : ℚ) < k / pValues.length := div_pos (by exact_mod_cast hk) hpos
  have hbound : (k / pValues.length : ℚ) * rate < 0 := mul_neg_of_pos_of_neg hshare hrate
  have hnonneg := hvalues value hmem
  linarith

private theorem benjaminiHochberg_of_neg (hrate : rate < 0) (hvalues : ∀ value ∈ pValues, 0 ≤ value)
    {index : ℕ} (hindex : index < pValues.length) :
    ¬ (benjaminiHochberg pValues rate).getD index false := by
  intro hkept
  rw [benjaminiHochberg, StepUp.getD_selected_iff hindex] at hkept
  obtain ⟨rank, hrank, hle, -⟩ := hkept
  obtain ⟨-, hnone | ⟨last, hlast, -, hwithin⟩⟩ := StepUp.largestWithin_spec
    (fun rank => (rank + 1 : ℚ) / pValues.length * rate) (StepUp.ranked pValues)
  · omega
  · exact not_passesRank_of_neg hrate hvalues (last + 1)
      (passesRank_succ.mpr (StepUp.within_iff.mpr ⟨hlast, hwithin⟩))

/-- **The loop is the procedure**, for p-values at every rate. -/
theorem benjaminiHochberg_eq_reference (h : 0 ≤ rate ∨ ∀ value ∈ pValues, 0 ≤ value) {index : ℕ}
    (hindex : index < pValues.length) :
    (benjaminiHochberg pValues rate).getD index false ↔
      ReferenceKeeps pValues rate pValues[index] := by
  rcases le_or_gt 0 rate with hrate | hrate
  · exact benjaminiHochberg_reference hrate hindex
  · have hvalues : ∀ value ∈ pValues, 0 ≤ value := h.resolve_left (not_le.mpr hrate)
    refine iff_of_false (benjaminiHochberg_of_neg hrate hvalues hindex) ?_
    rintro ⟨k, hgreatest, -⟩
    exact not_passesRank_of_neg hrate hvalues k hgreatest.1

private theorem referenceKeeps_perm {others : List ℚ} (h : others.Perm pValues) {pValue : ℚ} :
    ReferenceKeeps others rate pValue ↔ ReferenceKeeps pValues rate pValue := by
  unfold ReferenceKeeps PassesRank
  rw [ascending_eq_of_perm h, h.length_eq]

private theorem referenceKeeps_mono {pValue rate' : ℚ} (hle : rate ≤ rate')
    (h : ReferenceKeeps pValues rate pValue) : ReferenceKeeps pValues rate' pValue := by
  obtain ⟨k, ⟨hpasses, -⟩, value, hvalue, hbelow⟩ := h
  have hlarger : ∀ {k}, PassesRank pValues rate k → PassesRank pValues rate' k := by
    rintro k ⟨hk, value, hvalue, hwithin⟩
    refine ⟨hk, value, hvalue, hwithin.trans (mul_le_mul_of_nonneg_left hle ?_)⟩
    positivity
  have hbounded : BddAbove {k | PassesRank pValues rate' k} := by
    refine ⟨pValues.length, ?_⟩
    rintro k ⟨hk, value, hvalue, -⟩
    obtain ⟨hlength, -⟩ := List.getElem?_eq_some_iff.mp hvalue
    rw [length_ascending] at hlength
    omega
  obtain ⟨greatest, hgreatest⟩ : ∃ greatest, IsGreatest {k | PassesRank pValues rate' k} greatest :=
    ⟨_, Nat.sSup_mem ⟨k, hlarger hpasses⟩ hbounded, fun _ hk => le_csSup hbounded hk⟩
  obtain ⟨-, bound, hbound, -⟩ := hgreatest.1
  refine ⟨greatest, hgreatest, bound, hbound, hbelow.trans ?_⟩
  -- the value of a greater rank is no less
  have hrank : k ≤ greatest := hgreatest.2 (hlarger hpasses)
  obtain ⟨hk, rfl⟩ := List.getElem?_eq_some_iff.mp hvalue
  obtain ⟨hgreatestLength, rfl⟩ := List.getElem?_eq_some_iff.mp hbound
  rcases Nat.eq_or_lt_of_le (Nat.sub_le_sub_right hrank 1) with heq | hlt
  · simp only [heq, le_refl]
  · exact List.pairwise_iff_getElem.mp (ascending_pairwise pValues) _ _ hk hgreatestLength hlt

/-- **Benjamini-Hochberg is the reference procedure.** It keeps exactly the values up to the value
of the greatest rank that is within its share of the rate. So permuting the values permutes the
answers, equal values are answered alike, and a greater rate keeps at least as much. -/
theorem benjaminiHochberg_is_reference (pValues : List ℚ) (rate : ℚ)
    (h : 0 ≤ rate ∨ ∀ value ∈ pValues, 0 ≤ value) :
    (benjaminiHochberg pValues rate).length = pValues.length ∧
      (∀ i : Fin pValues.length, (benjaminiHochberg pValues rate).getD i false = true ↔
        ReferenceKeeps pValues rate pValues[i]) ∧
      (∀ (σ : Equiv.Perm (Fin pValues.length)) (i : Fin pValues.length),
        (benjaminiHochberg (List.ofFn fun j => pValues[σ j]) rate).getD i false =
          (benjaminiHochberg pValues rate).getD (σ i) false) ∧
      (∀ i j : Fin pValues.length, pValues[i] = pValues[j] →
        (benjaminiHochberg pValues rate).getD i false =
          (benjaminiHochberg pValues rate).getD j false) ∧
      ∀ rate', rate ≤ rate' → ∀ i : Fin pValues.length,
        (benjaminiHochberg pValues rate).getD i false = true →
          (benjaminiHochberg pValues rate').getD i false = true := by
  refine ⟨by simp [benjaminiHochberg, StepUp.selected], fun i => ?_, fun σ i => ?_,
    fun i j hij => ?_, fun rate' hle i hkept => ?_⟩
  · exact benjaminiHochberg_eq_reference h i.isLt
  · have hperm : (List.ofFn fun j => pValues[σ j]).Perm pValues := by
      have hmoved := Equiv.Perm.ofFn_comp_perm σ pValues.get
      rw [List.ofFn_get] at hmoved
      exact hmoved
    have hlength : (i : ℕ) < (List.ofFn fun j => pValues[σ j]).length := by simp
    have hvalues : 0 ≤ rate ∨ ∀ value ∈ (List.ofFn fun j => pValues[σ j]), 0 ≤ value :=
      h.imp id fun hvalues value hvalue => hvalues value (hperm.mem_iff.mp hvalue)
    rw [Bool.eq_iff_iff, benjaminiHochberg_eq_reference hvalues hlength,
      benjaminiHochberg_eq_reference h (σ i).isLt, referenceKeeps_perm hperm]
    simp
  · have hvalue : pValues[(i : ℕ)] = pValues[(j : ℕ)] := hij
    rw [Bool.eq_iff_iff, benjaminiHochberg_eq_reference h i.isLt,
      benjaminiHochberg_eq_reference h j.isLt, hvalue]
  · have h' : 0 ≤ rate' ∨ ∀ value ∈ pValues, 0 ≤ value := h.imp hle.trans' id
    rw [benjaminiHochberg_eq_reference h' i.isLt]
    exact referenceKeeps_mono hle ((benjaminiHochberg_eq_reference h i.isLt).mp hkept)

/-- Three p-values of which the least fails its own rank and is kept by a later one. -/
theorem benjaminiHochberg_sample : benjaminiHochberg [1 / 25, 9 / 10, 3 / 100] (1 / 10) =
      [true, false, true] ∧
    ReferenceKeeps [1 / 25, 9 / 10, 3 / 100] (1 / 10) (1 / 25) := by
  have hkept : benjaminiHochberg [1 / 25, 9 / 10, 3 / 100] (1 / 10) = [true, false, true] := by
    decide +kernel
  have hreference := (benjaminiHochberg_is_reference [1 / 25, 9 / 10, 3 / 100] (1 / 10)
    (.inl (by norm_num))).2.1 ⟨0, by decide⟩
  exact ⟨hkept, hreference.mp (by rw [hkept]; rfl)⟩

/-- The ranking statistics that the correction is given are p-values: none is negative. -/
theorem pseudoPValue_nonneg (interval : Option BootstrapInterval) : 0 ≤ pseudoPValue interval := by
  unfold pseudoPValue
  split
  · exact zero_le_one
  · dsimp only
    split_ifs
    · exact zero_le_one
    · exact le_rfl
    · exact zero_le_one
    · positivity

end ContentAutomation
