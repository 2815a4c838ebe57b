import ContentAutomation.Analytics.Statistics
import Mathlib.Algebra.Order.Floor.Semifield

/-!
# Resamples by their number

The generator advances by a constant, so a draw depends on the seed and on its number alone. The
differences of the resamples are then listed without running the generator, and counted.
-/

namespace ContentAutomation

open OrderStatistic List

namespace Generator

/-! ### The word of a draw

The operations on numbers are written out, as a proof by evaluation computes with them. -/

/-- The first product of `word`. -/
def firstMix (state : ℕ) : ℕ :=
  Nat.mod (Nat.mul (Nat.xor state (Nat.shiftRight state 15)) (Nat.lor state 1)) 4294967296

/-- The second product of `word`, mixed into the first. -/
def secondMix (value : ℕ) : ℕ :=
  Nat.xor value (Nat.mod (Nat.add value (Nat.mod (Nat.mul
    (Nat.xor value (Nat.shiftRight value 7)) (Nat.lor value 61)) 4294967296)) 4294967296)

/-- The last step of `word`. -/
def lastMix (value : ℕ) : ℕ := Nat.xor value (Nat.shiftRight value 14)

/-- The word of a draw, by the number of the draw. -/
def drawnWord (seed draw : ℕ) : ℕ :=
  lastMix (secondMix (firstMix
    (Nat.mod (Nat.add seed (Nat.mul (Nat.succ draw) 0x6d2b79f5)) 4294967296)))

/-- The position among so many values that a draw picks, by the number of the draw. -/
def position (length seed draw : ℕ) : ℕ :=
  Nat.div (Nat.mul (drawnWord seed draw) length) 4294967296

private theorem toNat_word (state : UInt32) :
    (word state).toNat = lastMix (secondMix (firstMix state.toNat)) := by
  have hfirst : ((state ^^^ (state >>> 15)) * (state ||| 1)).toNat = firstMix state.toNat := by
    simp only [UInt32.toNat_mul, UInt32.toNat_xor, UInt32.toNat_shiftRight, UInt32.toNat_or]
    rfl
  unfold word
  simp only [UInt32.toNat_xor, UInt32.toNat_shiftRight, UInt32.toNat_add, UInt32.toNat_mul,
    UInt32.toNat_or, hfirst]
  rfl

/-- The state of the generator after so many draws. -/
def stateAfter (seed : UInt32) (draws : ℕ) : UInt32 := seed + .ofNat draws * 0x6d2b79f5

variable (seed : UInt32)

@[simp] theorem stateAfter_zero : stateAfter seed 0 = seed := by
  simp [stateAfter]

private theorem stateAfter_succ (draws : ℕ) :
    stateAfter seed (draws + 1) = stateAfter seed draws + 0x6d2b79f5 := by
  simp only [stateAfter, UInt32.ofNat_add, UInt32.add_mul]
  grind

private theorem toNat_stateAfter (draws : ℕ) :
    (stateAfter seed draws).toNat = (seed.toNat + draws * 0x6d2b79f5) % 4294967296 := by
  have hincrement : (0x6d2b79f5 : UInt32).toNat = 0x6d2b79f5 := rfl
  rw [stateAfter, UInt32.toNat_add, UInt32.toNat_mul, UInt32.toNat_ofNat', hincrement]
  omega

private theorem toNat_word_stateAfter (draws : ℕ) :
    (word (stateAfter seed draws + 0x6d2b79f5)).toNat = drawnWord seed.toNat draws := by
  rw [← stateAfter_succ, toNat_word, toNat_stateAfter]
  rfl

private theorem position_lt {length : ℕ} (hlength : 0 < length) (seed : UInt32) (draw : ℕ) :
    position length seed.toNat draw < length := by
  have hword : drawnWord seed.toNat draw < 4294967296 := by
    rw [← toNat_word_stateAfter]
    exact UInt32.toNat_lt _
  refine Nat.div_lt_of_lt_mul ?_
  exact Nat.mul_lt_mul_of_pos_right hword hlength

/-- **A draw by its number.** The position that a draw picks. -/
theorem floor_next (draws length : ℕ) :
    ⌊(next (stateAfter seed draws)).1 * length⌋₊ = position length seed.toNat draws := by
  have hquotient : ((drawnWord seed.toNat draws : ℕ) : ℚ) / 4294967296 * length =
      ((drawnWord seed.toNat draws * length : ℕ) : ℚ) / ((4294967296 : ℕ) : ℚ) := by
    push_cast
    ring
  simp only [next, toNat_word_stateAfter, hquotient, Nat.floor_div_eq_div]
  rfl

end Generator

open Generator

/-! ### The resamples of a seed -/

section Samples

variable (values comparison group : List ℚ) (seed : UInt32)

/-- The sample whose first draw has a number. -/
def sampleAt (first : ℕ) : List ℚ :=
  (List.range values.length).map fun index =>
    values.getD (position values.length seed.toNat (first + index)) 0

/-- The difference of the medians of the samples whose first draw has a number. -/
def differenceAt (first : ℕ) : ℚ :=
  (median (sampleAt group seed first)).getD 0 -
    (median (sampleAt comparison seed (first + group.length))).getD 0

private theorem drawSample_eq (count first : ℕ) : drawSample values count (stateAfter seed first) =
    ((List.range count).map fun index =>
      values.getD (position values.length seed.toNat (first + index)) 0,
      stateAfter seed (first + count)) := by
  induction count generalizing first with
  | zero => rfl
  | succ count ih =>
    have hnext : (next (stateAfter seed first)).2 = stateAfter seed (first + 1) :=
      (stateAfter_succ seed first).symm
    simp only [drawSample, hnext, ih, floor_next, range_succ_eq_map, map_cons,
      map_map, Nat.add_zero]
    refine Prod.ext (congrArg₂ List.cons rfl (map_congr_left fun index _ => ?_)) ?_
    · rw [Function.comp_apply, Nat.succ_eq_add_one, Nat.add_assoc, Nat.add_comm 1 index]
    · rw [Nat.add_assoc, Nat.add_comm 1 count]

/-- **The resamples by their number.** Each begins where the one before it ends. -/
theorem resampledDifferences_eq (count first : ℕ) :
    resampledDifferences comparison group count (stateAfter seed first) =
      (List.range count).map fun resample => differenceAt comparison group seed
        (first + resample * (group.length + comparison.length)) := by
  induction count generalizing first with
  | zero => rfl
  | succ count ih =>
    simp only [resampledDifferences, drawSample_eq, ih, range_succ_eq_map, map_cons,
      map_map, Nat.zero_mul, Nat.add_zero]
    refine congrArg₂ List.cons rfl (map_congr_left fun resample _ => ?_)
    refine congrArg _ ?_
    simp only [Nat.succ_eq_add_one]
    ring

end Samples

/-! ### Counting -/

/-- How many numbers below a bound are taken. -/
def tally (taken : ℕ → Bool) : ℕ → ℕ
  | 0 => 0
  | bound + 1 => Nat.add (tally taken bound) (bif taken bound then 1 else 0)

variable (taken : ℕ → Bool)

variable (bound : ℕ)

private theorem countP_range :
    (List.range bound).countP taken = tally taken bound := by
  induction bound with
  | zero => rfl
  | succ bound ih =>
    rw [range_succ, countP_append, ih, tally]
    cases htaken : taken bound <;> simp [htaken]

private theorem tally_le : tally taken bound ≤ bound := by
  rw [← countP_range]
  exact countP_le_length.trans_eq length_range

private theorem tally_congr {taken other : ℕ → Bool} {bound : ℕ}
    (h : ∀ number < bound, taken number = other number) : tally taken bound = tally other bound := by
  rw [← countP_range, ← countP_range]
  exact countP_congr fun number hnumber => by rw [h number (mem_range.mp hnumber)]

theorem tally_mono {bound larger : ℕ} (h : bound ≤ larger) :
    tally taken bound ≤ tally taken larger := by
  rw [← countP_range, ← countP_range]
  exact (range_sublist.mpr h).countP_le

@[simp] theorem tally_true : tally (fun _ => true) bound = bound := by
  rw [← countP_range, countP_true, length_range]

@[simp] theorem tally_false : tally (fun _ => false) bound = 0 := by
  rw [← countP_range]
  exact countP_eq_zero.mpr fun _ _ => Bool.false_ne_true

private theorem countP_resampledDifferences (comparison group : List ℚ) (count : ℕ) (seed : UInt32)
    (taken : ℚ → Bool) :
    (resampledDifferences comparison group count seed).countP taken =
      tally (fun resample => taken (differenceAt comparison group seed
        (resample * (group.length + comparison.length)))) count := by
  rw [← stateAfter_zero seed, resampledDifferences_eq, countP_map, countP_range]
  simp only [stateAfter_zero, Nat.zero_add]
  rfl

@[simp] theorem length_resampledDifferences (comparison group : List ℚ) (count : ℕ)
    (seed : UInt32) : (resampledDifferences comparison group count seed).length = count := by
  induction count generalizing seed with
  | zero => rfl
  | succ count ih => rw [resampledDifferences, length_cons, ih]

variable {values : List ℚ}

theorem percentileOf_le {fraction bound position : ℚ}
    (hposition : (values.length - 1) * fraction = position) (hnonneg : 0 ≤ position)
    (hupper : ⌈position⌉₊ < values.length) (hcount : ⌈position⌉₊ < values.countP (· ≤ bound)) :
    percentileOf (ascending values) fraction ≤ bound := by
  rw [percentileOf, length_ascending, hposition]
  exact valueAt_ascending_le hnonneg hupper hcount

theorem le_percentileOf {fraction bound position : ℚ}
    (hposition : (values.length - 1) * fraction = position) (hnonneg : 0 ≤ position)
    (hupper : ⌈position⌉₊ < values.length) (hcount : values.countP (· < bound) ≤ ⌊position⌋₊) :
    bound ≤ percentileOf (ascending values) fraction := by
  rw [percentileOf, length_ascending, hposition]
  exact le_valueAt_ascending hnonneg hupper hcount

theorem le_percentileOf_of_many {fraction bound position : ℚ}
    (hposition : (values.length - 1) * fraction = position) (hnonneg : 0 ≤ position)
    (hupper : ⌈position⌉₊ < values.length)
    (hcount : values.length ≤ ⌊position⌋₊ + values.countP (bound ≤ ·)) :
    bound ≤ percentileOf (ascending values) fraction := by
  have hall := length_eq_countP_add_countP (l := values) (· < bound)
  have hrest : values.countP (fun value => ¬ decide (value < bound) = true) =
      values.countP (bound ≤ ·) :=
    countP_congr fun value _ => by simp
  refine le_percentileOf hposition hnonneg hupper ?_
  rw [hrest] at hall
  omega

/-! ### Samples of two values -/

section TwoValues

variable {low high constant : ℚ} {group : List ℚ} {marked : ℕ → Bool}

/-- How many draws of a sample pick a marked position. -/
def marksAt (marked : ℕ → Bool) (length seed first : ℕ) : ℕ :=
  tally (fun index => marked (position length seed (Nat.add first index))) length

private theorem map_perm_replicate (low high : ℚ) (numbers : List ℕ) :
    (numbers.map fun number => if taken number then high else low).Perm
      (List.replicate (numbers.countP taken) high ++
        List.replicate (numbers.countP fun number => !taken number) low) := by
  induction numbers with
  | nil => exact List.Perm.refl _
  | cons number numbers ih =>
    cases htaken : taken number with
    | true =>
      rw [map_cons, htaken, countP_cons_of_pos htaken,
        countP_cons_of_neg (by simp [htaken]), replicate_succ, cons_append]
      exact ih.cons high
    | false =>
      rw [map_cons, htaken, countP_cons_of_neg (by simp [htaken]),
        countP_cons_of_pos (by simp [htaken]), replicate_succ]
      exact (ih.cons low).trans perm_middle.symm

/-- A sample of a group of two values, by how many of its draws pick a marked position. -/
theorem sampleAt_perm (hgroup : ∀ place < group.length,
      group.getD place 0 = if marked place then high else low) (seed : UInt32) (first : ℕ) :
    (sampleAt group seed first).Perm
      (List.replicate (marksAt marked group.length seed.toNat first) high ++
        List.replicate (group.length - marksAt marked group.length seed.toNat first) low) := by
  rcases Nat.eq_zero_or_pos group.length with hempty | hlength
  · simp [sampleAt, marksAt, hempty, tally]
  have hsample : sampleAt group seed first = (List.range group.length).map fun index =>
      if marked (position group.length seed.toNat (Nat.add first index)) then high else low :=
    map_congr_left fun index _ => hgroup _ (position_lt hlength seed _)
  have hcount : (List.range group.length).countP (fun index =>
        !marked (position group.length seed.toNat (Nat.add first index))) =
      group.length - marksAt marked group.length seed.toNat first := by
    have hboth := length_eq_countP_add_countP (l := List.range group.length)
      fun index => marked (position group.length seed.toNat (Nat.add first index))
    simp only [length_range, Bool.not_eq_true, Bool.decide_eq_false, countP_range] at hboth
    rw [countP_range]
    exact (Nat.sub_eq_of_eq_add' hboth).symm
  rw [hsample, ← hcount]
  have hmarks : marksAt marked group.length seed.toNat first = (List.range group.length).countP
      fun index => marked (position group.length seed.toNat (Nat.add first index)) :=
    (countP_range _ _).symm
  rw [hmarks]
  exact map_perm_replicate _ low high _

/-- A difference from a constant comparison, by how many of the draws of the group pick a marked
position. -/
theorem differenceAt_eq (hgroup : ∀ place < group.length,
      group.getD place 0 = if marked place then high else low) {size : ℕ}
    (hconstant : median (List.replicate size constant) = some constant) (seed : UInt32)
    (first : ℕ) :
    differenceAt (List.replicate size constant) group seed first =
      (median (List.replicate (marksAt marked group.length seed.toNat first) high ++
        List.replicate (group.length - marksAt marked group.length seed.toNat first) low)).getD 0 -
        constant := by
  have hsize : 0 < size := by
    rcases Nat.eq_zero_or_pos size with rfl | hsize
    · cases hconstant
    · exact hsize
  have hcomparison : ∀ place < (List.replicate size constant).length,
      (List.replicate size constant).getD place 0 = constant := by
    intro place hplace
    rw [getD_eq_getElem _ _ hplace, getElem_replicate]
  have hsample : ∀ first, sampleAt (List.replicate size constant) seed first =
      List.replicate size constant := by
    intro first
    refine eq_replicate_iff.mpr ⟨by simp [sampleAt], fun value hvalue => ?_⟩
    obtain ⟨index, -, rfl⟩ := mem_map.mp hvalue
    exact hcomparison _ (position_lt (by simpa using hsize) seed _)
  rw [differenceAt, hsample, hconstant, median_eq_of_perm (sampleAt_perm hgroup seed first),
    Option.getD_some]

/-- The difference of a sample from a constant comparison, by its marked draws. -/
def differenceOfMarks (low high constant : ℚ) (size marks : ℕ) : ℚ :=
  (median (List.replicate marks high ++ List.replicate (size - marks) low)).getD 0 - constant

/-- **Resamples by their marked draws.** The resamples of a group of two values whose difference
from a constant comparison is taken are counted by how many draws pick a marked position. -/
theorem countP_two_values (hgroup : ∀ place < group.length,
      group.getD place 0 = if marked place then high else low) {size : ℕ}
    (hconstant : median (List.replicate size constant) = some constant) {taken : ℚ → Bool}
    {chosen : ℕ → Bool} (htaken : ∀ marks < group.length + 1,
      taken (differenceOfMarks low high constant group.length marks) = chosen marks)
    (count : ℕ) (seed : UInt32) :
    (resampledDifferences (List.replicate size constant) group count seed).countP taken =
      tally (fun resample => chosen (marksAt marked group.length seed.toNat
        (Nat.mul resample (group.length + size)))) count := by
  rw [countP_resampledDifferences]
  refine tally_congr fun resample _ => ?_
  rw [differenceAt_eq hgroup hconstant, length_replicate]
  exact htaken _ (Nat.lt_succ_of_le (tally_le _ _))

end TwoValues

end ContentAutomation
