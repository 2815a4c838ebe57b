import ContentAutomation.Uploads.UploadSchedules
import Mathlib.Algebra.BigOperators.Ring.Finset
import Mathlib.Algebra.Order.BigOperators.Group.List

/-!
# The progress of an upload

The server admits a file with a number of parts, and the browser reckons the bytes that it has
uploaded from the numbers of the parts that it keeps: the last part is the rest of the file, and
every other one is a whole part. This file compares the reckoning with the slices that were sent.
-/

namespace ContentAutomation.UploadClient

open UploadState List

/-! ### Admission -/

/-- `UploadAdmissionRefusalReason`. -/
inductive UploadAdmissionRefusalReason
  | contentTypeNotAccepted | emptyFile | tooLarge

/-- `UploadAdmissionDecision`. -/
inductive UploadAdmissionDecision
  | admitted (partCount partSizeBytes : ℕ)
  | refused (reason : UploadAdmissionRefusalReason)

/-- `UploadAdmissionRequest`. -/
structure UploadAdmissionRequest where
  declaredBytes : ℤ
  declaredContentType : String
  maxBytes : ℕ
  partSizeBytes : ℕ

/-- `acceptedVideoContentTypes`. -/
def acceptedVideoContentTypes : List String := ["video/mp4", "video/quicktime", "video/webm"]

/-- `evaluateUploadAdmission`. -/
def evaluateUploadAdmission (request : UploadAdmissionRequest) : UploadAdmissionDecision :=
  if isSafeInteger request.declaredBytes = false ∨ request.declaredBytes ≤ 0 then
    .refused .emptyFile
  else if request.maxBytes < request.declaredBytes then .refused .tooLarge
  else if request.declaredContentType ∉ acceptedVideoContentTypes then
    .refused .contentTypeNotAccepted
  else
    -- `Math.ceil` of the quotient: that of two safe integers is not rounded to an integer.
    .admitted ((request.declaredBytes.toNat + request.partSizeBytes - 1) / request.partSizeBytes)
      request.partSizeBytes

/-! ### The slices of a file -/

def Slice.length (slice : Slice) : ℕ := slice.stop - slice.start

variable {options : UploadSessionOptions} {request : UploadAdmissionRequest} {s : UploadState}
  {partSizeBytes partsTotal n : ℕ}

/-- The last part of an admitted file begins before the end of the file, and is not exceeded. -/
theorem cuts_of_admitted (hpositive : 0 < request.partSizeBytes)
    (hbytes : request.declaredBytes = options.fileSize)
    (h : evaluateUploadAdmission request = .admitted partsTotal partSizeBytes) :
    (partsTotal - 1) * partSizeBytes < options.fileSize ∧
      options.fileSize ≤ partsTotal * partSizeBytes := by
  unfold evaluateUploadAdmission at h
  split_ifs at h with hempty
  cases h
  have hfile : 0 < options.fileSize := by omega
  rw [hbytes, Int.toNat_natCast]
  have hdivision := Nat.div_add_mod (options.fileSize + request.partSizeBytes - 1)
    request.partSizeBytes
  have hrest := Nat.mod_lt (options.fileSize + request.partSizeBytes - 1) hpositive
  rw [Nat.sub_mul, mul_comm _ request.partSizeBytes]
  omega

/-- The slices of the first parts are the front of the file. -/
theorem sum_length_partSlice (options : UploadSessionOptions) (partSizeBytes n : ℕ) :
    ((List.range' 1 n).map fun m => (partSlice options partSizeBytes m).length).sum =
      min (n * partSizeBytes) options.fileSize := by
  induction n with
  | zero => simp
  | succ n ih =>
    rw [range'_concat, map_append, sum_append, ih]
    simp only [partSlice, Slice.length, map_cons, map_nil, sum_cons, sum_nil]
    rw [Nat.one_mul, Nat.add_sub_cancel_left, Nat.add_mul, Nat.one_mul]
    omega

section Parts

variable (hcuts : (partsTotal - 1) * partSizeBytes < options.fileSize ∧
  options.fileSize ≤ partsTotal * partSizeBytes) (hn : 1 ≤ n ∧ n ≤ partsTotal)

include hcuts hn

/-- What is reckoned for a part is the length of its slice. -/
theorem length_partSlice : ((partSlice options partSizeBytes n).length : ℤ) =
    if n = partsTotal then (options.fileSize : ℤ) - partSizeBytes * ((partsTotal : ℤ) - 1)
    else (partSizeBytes : ℤ) := by
  obtain ⟨m, rfl⟩ := Nat.exists_eq_add_of_le' hn.1
  obtain ⟨total, rfl⟩ := Nat.exists_eq_add_of_le' (hn.1.trans hn.2)
  simp only [partSlice, Slice.length, Nat.add_sub_cancel] at hcuts ⊢
  split_ifs with hlast
  · obtain rfl : m = total := by omega
    have hstart : (partSizeBytes : ℤ) * (((m + 1 : ℕ) : ℤ) - 1) = (m * partSizeBytes : ℕ) := by
      push_cast
      ring
    rw [hstart]
    rw [Nat.add_mul] at hcuts
    omega
  · have hbefore : (m + 1) * partSizeBytes ≤ total * partSizeBytes :=
      Nat.mul_le_mul_right _ (by omega)
    rw [Nat.add_mul] at hbefore
    omega

private theorem length_partSlice_pos : 0 < (partSlice options partSizeBytes n).length := by
  have hbefore : (n - 1) * partSizeBytes ≤ (partsTotal - 1) * partSizeBytes :=
    Nat.mul_le_mul_right _ (by omega)
  have hsize : partSizeBytes ≠ 0 := by
    rintro rfl
    omega
  simp only [partSlice, Slice.length]
  omega

end Parts

/-! ### What a session shows -/

/-- **The progress is what is stored.** In every orderly schedule of an upload as it was admitted,
each part that is kept was stored as its slice of the file, the bytes that are shown are those of
these slices, and they are all bytes of the file exactly when every part is kept. -/
theorem progress_is_what_is_stored {intentId : String} (hpositive : 0 < request.partSizeBytes)
    (hbytes : request.declaredBytes = options.fileSize)
    (hadmitted : evaluateUploadAdmission request = .admitted s.partsTotal s.partSizeBytes)
    (h : Transition.Reachable (Transition.Restricted (Step options) Orderly) .initial s)
    (hintent : s.intentId = some intentId) :
    (∀ part ∈ s.parts,
      Stored s.log intentId (partSlice options s.partSizeBytes part.partNumber) part) ∧
    (s.snapshot options).bytesUploaded =
      ((s.parts.map fun part =>
        (partSlice options s.partSizeBytes part.partNumber).length).sum : ℕ) ∧
    (s.snapshot options).bytesUploaded ≤ (s.snapshot options).totalBytes ∧
    ((s.snapshot options).bytesUploaded = (s.snapshot options).totalBytes ↔
      s.hasAllFrom 1 = true) := by
  have hinv : Inv options s :=
    h.invariant inv_initial fun hinv hstep => hinv.step hstep.1 hstep.2
  have hcuts := cuts_of_admitted hpositive hbytes hadmitted
  have hown := hinv.own intentId hintent
  have hshown : (s.snapshot options).bytesUploaded = ((s.parts.map fun part =>
      (partSlice options s.partSizeBytes part.partNumber).length).sum : ℕ) := by
    rw [Nat.cast_list_sum, map_map]
    refine congrArg List.sum (map_congr_left fun part hpart => ?_)
    exact (length_partSlice hcuts (hown part hpart).1).symm
  -- The parts that are kept are some of those of the plan, and each other one has bytes.
  have hsubset : s.parts.map CompletedPart.partNumber ⊆ List.range' 1 s.partsTotal := by
    intro n hn
    obtain ⟨part, hpart, rfl⟩ := mem_map.mp hn
    rw [mem_range'_1]
    have hbounds := (hown part hpart).1
    omega
  obtain ⟨numbers, hnumbers, hsublist⟩ := subperm_of_subset hinv.numbers hsubset
  obtain ⟨rest, hrest⟩ := hsublist.exists_perm_append
  have hplan := hrest.trans (hnumbers.append_right rest)
  have hwhole := sum_length_partSlice options s.partSizeBytes s.partsTotal
  rw [(hplan.map _).sum_eq, map_append, sum_append, map_map, Function.comp_def,
    min_eq_right hcuts.2] at hwhole
  have htotal : (s.snapshot options).totalBytes = options.fileSize := rfl
  refine ⟨fun part hpart => (hown part hpart).2, hshown, ?_, ?_⟩
  · rw [hshown, htotal, ← hwhole]
    exact Nat.cast_le.mpr (Nat.le_add_right _ _)
  have hdistinct := hplan.nodup_iff.mp nodup_range'
  rw [hshown, htotal, ← hwhole, Nat.cast_inj, Nat.left_eq_add, hasAllFrom, all_eq_true]
  constructor
  · intro hzero n hn
    rw [hasPart_iff]
    refine (mem_append.mp (hplan.mem_iff.mp hn)).resolve_right fun hrest => ?_
    have hbounds := mem_range'_1.mp hn
    have hpos := length_partSlice_pos hcuts (n := n) (by omega)
    have hle : (partSlice options s.partSizeBytes n).length ≤
        (rest.map fun m => (partSlice options s.partSizeBytes m).length).sum :=
      le_sum_of_mem (mem_map_of_mem hrest)
    omega
  · intro hall
    suffices hnone : rest = [] by
      rw [hnone]
      rfl
    refine eq_nil_iff_forall_not_mem.mpr fun n hn => ?_
    have hplanned := hplan.mem_iff.mpr (mem_append_right _ hn)
    exact (disjoint_of_nodup_append hdistinct) (hasPart_iff.mp (hall n hplanned)) hn

/-- An upload that was paused shows its first part, and not all of the file. -/
theorem paused_upload_shows_its_part : ∃ s : UploadState,
    (s.snapshot sampleOptions).bytesUploaded = 8 ∧ s.hasAllFrom 1 ≠ true := by
  have hreplay : (Transition.replayWithin (next sampleOptions) Orderly .initial
      (pausedSchedule.take 5)).map (fun s => (s.intentId, s.partsTotal, s.partSizeBytes,
        (s.snapshot sampleOptions).bytesUploaded)) = some (some "first", 2, 8, 8) := by decide
  obtain ⟨s, hs, hfields⟩ := Option.map_eq_some_iff.mp hreplay
  simp only [Prod.mk.injEq] at hfields
  obtain ⟨hintent, htotal, hsize, hshown⟩ := hfields
  have hadmitted : evaluateUploadAdmission ⟨12, "video/mp4", 100, 8⟩ =
      .admitted s.partsTotal s.partSizeBytes := by
    rw [htotal, hsize]
    rfl
  have hwhole := (progress_is_what_is_stored (by decide) (by rfl) hadmitted
    (Transition.Reachable.replayWithin Transition.Reachable.refl hs) hintent).2.2.2
  refine ⟨s, hshown, fun hall => ?_⟩
  have htotal := hshown.symm.trans (hwhole.mpr hall)
  cases htotal

end ContentAutomation.UploadClient
