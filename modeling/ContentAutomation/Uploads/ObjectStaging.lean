import Mathlib.Data.List.Basic

/-!
# Staging an object for the probe

The chunks of a stored object are written to a file in a directory of their own, while they are
counted and hashed and their first bytes are kept. What comes of it depends on the bytes, not on
how they are cut, and a directory that no one is handed is removed, unless its file was never
opened.
-/

namespace ContentAutomation

open List

/-! ### The header -/

/-- `ContainerFamily`. -/
inductive ContainerFamily
  | isoBmff | matroska

/-- `headerInspectionBytes`. -/
def headerInspectionBytes : ℕ := 16

/-- `matroskaMagic`. -/
def matroskaMagic : List UInt8 := [0x1A, 0x45, 0xDF, 0xA3]

/-- `isoBmffBrandOffset`. -/
def isoBmffBrandOffset : ℕ := 4

/-- `isoBmffBrand`, which is "ftyp". -/
def isoBmffBrand : List UInt8 := [0x66, 0x74, 0x79, 0x70]

/-- `detectContainerFamily`. -/
def detectContainerFamily (header : List UInt8) : Option ContainerFamily :=
  if matroskaMagic.length ≤ header.length ∧
      header.take matroskaMagic.length = matroskaMagic then some .matroska
  else if isoBmffBrandOffset + isoBmffBrand.length ≤ header.length ∧
      (header.drop isoBmffBrandOffset).take isoBmffBrand.length = isoBmffBrand then some .isoBmff
  else none

private theorem detectContainerFamily_take (bytes : List UInt8) :
    detectContainerFamily (bytes.take headerInspectionBytes) = detectContainerFamily bytes := by
  have hlength {n : ℕ} (hn : n ≤ headerInspectionBytes) :
      n ≤ (bytes.take headerInspectionBytes).length ↔ n ≤ bytes.length := by
    rw [length_take, Nat.le_min]
    exact and_iff_right hn
  have hmagic : (bytes.take headerInspectionBytes).take matroskaMagic.length =
      bytes.take matroskaMagic.length := by
    rw [take_take]
    rfl
  have hbrand : ((bytes.take headerInspectionBytes).drop isoBmffBrandOffset).take
      isoBmffBrand.length = (bytes.drop isoBmffBrandOffset).take isoBmffBrand.length := by
    rw [drop_take, take_take]
    rfl
  simp only [detectContainerFamily, hmagic, hbrand,
    hlength (by decide : matroskaMagic.length ≤ headerInspectionBytes),
    hlength (by decide : isoBmffBrandOffset + isoBmffBrand.length ≤ headerInspectionBytes)]

/-! ### Staging -/

/-- What is read of an object: its chunks, each with whether the file takes it, and then the end,
or a read that fails. -/
structure ObjectBody where
  chunks : List (List UInt8 × Bool)
  ends : Bool

/-- What the host does. -/
structure StagingHost where
  createsDirectory : Bool
  /-- The file of the new directory, which must not be there yet. -/
  opensFile : Bool
  closesFile : Bool
  removesDirectory : Bool

/-- What is thrown: a `StagedObjectTooLargeError`, or the error of an operation. -/
inductive StagingThrown
  | stagedObjectTooLarge
  | operationFailed

/-- `StagedObject`, with what the file at its path holds. -/
structure StagedObject (Digest : Type) where
  bytes : ℕ
  family : Option ContainerFamily
  file : List UInt8
  sha256 : Digest

/-- What has been counted, hashed, kept and written. -/
structure StagingProgress where
  bytes : ℕ := 0
  hashed : List UInt8 := []
  header : List UInt8 := []
  file : List UInt8 := []

/-- The loop over the chunks. -/
def readChunks (maxBytes : ℕ) :
    StagingProgress → List (List UInt8 × Bool) → Except StagingThrown StagingProgress
  | progress, [] => .ok progress
  | progress, (value, isWritten) :: rest =>
    if maxBytes < progress.bytes + value.length then .error .stagedObjectTooLarge
    else if isWritten = false then .error .operationFailed
    else
      readChunks maxBytes
        { bytes := progress.bytes + value.length
          hashed := progress.hashed ++ value
          header :=
            if progress.header.length < headerInspectionBytes then
              progress.header ++ value.take (headerInspectionBytes - progress.header.length)
            else progress.header
          file := progress.file ++ value } rest

section

variable {Digest : Type} (digest : List UInt8 → Digest) (host : StagingHost) (body : ObjectBody)
  (maxBytes : ℕ)

/-- `stageObjectForProbe`, with whether its directory is there afterwards. -/
def stageObjectForProbe : Except StagingThrown (StagedObject Digest) × Bool :=
  if host.createsDirectory = false then (.error .operationFailed, false)
  else if host.opensFile = false then (.error .operationFailed, true)
  else
    let read := (readChunks maxBytes {} body.chunks).bind fun progress =>
      if body.ends then .ok progress else .error .operationFailed
    match if host.closesFile then read else .error .operationFailed with
    | .error thrown =>
      if host.removesDirectory then (.error thrown, false) else (.error .operationFailed, true)
    | .ok progress =>
      (.ok ⟨progress.bytes, detectContainerFamily progress.header, progress.file,
        digest progress.hashed⟩, true)

def ObjectBody.bytes : List UInt8 := (body.chunks.map Prod.fst).flatten

/-- The object exceeds the ceiling, or a read or a write fails. -/
def ObjectBody.Fails : Prop :=
  maxBytes < body.bytes.length ∨ (∃ chunk ∈ body.chunks, chunk.2 = false) ∨ body.ends = false

/-- **What comes of staging depends on the bytes alone**: it fails just when it must, what it gives
is of the bytes, and there is a directory just when there is something in it for the caller. -/
structure StagesBytes : Prop where
  fails : (∃ thrown, (stageObjectForProbe digest host body maxBytes).1 = .error thrown) ↔
    body.Fails maxBytes
  staged : ∀ staged, (stageObjectForProbe digest host body maxBytes).1 = .ok staged →
    staged = ⟨body.bytes.length, detectContainerFamily body.bytes, body.bytes, digest body.bytes⟩
  directory : (stageObjectForProbe digest host body maxBytes).2 = true ↔
    ∃ staged, (stageObjectForProbe digest host body maxBytes).1 = .ok staged

end

/-! ### The loop -/

/-- What has been done with some bytes. -/
structure StagingProgress.Sound (progress : StagingProgress) (read : List UInt8) : Prop where
  bytes : progress.bytes = read.length
  hashed : progress.hashed = read
  header : progress.header = read.take headerInspectionBytes
  file : progress.file = read

private theorem header_append (read value : List UInt8) :
    (if (read.take headerInspectionBytes).length < headerInspectionBytes then
        read.take headerInspectionBytes ++
          value.take (headerInspectionBytes - (read.take headerInspectionBytes).length)
      else read.take headerInspectionBytes) = (read ++ value).take headerInspectionBytes := by
  rw [take_append, length_take]
  split_ifs with hshort
  · have hread : min headerInspectionBytes read.length = read.length := by omega
    rw [hread]
  · have hnone : headerInspectionBytes - read.length = 0 := by omega
    rw [hnone, take_zero, append_nil]

/-- The loop fails if the bytes exceed the ceiling or a chunk is not written, and else goes through
all of them. -/
theorem readChunks_spec {maxBytes : ℕ} {progress : StagingProgress} {read : List UInt8}
    (hsound : progress.Sound read) (hwithin : read.length ≤ maxBytes)
    (chunks : List (List UInt8 × Bool)) :
    (maxBytes < (read ++ (chunks.map Prod.fst).flatten).length ∨
        (∃ chunk ∈ chunks, chunk.2 = false)) ∧
      (∃ thrown, readChunks maxBytes progress chunks = .error thrown) ∨
    ¬ (maxBytes < (read ++ (chunks.map Prod.fst).flatten).length ∨
        (∃ chunk ∈ chunks, chunk.2 = false)) ∧
      ∃ last, readChunks maxBytes progress chunks = .ok last ∧
        last.Sound (read ++ (chunks.map Prod.fst).flatten) := by
  induction chunks generalizing progress read with
  | nil =>
    refine .inr ⟨?_, progress, rfl, by simpa using hsound⟩
    simpa using hwithin
  | cons chunk rest ih =>
    obtain ⟨value, isWritten⟩ := chunk
    rw [map_cons, flatten_cons, ← append_assoc]
    by_cases hlarge : maxBytes < progress.bytes + value.length
    · refine .inl ⟨.inl ?_, _, by rw [readChunks, if_pos hlarge]⟩
      rw [hsound.bytes] at hlarge
      simp only [length_append]
      omega
    · cases isWritten with
      | false =>
        exact .inl ⟨.inr ⟨_, mem_cons_self, rfl⟩, _,
          by rw [readChunks, if_neg hlarge, if_pos rfl]⟩
      | true =>
        rw [readChunks, if_neg hlarge, if_neg Bool.noConfusion]
        have hbytes : (read ++ value).length ≤ maxBytes := by
          rw [length_append, ← hsound.bytes]
          omega
        have hmem : (∃ chunk ∈ (value, true) :: rest, chunk.2 = false) ↔
            ∃ chunk ∈ rest, chunk.2 = false := by simp
        rw [hmem]
        refine ih ⟨?_, ?_, ?_, ?_⟩ hbytes
        · rw [hsound.bytes, length_append]
        · rw [hsound.hashed]
        · rw [hsound.header]
          exact header_append read value
        · rw [hsound.file]

private theorem read_spec (body : ObjectBody) (maxBytes : ℕ) :
    body.Fails maxBytes ∧ (∃ thrown, ((readChunks maxBytes {} body.chunks).bind fun progress =>
      if body.ends then .ok progress else .error .operationFailed) = .error thrown) ∨
    ¬ body.Fails maxBytes ∧ ∃ last, ((readChunks maxBytes {} body.chunks).bind fun progress =>
      if body.ends then .ok progress else .error .operationFailed) = .ok last ∧
        last.Sound body.bytes := by
  have hstart : StagingProgress.Sound {} [] := ⟨rfl, rfl, rfl, rfl⟩
  rcases readChunks_spec hstart (Nat.zero_le maxBytes) body.chunks with
    ⟨hfails, thrown, hread⟩ | ⟨hfits, last, hread, hlast⟩
  · rw [hread]
    exact .inl ⟨hfails.elim .inl fun h => .inr (.inl h), thrown, rfl⟩
  · rw [hread]
    cases hends : body.ends with
    | false => exact .inl ⟨.inr (.inr hends), _, rfl⟩
    | true =>
      refine .inr ⟨?_, last, rfl, hlast⟩
      rintro (hlarge | hunwritten | hread)
      · exact hfits (.inl hlarge)
      · exact hfits (.inr hunwritten)
      · rw [hends] at hread
        cases hread

/-! ### The law -/

section

variable {Digest : Type} {digest : List UInt8 → Digest} {host : StagingHost} {body : ObjectBody}
  {maxBytes : ℕ}

/-- Where staging fails and leaves nothing, it depends on the bytes if it had to fail. -/
theorem stagesBytes_of_error {thrown : StagingThrown} {isThere : Bool}
    (h : stageObjectForProbe digest host body maxBytes = (.error thrown, isThere)) :
    StagesBytes digest host body maxBytes ↔ body.Fails maxBytes ∧ isThere = false := by
  constructor
  · intro hlaw
    refine ⟨hlaw.fails.mp ⟨thrown, by rw [h]⟩, ?_⟩
    rw [← Bool.not_eq_true]
    intro hthere
    obtain ⟨staged, hstaged⟩ := hlaw.directory.mp (by rw [h, hthere])
    rw [h] at hstaged
    cases hstaged
  · rintro ⟨hfails, rfl⟩
    refine ⟨⟨fun _ => hfails, fun _ => ⟨thrown, by rw [h]⟩⟩, ?_, ?_⟩
    · rw [h]
      rintro staged ⟨⟩
    · rw [h]
      exact ⟨fun hthere => (by cases hthere), fun ⟨_, hstaged⟩ => (by cases hstaged)⟩

private theorem stageObjectForProbe_of_opens (hcreates : host.createsDirectory)
    (hopens : host.opensFile) :
    (body.Fails maxBytes ∧ ∃ thrown, stageObjectForProbe digest host body maxBytes =
      (.error thrown, !host.removesDirectory)) ∨
    ¬ body.Fails maxBytes ∧ stageObjectForProbe digest host body maxBytes =
      if host.closesFile then
        (.ok ⟨body.bytes.length, detectContainerFamily body.bytes, body.bytes, digest body.bytes⟩,
          true)
      else (.error .operationFailed, !host.removesDirectory) := by
  have hcreates' : ¬ host.createsDirectory = false := by simp [hcreates]
  have hopens' : ¬ host.opensFile = false := by simp [hopens]
  rcases read_spec body maxBytes with ⟨hfails, thrown, hread⟩ | ⟨hfits, last, hread, hlast⟩
  · refine .inl ⟨hfails, ?_⟩
    simp only [stageObjectForProbe, if_neg hcreates', if_neg hopens', hread]
    cases host.closesFile <;> cases host.removesDirectory <;> exact ⟨_, rfl⟩
  · refine .inr ⟨hfits, ?_⟩
    simp only [stageObjectForProbe, if_neg hcreates', if_neg hopens', hread]
    cases host.closesFile with
    | true =>
      simp only [if_true, hlast.bytes, hlast.hashed, hlast.header, hlast.file,
        detectContainerFamily_take]
    | false => cases host.removesDirectory <;> rfl

/-- **Staging depends on the bytes alone** exactly when the file of a directory that was created can
be opened, and can be closed where nothing else fails, and the directory can be removed where
something does; and where no directory can be created, if something else fails too. -/
theorem stages_bytes_iff : StagesBytes digest host body maxBytes ↔
    (host.createsDirectory = false → body.Fails maxBytes) ∧
    (host.createsDirectory = true → host.opensFile = true ∧
      (body.Fails maxBytes → host.removesDirectory = true) ∧
      (¬ body.Fails maxBytes → host.closesFile = true)) := by
  cases hcreates : host.createsDirectory with
  | false =>
    have hstage : stageObjectForProbe digest host body maxBytes =
        (.error .operationFailed, false) := if_pos hcreates
    rw [stagesBytes_of_error hstage]
    simp
  | true =>
    cases hopens : host.opensFile with
    | false =>
      have hstage : stageObjectForProbe digest host body maxBytes =
          (.error .operationFailed, true) := by
        rw [stageObjectForProbe, if_neg (by simp [hcreates]), if_pos hopens]
      rw [stagesBytes_of_error hstage]
      simp
    | true =>
      rcases (stageObjectForProbe_of_opens hcreates hopens :
          (body.Fails maxBytes ∧ ∃ thrown, stageObjectForProbe digest host body maxBytes = _) ∨ _)
        with ⟨hfails, thrown, hstage⟩ | ⟨hfits, hstage⟩
      · rw [stagesBytes_of_error hstage]
        simp [hfails]
      · cases hcloses : host.closesFile with
        | false =>
          rw [hcloses, if_neg Bool.noConfusion] at hstage
          rw [stagesBytes_of_error hstage]
          simp [hfits]
        | true =>
          rw [hcloses, if_pos rfl] at hstage
          refine iff_of_true ⟨?_, ?_, ?_⟩ (by simp [hfits])
          · rw [hstage]
            exact ⟨fun ⟨_, h⟩ => (by cases h), fun hfails => absurd hfails hfits⟩
          · rw [hstage]
            rintro staged ⟨⟩
            rfl
          · rw [hstage]
            exact ⟨fun _ => ⟨_, rfl⟩, fun _ => rfl⟩

end

/-- **A directory is left behind** whose file cannot be opened, and staging fails although every read
and write would have succeeded. -/
theorem directory_is_left_behind :
    ¬ StagesBytes (fun bytes => bytes) ⟨true, false, true, true⟩ ⟨[([0x1A], true)], true⟩ 10 := by
  have hstage : stageObjectForProbe (fun bytes => bytes) ⟨true, false, true, true⟩
      ⟨[([0x1A], true)], true⟩ 10 = (.error .operationFailed, true) := rfl
  intro hlaw
  exact Bool.noConfusion ((stagesBytes_of_error hstage).mp hlaw).2

end ContentAutomation
