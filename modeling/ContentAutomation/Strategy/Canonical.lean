import ContentAutomation.Library.Joined
import ContentAutomation.Library.Utf8
import ContentAutomation.Strategy.Manifest

/-!
# Manifests of one hash

The hash of a manifest covers the entries in a canonical form, in which lists are sorted. What
the model reads and what its answer is checked against are made of the entries themselves.
-/

namespace ContentAutomation

open JoinedText List

/-- Two items of a manifest have the same meaning to `validateStrategyV1`: they agree, their
roles and dimensions as sets. -/
structure StrategyManifestEvidence.Agrees (item other : StrategyManifestEvidence) : Prop where
  allowedNumericClaims : item.allowedNumericClaims = other.allowedNumericClaims
  allowedRoles : ∀ role, role ∈ item.allowedRoles ↔ role ∈ other.allowedRoles
  classification : item.classification = other.classification
  dimensions : ∀ dimension, dimension ∈ item.dimensions ↔ dimension ∈ other.dimensions
  evidenceId : item.evidenceId = other.evidenceId
  requiredInLimitations : item.requiredInLimitations = other.requiredInLimitations
  sampleSize : item.sampleSize = other.sampleSize
  type : item.type = other.type

/-- Two entries agree in what the canonical form sorts or leaves out. -/
structure StrategyEvidenceEntry.Ordered (entry other : StrategyEvidenceEntry) : Prop where
  allowedRoles : entry.allowedRoles = other.allowedRoles
  dimensions : entry.dimensions = other.dimensions
  allowedNumericClaims : entry.allowedNumericClaims = other.allowedNumericClaims
  requiredInLimitations : entry.requiredInLimitations = other.requiredInLimitations

/-- The digests tell the summaries of two lists of entries apart. -/
def TellsApart (platform : EvidencePlatform) (entries entries' : List StrategyEvidenceEntry) :
    Prop :=
  ∀ entry ∈ entries, ∀ other ∈ entries',
    platform.sha256 (Utf16.ofString entry.summaryText) =
      platform.sha256 (Utf16.ofString other.summaryText) → entry.summaryText = other.summaryText

namespace StrategyCanonical

variable {platform : EvidencePlatform} {entry other : StrategyEvidenceEntry}
  {entries entries' : List StrategyEvidenceEntry} {scope : StrategyManifestScope}

/-! ### The canonical form -/

private theorem jsonString_injective : Function.Injective jsonString := fun _ _ h =>
  Utf8.ofString_injective (Json.string.inj h)

private theorem jsonNullable_injective : Function.Injective jsonNullable := by
  intro first second h
  cases first with
  | none =>
    cases second with
    | none => rfl
    | some second => cases h
  | some first =>
    cases second with
    | none => cases h
    | some second => rw [jsonString_injective h]

private theorem jsonNumber_injective : Function.Injective jsonNumber := by
  intro first second h
  have hvalue := JsNumber.finite.inj (Json.number.inj h)
  exact_mod_cast hvalue

private theorem perm_of_jsonSorted {texts texts' : List String}
    (h : jsonSorted texts = jsonSorted texts') :
    texts.Perm texts' := by
  have hsorted := map_injective_iff.mpr jsonString_injective (Json.array.inj h)
  have hleft := perm_insertionSort
    (fun first second => Utf16.ofString first ≤ Utf16.ofString second) texts
  have hright := perm_insertionSort
    (fun first second => Utf16.ofString first ≤ Utf16.ofString second) texts'
  exact hleft.symm.trans (hsorted ▸ hright)

private theorem perm_of_jsonSorted_words {T : Type} [Vocabulary T] {members members' : List T}
    (h : jsonSorted (members.map word) = jsonSorted (members'.map word)) :
    members.Perm members' :=
  (map_perm_map_iff Vocabulary.word_injective).mp (perm_of_jsonSorted h)

/-- What two entries of one canonical form agree in. -/
structure Alike (platform : EvidencePlatform) (entry other : StrategyEvidenceEntry) : Prop where
  evidenceType : entry.evidenceType = other.evidenceType
  evidenceKey : entry.evidenceKey = other.evidenceKey
  classification : entry.classification = other.classification
  sampleSize : entry.sampleSize = other.sampleSize
  allowedRoles : entry.allowedRoles.Perm other.allowedRoles
  dimensions : entry.dimensions.Perm other.dimensions
  summaryDigest : platform.sha256 (Utf16.ofString entry.summaryText) =
    platform.sha256 (Utf16.ofString other.summaryText)

private theorem alike_of_canonicalEntry
    (h : canonicalEntry platform entry = canonicalEntry platform other) :
    Alike platform entry other := by
  have hitems := Json.array.inj h
  simp only [List.cons.injEq, and_true] at hitems
  obtain ⟨-, -, htype, hkey, -, -, hclass, hsize, hroles, hdimensions, -, hdigest⟩ := hitems
  refine ⟨Vocabulary.word_injective (jsonString_injective htype), jsonString_injective hkey, ?_, ?_,
    perm_of_jsonSorted_words hroles, perm_of_jsonSorted_words hdimensions,
    jsonString_injective hdigest⟩
  · exact Option.map_injective Vocabulary.word_injective (jsonNullable_injective hclass)
  · cases hentry : entry.sampleSize with
    | none =>
      cases hother : other.sampleSize with
      | none => rfl
      | some size => simp [hentry, hother, jsonNumber] at hsize
    | some size =>
      cases hother : other.sampleSize with
      | none => simp [hentry, hother, jsonNumber] at hsize
      | some size' =>
        rw [hentry, hother] at hsize
        rw [jsonNumber_injective hsize]

/-! ### The text -/

/-- The parts of a line that every entry has, and the size of its sample. -/
def lineParts (entry : StrategyEvidenceEntry) : List String :=
  ["evidenceId=" ++ entry.evidenceKey, "type=" ++ word entry.evidenceType,
    "allowedRoles=" ++ "|".intercalate (entry.allowedRoles.map word),
    "classification=" ++ (entry.classification.map word).getD "none",
    "dimensions=" ++ if entry.dimensions.isEmpty then "none"
      else "|".intercalate (entry.dimensions.map word)] ++
    (entry.sampleSize.map fun sampleSize => "sampleSize=" ++ toString sampleSize).toList

/-- The line of an entry before the mark of a limitation. -/
def lineHead (entry : StrategyEvidenceEntry) : String := "- " ++ "; ".intercalate (lineParts entry)

/-- The mark of an entry that must appear in the limitations. -/
def lineMark (entry : StrategyEvidenceEntry) : String :=
  if entry.requiredInLimitations then "; mustAppearInLimitations=true" else ""

private theorem manifestLine_eq (entry : StrategyEvidenceEntry) :
    manifestLine entry = lineHead entry ++ lineMark entry := by
  have hparts : lineParts entry ≠ [] := append_ne_nil_of_left_ne_nil (cons_ne_nil _ _) _
  unfold lineHead lineMark
  show "- " ++ "; ".intercalate (lineParts entry ++ if entry.requiredInLimitations then
    ["mustAppearInLimitations=true"] else []) = _
  cases entry.requiredInLimitations with
  | false => simp
  | true =>
    rw [if_pos rfl, if_pos rfl, String.intercalate_append_of_ne_nil hparts (cons_ne_nil _ _),
      String.intercalate_singleton, String.append_assoc, String.append_assoc]
    rfl

private theorem Alike.lengths (h : Alike platform entry other) :
    (lineParts entry).map (fun part => part.toList.length) =
      (lineParts other).map fun part => part.toList.length := by
  have hroles : ("|".intercalate (entry.allowedRoles.map word)).toList.length =
      ("|".intercalate (other.allowedRoles.map word)).toList.length :=
    additiveSize_length.intercalate_perm (h.allowedRoles.map _)
  have hdimensions : ("|".intercalate (entry.dimensions.map word)).toList.length =
      ("|".intercalate (other.dimensions.map word)).toList.length :=
    additiveSize_length.intercalate_perm (h.dimensions.map _)
  have hempty : entry.dimensions.isEmpty = other.dimensions.isEmpty := by
    rw [Bool.eq_iff_iff, isEmpty_iff_length_eq_zero, isEmpty_iff_length_eq_zero,
      h.dimensions.length_eq]
  unfold lineParts
  rw [h.evidenceKey, h.evidenceType, h.classification, h.sampleSize, hempty]
  simp only [map_append, map_cons, map_nil, String.toList_append,
    length_append, hroles]
  split
  · rfl
  · rw [hdimensions]

/-- The roles and dimensions of alike entries are told from the heads of their lines. -/
theorem Alike.of_lineHead (h : Alike platform entry other) (hhead : lineHead entry = lineHead other) :
    entry.allowedRoles = other.allowedRoles ∧ entry.dimensions = other.dimensions := by
  have hparts := intercalate_inj_of_lengths ((String.append_right_inj _).mp hhead) h.lengths
  unfold lineParts at hparts
  simp only [cons_append, nil_append, List.cons.injEq, String.append_right_inj] at hparts
  obtain ⟨-, -, hroles, -, hdimensions, -⟩ := hparts
  refine ⟨?_, ?_⟩
  · refine members_inj (c := '|') (fun role => ?_) hroles h.allowedRoles.length_eq
    cases role <;> decide
  · have hempty : entry.dimensions = [] ↔ other.dimensions = [] := by
      rw [← length_eq_zero_iff, ← length_eq_zero_iff, h.dimensions.length_eq]
    by_cases hnone : other.dimensions = []
    · exact (hempty.mpr hnone).trans hnone.symm
    · rw [if_neg (by simpa using fun heq => hnone (hempty.mp heq)),
        if_neg (by simpa using hnone)] at hdimensions
      refine members_inj (c := '|') (fun dimension => ?_) hdimensions h.dimensions.length_eq
      cases dimension <;> decide

private theorem lineMark_inj {rest rest' : String}
    (h : lineMark entry ++ ("\n" ++ rest) = lineMark other ++ ("\n" ++ rest')) :
    entry.requiredInLimitations = other.requiredInLimitations ∧ rest = rest' := by
  have hfirst := congrArg (fun text : String => text.toList.head?) h
  unfold lineMark at h hfirst
  cases hentry : entry.requiredInLimitations <;> cases hother : other.requiredInLimitations <;>
    simp [hentry, hother] at h hfirst ⊢
  · exact h
  · exact h

/-- **Lines are told apart.** Of alike entries whose lines make one text, the heads of the lines
and the marks are the same: the heads have one length, and a mark does not begin like the end of
a line. -/
theorem lines_inj (halike : List.Forall₂ (Alike platform) entries entries') {rest : String}
    (h : "\n".intercalate (entries.map manifestLine) ++ ("\n" ++ rest) =
      "\n".intercalate (entries'.map manifestLine) ++ ("\n" ++ rest)) :
    List.Forall₂ (fun entry other => lineHead entry = lineHead other ∧
      entry.requiredInLimitations = other.requiredInLimitations) entries entries' := by
  induction halike with
  | nil => exact .nil
  | @cons entry other entries entries' hpair htails ih =>
    have hlength : (lineHead entry).toList.length = (lineHead other).toList.length := by
      unfold lineHead
      rw [String.toList_append, String.toList_append, length_append, length_append,
        additiveSize_length.intercalate, additiveSize_length.intercalate, hpair.lengths]
      have hcount : (lineParts entry).length = (lineParts other).length := by
        simpa using congrArg List.length hpair.lengths
      rw [hcount]
    cases htails with
    | nil =>
      simp only [map_cons, map_nil, String.intercalate_singleton, manifestLine_eq,
        String.append_assoc] at h
      obtain ⟨hhead, hmark⟩ := append_inj h hlength
      exact .cons ⟨hhead, (lineMark_inj hmark).1⟩ .nil
    | cons hnext hothers =>
      simp only [map_cons, String.intercalate_cons_cons, manifestLine_eq entry,
        manifestLine_eq other, String.append_assoc] at h
      obtain ⟨hhead, hmark⟩ := append_inj h hlength
      obtain ⟨hrequired, htext⟩ := lineMark_inj hmark
      refine .cons ⟨hhead, hrequired⟩ (ih ?_)
      simpa only [map_cons] using htext

private theorem manifestLine_congr (h : Alike platform entry other)
    (hordered : entry.Ordered other) :
    manifestLine entry = manifestLine other := by
  unfold manifestLine
  rw [h.evidenceKey, h.evidenceType, h.classification, h.sampleSize, hordered.allowedRoles,
    hordered.dimensions, hordered.requiredInLimitations]

/-! ### The meaning -/

private theorem alike_of_canonical
    (h : entries.map (canonicalEntry platform) = entries'.map (canonicalEntry platform)) :
    List.Forall₂ (Alike platform) entries entries' := by
  have hsame : List.Forall₂ Eq (entries.map (canonicalEntry platform))
      (entries'.map (canonicalEntry platform)) := by
    rw [h]
    exact forall₂_refl _
  rw [forall₂_map_left_iff, forall₂_map_right_iff] at hsame
  exact hsame.imp fun _ _ => alike_of_canonicalEntry

private theorem notes_eq (halike : List.Forall₂ (Alike platform) entries entries')
    (hapart : TellsApart platform entries entries') :
    entries.map manifestNote = entries'.map manifestNote := by
  induction halike with
  | nil => rfl
  | @cons entry other entries entries' hpair htails ih =>
    have hsummary : entry.summaryText = other.summaryText :=
      hapart entry mem_cons_self other mem_cons_self hpair.summaryDigest
    have hnote : manifestNote entry = manifestNote other := by
      unfold manifestNote
      rw [hpair.evidenceKey, hsummary]
    rw [map_cons, map_cons, hnote]
    refine congrArg _ (ih fun entry hentry other hother => ?_)
    exact hapart entry (mem_cons_of_mem _ hentry) other (mem_cons_of_mem _ hother)

/-- The texts of manifests with the same notes are the same exactly if the lines are. -/
theorem render_eq_iff (hnotes : entries.map manifestNote = entries'.map manifestNote) :
    renderStrategyManifest scope entries = renderStrategyManifest scope entries' ↔
      ∃ rest, "\n".intercalate (entries.map manifestLine) ++ ("\n" ++ rest) =
        "\n".intercalate (entries'.map manifestLine) ++ ("\n" ++ rest) := by
  have hmiddle : "\n\nThe evidence itself:\n" = "\n" ++ "\nThe evidence itself:\n" := rfl
  unfold renderStrategyManifest manifestBody
  rw [hnotes, hmiddle]
  simp only [String.append_assoc, String.append_right_inj]
  constructor
  · intro h
    exact ⟨_, h⟩
  · rintro ⟨rest, h⟩
    rw [(String.append_left_inj _).mp h]

/-- An item of a manifest agrees with that of an alike entry exactly if their numeric claims and
the mark of a limitation are the same. -/
theorem Alike.agrees_iff (h : Alike platform entry other) :
    (toStrategyManifestEvidence entry).Agrees (toStrategyManifestEvidence other) ↔
      entry.allowedNumericClaims = other.allowedNumericClaims ∧
        entry.requiredInLimitations = other.requiredInLimitations := by
  constructor
  · intro hagrees
    exact ⟨hagrees.allowedNumericClaims, hagrees.requiredInLimitations⟩
  · rintro ⟨hclaims, hrequired⟩
    exact ⟨hclaims, fun role => h.allowedRoles.mem_iff, h.classification,
      fun dimension => h.dimensions.mem_iff, h.evidenceKey, hrequired, h.sampleSize,
      h.evidenceType⟩

namespace Sample

open StrategyManifest.Sample

/-- What is selected when the coverage must appear in the limitations, or need not. -/
def selected (requiredInLimitations : Bool) : List StrategyEvidenceEntry :=
  (selectStrategyEvidence lowerCase [{ coverage with requiredInLimitations }] none).entries

/-- What is selected of the coverage with another score. -/
def rescored : List StrategyEvidenceEntry :=
  (selectStrategyEvidence lowerCase
    [{ coverage with requiredInLimitations := true, rankScore := some 1 }] none).entries

def accountScope : StrategyManifestScope :=
  ⟨"day_30", some account, "engagement_rate_reach", "1970-01-01", "1970-01-02"⟩

private theorem tellsApart_selected (first second : Bool) :
    TellsApart lowerCase (selected first) (selected second) := by
  have hsummary : ∀ required, ∀ entry ∈ selected required,
      entry.summaryText = coverage.summaryText := by
    decide
  intro entry hentry other hother _
  rw [hsummary first entry hentry, hsummary second other hother]

private theorem tellsApart_rescored : TellsApart lowerCase (selected true) rescored := by
  have hsummary : ∀ entry ∈ selected true ++ rescored, entry.summaryText = coverage.summaryText := by
    decide
  intro entry hentry other hother _
  rw [hsummary entry (mem_append_left _ hentry), hsummary other (mem_append_right _ hother)]

private theorem canonical_rescored : (selected true).map (canonicalEntry lowerCase) =
    rescored.map (canonicalEntry lowerCase) := rfl

private theorem canonical_selected (first second : Bool) :
    (selected first).map (canonicalEntry lowerCase) =
      (selected second).map (canonicalEntry lowerCase) := by
  cases first <;> cases second <;> rfl

end Sample

end StrategyCanonical

end ContentAutomation
