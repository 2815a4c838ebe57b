import ContentAutomation.Library.Utf16
import Mathlib.Data.Int.Notation

/-!
# Post dossiers

The rendering of posts for a prompt: one head line a post and, indented under
it, what was measured, said and commented. Captions, transcripts and comments are
untrusted. This file determines for which dossiers none of that text reaches the
first column, where only the head lines stand.
-/

namespace ContentAutomation

open Utf16 List

/-- `PostDossierMetrics`. -/
structure PostDossierMetrics where
  averageWatchTimeMs : Option ℤ
  comments : Option ℤ
  likes : Option ℤ
  reach : Option ℤ
  saves : Option ℤ
  shares : Option ℤ
  totalInteractions : Option ℤ
  views : Option ℤ

/-- `PostDossierComment`. -/
structure PostDossierComment where
  likeCount : Option ℤ
  text : Utf16
  username : Option Utf16

/-- `PostDossier`, without the identifier of the post, which is not rendered. -/
structure PostDossier where
  ageWindow : Option Utf16
  caption : Option Utf16
  commentCount : ℤ
  comments : List PostDossierComment
  contentFormat : Option Utf16
  contentPillar : Option Utf16
  ctaType : Option Utf16
  durationSeconds : Option ℤ
  hookCategory : Option Utf16
  hookText : Option Utf16
  metrics : PostDossierMetrics
  presenterMode : Option Utf16
  publishedAt : Utf16
  transcript : Option Utf16

/-- `postDossierCommentCap`. -/
def postDossierCommentCap : ℕ := 12

/-- `postDossierTranscriptCap`. -/
def postDossierTranscriptCap : ℕ := 6000

/-- `indent`. -/
def indent (parts : List Utf16) : Utf16 := joinLines (parts.map fun line => ofString "  " ++ line)

/-- `flatten`. -/
def flatten (value : Utf16) (cap : ℕ) : Utf16 :=
  let collapsed := trim (collapseSpaces (blankControls value))
  if cap < collapsed.length then collapsed.take cap ++ ofString "…" else collapsed

/-- `String(value)` of a whole number. -/
def numeral (value : ℤ) : Utf16 := ofString (toString value)

/-- `metricLine`. -/
def metricLine (metrics : PostDossierMetrics) : Utf16 :=
  let parts := [("views", metrics.views), ("reach", metrics.reach), ("likes", metrics.likes),
    ("comments", metrics.comments), ("shares", metrics.shares), ("saves", metrics.saves),
    ("interactions", metrics.totalInteractions),
    ("avg_watch_ms", metrics.averageWatchTimeMs)].filterMap fun part =>
      part.2.map fun value => ofString part.1 ++ ofString " " ++ numeral value
  if parts = [] then ofString "no metrics captured" else (ofString ", ").intercalate parts

/-- The head line of a dossier, without its dash. -/
def dossierHead (key : Option Utf16) (dossier : PostDossier) : Utf16 :=
  (ofString " | ").intercalate (key.toList ++
    [dossier.publishedAt,
      match dossier.durationSeconds with
      | none => ofString "duration unknown"
      | some seconds => numeral seconds ++ ofString "s",
      ofString "pillar " ++ dossier.contentPillar.getD (ofString "unknown"),
      ofString "format " ++ dossier.contentFormat.getD (ofString "unknown"),
      ofString "hook " ++ dossier.hookCategory.getD (ofString "unknown"),
      ofString "presenter " ++ dossier.presenterMode.getD (ofString "unknown"),
      ofString "cta " ++ dossier.ctaType.getD (ofString "unknown")])

/-- How many people liked a comment, as it follows the name of who wrote it. -/
def likesNote (comment : PostDossierComment) : Utf16 :=
  match comment.likeCount with
  | none => []
  | some likes => ofString " (" ++ numeral likes ++ ofString " likes)"

/-- The line of one comment. -/
def commentLine (comment : PostDossierComment) : Utf16 :=
  ofString "  @" ++ comment.username.getD (ofString "unknown") ++ likesNote comment ++
    ofString ": " ++ flatten comment.text 500

/-- The comments that are rendered. -/
def PostDossier.shown (dossier : PostDossier) : List PostDossierComment :=
  dossier.comments.take postDossierCommentCap

/-- A line for a text, unless it is absent or empty. -/
def textLine (label : String) (value : Option Utf16) (cap : ℕ) : List Utf16 :=
  match value with
  | none => []
  | some [] => []
  | some text => [ofString label ++ flatten text cap]

/-- The lines about comments. -/
def commentLines (dossier : PostDossier) : List Utf16 :=
  if 0 < dossier.comments.length then
    (ofString "comments (" ++ numeral dossier.commentCount ++ ofString " stored, " ++
      numeral dossier.shown.length ++ ofString " shown):") :: dossier.shown.map commentLine
  else if dossier.commentCount = 0 then [ofString "comments: none imported"]
  else []

/-- The lines under the head line, before they are indented. -/
def dossierLines (dossier : PostDossier) : List Utf16 :=
  [ofString "metrics" ++
    (match dossier.ageWindow with
      | none => []
      | some window => ofString " (" ++ window ++ ofString ")") ++
    ofString ": " ++ metricLine dossier.metrics] ++
  textLine "hook text: " dossier.hookText 500 ++
  textLine "caption: " dossier.caption 1000 ++
  textLine "transcript: " dossier.transcript postDossierTranscriptCap ++
  commentLines dossier

/-- `renderKeyedPostDossier`. -/
def renderKeyedPostDossier (key : Option Utf16) (dossier : PostDossier) : Utf16 :=
  ofString "- " ++ dossierHead key dossier ++ lineFeed :: indent (dossierLines dossier)

/-- `renderPostDossier`. -/
def renderPostDossier (key : Utf16) (dossier : PostDossier) : Utf16 :=
  renderKeyedPostDossier (some key) dossier

/-- An entry of `renderPostDossiers`. -/
structure PostDossierEntry where
  dossier : PostDossier
  key : Utf16

/-- `renderPostDossiers`. -/
def renderPostDossiers (entries : List PostDossierEntry) : Utf16 :=
  if entries.length = 0 then ofString "No posts with a completed analysis fall in this period."
  else joinLines (entries.map fun entry => renderPostDossier entry.key entry.dossier)

/-! ### Text that stays in its line -/

private theorem lineFeed_notMem_flatten (value : Utf16) (cap : ℕ) :
    lineFeed ∉ flatten value cap := by
  have hcollapsed : lineFeed ∉ trim (collapseSpaces (blankControls value)) := by
    intro h
    rcases mem_collapseFrom (mem_of_mem_trim h) with hspace | hblank
    · exact absurd hspace (by decide)
    · exact absurd (isControl_of_mem_blankControls hblank) (by decide)
  unfold flatten
  dsimp only
  split_ifs
  · rw [mem_append, not_or]
    exact ⟨fun h => hcollapsed (mem_of_mem_take h), by decide⟩
  · exact hcollapsed

private theorem lineFeed_notMem_numeral (value : ℤ) : lineFeed ∉ numeral value := by
  unfold numeral
  cases value with
  | ofNat n => exact lineFeed_notMem_nat n
  | negSucc n =>
    have hsign : toString (Int.negSucc n) = "-" ++ toString (n + 1) := rfl
    rw [hsign, ofString_append, mem_append, not_or]
    exact ⟨by decide, lineFeed_notMem_nat (n + 1)⟩

private theorem lineFeed_notMem_intercalate {separator : Utf16} {parts : List Utf16}
    (hseparator : lineFeed ∉ separator) :
    lineFeed ∉ separator.intercalate parts ↔ ∀ part ∈ parts, lineFeed ∉ part := by
  induction parts with
  | nil => simp [List.intercalate]
  | cons part parts ih =>
    cases parts with
    | nil => simp [List.intercalate]
    | cons next parts =>
      have hjoin : separator.intercalate (part :: next :: parts) =
          part ++ (separator ++ separator.intercalate (next :: parts)) := by
        simp [List.intercalate, List.intersperse]
      rw [hjoin, mem_append, mem_append, forall_mem_cons, ← ih]
      simp [hseparator]

private theorem lineFeed_notMem_metricLine (metrics : PostDossierMetrics) :
    lineFeed ∉ metricLine metrics := by
  unfold metricLine
  dsimp only
  split_ifs
  · decide
  · rw [lineFeed_notMem_intercalate (by decide)]
    intro part hpart
    obtain ⟨⟨label, value⟩, hlabel, hsome⟩ := mem_filterMap.mp hpart
    obtain ⟨number, -, rfl⟩ := Option.map_eq_some_iff.mp hsome
    have hnone : lineFeed ∉ ofString label := by
      have hall : ∀ name ∈ ["views", "reach", "likes", "comments", "shares", "saves",
          "interactions", "avg_watch_ms"], lineFeed ∉ ofString name := by decide
      exact hall label (by simpa using mem_map_of_mem (f := Prod.fst) hlabel)
    have hspace : lineFeed ∉ ofString " " := by decide
    simp [hnone, hspace, lineFeed_notMem_numeral]

/-! ### What hangs under a head line -/

/-- The texts of an entry that its head line quotes as they are. -/
def PostDossierEntry.labels (entry : PostDossierEntry) : List Utf16 :=
  [entry.key, entry.dossier.publishedAt, entry.dossier.contentPillar.getD [],
    entry.dossier.contentFormat.getD [], entry.dossier.hookCategory.getD [],
    entry.dossier.presenterMode.getD [], entry.dossier.ctaType.getD []]

/-- The labels of an entry are single lines. In the age window, and in the name of whoever
wrote a shown comment together with the note after it, two spaces follow every line feed. -/
def PostDossierEntry.Contained (entry : PostDossierEntry) : Prop :=
  (∀ label ∈ entry.labels, lineFeed ∉ label) ∧
    Hangs (entry.dossier.ageWindow.getD [] ++ ofString ")") ∧
    ∀ comment ∈ entry.dossier.shown,
      Hangs (comment.username.getD [] ++ likesNote comment ++ ofString ":")

/-- The line that this entry begins with. -/
def PostDossierEntry.headLine (entry : PostDossierEntry) : Utf16 :=
  ofString "- " ++ dossierHead (some entry.key) entry.dossier

/-- The lines of the rendered dossiers that are not indented are the head lines. -/
def OnlyHeadsAtColumnZero (entries : List PostDossierEntry) : Prop :=
  (lines (renderPostDossiers entries)).filter (fun line => ¬ Indented line) =
    entries.map PostDossierEntry.headLine

instance (entries : List PostDossierEntry) : Decidable (OnlyHeadsAtColumnZero entries) :=
  inferInstanceAs (Decidable (_ = _))

private theorem lineFeed_notMem_getD {label : Option Utf16} :
    lineFeed ∉ label.getD (ofString "unknown") ↔ lineFeed ∉ label.getD [] := by
  cases label with
  | none => decide
  | some label => rfl

private theorem lineFeed_notMem_headLine {entry : PostDossierEntry} :
    lineFeed ∉ entry.headLine ↔ ∀ label ∈ entry.labels, lineFeed ∉ label := by
  have hduration : lineFeed ∉ (match entry.dossier.durationSeconds with
      | none => ofString "duration unknown"
      | some seconds => numeral seconds ++ ofString "s") := by
    cases entry.dossier.durationSeconds with
    | none => decide
    | some seconds =>
      rw [mem_append, not_or]
      exact ⟨lineFeed_notMem_numeral seconds, by decide⟩
  have hlabel (name : String) (hname : lineFeed ∉ ofString name) (label : Option Utf16) :
      lineFeed ∉ ofString name ++ label.getD (ofString "unknown") ↔ lineFeed ∉ label.getD [] := by
    rw [mem_append, not_or, lineFeed_notMem_getD]
    exact and_iff_right hname
  have hdash : lineFeed ∉ ofString "- " := by decide
  unfold PostDossierEntry.headLine dossierHead PostDossierEntry.labels
  rw [mem_append, not_or, lineFeed_notMem_intercalate (by decide)]
  simp only [Option.toList_some, cons_append, nil_append, forall_mem_cons,
    not_mem_nil, false_imp_iff, implies_true, and_true, hduration, hdash, not_false_eq_true,
    true_and, hlabel "pillar " (by decide), hlabel "format " (by decide),
    hlabel "hook " (by decide), hlabel "presenter " (by decide), hlabel "cta " (by decide)]

private theorem hangs_commentLine {comment : PostDossierComment} : Hangs (commentLine comment) ↔
    Hangs (comment.username.getD [] ++ likesNote comment ++ ofString ":") := by
  have hrest : lineFeed ∉ ofString " " ++ flatten comment.text 500 := by
    rw [mem_append, not_or]
    exact ⟨by decide, lineFeed_notMem_flatten _ _⟩
  have hline : commentLine comment = ofString "  @" ++
      ((comment.username.getD (ofString "unknown") ++ likesNote comment) ++
        0x3A :: (ofString " " ++ flatten comment.text 500)) := by
    have hcolon : ofString ": " = 0x3A :: ofString " " := by decide
    simp only [commentLine, hcolon, append_assoc, cons_append]
  have hmark : ofString ":" = [0x3A] := by decide
  rw [hline, hangs_append_left (by decide), hangs_append_right (by decide) (by decide) hrest, hmark]
  cases comment.username with
  | none =>
    rw [append_assoc, Option.getD_none, Option.getD_none, hangs_append_left (by decide)]
    rfl
  | some username => rfl

variable {dossier : PostDossier}

private theorem hangs_metricsLine :
    Hangs (ofString "metrics" ++
      (match dossier.ageWindow with
        | none => []
        | some window => ofString " (" ++ window ++ ofString ")") ++
      ofString ": " ++ metricLine dossier.metrics) ↔
    Hangs (dossier.ageWindow.getD [] ++ ofString ")") := by
  have hrest : lineFeed ∉ ofString ": " ++ metricLine dossier.metrics := by
    rw [mem_append, not_or]
    exact ⟨by decide, lineFeed_notMem_metricLine _⟩
  have hmark : ofString ")" = [0x29] := by decide
  rw [append_assoc, append_assoc, hangs_append_left (by decide)]
  cases dossier.ageWindow with
  | none => simp [hangs_of_notMem hrest, hangs_of_notMem (show lineFeed ∉ ofString ")" by decide)]
  | some window =>
    simp only [Option.getD_some, hmark, append_assoc, cons_append, nil_append]
    rw [hangs_append_left (by decide), hangs_append_right (by decide) (by decide) hrest]

private theorem hangs_of_mem_textLine {label : String} {value : Option Utf16} {cap : ℕ}
    {line : Utf16}
    (hlabel : lineFeed ∉ ofString label) (h : line ∈ textLine label value cap) : Hangs line := by
  unfold textLine at h
  split at h
  · simp at h
  · simp at h
  · rw [mem_singleton.mp h, hangs_append_left hlabel]
    exact hangs_of_notMem (lineFeed_notMem_flatten _ _)

private theorem forall_hangs_commentLines :
    (∀ line ∈ commentLines dossier, Hangs line) ↔
      ∀ comment ∈ dossier.shown, Hangs (commentLine comment) := by
  have hshown (hnone : ¬ 0 < dossier.comments.length) : dossier.shown = [] := by
    have hnil : dossier.comments = [] := length_eq_zero_iff.mp (by omega)
    rw [PostDossier.shown, hnil, take_nil]
  unfold commentLines
  split_ifs with hsome hnone
  · have htitle : lineFeed ∉ ofString "comments (" ++ numeral dossier.commentCount ++
        ofString " stored, " ++ numeral dossier.shown.length ++ ofString " shown):" := by
      have hopen : lineFeed ∉ ofString "comments (" := by decide
      have hstored : lineFeed ∉ ofString " stored, " := by decide
      have hshown : lineFeed ∉ ofString " shown):" := by decide
      simp [hopen, hstored, hshown, lineFeed_notMem_numeral]
    rw [forall_mem_cons, forall_mem_map]
    exact and_iff_right (hangs_of_notMem htitle)
  · rw [hshown hsome]
    simp [hangs_of_notMem (show lineFeed ∉ ofString "comments: none imported" by decide)]
  · simp [hshown hsome]

/-- All lines under a head line hang exactly when the age window and the shown names do. -/
theorem forall_hangs_dossierLines :
    (∀ line ∈ dossierLines dossier, Hangs line) ↔
      Hangs (dossier.ageWindow.getD [] ++ ofString ")") ∧
        ∀ comment ∈ dossier.shown,
          Hangs (comment.username.getD [] ++ likesNote comment ++ ofString ":") := by
  have hcomments : (∀ line ∈ commentLines dossier, Hangs line) ↔ ∀ comment ∈ dossier.shown,
      Hangs (comment.username.getD [] ++ likesNote comment ++ ofString ":") := by
    rw [forall_hangs_commentLines]
    exact forall₂_congr fun comment _ => hangs_commentLine
  rw [← hcomments, ← hangs_metricsLine]
  unfold dossierLines
  simp only [mem_append, mem_singleton]
  constructor
  · intro h
    exact ⟨h _ (by simp), fun line hline => h line (Or.inr hline)⟩
  · rintro ⟨hmetrics, hlast⟩ line ((((rfl | hhook) | hcaption) | htranscript) | hcomment)
    · exact hmetrics
    · exact hangs_of_mem_textLine (by decide) hhook
    · exact hangs_of_mem_textLine (by decide) hcaption
    · exact hangs_of_mem_textLine (by decide) htranscript
    · exact hlast line hcomment

/-! ### The first column -/

private theorem lines_renderPostDossier (entry : PostDossierEntry) :
    lines (renderPostDossier entry.key entry.dossier) =
      lines entry.headLine ++
        (dossierLines entry.dossier).flatMap fun line => lines (ofString "  " ++ line) := by
  have hsome : (dossierLines entry.dossier).map (fun line => ofString "  " ++ line) ≠ [] := by
    simp [dossierLines]
  unfold renderPostDossier renderKeyedPostDossier
  rw [lines_append_lineFeed, indent, lines_joinLines hsome, flatMap_map]
  rfl

/-- What stands under a head line is indented throughout exactly when all its lines hang. -/
theorem filter_dossierLines_eq_nil :
    ((dossierLines dossier).flatMap fun line => lines (ofString "  " ++ line)).filter
      (fun line => ¬ Indented line) = [] ↔ ∀ line ∈ dossierLines dossier, Hangs line := by
  have hline (line : Utf16) :
      (∀ part ∈ lines (ofString "  " ++ line), Indented part) ↔ Hangs line := by
    have hindent : ofString "  " = [space, space] := by decide
    rw [hindent, forall_indented_lines_iff (prefix_append _ _), hangs_append_left (by decide)]
  simp only [filter_eq_nil_iff, mem_flatMap, decide_not, Bool.not_eq_true',
    decide_eq_false_iff_not, not_not, forall_exists_index, and_imp, ← hline]
  exact ⟨fun h line hmem part hpart => h part line hmem hpart,
    fun h part line hmem hpart => h line hmem part hpart⟩

/-- Parts that follow each value of a list are empty, when the values alone are left. -/
theorem eq_nil_of_flatMap_cons_eq_map {α β : Type} {f : α → β} {rest : α → List β} {xs : List α}
    (h : (xs.flatMap fun x => f x :: rest x) = xs.map f) : ∀ x ∈ xs, rest x = [] := by
  have hlength (xs : List α) : xs.length ≤ (xs.flatMap fun x => f x :: rest x).length := by
    induction xs with
    | nil => simp
    | cons x xs ih =>
      simp only [flatMap_cons, length_append, length_cons]
      omega
  induction xs with
  | nil => simp
  | cons x xs ih =>
    rw [flatMap_cons, map_cons, cons_append, List.cons.injEq] at h
    have hcount := congrArg List.length h.2
    have hrest := hlength xs
    rw [length_append, length_map] at hcount
    have hnil : rest x = [] := length_eq_zero_iff.mp (by omega)
    rw [forall_mem_cons]
    rw [hnil, nil_append] at h
    exact ⟨hnil, ih h.2⟩

private theorem not_indented_headLine (entry : PostDossierEntry) : ¬ Indented entry.headLine := by
  have hdash : ofString "- " = 0x2D :: [0x20] := by decide
  unfold Indented PostDossierEntry.headLine
  rw [hdash, cons_append, cons_prefix_cons]
  exact fun h => absurd h.1 (by decide)

/-- Only the head lines stand at column zero exactly when there is a dossier and every one of
them keeps its labels and names in their place. -/
theorem onlyHeadsAtColumnZero_iff {entries : List PostDossierEntry} :
    OnlyHeadsAtColumnZero entries ↔ entries ≠ [] ∧ ∀ entry ∈ entries, entry.Contained := by
  unfold OnlyHeadsAtColumnZero renderPostDossiers
  split_ifs with hempty
  · have hnil : entries = [] := length_eq_zero_iff.mp hempty
    rw [hnil]
    simp only [ne_eq, not_true_eq_false, false_and, iff_false]
    decide
  have hsome : entries ≠ [] := fun hnil => hempty (by rw [hnil]; rfl)
  rw [lines_joinLines (by simpa using hsome), flatMap_map]
  by_cases hheads : ∀ entry ∈ entries, lineFeed ∉ entry.headLine
  · have hlines : ((entries.flatMap fun entry =>
        lines (renderPostDossier entry.key entry.dossier)).filter
          fun line => ¬ Indented line) = entries.flatMap fun entry => entry.headLine ::
          ((dossierLines entry.dossier).flatMap fun line => lines (ofString "  " ++ line)).filter
            (fun line => ¬ Indented line) := by
      rw [List.filter_flatMap]
      refine flatMap_congr fun entry hentry => ?_
      rw [lines_renderPostDossier, lines_of_notMem (hheads entry hentry), filter_append]
      simp [not_indented_headLine]
    rw [hlines]
    constructor
    · intro h
      refine ⟨hsome, fun entry hentry => ⟨lineFeed_notMem_headLine.mp (hheads entry hentry), ?_⟩⟩
      have hnil := eq_nil_of_flatMap_cons_eq_map h entry hentry
      exact forall_hangs_dossierLines.mp (filter_dossierLines_eq_nil.mp hnil)
    · rintro ⟨-, hcontained⟩
      rw [← flatMap_singleton' (entries.map PostDossierEntry.headLine), flatMap_map]
      refine flatMap_congr fun entry hentry => ?_
      rw [filter_dossierLines_eq_nil.mpr
        (forall_hangs_dossierLines.mpr (hcontained entry hentry).2)]
  · constructor
    · intro h
      refine absurd (fun entry hentry => ?_) hheads
      have hmem : entry.headLine ∈ entries.map PostDossierEntry.headLine :=
        mem_map_of_mem hentry
      rw [← h] at hmem
      obtain ⟨other, -, hline⟩ := mem_flatMap.mp (mem_filter.mp hmem).1
      exact lineFeed_notMem_of_mem_lines hline
    · rintro ⟨-, hcontained⟩
      exact absurd (fun entry hentry => lineFeed_notMem_headLine.mpr (hcontained entry hentry).1)
        hheads

end ContentAutomation
