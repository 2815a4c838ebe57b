import ContentAutomation.Library.FirstCopies
import ContentAutomation.Library.Shape

/-!
# The replies of a chat turn

What the model answers is parsed by a schema, its prose is scanned for control characters and
its citations are split into those that the context offered and the others. The offered
follow-up questions pass through the schema only. This file determines for which replies
every text that is stored is free of control characters.
-/

namespace ContentAutomation

open Utf16 List

/-! ### The contract -/

/-- `ChatReplyV1`. -/
structure ChatReplyV1 where
  citedEvidenceIds : List Utf16
  followUps : List Utf16
  reply : Utf16

/-- `z.string().trim().min(1).max(most)`. -/
def trimmedText (most : ℕ) : Shape Utf16
  | .string text =>
    if 1 ≤ (trim text).length ∧ (trim text).length ≤ most then some (trim text) else none
  | _ => none

/-- `chatReplyV1Schema`. -/
def chatReplyV1Schema : Shape ChatReplyV1 := fun value => do
  let fields ← Shape.strictObject ["citedEvidenceIds", "followUps", "reply"] value
  let citedEvidenceIds ← Shape.property fields "citedEvidenceIds"
    (Shape.array (trimmedText 64) 0 12)
  let followUps ← Shape.property fields "followUps" (Shape.array (trimmedText 160) 0 3)
  let reply ← Shape.property fields "reply" (trimmedText 4000)
  some ⟨citedEvidenceIds, followUps, reply⟩

/-- `ChatValidationIssue`. -/
structure ChatValidationIssue where
  code : Utf16
  message : Utf16
  path : Utf16

/-- `ChatValidationResult`. -/
inductive ChatValidationResult
  | valid (data : ChatReplyV1) (droppedCitations : List Utf16)
  | invalid (issues : List ChatValidationIssue)

/-- An issue that the schema finds: its message, and the keys on the way to it. -/
structure SchemaIssue where
  message : Utf16
  path : List Utf16

/-- `containsControlCharacter`. A control character is a code unit of its own, so the scan by
code points finds it where a scan by code units does. -/
def containsControlCharacter (value : Utf16) : Bool :=
  value.any fun unit => unit != lineFeed && isControl unit

/-- The issue that is added for an issue of the schema. -/
def SchemaIssue.toIssue (issue : SchemaIssue) : ChatValidationIssue where
  code := ofString "SCHEMA"
  message := issue.message
  path :=
    let path := (ofString ".").intercalate issue.path
    if path = [] then ofString "reply" else path

/-- `validateChatReplyV1`, where `schemaIssues` are the issues of a value that the schema does
not parse. -/
def validateChatReplyV1 (schemaIssues : Json → List SchemaIssue) (value : Json)
    (evidenceIds : List Utf16) : ChatValidationResult :=
  match chatReplyV1Schema value with
  | none => .invalid ((schemaIssues value).map SchemaIssue.toIssue)
  | some data =>
    if containsControlCharacter data.reply then
      .invalid [⟨ofString "CONTROL_CHARACTER",
        ofString "A reply cannot contain control characters", ofString "reply"⟩]
    else
      let cited := FirstCopies.firstCopies id data.citedEvidenceIds
      .valid { data with citedEvidenceIds := cited.filter fun id => id ∈ evidenceIds }
        (cited.filter fun id => id ∉ evidenceIds)

/-! ### What is accepted -/

/-- The strings in the array under a key of a record. -/
def textsUnder (value : Json) (name : String) : List Utf16 :=
  match (value.fields?.bind fun fields => Json.field? fields name).bind Json.array? with
  | none => []
  | some items => items.filterMap Json.string?

/-- A text has no control characters but line feeds. -/
def PlainText (text : Utf16) : Prop := ∀ unit ∈ text, isControl unit → unit = lineFeed

/-- **The accepted reply is sound**: no text of it has control characters, its citations are
distinct and offered, and with those that were dropped they are the ones of the model. -/
structure SoundReply (value : Json) (evidenceIds : List Utf16) (data : ChatReplyV1)
    (droppedCitations : List Utf16) : Prop where
  reply : PlainText data.reply
  followUps : ∀ text ∈ data.followUps, PlainText text
  offered : ∀ id ∈ data.citedEvidenceIds, id ∈ evidenceIds
  distinct : (data.citedEvidenceIds ++ droppedCitations).Nodup
  cited : ∀ id, id ∈ data.citedEvidenceIds ++ droppedCitations ↔
    id ∈ (textsUnder value "citedEvidenceIds").map trim

/-- No follow-up question has a control character between its first and its last character
that is not white space. -/
def FollowUpsPlain (value : Json) : Prop :=
  ∀ text ∈ textsUnder value "followUps", PlainText (trim text)

instance (text : Utf16) : Decidable (PlainText text) := List.decidableBAll _ _

private theorem plainText_iff {text : Utf16} :
    PlainText text ↔ containsControlCharacter text = false := by
  unfold PlainText containsControlCharacter
  rw [any_eq_false]
  refine forall₂_congr fun unit _ => ?_
  by_cases hbreak : unit = lineFeed
  · simp [hbreak]
  · simp [hbreak]

private theorem array_trimmedText {value : Json} {most longest : ℕ} {texts : List Utf16}
    (h : Shape.array (trimmedText longest) 0 most value = some texts) :
    ∃ items, value.array? = some items ∧ texts = (items.filterMap Json.string?).map trim := by
  cases value with
  | array items =>
    refine ⟨items, rfl, ?_⟩
    simp only [Shape.array] at h
    split_ifs at h
    clear * - h
    induction items generalizing texts with
    | nil =>
      obtain rfl := Option.some.inj h
      rfl
    | cons item items ih =>
      rw [mapM_cons] at h
      obtain ⟨text, htext, h⟩ := Option.bind_eq_some_iff.mp h
      obtain ⟨rest, hrest, h⟩ := Option.bind_eq_some_iff.mp h
      obtain rfl := Option.some.inj h
      cases item with
      | string original =>
        simp only [trimmedText] at htext
        split_ifs at htext
        have hstring : Json.string? (.string original) = some original := rfl
        rw [filterMap_cons_some hstring, map_cons, ← ih hrest, Option.some.inj htext]
      | _ => cases htext
  | _ => cases h

/-- A reply that the schema parses has the cited identifiers and the follow-up questions of
the document, trimmed. -/
theorem chatReplyV1Schema_texts {value : Json} {data : ChatReplyV1}
    (h : chatReplyV1Schema value = some data) :
    data.citedEvidenceIds = (textsUnder value "citedEvidenceIds").map trim ∧
      data.followUps = (textsUnder value "followUps").map trim := by
  have hunder {fields : List (Utf16 × Json)} {name : String} {most longest : ℕ}
      {texts : List Utf16} (hfields : value.fields? = some fields)
      (htexts : Shape.property fields name (Shape.array (trimmedText longest) 0 most) =
        some texts) : texts = (textsUnder value name).map trim := by
    obtain ⟨inner, hinner, harray⟩ := Option.bind_eq_some_iff.mp htexts
    obtain ⟨items, hitems, rfl⟩ := array_trimmedText harray
    unfold textsUnder
    rw [hfields, Option.bind_some, hinner, Option.bind_some, hitems]
  obtain ⟨fields, hstrict, h⟩ := Option.bind_eq_some_iff.mp h
  obtain ⟨citedEvidenceIds, hcited, h⟩ := Option.bind_eq_some_iff.mp h
  obtain ⟨followUps, hfollow, h⟩ := Option.bind_eq_some_iff.mp h
  obtain ⟨reply, -, h⟩ := Option.bind_eq_some_iff.mp h
  obtain rfl := Option.some.inj h
  have hfields : value.fields? = some fields := by
    cases value with
    | object entries =>
      simp only [Shape.strictObject] at hstrict
      split_ifs at hstrict
      exact hstrict
    | _ => cases hstrict
  exact ⟨hunder hfields hcited, hunder hfields hfollow⟩

private theorem validateChatReplyV1_eq_valid {schemaIssues : Json → List SchemaIssue} {value : Json}
    {evidenceIds : List Utf16} {data : ChatReplyV1} {droppedCitations : List Utf16}
    (h : validateChatReplyV1 schemaIssues value evidenceIds = .valid data droppedCitations) :
    ∃ parsed, chatReplyV1Schema value = some parsed ∧ PlainText parsed.reply ∧
      data = { parsed with citedEvidenceIds := (FirstCopies.firstCopies id
        parsed.citedEvidenceIds).filter fun id => id ∈ evidenceIds } ∧
      droppedCitations = (FirstCopies.firstCopies id parsed.citedEvidenceIds).filter
        fun id => id ∉ evidenceIds := by
  unfold validateChatReplyV1 at h
  cases hparsed : chatReplyV1Schema value with
  | none => simp [hparsed] at h
  | some parsed =>
    simp only [hparsed] at h
    split_ifs at h with hcontrol
    obtain ⟨hdata, hdropped⟩ := ChatValidationResult.valid.inj h
    exact ⟨parsed, rfl, plainText_iff.mpr (by simpa using hcontrol), hdata.symm, hdropped.symm⟩

/-- **An accepted reply is sound** exactly when its follow-up questions are plain. -/
theorem accepted_reply_sound_iff {schemaIssues : Json → List SchemaIssue} {value : Json}
    {evidenceIds : List Utf16} {data : ChatReplyV1} {droppedCitations : List Utf16}
    (h : validateChatReplyV1 schemaIssues value evidenceIds = .valid data droppedCitations) :
    SoundReply value evidenceIds data droppedCitations ↔ FollowUpsPlain value := by
  obtain ⟨parsed, hparsed, hreply, rfl, rfl⟩ := validateChatReplyV1_eq_valid h
  obtain ⟨hcited, hfollow⟩ := chatReplyV1Schema_texts hparsed
  have hplain : (∀ text ∈ parsed.followUps, PlainText text) ↔ FollowUpsPlain value := by
    rw [hfollow, forall_mem_map]
    rfl
  rw [← hplain]
  constructor
  · intro hsound
    exact hsound.followUps
  · intro hfollowUps
    refine ⟨hreply, hfollowUps, fun id hid => ?_, ?_, fun id => ?_⟩
    · simpa using (mem_filter.mp hid).2
    · have hdistinct : (FirstCopies.firstCopies id parsed.citedEvidenceIds).Nodup := by
        simpa using @FirstCopies.nodup_firstCopies _ _ _ id parsed.citedEvidenceIds
      refine nodup_append.mpr ⟨hdistinct.filter _, hdistinct.filter _, ?_⟩
      rintro kept hkept dropped hdropped rfl
      have hin := (mem_filter.mp hkept).2
      have hout := (mem_filter.mp hdropped).2
      simp only [decide_eq_true_eq] at hin hout
      exact hout hin
    · rw [← hcited, ← @FirstCopies.mem_firstCopies_id _ _ _ parsed.citedEvidenceIds,
        mem_append, mem_filter, mem_filter]
      simp only [decide_eq_true_eq]
      rw [← and_or_left, and_iff_left (em _)]

namespace ReplySample

/-- A reply with one citation and this follow-up question. -/
def document (followUp : String) : Json :=
  Shape.record [("citedEvidenceIds", .array [Shape.writeString "stat_pos_0"]),
    ("followUps", .array [Shape.writeString followUp]), ("reply", Shape.writeString "Yes.")]

/-- What is accepted of the reply, when its citation was offered. -/
def accepted (followUp : String) : ChatReplyV1 :=
  ⟨[ofString "stat_pos_0"], [ofString followUp], ofString "Yes."⟩

/-- A reply with a plain follow-up question is sound. -/
theorem plain_reply_is_sound :
    SoundReply (document "Why?") [ofString "stat_pos_0"] (accepted "Why?") [] ↔
      FollowUpsPlain (document "Why?") :=
  @accepted_reply_sound_iff (fun _ => []) _ _ _ _ rfl

/-- A follow-up question with a form feed is accepted. -/
theorem form_feed_is_accepted : ¬ ∀ (schemaIssues : Json → List SchemaIssue) (value : Json)
    (evidenceIds : List Utf16) (data : ChatReplyV1) (droppedCitations : List Utf16),
    validateChatReplyV1 schemaIssues value evidenceIds = .valid data droppedCitations →
      SoundReply value evidenceIds data droppedCitations := by
  intro h
  have hsound := h (fun _ => []) (document "Why\u000cnot?") [ofString "stat_pos_0"]
    (accepted "Why\u000cnot?") [] rfl
  have hplain := hsound.followUps _ mem_cons_self
  revert hplain
  decide

end ReplySample

end ContentAutomation
