import ContentAutomation.Instagram.Schema
import ContentAutomation.Library.Json

/-!
# Normalising what the provider sends

A media item or a comment of the provider is arbitrary JSON. The functions here
turn it into the values that are stored, or say why it is rejected.
-/

namespace ContentAutomation

open Utf16

/-! ### The runtime -/

/-- A digest of 32 bytes in hexadecimal digits. -/
structure HexDigest where
  text : Utf16
  length_eq : text.length = 64
  isAscii : ∀ unit ∈ text, 0x20 ≤ unit ∧ unit < 0x80

def HexDigest.zeros : HexDigest :=
  ⟨List.replicate 64 0x30, List.length_replicate, by simp⟩

/-- The functions of the runtime that the normalisers call. -/
structure Runtime where
  /-- How a finite number is written. -/
  numeral : ℚ → Utf16
  /-- `Date.parse`, in milliseconds. -/
  dateParse : Utf16 → Option ℤ
  /-- `new URL(value).protocol`, if that does not throw. -/
  protocol : Utf16 → Option Utf16
  /-- `createHash("sha256").update(text, "utf8").digest("hex")`. -/
  sha256 : Utf16 → HexDigest

variable (runtime : Runtime)

/-! ### Reading fields -/

/-- A decimal digit. -/
def isDigitUnit (unit : UInt16) : Bool := 0x30 ≤ unit && unit ≤ 0x39

/-- A character of `[A-Z]`. -/
def isUpperUnit (unit : UInt16) : Bool := 0x41 ≤ unit && unit ≤ 0x5A

/-- A character of `[A-Z0-9_]`. -/
def isEnumUnit (unit : UInt16) : Bool := isUpperUnit unit || isDigitUnit unit || unit == 0x5F

/-- `/^[0-9]{5,limit}$/u`, the pattern of provider identifiers. -/
def isProviderId (limit : ℕ) (value : Utf16) : Bool :=
  decide (5 ≤ value.length ∧ value.length ≤ limit) && value.all isDigitUnit

/-- `providerEnumPattern`. -/
def isProviderEnum : Utf16 → Bool
  | [] => false
  | head :: tail => isUpperUnit head && decide (tail.length ≤ 31) && tail.all isEnumUnit

/-- `readString`. -/
def readString (fields : List (Utf16 × Json)) (key : String) : Option Utf16 :=
  match Json.field? fields key with
  | some (.string value) => if 0 < value.length then some value else none
  | _ => none

/-- `readHttpsUrl`. -/
def readHttpsUrl (fields : List (Utf16 × Json)) (key : String) : Option Utf16 :=
  match readString fields key with
  | none => none
  | some value => if runtime.protocol value = some (ofString "https:") then some value else none

/-- `2026-07-01T04:12:33+0000` with a colon in its offset. -/
def expandOffset (value : Utf16) : Utf16 :=
  match value.reverse with
  | e :: d :: c :: b :: sign :: rest =>
    if (sign == 0x2B || sign == 0x2D) && [b, c, d, e].all isDigitUnit then
      rest.reverse ++ [sign, b, c, 0x3A, d, e]
    else value
  | _ => value

/-- `Date.UTC(2010, 0, 1)`. -/
def earliestPlausiblePublishedAt : ℤ := 1262304000000

/-- `Date.UTC(2100, 0, 1)`. -/
def latestPlausiblePublishedAt : ℤ := 4102444800000

/-- `parseInstagramTimestamp`. -/
def parseInstagramTimestamp (value : Option Utf16) : Option ℤ :=
  match value with
  | none => none
  | some value =>
    match runtime.dateParse (expandOffset value) with
    | none => none
    | some parsed =>
      if parsed < earliestPlausiblePublishedAt ∨ latestPlausiblePublishedAt ≤ parsed then none
      else some parsed

/-- `maximumRawPayloadBytes`. -/
def maximumRawPayloadBytes : ℕ := 65536

/-! ### Media -/

/-- `InstagramMediaRejectionReason`. A value of JSON can always be serialised. -/
inductive InstagramMediaRejectionReason
  | itemNotObject | itemTooLarge | mediaIdInvalid | mediaTypeInvalid | timestampInvalid

/-- `NormalisedInstagramMedia`. -/
structure NormalisedInstagramMedia where
  caption : Option Utf16
  ephemeralMediaUrl : Option Utf16
  ephemeralThumbnailUrl : Option Utf16
  kind : InstagramMediaKind
  mediaProductType : Option Utf16
  mediaType : Utf16
  permalink : Option Utf16
  providerMediaId : Utf16
  publishedAt : ℤ
  rawPayload : Json
  rawPayloadHash : HexDigest
  username : Option Utf16

/-- `classifyInstagramMedia`. -/
def classifyInstagramMedia (mediaProductType : Option Utf16) (mediaType : Utf16) :
    InstagramMediaKind :=
  if mediaProductType = some (ofString "REELS") then .reel
  else if mediaType = ofString "CAROUSEL_ALBUM" then .carouselAlbum
  else if mediaType = ofString "IMAGE" then .image
  else if mediaType = ofString "VIDEO" then .video
  else .unsupported

/-- `instagramEphemeralUrlFields`. -/
def instagramEphemeralUrlFields : List Utf16 := [ofString "media_url", ofString "thumbnail_url"]

/-- `hashInstagramMediaPayload`. -/
def hashInstagramMediaPayload (item : Json) : HexDigest :=
  runtime.sha256 ((item.canonicalise instagramEphemeralUrlFields).stringify runtime.numeral)

/-- The media of an item with these fields, which have passed the checks. -/
def mediaOf (item : Json) (fields : List (Utf16 × Json)) (providerMediaId mediaType : Utf16)
    (publishedAt : ℤ) : NormalisedInstagramMedia :=
  let mediaProductType := (readString fields "media_product_type").filter isProviderEnum
  { caption := (Json.field? fields "caption").bind Json.string?
    ephemeralMediaUrl := readHttpsUrl runtime fields "media_url"
    ephemeralThumbnailUrl := readHttpsUrl runtime fields "thumbnail_url"
    kind := classifyInstagramMedia mediaProductType mediaType
    mediaProductType := mediaProductType
    mediaType := mediaType
    permalink := readHttpsUrl runtime fields "permalink"
    providerMediaId := providerMediaId
    publishedAt := publishedAt
    rawPayload := item
    rawPayloadHash := hashInstagramMediaPayload runtime item
    username := readString fields "username" }

/-- `normaliseInstagramMediaItem`. -/
def normaliseInstagramMediaItem (item : Json) :
    Except InstagramMediaRejectionReason NormalisedInstagramMedia :=
  match item.fields? with
  | none => .error .itemNotObject
  | some fields =>
    if maximumRawPayloadBytes < (item.stringify runtime.numeral).length then .error .itemTooLarge
    else
      match (readString fields "id").filter (isProviderId 32) with
      | none => .error .mediaIdInvalid
      | some providerMediaId =>
        match (readString fields "media_type").filter isProviderEnum with
        | none => .error .mediaTypeInvalid
        | some mediaType =>
          match parseInstagramTimestamp runtime (readString fields "timestamp") with
          | none => .error .timestampInvalid
          | some publishedAt =>
            .ok (mediaOf runtime item fields providerMediaId mediaType publishedAt)

/-! ### Comments -/

/-- `InstagramCommentRejectionReason`. A value of JSON can always be serialised. -/
inductive InstagramCommentRejectionReason
  | commentIdInvalid | commentNotObject | commentTooLarge | timestampInvalid

/-- `NormalisedInstagramComment`. -/
structure NormalisedInstagramComment where
  likeCount : Option ℤ
  parentProviderCommentId : Option Utf16
  providerCommentId : Utf16
  publishedAt : ℤ
  rawPayload : Json
  rawPayloadHash : HexDigest
  text : Utf16
  username : Option Utf16

/-- `hashInstagramCommentPayload`. -/
def hashInstagramCommentPayload (item : Json) : HexDigest :=
  runtime.sha256 ((item.canonicalise []).stringify runtime.numeral)

/-- `maximumCommentTextLength`. -/
def maximumCommentTextLength : ℕ := 2200

/-- `sanitiseInstagramCommentText`. -/
def sanitiseInstagramCommentText (value : Utf16) : Utf16 :=
  (trim (collapseSpaces (blankControls value))).take maximumCommentTextLength

/-- The like count of a comment: a whole number that is not negative. -/
def readLikeCount (fields : List (Utf16 × Json)) : Option ℤ :=
  match Json.field? fields "like_count" with
  | some (.number (.finite value)) => if value.den = 1 ∧ 0 ≤ value.num then some value.num else none
  | _ => none

/-- The comment of an item with these fields, which have passed the checks. -/
def commentOf (item : Json) (fields : List (Utf16 × Json))
    (parentProviderCommentId : Option Utf16) (providerCommentId : Utf16) (publishedAt : ℤ) :
    NormalisedInstagramComment where
  likeCount := readLikeCount fields
  parentProviderCommentId := parentProviderCommentId
  providerCommentId := providerCommentId
  publishedAt := publishedAt
  rawPayload := item
  rawPayloadHash := hashInstagramCommentPayload runtime item
  text :=
    match Json.field? fields "text" with
    | some (.string text) => sanitiseInstagramCommentText text
    | _ => []
  username := readString fields "username"

/-- `normaliseOne`. -/
def normaliseOne (item : Json) (parentProviderCommentId : Option Utf16) :
    Except InstagramCommentRejectionReason NormalisedInstagramComment :=
  match item.fields? with
  | none => .error .commentNotObject
  | some fields =>
    if maximumRawPayloadBytes < (item.stringify runtime.numeral).length then .error .commentTooLarge
    else
      match (readString fields "id").filter (isProviderId 64) with
      | none => .error .commentIdInvalid
      | some providerCommentId =>
        match parseInstagramTimestamp runtime (readString fields "timestamp") with
        | none => .error .timestampInvalid
        | some publishedAt =>
          .ok (commentOf runtime item fields parentProviderCommentId providerCommentId publishedAt)

/-- The replies inside a comment. -/
def commentReplies (item : Json) : List Json :=
  match item.fields?.bind fun fields => (Json.field? fields "replies").bind Json.fields? with
  | none => []
  | some replies => ((Json.field? replies "data").bind Json.array?).getD []

/-- `normaliseInstagramCommentItem`: the accepted comments and why others are rejected. -/
def normaliseInstagramCommentItem (item : Json) :
    List NormalisedInstagramComment × List InstagramCommentRejectionReason :=
  match normaliseOne runtime item none with
  | .error reason => ([], [reason])
  | .ok top =>
    let replies := (commentReplies item).map fun reply =>
      normaliseOne runtime reply (some top.providerCommentId)
    (top :: replies.filterMap Except.toOption,
      replies.filterMap fun reply =>
        match reply with
        | .ok _ => none
        | .error reason => some reason)

/-! ### What is accepted -/

variable {runtime}

private theorem parseInstagramTimestamp_eq_some {value : Option Utf16} {publishedAt : ℤ}
    (h : parseInstagramTimestamp runtime value = some publishedAt) :
    earliestPlausiblePublishedAt ≤ publishedAt ∧ publishedAt < latestPlausiblePublishedAt := by
  unfold parseInstagramTimestamp at h
  split at h
  · cases h
  split at h
  · cases h
  split_ifs at h with hoff
  cases h
  omega

theorem normaliseInstagramMediaItem_eq_ok {item : Json} {media : NormalisedInstagramMedia}
    (h : normaliseInstagramMediaItem runtime item = .ok media) :
    ∃ fields providerMediaId mediaType publishedAt, item.fields? = some fields ∧
      isProviderId 32 providerMediaId = true ∧ isProviderEnum mediaType = true ∧
      earliestPlausiblePublishedAt ≤ publishedAt ∧ publishedAt < latestPlausiblePublishedAt ∧
      media = mediaOf runtime item fields providerMediaId mediaType publishedAt := by
  unfold normaliseInstagramMediaItem at h
  split at h
  · cases h
  next fields hfields =>
  split_ifs at h with hlarge
  split at h
  · cases h
  next providerMediaId hid =>
  split at h
  · cases h
  next mediaType htype =>
  split at h
  · cases h
  next publishedAt htime =>
  cases h
  have hbounds := parseInstagramTimestamp_eq_some htime
  exact ⟨fields, providerMediaId, mediaType, publishedAt, hfields,
    (Option.filter_eq_some_iff.mp hid).2, (Option.filter_eq_some_iff.mp htype).2, hbounds.1,
    hbounds.2, rfl⟩

theorem readLikeCount_nonneg {fields : List (Utf16 × Json)} {likes : ℤ}
    (h : readLikeCount fields = some likes) : 0 ≤ likes := by
  unfold readLikeCount at h
  split at h
  · split_ifs at h with hwhole
    cases h
    exact hwhole.2
  · cases h

/-- An accepted comment has passed every check. -/
theorem normaliseOne_eq_ok {item : Json} {parent : Option Utf16}
    {comment : NormalisedInstagramComment} (h : normaliseOne runtime item parent = .ok comment) :
    ∃ fields providerCommentId publishedAt, item.fields? = some fields ∧
      isProviderId 64 providerCommentId = true ∧
      earliestPlausiblePublishedAt ≤ publishedAt ∧ publishedAt < latestPlausiblePublishedAt ∧
      comment = commentOf runtime item fields parent providerCommentId publishedAt := by
  unfold normaliseOne at h
  split at h
  · cases h
  next fields hfields =>
  split_ifs at h with hlarge
  split at h
  · cases h
  next providerCommentId hid =>
  split at h
  · cases h
  next publishedAt htime =>
  cases h
  have hbounds := parseInstagramTimestamp_eq_some htime
  exact ⟨fields, providerCommentId, publishedAt, hfields, (Option.filter_eq_some_iff.mp hid).2,
    hbounds.1, hbounds.2, rfl⟩

theorem isOk_normaliseOne (item : Json) (parent other : Option Utf16) :
    (normaliseOne runtime item parent).isOk = (normaliseOne runtime item other).isOk := by
  unfold normaliseOne
  split
  · rfl
  split_ifs
  · rfl
  split
  · rfl
  split <;> rfl

end ContentAutomation
