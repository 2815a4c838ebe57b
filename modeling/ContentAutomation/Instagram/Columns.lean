import ContentAutomation.Instagram.Observations

/-!
# Values and their columns

What the commits write of the provider's items and answers, cell by cell, and which
values a column takes. What is written fits its columns exactly under conditions that
the normalisers leave unchecked: no code point zero in an accepted item, or anywhere in
an answer about insights, counts of 31 bits and names of at most 120 characters.
-/

namespace ContentAutomation

open Utf16 List

/-- The types of columns. -/
inductive ColumnType
  | int | bigInt | decimal (digits places : ℕ) | char (length : ℕ) | varChar (limit : ℕ) | text
  | timestamp | json

/-- A value that is written. -/
inductive ColumnValue
  | whole (value : ℤ)
  | exact (value : ℚ)
  | text (value : Utf16)
  | json (value : Json)

/-- The values that a column takes. The code point zero is refused in texts and in JSON. -/
def ColumnType.Takes : ColumnType → ColumnValue → Prop
  | .int, .whole value => -2147483648 ≤ value ∧ value ≤ 2147483647
  | .bigInt, .whole value => -9223372036854775808 ≤ value ∧ value ≤ 9223372036854775807
  | .timestamp, .whole value => -210866803200000 ≤ value ∧ value < 9224318016000000
  | .decimal digits places, .exact value => |value| < 10 ^ (digits - places)
  | .char length, .text value => 0 ∉ value ∧ characters value ≤ length
  | .varChar limit, .text value => 0 ∉ value ∧ characters value ≤ limit
  | .text, .text value => 0 ∉ value
  | .json, .json value => value.ZeroFree
  | _, _ => False

/-- A value that is written into a column; `none` is `NULL`. -/
structure Cell where
  column : String
  type : ColumnType
  value : Option ColumnValue

/-- The column takes the value. -/
def Cell.Fits (cell : Cell) : Prop := ∀ value, cell.value = some value → cell.type.Takes value

/-! ### What is written -/

/-- What `commitInstagramMediaPage` writes of a media item. -/
def NormalisedInstagramMedia.cells (media : NormalisedInstagramMedia) : List Cell :=
  [⟨"caption", .text, media.caption.map .text⟩,
    ⟨"media_product_type", .varChar 32, media.mediaProductType.map .text⟩,
    ⟨"media_type", .varChar 32, some (.text media.mediaType)⟩,
    ⟨"permalink", .text, media.permalink.map .text⟩,
    ⟨"provider_thumbnail_url", .text, media.ephemeralThumbnailUrl.map .text⟩,
    ⟨"published_at", .timestamp, some (.whole media.publishedAt)⟩,
    ⟨"raw_api_version", .varChar 16, some (.text (ofString instagramApiVersion))⟩,
    ⟨"raw_payload", .json, some (.json media.rawPayload)⟩,
    ⟨"raw_payload_hash", .char 64, some (.text media.rawPayloadHash.text)⟩,
    ⟨"provider_media_id", .varChar 64, some (.text media.providerMediaId)⟩]

/-- What `commitInstagramComments` writes of a comment. -/
def NormalisedInstagramComment.cells (comment : NormalisedInstagramComment) : List Cell :=
  [⟨"like_count", .int, comment.likeCount.map .whole⟩,
    ⟨"parent_provider_comment_id", .varChar 64, comment.parentProviderCommentId.map .text⟩,
    ⟨"published_at", .timestamp, some (.whole comment.publishedAt)⟩,
    ⟨"raw_api_version", .varChar 16, some (.text (ofString instagramApiVersion))⟩,
    ⟨"raw_payload", .json, some (.json comment.rawPayload)⟩,
    ⟨"raw_payload_hash", .char 64, some (.text comment.rawPayloadHash.text)⟩,
    ⟨"text", .text, some (.text comment.text)⟩,
    ⟨"username", .varChar 120, comment.username.map .text⟩,
    ⟨"provider_comment_id", .varChar 64, some (.text comment.providerCommentId)⟩]

/-- The name of an availability. -/
def InstagramMetricAvailability.key : InstagramMetricAvailability → String
  | .available => "available"
  | .unavailable => "unavailable"
  | .notApplicable => "not_applicable"
  | .permissionMissing => "permission_missing"
  | .providerError => "provider_error"
  | .notRequested => "not_requested"

/-- The name of a unit. -/
def InstagramMetricUnit.key : InstagramMetricUnit → String
  | .count => "count"
  | .milliseconds => "milliseconds"
  | .ratio => "ratio"

/-- A text or `null`. -/
def jsonText (value : Option Utf16) : Json :=
  match value with
  | none => .null
  | some text => .string text

/-- The entry of the availability map as JSON. -/
def InstagramMetricAvailabilityEntry.json (entry : InstagramMetricAvailabilityEntry) : Json :=
  .object [(ofString "availability", .string (ofString entry.availability.key)),
    (ofString "description", jsonText entry.description),
    (ofString "period", jsonText entry.period),
    (ofString "providerName", jsonText entry.providerName),
    (ofString "providerUnit", jsonText (entry.providerUnit.map fun unit => ofString unit.key)),
    (ofString "unit", jsonText (entry.unit.map fun unit => ofString unit.key))]

/-- The type of a metric's column, and what is written there for a value. -/
def metricCell (canonical : InstagramCanonicalMetric) (value : ℚ) : ColumnType × ColumnValue :=
  match canonical with
  | .totalWatchTimeMs => (.bigInt, .whole (roundHalfUp value))
  | .skipRate => (.decimal 6 5, .exact (roundHalfUp (value * 100000) / 100000))
  | _ => (.int, .whole (roundHalfUp value))

/-- The name of a metric, and of its column. -/
def InstagramCanonicalMetric.column : InstagramCanonicalMetric → String
  | .averageWatchTimeMs => "average_watch_time_ms"
  | .comments => "comments"
  | .follows => "follows"
  | .likes => "likes"
  | .plays => "plays"
  | .profileActivity => "profile_activity"
  | .profileVisits => "profile_visits"
  | .reach => "reach"
  | .saves => "saves"
  | .shares => "shares"
  | .skipRate => "skip_rate"
  | .totalInteractions => "total_interactions"
  | .totalWatchTimeMs => "total_watch_time_ms"
  | .views => "views"

/-- The value column of `toColumns` for an observation. -/
def InstagramMetricObservation.valueCells (entry : InstagramMetricObservation) : List Cell :=
  match entry.availability, entry.value with
  | .available, some value =>
    [⟨entry.canonical.column, (metricCell entry.canonical value).1,
      some (metricCell entry.canonical value).2⟩]
  | _, _ => []

/-- The body of an answer that is no failure. -/
def InsightGroupAnswer.body? : InsightGroupAnswer → Option Json
  | .body value => some value
  | .failure _ => none

/-- What `recordInstagramMetricSnapshot` writes of the answers to the requests of a snapshot: the
values, the availability map, and every body as a whole, whatever of it is rejected. -/
def snapshotCells
    (digest : List (InstagramCanonicalMetric × InstagramMetricAvailability × Option ℚ) → HexDigest)
    (answer : InstagramInsightGroup → InsightGroupAnswer)
    (observations : List InstagramMetricObservation) : List Cell :=
  observations.flatMap InstagramMetricObservation.valueCells ++
  [⟨"api_version", .varChar 16, some (.text (ofString instagramApiVersion))⟩,
    ⟨"availability", .json, some (.json (.object (observations.map fun entry =>
      (ofString entry.canonical.column, entry.availabilityEntry.json))))⟩,
    ⟨"raw_payload", .json, some (.json (.object (reelGroupsV25.filterMap fun group =>
      (answer group).body?.map fun body => (ofString group.key, body))))⟩,
    ⟨"raw_payload_hash", .char 64,
      some (.text (digest (canonicalisedObservations observations)).text)⟩]

/-! ### Items -/

/-- What the provider gives: a media item, a comment with its replies, or the answers to the
requests for the insights of a reel. -/
inductive ProviderItem
  | media (item : Json)
  | comment (item : Json)
  | insights (answer : InstagramInsightGroup → InsightGroupAnswer)

section Items

variable (runtime : Runtime)
  (digest : List (InstagramCanonicalMetric × InstagramMetricAvailability × Option ℚ) → HexDigest)

/-- What the commits write of an item; nothing of a media item or a comment that is rejected, and
nothing of answers with which the job fails. -/
def ProviderItem.written : ProviderItem → List Cell
  | .media item =>
    ((normaliseInstagramMediaItem runtime item).toOption.map NormalisedInstagramMedia.cells).getD []
  | .comment item =>
    (normaliseInstagramCommentItem runtime item).1.flatMap NormalisedInstagramComment.cells
  | .insights answer =>
    ((assembleObservations .reel answer).map (snapshotCells digest answer)).getD []

/-- Whatever of an item is written can be stored. -/
def ProviderItem.Storable (item : ProviderItem) : Prop :=
  ∀ cell ∈ item.written runtime digest, cell.Fits

/-- The name and the like count of a comment are within their columns. -/
def CommentBounded (item : Json) : Prop :=
  ∀ fields, item.fields? = some fields →
    (∀ username, readString fields "username" = some username → characters username ≤ 120) ∧
      ∀ likes, readLikeCount fields = some likes → likes ≤ 2147483647

/-- The value of an insight that goes into a column of 32 bits is below what rounds beyond it. -/
def InsightBounded (group : InstagramInsightGroup) (item : Json) : Prop :=
  ∀ fields definition value, item.fields? = some fields →
    (group.metrics.find? fun entry => some entry.provider = readInsightString fields "name") =
      some definition →
    readNumber fields = some (.finite value) →
    definition.canonical ≠ .totalWatchTimeMs → definition.canonical ≠ .skipRate →
      value < 4294967295 / 2

/-- The items of an answer. -/
def insightItems (body : Json) : List Json :=
  (body.fields?.bind fun fields => (Json.field? fields "data").bind Json.array?).getD []

/-- The item that counts for a metric: the last one that is accepted for it. -/
def decisiveItem (body : Json) (group : InstagramInsightGroup)
    (canonical : InstagramCanonicalMetric) : Option Json :=
  (insightItems body).reverse.find? fun item =>
    (normaliseInstagramInsightItem item group.metrics).toOption.any fun entry =>
      entry.canonical = canonical

/-- The answers to the requests have no code point zero, and the items that count are within the
columns of their metrics. -/
def AnswersBounded (answer : InstagramInsightGroup → InsightGroupAnswer) : Prop :=
  ∀ group ∈ reelGroupsV25, ∀ body, answer group = .body body → body.ZeroFree ∧
    ∀ definition ∈ group.metrics, ∀ item,
      decisiveItem body group definition.canonical = some item → InsightBounded group item

/-- What is written has no code point zero and is within the columns that the normalisers do not
know of: an accepted media item, an accepted comment with its accepted replies, and the answers
of which a snapshot is made. -/
def ProviderItem.Bounded : ProviderItem → Prop
  | .media item => (normaliseInstagramMediaItem runtime item).isOk → item.ZeroFree
  | .comment item => (normaliseOne runtime item none).isOk → item.ZeroFree ∧
      ∀ source ∈ item :: commentReplies item,
        (normaliseOne runtime source none).isOk → CommentBounded source
  | .insights answer => (assembleObservations .reel answer).isSome → AnswersBounded answer

end Items

variable {runtime : Runtime}
  {digest : List (InstagramCanonicalMetric × InstagramMetricAvailability × Option ℚ) → HexDigest}

/-! ### Texts that fit -/

variable {column key : String} {type : ColumnType} {text : Utf16} {item : Json}
  {fields : List (Utf16 × Json)} {entry : InstagramMetricObservation}
  {group : InstagramInsightGroup} {definition : InstagramMetricDefinition}
  {canonical : InstagramCanonicalMetric} {observations : List InstagramMetricObservation}
  {answer : InstagramInsightGroup → InsightGroupAnswer}

private theorem Cell.fits_some {value : ColumnValue} :
    Cell.Fits ⟨column, type, some value⟩ ↔ type.Takes value := by
  simp [Cell.Fits]

private theorem Cell.fits_map_text {text : Option Utf16} :
    Cell.Fits ⟨column, type, text.map .text⟩ ↔
      ∀ value, text = some value → type.Takes (.text value) := by
  simp [Cell.Fits]

private theorem zero_notMem_of_ascii (h : ∀ unit ∈ text, 0x20 ≤ unit ∧ unit < 0x80) :
    0 ∉ text := by
  intro hzero
  exact absurd (h 0 hzero).1 (by decide)

private theorem isProviderId_takes {limit width : ℕ} {value : Utf16} (h : isProviderId limit value)
    (hwidth : limit ≤ width) : ColumnType.Takes (.varChar width) (.text value) := by
  simp only [isProviderId, Bool.and_eq_true, decide_eq_true_eq, all_eq_true] at h
  obtain ⟨⟨-, hlength⟩, hdigits⟩ := h
  have hcharacters := characters_le_length value
  refine ⟨fun hzero => absurd (hdigits 0 hzero) (by decide), by omega⟩

private theorem isProviderEnum_takes {value : Utf16} (h : isProviderEnum value) :
    ColumnType.Takes (.varChar 32) (.text value) := by
  cases value with
  | nil => exact absurd h (by decide)
  | cons head tail =>
    simp only [isProviderEnum, Bool.and_eq_true, decide_eq_true_eq, all_eq_true] at h
    obtain ⟨⟨hhead, hlength⟩, htail⟩ := h
    have hcharacters := characters_le_length (head :: tail)
    rw [length_cons] at hcharacters
    refine ⟨fun hzero => ?_, by omega⟩
    rcases mem_cons.mp hzero with hfirst | hrest
    · rw [← hfirst] at hhead
      exact absurd hhead (by decide)
    · exact absurd (htail 0 hrest) (by decide)

theorem HexDigest.takes (digest : HexDigest) : ColumnType.Takes (.char 64) (.text digest.text) := by
  have hcharacters := characters_le_length digest.text
  rw [digest.length_eq] at hcharacters
  exact ⟨zero_notMem_of_ascii digest.isAscii, hcharacters⟩

private theorem instagramApiVersion_takes :
    ColumnType.Takes (.varChar 16) (.text (ofString instagramApiVersion)) := by
  constructor <;> decide

private theorem timestamp_takes {publishedAt : ℤ}
    (hlow : earliestPlausiblePublishedAt ≤ publishedAt)
    (hhigh : publishedAt < latestPlausiblePublishedAt) :
    ColumnType.Takes .timestamp (.whole publishedAt) := by
  unfold earliestPlausiblePublishedAt at hlow
  unfold latestPlausiblePublishedAt at hhigh
  constructor <;> omega

private theorem zero_notMem_sanitise (value : Utf16) : 0 ∉ sanitiseInstagramCommentText value := by
  intro hzero
  rcases mem_collapseFrom (mem_of_mem_trim (mem_of_mem_take hzero)) with hspace | hblank
  · exact absurd hspace (by decide)
  · exact absurd (isControl_of_mem_blankControls hblank) (by decide)

private theorem zero_notMem_field (hitem : item.ZeroFree) (hfields : item.fields? = some fields)
    (h : Json.field? fields key = some (.string text)) : 0 ∉ text := by
  have hvalue := hitem.field hfields h
  exact hvalue text (by simp [Json.strings])

private theorem zero_notMem_readString (hitem : item.ZeroFree)
    (hfields : item.fields? = some fields) (h : readString fields key = some text) : 0 ∉ text := by
  unfold readString at h
  split at h
  next hvalue =>
    split_ifs at h
    cases h
    exact zero_notMem_field hitem hfields hvalue
  · cases h

private theorem zero_notMem_readHttpsUrl (hitem : item.ZeroFree)
    (hfields : item.fields? = some fields)
    (h : readHttpsUrl runtime fields key = some text) : 0 ∉ text := by
  unfold readHttpsUrl at h
  split at h
  · cases h
  next hvalue =>
    split_ifs at h
    cases h
    exact zero_notMem_readString hitem hfields hvalue

/-! ### Items that fit -/

private theorem media_fits_iff {media : NormalisedInstagramMedia}
    (h : normaliseInstagramMediaItem runtime item = .ok media) :
    (∀ cell ∈ media.cells, cell.Fits) ↔ item.ZeroFree := by
  obtain ⟨fields, providerMediaId, mediaType, publishedAt, hfields, hid, htype, hlow, hhigh, rfl⟩ :=
    normaliseInstagramMediaItem_eq_ok h
  simp only [NormalisedInstagramMedia.cells, mediaOf, forall_mem_cons, not_mem_nil,
    false_imp_iff, implies_true, and_true, Cell.fits_map_text, Cell.fits_some]
  constructor
  · rintro ⟨-, -, -, -, -, -, -, hpayload, -⟩
    exact hpayload
  · intro hitem
    refine ⟨fun caption hcaption => ?_, fun product hproduct => ?_, isProviderEnum_takes htype,
      fun permalink hpermalink => zero_notMem_readHttpsUrl hitem hfields hpermalink,
      fun thumbnail hthumbnail => zero_notMem_readHttpsUrl hitem hfields hthumbnail,
      timestamp_takes hlow hhigh, instagramApiVersion_takes, hitem, HexDigest.takes _,
      isProviderId_takes hid (by omega)⟩
    · obtain ⟨value, hvalue, hstring⟩ := Option.bind_eq_some_iff.mp hcaption
      cases value with
      | string text =>
        cases hstring
        exact zero_notMem_field hitem hfields hvalue
      | _ => cases hstring
    · exact isProviderEnum_takes (Option.filter_eq_some_iff.mp hproduct).2

/-- An accepted comment fits exactly when it has no code point zero and is bounded; the
identifier of what it answers is one the provider gives. -/
theorem comment_fits_iff {parent : Option Utf16}
    {comment : NormalisedInstagramComment} (h : normaliseOne runtime item parent = .ok comment)
    (hparent : ∀ identifier, parent = some identifier → isProviderId 64 identifier) :
    (∀ cell ∈ comment.cells, cell.Fits) ↔ item.ZeroFree ∧ CommentBounded item := by
  obtain ⟨fields, providerCommentId, publishedAt, hfields, hid, hlow, hhigh, rfl⟩ :=
    normaliseOne_eq_ok h
  have hbounded : CommentBounded item ↔
      (∀ username, readString fields "username" = some username → characters username ≤ 120) ∧
        ∀ likes, readLikeCount fields = some likes → likes ≤ 2147483647 := by
    constructor
    · intro hall
      exact hall fields hfields
    · intro hall other hother
      cases hfields.symm.trans hother
      exact hall
  have hlikes : Cell.Fits ⟨"like_count", .int, (readLikeCount fields).map .whole⟩ ↔
      ∀ likes, readLikeCount fields = some likes → likes ≤ 2147483647 := by
    cases hcount : readLikeCount fields with
    | none => simp [Cell.Fits]
    | some likes =>
      have hpositive := readLikeCount_nonneg hcount
      simp only [Option.map_some, Cell.fits_some, ColumnType.Takes, Option.some.injEq,
        forall_eq']
      omega
  rw [hbounded, ← hlikes]
  simp only [NormalisedInstagramComment.cells, commentOf, forall_mem_cons, not_mem_nil,
    false_imp_iff, implies_true, and_true, Cell.fits_map_text, Cell.fits_some]
  constructor
  · rintro ⟨hcount, -, -, -, hpayload, -, -, hname, -⟩
    exact ⟨hpayload, fun username husername => (hname username husername).2, hcount⟩
  · rintro ⟨hitem, hname, hcount⟩
    refine ⟨hcount, fun identifier hidentifier => ?_, timestamp_takes hlow hhigh,
      instagramApiVersion_takes, hitem, HexDigest.takes _, ?_, fun username husername => ?_,
      isProviderId_takes hid (by omega)⟩
    · exact isProviderId_takes (hparent identifier hidentifier) (by omega)
    · split
      · exact zero_notMem_sanitise _
      · exact not_mem_nil
    · exact ⟨zero_notMem_readString hitem hfields husername, hname username husername⟩

private theorem zero_notMem_readInsightString (hitem : item.ZeroFree)
    (hfields : item.fields? = some fields)
    (h : readInsightString fields key = some text) : 0 ∉ text := by
  unfold readInsightString at h
  split at h
  next value hvalue =>
    split_ifs at h
    cases h
    intro hzero
    exact zero_notMem_field hitem hfields hvalue (mem_of_mem_trim (mem_of_mem_take hzero))
  · cases h

/-- The texts that an observation puts into the availability map have no code point zero. -/
def InstagramMetricObservation.Plain (entry : InstagramMetricObservation) : Prop :=
  ∀ text, some text ∈ [entry.description, entry.period, entry.providerName] → 0 ∉ text

private theorem InstagramMetricObservation.Plain.zeroFree (h : entry.Plain) :
    entry.availabilityEntry.json.ZeroFree := by
  have hstate : 0 ∉ ofString entry.availability.key := by cases entry.availability <;> decide
  have hunit (unit : InstagramMetricUnit) : 0 ∉ ofString unit.key := by
    cases unit <;> decide
  have htext (text : Option Utf16) (h : ∀ value, text = some value → 0 ∉ value) :
      (jsonText text).ZeroFree := by
    cases text with
    | none => exact fun string hstring => nomatch hstring
    | some text => simpa [Json.ZeroFree, jsonText, Json.strings] using h text rfl
  have hunits (unit : Option InstagramMetricUnit) :
      (jsonText (unit.map fun unit => ofString unit.key)).ZeroFree :=
    htext _ fun value hvalue => by
      obtain ⟨unit, -, rfl⟩ := Option.map_eq_some_iff.mp hvalue
      exact hunit unit
  have hown (text : Option Utf16)
      (hmem : text ∈ [entry.description, entry.period, entry.providerName]) :
      (jsonText text).ZeroFree := htext text fun value hvalue => h value (hvalue ▸ hmem)
  unfold InstagramMetricAvailabilityEntry.json InstagramMetricObservation.availabilityEntry
  rw [Json.zeroFree_object_iff]
  simp only [forall_mem_cons, not_mem_nil, false_imp_iff, implies_true, and_true]
  refine ⟨⟨by decide, ?_⟩, ⟨by decide, hown _ (by simp)⟩, ⟨by decide, hown _ (by simp)⟩,
    ⟨by decide, hown _ (by simp)⟩, ⟨by decide, hunits _⟩, ⟨by decide, hunits _⟩⟩
  simpa [Json.ZeroFree, Json.strings] using hstate

private theorem providerName_plain (hgroup : group ∈ reelGroupsV25)
    (hdefinition : definition ∈ group.metrics) :
    0 ∉ definition.provider := by
  have hproviders : ∀ group ∈ reelGroupsV25, ∀ definition ∈ group.metrics,
      0 ∉ definition.provider := by decide
  exact hproviders group hgroup definition hdefinition

private theorem plain_absent (hgroup : group ∈ reelGroupsV25)
    (hdefinition : definition ∈ group.metrics)
    (availability : InstagramMetricAvailability) : (definition.absent availability).Plain := by
  intro text htext
  simp only [InstagramMetricDefinition.absent, observation, mem_cons, Option.some.injEq,
    reduceCtorEq, not_mem_nil, or_false, false_or] at htext
  exact htext ▸ providerName_plain hgroup hdefinition

/-- The observation of an accepted item without the code point zero has none either. -/
theorem plain_of_normalise (hgroup : group ∈ reelGroupsV25) (hitem : item.ZeroFree)
    (h : normaliseInstagramInsightItem item group.metrics = .ok entry) : entry.Plain := by
  obtain ⟨fields, definition, hfields, hfind, hcases⟩ := normaliseInstagramInsightItem_eq_ok h
  have hname := providerName_plain hgroup (mem_of_find?_eq_some hfind)
  have hshared (availability : InstagramMetricAvailability) (value : Option ℚ) :
      (definition.shared availability value fields).Plain := by
    intro text htext
    simp only [InstagramMetricDefinition.shared, mem_cons, Option.some.injEq,
      not_mem_nil, or_false] at htext
    rcases htext with htext | htext | rfl
    · exact zero_notMem_readInsightString hitem hfields htext.symm
    · exact zero_notMem_readInsightString hitem hfields htext.symm
    · exact hname
  rcases hcases with ⟨-, rfl⟩ | ⟨raw, -, -, -, rfl⟩ <;> exact hshared _ _

/-- The column of a metric takes a value in range exactly when it is wide enough, or the value
rounds to 31 bits. -/
theorem metricCell_takes_iff {value : ℚ} (hlow : 0 ≤ value)
    (hhigh : value ≤ maximumCount) (hratio : canonical = .skipRate → value ≤ 1) :
    (metricCell canonical value).1.Takes (metricCell canonical value).2 ↔
      (canonical ≠ .totalWatchTimeMs → canonical ≠ .skipRate → value < 4294967295 / 2) := by
  have hbounds : 0 ≤ roundHalfUp value ∧ roundHalfUp value ≤ 9007199254740991 :=
    roundHalfUp_mem (by push_cast; linarith) (by push_cast; exact hhigh)
  have hint : ColumnType.Takes .int (.whole (roundHalfUp value)) ↔ value < 4294967295 / 2 := by
    have hfloor : roundHalfUp value < 2147483648 ↔ value + 1 / 2 < (2147483648 : ℤ) :=
      Int.floor_lt
    have hhalf : value + 1 / 2 < (2147483648 : ℤ) ↔ value < 4294967295 / 2 := by
      push_cast
      constructor <;> intro h <;> linarith
    rw [← hhalf, ← hfloor]
    simp only [ColumnType.Takes]
    omega
  cases canonical with
  | totalWatchTimeMs =>
    simp only [metricCell, ColumnType.Takes, ne_eq, not_true_eq_false, false_imp_iff, iff_true]
    omega
  | skipRate =>
    have hscaled : 0 ≤ roundHalfUp (value * 100000) ∧ roundHalfUp (value * 100000) ≤ 100000 :=
      roundHalfUp_mem (by push_cast; linarith) (by push_cast; linarith [hratio rfl])
    have hpositive : (0 : ℚ) ≤ roundHalfUp (value * 100000) := by exact_mod_cast hscaled.1
    have hone : (roundHalfUp (value * 100000) : ℚ) ≤ 100000 := by exact_mod_cast hscaled.2
    simp only [metricCell, ColumnType.Takes, ne_eq, not_true_eq_false, false_imp_iff,
      implies_true, iff_true]
    rw [abs_lt]
    constructor <;> linarith
  | _ => simpa [metricCell] using hint

/-- The value of an accepted insight item fits exactly when it is bounded. -/
theorem value_fits_iff (hgroup : group ∈ reelGroupsV25)
    (h : normaliseInstagramInsightItem item group.metrics = .ok entry) :
    (∀ cell ∈ entry.valueCells, cell.Fits) ↔ InsightBounded group item := by
  obtain ⟨fields, definition, hfields, hfind, hcases⟩ := normaliseInstagramInsightItem_eq_ok h
  have hdefinition := mem_of_find?_eq_some hfind
  rcases hcases with ⟨hnumber, rfl⟩ | ⟨raw, hnumber, hlow, hhigh, rfl⟩
  · have hbounded : InsightBounded group item := by
      intro other found value hother hfound hvalue
      cases hfields.symm.trans hother
      rw [hnumber] at hvalue
      cases hvalue
    have hnone : (definition.shared .unavailable none fields).valueCells = [] := rfl
    rw [hnone]
    exact ⟨fun _ => hbounded, fun _ => forall_mem_nil _⟩
  · have hceiling := ceiling_le hgroup hdefinition
    have hcell := metricCell_takes_iff hlow (hhigh.trans hceiling.1) fun hratio =>
      hhigh.trans (hceiling.2 hratio)
    have hbounded : InsightBounded group item ↔
        (definition.canonical ≠ .totalWatchTimeMs → definition.canonical ≠ .skipRate →
          raw < 4294967295 / 2) := by
      constructor
      · intro hall
        exact hall fields definition raw hfields hfind hnumber
      · intro hall other found value hother hfound hvalue
        cases hfields.symm.trans hother
        cases hfind.symm.trans hfound
        cases hnumber.symm.trans hvalue
        exact hall
    have hsome : (definition.shared .available (some raw) fields).valueCells =
        [⟨definition.canonical.column, (metricCell definition.canonical raw).1,
          some (metricCell definition.canonical raw).2⟩] := rfl
    rw [hbounded, ← hcell, hsome, forall_mem_singleton, Cell.fits_some]

/-- The observation of a metric is that of the item that counts for it. -/
theorem find?_acceptedObservations (body : Json) (group : InstagramInsightGroup)
    (canonical : InstagramCanonicalMetric) :
    ((acceptedObservations body group).reverse.find? fun entry => entry.canonical = canonical) =
      (decisiveItem body group canonical).bind fun item =>
        (normaliseInstagramInsightItem item group.metrics).toOption := by
  unfold acceptedObservations decisiveItem insightItems
  rw [← filterMap_reverse, List.find?_filterMap]

/-- For each metric of a group there is an item that counts, or the metric is absent. -/
theorem mem_readInstagramInsightGroup {body : Json} :
    entry ∈ readInstagramInsightGroup body group ↔ ∃ definition ∈ group.metrics,
      (decisiveItem body group definition.canonical = none ∧
        entry = definition.absent .unavailable) ∨
      ∃ item, decisiveItem body group definition.canonical = some item ∧
        normaliseInstagramInsightItem item group.metrics = .ok entry := by
  unfold readInstagramInsightGroup
  rw [mem_map]
  refine exists_congr fun definition => and_congr_right fun _ => ?_
  rw [find?_acceptedObservations]
  cases hdecisive : decisiveItem body group definition.canonical with
  | none => simp [eq_comm]
  | some item =>
    have haccepted := List.find?_some hdecisive
    cases hresult : normaliseInstagramInsightItem item group.metrics with
    | error reason => simp [hresult, Except.toOption] at haccepted
    | ok found => simp [hresult, Except.toOption]

private theorem zeroFree_of_decisiveItem {body : Json} (hbody : body.ZeroFree)
    (h : decisiveItem body group canonical = some item) : item.ZeroFree := by
  have hmem := mem_reverse.mp (mem_of_find?_eq_some h)
  unfold insightItems at hmem
  cases hitems : body.fields?.bind fun fields =>
      (Json.field? fields "data").bind Json.array? with
  | none => simp [hitems] at hmem
  | some items =>
    obtain ⟨fields, hfields, hdata⟩ := Option.bind_eq_some_iff.mp hitems
    obtain ⟨list, hlist, harray⟩ := Option.bind_eq_some_iff.mp hdata
    rw [hitems] at hmem
    exact (hbody.field hfields hlist).item harray hmem

/-- The observations of an answer without the code point zero have none, and their values fit
exactly when the items that count are bounded. -/
theorem groupObservations_fit (hgroup : group ∈ reelGroupsV25)
    {answer : InsightGroupAnswer} (h : groupObservations group answer = some observations) :
    ((∀ body, answer = .body body → body.ZeroFree) → ∀ entry ∈ observations, entry.Plain) ∧
    ((∀ entry ∈ observations, ∀ cell ∈ entry.valueCells, cell.Fits) ↔
      ∀ body, answer = .body body → ∀ definition ∈ group.metrics, ∀ item,
        decisiveItem body group definition.canonical = some item → InsightBounded group item) := by
  have habsent (definition : InstagramMetricDefinition)
      (availability : InstagramMetricAvailability) :
      (definition.absent availability).valueCells = [] := by
    cases availability <;> rfl
  cases answer with
  | body body =>
    cases h
    simp only [InsightGroupAnswer.body.injEq, forall_eq']
    constructor
    · intro hbody entry hentry
      obtain ⟨definition, hdefinition, ⟨-, rfl⟩ | ⟨item, hdecisive, hitem⟩⟩ :=
        mem_readInstagramInsightGroup.mp hentry
      · exact plain_absent hgroup hdefinition _
      · exact plain_of_normalise hgroup (zeroFree_of_decisiveItem hbody hdecisive) hitem
    · constructor
      · intro hfits definition hdefinition item hdecisive
        have haccepted := List.find?_some hdecisive
        cases hresult : normaliseInstagramInsightItem item group.metrics with
        | error reason => simp [hresult, Except.toOption] at haccepted
        | ok entry =>
          exact (value_fits_iff hgroup hresult).mp (hfits entry
            (mem_readInstagramInsightGroup.mpr
              ⟨definition, hdefinition, .inr ⟨item, hdecisive, hresult⟩⟩))
      · intro hbounded entry hentry
        obtain ⟨definition, hdefinition, ⟨-, rfl⟩ | ⟨item, hdecisive, hitem⟩⟩ :=
          mem_readInstagramInsightGroup.mp hentry
        · rw [habsent definition]
          exact forall_mem_nil _
        · exact (value_fits_iff hgroup hitem).mpr (hbounded definition hdefinition item hdecisive)
  | failure responseClass =>
    unfold groupObservations at h
    dsimp only at h
    split_ifs at h
    cases h
    constructor
    · intro _ entry hentry
      obtain ⟨definition, hdefinition, rfl⟩ := mem_map.mp hentry
      exact plain_absent hgroup hdefinition _
    · constructor
      · intro _ body hbody
        cases hbody
      · intro _ entry hentry
        obtain ⟨definition, -, rfl⟩ := mem_map.mp hentry
        rw [habsent definition]
        exact forall_mem_nil _

/-- The observations of all requested groups, group by group. -/
theorem requestedObservations_fit {groups : List InstagramInsightGroup}
    (hgroups : ∀ group ∈ groups, group ∈ reelGroupsV25)
    (h : requestedObservations answer groups = some observations) :
    ((∀ group ∈ groups, ∀ body, answer group = .body body → body.ZeroFree) →
      ∀ entry ∈ observations, entry.Plain) ∧
    ((∀ entry ∈ observations, ∀ cell ∈ entry.valueCells, cell.Fits) ↔
      ∀ group ∈ groups, ∀ body, answer group = .body body → ∀ definition ∈ group.metrics, ∀ item,
        decisiveItem body group definition.canonical = some item → InsightBounded group item) := by
  induction groups generalizing observations with
  | nil =>
    cases h
    simp
  | cons group groups ih =>
    rw [forall_mem_cons] at hgroups
    obtain ⟨first, hfirst, h⟩ := Option.bind_eq_some_iff.mp h
    obtain ⟨others, hothers, h⟩ := Option.bind_eq_some_iff.mp h
    cases h
    have hgroup := groupObservations_fit hgroups.1 hfirst
    have hrest := ih hgroups.2 hothers
    simp only [forall_mem_cons, forall_mem_append, hgroup.2, hrest.2]
    exact ⟨fun hbodies => ⟨hgroup.1 hbodies.1, hrest.1 hbodies.2⟩, trivial⟩

private theorem zeroFree_bodies_iff :
    (Json.object (reelGroupsV25.filterMap fun group =>
      (answer group).body?.map fun body => (ofString group.key, body))).ZeroFree ↔
      ∀ group ∈ reelGroupsV25, ∀ body, answer group = .body body → body.ZeroFree := by
  have hkeys : ∀ group ∈ reelGroupsV25, 0 ∉ ofString group.key := by decide
  have hbody (answer : InsightGroupAnswer) (body : Json) :
      answer.body? = some body ↔ answer = .body body := by
    cases answer <;> simp [InsightGroupAnswer.body?]
  rw [Json.zeroFree_object_iff]
  constructor
  · intro h group hgroup body hanswer
    exact (h (ofString group.key, body) (mem_filterMap.mpr
      ⟨group, hgroup, by rw [(hbody _ _).mpr hanswer]; rfl⟩)).2
  · intro h field hfield
    obtain ⟨group, hgroup, hsome⟩ := mem_filterMap.mp hfield
    obtain ⟨body, hanswer, rfl⟩ := Option.map_eq_some_iff.mp hsome
    exact ⟨hkeys group hgroup, h group hgroup body ((hbody _ _).mp hanswer)⟩

/-- A snapshot fits exactly when the answers that it is made of are bounded. -/
theorem snapshot_fits_iff (h : assembleObservations .reel answer = some observations) :
    (∀ cell ∈ snapshotCells digest answer observations, cell.Fits) ↔ AnswersBounded answer := by
  unfold assembleObservations at h
  rw [if_neg (by decide)] at h
  obtain ⟨requested, hrequested, rfl⟩ := Option.map_eq_some_iff.mp h
  obtain ⟨hplain, hvalues⟩ := requestedObservations_fit (fun _ hgroup => hgroup) hrequested
  have hunrequested : ∀ entry ∈ instagramUnrequestedObservations (instagramRequestedMetrics .reel),
      entry.Plain ∧ ∀ cell ∈ entry.valueCells, cell.Fits := by
    intro entry hentry
    obtain ⟨canonical, -, rfl⟩ := mem_map.mp hentry
    exact ⟨fun text htext => by simp [observation] at htext, forall_mem_nil _⟩
  have hmap (hbodies : ∀ group ∈ reelGroupsV25, ∀ body, answer group = .body body →
      body.ZeroFree) :
      (Json.object ((requested ++ instagramUnrequestedObservations
        (instagramRequestedMetrics .reel)).map fun entry =>
          (ofString entry.canonical.column, entry.availabilityEntry.json))).ZeroFree := by
    rw [Json.zeroFree_object_iff]
    intro field hfield
    obtain ⟨entry, hentry, rfl⟩ := mem_map.mp hfield
    have hcolumn (canonical : InstagramCanonicalMetric) : 0 ∉ ofString canonical.column := by
      cases canonical <;> decide
    refine ⟨hcolumn entry.canonical, ?_⟩
    rcases mem_append.mp hentry with hmem | hmem
    · exact (hplain hbodies entry hmem).zeroFree
    · exact (hunrequested entry hmem).1.zeroFree
  have hcells : (∀ cell ∈ (requested ++ instagramUnrequestedObservations
      (instagramRequestedMetrics .reel)).flatMap InstagramMetricObservation.valueCells,
        cell.Fits) ↔ ∀ entry ∈ requested, ∀ cell ∈ entry.valueCells, cell.Fits := by
    simp only [mem_flatMap, mem_append, forall_exists_index, and_imp]
    constructor
    · exact fun h entry hentry cell hcell => h cell entry (.inl hentry) hcell
    · rintro h cell entry (hentry | hentry) hcell
      · exact h entry hentry cell hcell
      · exact (hunrequested entry hentry).2 cell hcell
  unfold snapshotCells AnswersBounded
  rw [forall_mem_append, hcells, hvalues]
  simp only [forall_mem_cons, not_mem_nil, false_imp_iff, implies_true, and_true,
    Cell.fits_some, instagramApiVersion_takes, HexDigest.takes, true_and]
  constructor
  · rintro ⟨hbounded, -, hbodies⟩ group hgroup body hanswer
    exact ⟨zeroFree_bodies_iff.mp hbodies group hgroup body hanswer,
      hbounded group hgroup body hanswer⟩
  · intro h
    have hbodies : ∀ group ∈ reelGroupsV25, ∀ body, answer group = .body body → body.ZeroFree :=
      fun group hgroup body hanswer => (h group hgroup body hanswer).1
    exact ⟨fun group hgroup body hanswer => (h group hgroup body hanswer).2, hmap hbodies,
      zeroFree_bodies_iff.mpr hbodies⟩

private theorem zeroFree_of_mem_commentReplies {reply : Json} (hitem : item.ZeroFree)
    (h : reply ∈ commentReplies item) : reply.ZeroFree := by
  unfold commentReplies at h
  split at h
  · exact absurd h not_mem_nil
  next replies hreplies =>
    obtain ⟨fields, hfields, hvalue⟩ := Option.bind_eq_some_iff.mp hreplies
    obtain ⟨nested, hnested, hrecord⟩ := Option.bind_eq_some_iff.mp hvalue
    cases hdata : (Json.field? replies "data").bind Json.array? with
    | none => simp [hdata] at h
    | some items =>
      obtain ⟨list, hlist, harray⟩ := Option.bind_eq_some_iff.mp hdata
      rw [hdata] at h
      exact ((hitem.field hfields hnested).field hrecord hlist).item harray h

/-- A comment with its replies fits exactly when it has no code point zero and all of them that
are accepted are bounded. -/
theorem comments_fit_iff {top : NormalisedInstagramComment}
    (htop : normaliseOne runtime item none = .ok top) :
    (∀ comment ∈ (normaliseInstagramCommentItem runtime item).1,
        ∀ cell ∈ comment.cells, cell.Fits) ↔
      item.ZeroFree ∧ ∀ source ∈ item :: commentReplies item,
        (normaliseOne runtime source none).isOk → CommentBounded source := by
  have hid : isProviderId 64 top.providerCommentId = true := by
    obtain ⟨fields, identifier, publishedAt, -, hid, -, -, rfl⟩ := normaliseOne_eq_ok htop
    exact hid
  have hfirst := comment_fits_iff htop fun identifier h => nomatch h
  have hok : (normaliseOne runtime item none).isOk = true := by rw [htop]; rfl
  have hall : (normaliseInstagramCommentItem runtime item).1 = top ::
      ((commentReplies item).map fun reply =>
        normaliseOne runtime reply (some top.providerCommentId)).filterMap Except.toOption := by
    unfold normaliseInstagramCommentItem
    rw [htop]
  rw [hall, forall_mem_cons, forall_mem_cons, hfirst]
  constructor
  · rintro ⟨⟨hitem, hbounded⟩, hreplies⟩
    refine ⟨hitem, fun _ => hbounded, fun reply hreply haccepted => ?_⟩
    rw [isOk_normaliseOne reply none (some top.providerCommentId)] at haccepted
    cases hresult : normaliseOne runtime reply (some top.providerCommentId) with
    | error reason =>
      rw [hresult] at haccepted
      exact absurd haccepted Bool.false_ne_true
    | ok comment =>
      have hfits := hreplies comment (mem_filterMap.mpr
        ⟨_, mem_map_of_mem hreply, by rw [hresult]; rfl⟩)
      exact ((comment_fits_iff hresult fun identifier h => by cases h; exact hid).mp hfits).2
  · rintro ⟨hitem, hbounded, hreplies⟩
    refine ⟨⟨hitem, hbounded hok⟩, fun comment hcomment => ?_⟩
    obtain ⟨result, hresult, hsome⟩ := mem_filterMap.mp hcomment
    obtain ⟨reply, hreply, rfl⟩ := mem_map.mp hresult
    cases hnormal : normaliseOne runtime reply (some top.providerCommentId) with
    | error reason =>
      rw [hnormal] at hsome
      cases hsome
    | ok accepted =>
      rw [hnormal] at hsome
      cases hsome
      have haccepted : (normaliseOne runtime reply none).isOk = true := by
        rw [isOk_normaliseOne reply none (some top.providerCommentId), hnormal]
        rfl
      exact (comment_fits_iff hnormal fun identifier h => by cases h; exact hid).mpr
        ⟨zeroFree_of_mem_commentReplies hitem hreply, hreplies reply hreply haccepted⟩

namespace ColumnSample

/-- A runtime that writes whole numbers, and nothing more. -/
def wholeNumbers : Runtime where
  numeral value := ofString (toString value.num)
  dateParse _ := none
  protocol _ := none
  sha256 _ := HexDigest.zeros

def views : Json :=
  .object [(ofString "name", .string (ofString "views")),
    (ofString "total_value", .object [(ofString "value", .number (.finite 3000000000))])]

/-- The answers of a provider that has one item about the distribution. -/
def answering (item : Json) (group : InstagramInsightGroup) : InsightGroupAnswer :=
  .body (.object [(ofString "data", .array (if group.key = "distribution" then [item] else []))])

/-- A metric that nobody knows, with the code point zero in its name. -/
def unknown : Json := .object [(ofString "name", .string [0])]

end ColumnSample

end ContentAutomation
