import ContentAutomation.Instagram.Insights
import ContentAutomation.Library.Text

/-!
# Pages of media

The provider answers a request for a page of media with a status and a body, which may be any
JSON. What is read of a body tolerates that its parts are missing, so a page without items and
without a successor may come of a body that is no page.
-/

namespace ContentAutomation

open Utf16

/-! ### Responses -/

/-- A response of the provider: its body as `readJsonBody` reads it, and the number in its
header `retry-after`. -/
structure InstagramResponse where
  status : ℕ
  body : Json
  retryAfter : Option ℚ := none

/-- `response.ok`. -/
def InstagramResponse.isOk (response : InstagramResponse) : Bool :=
  decide (200 ≤ response.status ∧ response.status ≤ 299)

/-- The number under a key of the error in a body. -/
def readErrorNumber (body : Json) (key : String) : Option JsNumber :=
  ((body.fields?.bind fun fields => (Json.field? fields "error").bind Json.fields?).bind
    fun error => Json.field? error key).bind Json.number?

/-- `classifyInstagramResponse`. -/
def classifyInstagramResponse (body : Json) (status : ℕ) : InstagramResponseClass :=
  let code := readErrorNumber body "code"
  let subcode := readErrorNumber body "error_subcode"
  if status = 429 then .rateLimit
  else if status = 401 ∨ status = 403 then .authorisation
  else if 500 ≤ status then .transient
  else if code = some (.finite 190) then .authorisation
  else if code = some (.finite 4) ∨ code = some (.finite 17) ∨ code = some (.finite 32) ∨
      code = some (.finite 613) then .rateLimit
  else if status = 400 ∧ (code = some (.finite 100) ∨ subcode = some (.finite 2108006)) then
    .unsupported
  else .invalidRequest

/-- `parseInstagramRetryAfterMs`, of the number that the header holds. -/
def parseInstagramRetryAfterMs : Option ℚ → Option ℚ
  | none => none
  | some seconds => if seconds ≤ 0 then none else some (min ⌊seconds⌋ 86400 * 1000 : ℤ)

/-- `InstagramMediaError`. -/
structure InstagramMediaError where
  responseClass : InstagramResponseClass
  reasonCode : String
  retryAfterMs : Option ℚ := none

/-! ### Pages -/

/-- `instagramMaximumSyncPages`. -/
def instagramMaximumSyncPages : ℕ := 200

/-- `InstagramMediaPage`. -/
structure InstagramMediaPage where
  after : Option String
  hasNextPage : Bool
  items : List Json

/-- A character of `[A-Za-z0-9_-]`. -/
def isCursorUnit (unit : UInt16) : Bool :=
  isUpperUnit unit || (0x61 ≤ unit && unit ≤ 0x7A) || isDigitUnit unit || unit == 0x5F ||
    unit == 0x2D

/-- `providerCursorPattern`. -/
def isProviderCursor (cursor : Utf16) : Bool :=
  decide (1 ≤ cursor.length ∧ cursor.length ≤ 512) && cursor.all isCursorUnit

/-- A text of ASCII characters. -/
def asciiText (text : Utf16) : String := String.ofList (text.map fun unit => Char.ofNat unit.toNat)

/-- `readInstagramMediaPage`. -/
def readInstagramMediaPage (body : Json) : InstagramMediaPage :=
  match body.fields? with
  | none => ⟨none, false, []⟩
  | some fields =>
    let paging := (Json.field? fields "paging").bind Json.fields?
    let cursors := paging.bind fun paging => (Json.field? paging "cursors").bind Json.fields?
    let after := cursors.bind fun cursors => readString cursors "after"
    { after := (after.filter isProviderCursor).map asciiText
      hasNextPage := (paging.bind fun paging =>
        (Json.field? paging "next").bind Json.string?).isSome
      items := ((Json.field? fields "data").bind Json.array?).getD [] }

/-- A request for a page of media. -/
structure MediaPageRequest where
  accessToken : String
  providerAccountId : String
  after : Option String

/-- `providerAccountIdPattern`. -/
def isProviderAccountId (id : String) : Bool :=
  decide (5 ≤ id.length ∧ id.length ≤ 32) && id.toList.all Text.isDigit

/-- `cursorPattern`. -/
def isCursor (cursor : String) : Bool :=
  decide (1 ≤ cursor.length ∧ cursor.length ≤ 512) &&
    cursor.toList.all fun c => Text.isAlphanumeric c || c == '_' || c == '-'

/-- Why a page is not requested at all. -/
def MediaPageRequest.refusal (request : MediaPageRequest) : Option InstagramMediaError :=
  if isProviderAccountId request.providerAccountId = false then
    some ⟨.invalidRequest, "ACCOUNT_ID_INVALID", none⟩
  else if request.after.all isCursor = false then some ⟨.invalidRequest, "CURSOR_INVALID", none⟩
  else none

/-- What comes back for a request. -/
inductive GraphAnswer
  /-- The request throws. -/
  | unreachable
  | responded (response : InstagramResponse)

/-- `fetchInstagramMediaPage`, after its request. -/
def readMediaPageAnswer : GraphAnswer → Except InstagramMediaError InstagramMediaPage
  | .unreachable => .error ⟨.transient, "MEDIA_PAGE_UNREACHABLE", none⟩
  | .responded response =>
    if response.isOk = false then
      .error ⟨classifyInstagramResponse response.body response.status, "MEDIA_PAGE_REJECTED",
        parseInstagramRetryAfterMs response.retryAfter⟩
    else
      match response.body with
      | .null => .error ⟨.transient, "MEDIA_PAGE_NOT_JSON", none⟩
      | body =>
        let page := readInstagramMediaPage body
        if page.hasNextPage ∧ page.after = none then
          .error ⟨.transient, "MEDIA_PAGE_CURSOR_ABSENT", none⟩
        else .ok page

/-- A response of which a page may be read. -/
def InstagramResponse.HasBody (response : InstagramResponse) : Prop :=
  response.isOk = true ∧ response.body ≠ .null

theorem readMediaPageAnswer_eq_ok {answer : GraphAnswer} {page : InstagramMediaPage}
    (h : readMediaPageAnswer answer = .ok page) :
    ∃ response, answer = .responded response ∧ response.HasBody ∧
      page = readInstagramMediaPage response.body := by
  unfold readMediaPageAnswer at h
  split at h
  · cases h
  · next response =>
    split at h
    · cases h
    · next hok =>
      split at h
      · cases h
      · next hbody =>
        dsimp only at h
        split at h
        · cases h
        · cases h
          exact ⟨response, rfl, ⟨Bool.not_eq_false _ ▸ hok, hbody⟩, rfl⟩

section Items

variable (runtime : Runtime)

/-- What the loop over the items of a page has counted. -/
structure MediaPageTally where
  media : List NormalisedInstagramMedia := []
  invalidCount : ℕ := 0
  skippedCount : ℕ := 0
  reachedHorizon : Bool := false

/-- One item of a page. -/
def MediaPageTally.add (horizonStart : Option ℤ) (tally : MediaPageTally) (item : Json) :
    MediaPageTally :=
  match normaliseInstagramMediaItem runtime item with
  | .error _ => { tally with invalidCount := tally.invalidCount + 1 }
  | .ok media =>
    if horizonStart.any fun horizon => decide (media.publishedAt < horizon) then
      { tally with skippedCount := tally.skippedCount + 1, reachedHorizon := true }
    else { tally with media := tally.media ++ [media] }

/-- The items of a page. -/
def tallyItems (horizonStart : Option ℤ) (items : List Json) : MediaPageTally :=
  items.foldl (MediaPageTally.add runtime horizonStart) {}

/-- The loop over the pages is left after a page. -/
def InstagramMediaPage.isLast (page : InstagramMediaPage) (horizonStart : Option ℤ) : Bool :=
  !page.hasNextPage || (tallyItems runtime horizonStart page.items).reachedHorizon

end Items

/-! ### What may end a synchronisation -/

/-- The items of a body that is an object with a data array. -/
def dataItems? (body : Json) : Option (List Json) :=
  body.fields?.bind fun fields => (Json.field? fields "data").bind Json.array?

/-- A body links to a next page. -/
def HasNextLink (body : Json) : Prop :=
  ∃ fields paging link, body = .object fields ∧
    Json.field? fields "paging" = some (.object paging) ∧
      Json.field? paging "next" = some (.string link)

/-- An item was published before a horizon. -/
def IsOlder (runtime : Runtime) (horizonStart : Option ℤ) (item : Json) : Prop :=
  ∃ media horizon, normaliseInstagramMediaItem runtime item = .ok media ∧
    horizonStart = some horizon ∧ media.publishedAt < horizon

/-- **What may end a synchronisation**: an object with a data array that has no link to a next
page, or holds an item older than the horizon. -/
def EndsSync (runtime : Runtime) (horizonStart : Option ℤ) (body : Json) : Prop :=
  ∃ items, dataItems? body = some items ∧
    (¬ HasNextLink body ∨ ∃ item ∈ items, IsOlder runtime horizonStart item)

theorem fields?_eq_some {value : Json} {fields : List (Utf16 × Json)} :
    value.fields? = some fields ↔ value = .object fields := by
  cases value <;> simp [Json.fields?]

theorem string?_eq_some {value : Json} {text : Utf16} :
    value.string? = some text ↔ value = .string text := by
  cases value <;> simp [Json.string?]

theorem hasNextPage_readInstagramMediaPage {body : Json} :
    (readInstagramMediaPage body).hasNextPage ↔ HasNextLink body := by
  unfold readInstagramMediaPage
  cases hfields : body.fields? with
  | none =>
    constructor
    · intro h
      cases h
    · rintro ⟨fields, paging, link, rfl, -⟩
      cases hfields
  | some fields =>
    obtain rfl := fields?_eq_some.mp hfields
    simp only [Option.isSome_iff_exists, Option.bind_eq_some_iff, fields?_eq_some,
      string?_eq_some]
    constructor
    · rintro ⟨link, paging, ⟨_, hpaging, rfl⟩, _, hnext, rfl⟩
      exact ⟨fields, paging, link, rfl, hpaging, hnext⟩
    · rintro ⟨_, paging, link, ⟨⟩, hpaging, hnext⟩
      exact ⟨link, paging, ⟨_, hpaging, rfl⟩, _, hnext, rfl⟩

private theorem items_readInstagramMediaPage {body : Json} :
    (readInstagramMediaPage body).items = (dataItems? body).getD [] := by
  unfold readInstagramMediaPage dataItems?
  cases body.fields? with
  | none => rfl
  | some fields => rfl

variable {runtime : Runtime} {horizonStart : Option ℤ}

private theorem reachedHorizon_add {tally : MediaPageTally} {item : Json} :
    (tally.add runtime horizonStart item).reachedHorizon ↔
      tally.reachedHorizon ∨ IsOlder runtime horizonStart item := by
  unfold MediaPageTally.add IsOlder
  cases hitem : normaliseInstagramMediaItem runtime item with
  | error reason => simp
  | ok media =>
    cases horizonStart with
    | none => simp
    | some horizon =>
      by_cases holder : media.publishedAt < horizon
      · simp [holder]
      · simp [holder]

theorem reachedHorizon_tallyItems {items : List Json} :
    (tallyItems runtime horizonStart items).reachedHorizon ↔
      ∃ item ∈ items, IsOlder runtime horizonStart item := by
  have hloop : ∀ tally : MediaPageTally,
      (items.foldl (MediaPageTally.add runtime horizonStart) tally).reachedHorizon = true ↔
        tally.reachedHorizon = true ∨ ∃ item ∈ items, IsOlder runtime horizonStart item := by
    induction items with
    | nil => simp
    | cons item items ih =>
      intro tally
      rw [List.foldl_cons, ih, reachedHorizon_add]
      simp only [List.mem_cons, exists_eq_or_imp, or_assoc]
  unfold tallyItems
  simpa using hloop {}

/-- **A last page ends a synchronisation properly exactly when its body has a data array.** -/
theorem endsSync_iff_of_isLast {body : Json}
    (hlast : (readInstagramMediaPage body).isLast runtime horizonStart) :
    EndsSync runtime horizonStart body ↔ (dataItems? body).isSome := by
  unfold InstagramMediaPage.isLast at hlast
  rw [Bool.or_eq_true, Bool.not_eq_true', reachedHorizon_tallyItems,
    items_readInstagramMediaPage] at hlast
  constructor
  · rintro ⟨items, hitems, -⟩
    rw [hitems]
    rfl
  · intro hdata
    obtain ⟨items, hitems⟩ := Option.isSome_iff_exists.mp hdata
    refine ⟨items, hitems, ?_⟩
    rcases hlast with hnext | holder
    · left
      rw [← hasNextPage_readInstagramMediaPage, hnext]
      exact Bool.false_ne_true
    · right
      rwa [hitems] at holder

end ContentAutomation
