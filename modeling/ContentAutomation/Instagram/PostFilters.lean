import ContentAutomation.Instagram.PostList
import ContentAutomation.Library.CalendarText
import ContentAutomation.Library.FormUrlEncoded
import ContentAutomation.Library.Shape

/-!
# The filters of the posts page

The page reads its filters from the parameters of its address and writes the addresses of its
other pages from the values that it shows. A link keeps what the filters let through, unless the
kind was not recognised and nothing else tells that nothing matches, or the search was cut
before a space or within a pair of surrogates.
-/

namespace ContentAutomation

open List

instance : Vocabulary InstagramMediaKind where
  word
    | .reel => "REEL"
    | .video => "VIDEO"
    | .image => "IMAGE"
    | .carouselAlbum => "CAROUSEL_ALBUM"
    | .unsupported => "UNSUPPORTED"
  all := [.reel, .video, .image, .carouselAlbum, .unsupported]
  complete member := by cases member <;> decide
  distinct := by decide

namespace PostsPage

open Utf16 Utf8 Shape

/-- A parameter of `PostsSearchParams`. -/
inductive SearchParam
  | undefined
  | one (value : Utf16)
  | many (values : List Utf16)

/-- `PostsSearchParams`. -/
abbrev PostsSearchParams := String → SearchParam

/-- `PostsFilterValues`; the kind "all" is `none`. -/
structure PostsFilterValues where
  account : Utf16
  rawFrom : Utf16
  kind : Option InstagramMediaKind
  search : Utf16
  rawTo : Utf16

/-- What `parsePostsFilters` returns. -/
structure ParsedPostsFilters where
  cursor : Option Utf16
  filters : InstagramPostListFilters
  values : PostsFilterValues

/-- `firstValue`. -/
def firstValue : SearchParam → Utf16
  | .undefined => []
  | .one value => value
  | .many values => values.headD []

/-- `^\d{4}-\d{2}-\d{2}$`. -/
def datePattern : List (Char → Bool) :=
  List.replicate 4 Text.isDigit ++ [(· == '-')] ++ List.replicate 2 Text.isDigit ++ [(· == '-')] ++
    List.replicate 2 Text.isDigit

/-- `parseDate`; `other` reads the texts that no date is written as. -/
def parseDate (other : Utf16 → Option ℤ) (value : Utf16) (endOfDay : Bool) : Option ℤ :=
  if value = [] then none
  else if Text.sequenceOf datePattern (asciiString value).toList then
    Calendar.parseDate other
      (value ++ ofString (if endOfDay then "T23:59:59.999Z" else "T00:00:00.000Z"))
  else none

/-- The kind that `isMediaKind` recognises. -/
def mediaKind? (rawKind : Utf16) : Option InstagramMediaKind :=
  oneOf InstagramMediaKind (.string rawKind)

/-- The account that `isUuidV7` recognises. -/
def accountId? (rawAccount : Utf16) : Option String :=
  if isUuidV7 (asciiString rawAccount) then some (asciiString rawAccount) else none

/-- A kind that is not recognised. -/
def kindFails (rawKind : Utf16) : Bool :=
  rawKind != [] && rawKind != ofString "all" && (mediaKind? rawKind).isNone

/-- An account that is not recognised. -/
def accountFails (rawAccount : Utf16) : Bool :=
  rawAccount != [] && rawAccount != ofString "all" && (accountId? rawAccount).isNone

/-- A date that is not recognised, or dates the wrong way round. -/
def datesFail (other : Utf16 → Option ℤ) (rawFrom rawTo : Utf16) : Bool :=
  let publishedFrom := parseDate other rawFrom false
  let publishedTo := parseDate other rawTo true
  (rawFrom != [] && publishedFrom.isNone) || (rawTo != [] && publishedTo.isNone) ||
    publishedFrom.any fun first => publishedTo.any fun last => last < first

/-- A text, if it is not empty. -/
def filled (text : Utf16) : Option Utf16 := if text = [] then none else some text

/-- The search that is looked for. -/
def searchOf (rawSearch : Utf16) : Utf16 := (trim rawSearch).take 120

/-- `parsePostsFilters`. -/
def parsePostsFilters (other : Utf16 → Option ℤ) (searchParams : PostsSearchParams) :
    ParsedPostsFilters :=
  let rawKind := firstValue (searchParams "kind")
  let rawAccount := firstValue (searchParams "account")
  let rawFrom := firstValue (searchParams "from")
  let rawTo := firstValue (searchParams "to")
  let search := searchOf (firstValue (searchParams "q"))
  let instagramAccountId := accountId? rawAccount
  { cursor := filled (firstValue (searchParams "after"))
    filters :=
      { instagramAccountId
        matchesNothing := kindFails rawKind || accountFails rawAccount ||
          datesFail other rawFrom rawTo
        mediaKind := mediaKind? rawKind
        publishedFrom := parseDate other rawFrom false
        publishedTo := parseDate other rawTo true
        search := filled search }
    values :=
      { account := if instagramAccountId = none ∧ rawAccount = ofString "all" then []
          else rawAccount
        rawFrom
        kind := mediaKind? rawKind
        search
        rawTo } }

/-- `if (value) params.set(name, value)`, of a name that is not set yet. -/
def set (name : String) (value : Utf16) : List (Utf16 × Utf16) :=
  if value = [] then [] else [(ofString name, value)]

/-- The word of a kind that is not "all". -/
def kindText (kind : Option InstagramMediaKind) : Utf16 :=
  kind.elim [] fun kind => ofString (Vocabulary.word kind)

/-- The parameters that `buildPostsHref` sets. -/
def hrefParams (values : PostsFilterValues) (cursor : Option Utf16) : List (Utf16 × Utf16) :=
  set "q" values.search ++ set "kind" (kindText values.kind) ++ set "account" values.account ++
    set "from" values.rawFrom ++ set "to" values.rawTo ++ set "after" (cursor.getD [])

/-- `buildPostsHref`, by the bytes of its characters. -/
def buildPostsHref (values : PostsFilterValues) (cursor : Option Utf16) : List UInt8 :=
  let query := FormUrlEncoded.serialise (hrefParams values cursor)
  let path := encode (ofString "/posts")
  if query = [] then path else path ++ 0x3F :: query

/-- The parameters of an address, by its query. -/
def searchParamsOf (href : List UInt8) : PostsSearchParams := fun name =>
  let pairs := FormUrlEncoded.parse ((href.dropWhile (· != 0x3F)).drop 1)
  match (pairs.filter fun pair => pair.1 == ofString name).map Prod.snd with
  | [] => .undefined
  | [value] => .one value
  | values => .many values

/-! ### The parameters of a link -/

/-- The values with their lone surrogates replaced. -/
def PostsFilterValues.wellFormed (values : PostsFilterValues) : PostsFilterValues :=
  { values with
    account := toWellFormed values.account
    rawFrom := toWellFormed values.rawFrom
    search := toWellFormed values.search
    rawTo := toWellFormed values.rawTo }

variable {values : PostsFilterValues} {cursor : Option Utf16} {other : Utf16 → Option ℤ}

private theorem map_set (name : String) (value : Utf16) :
    (set name value).map (Prod.map toWellFormed toWellFormed) = set name (toWellFormed value) := by
  unfold set
  simp only [toWellFormed_eq_nil]
  split_ifs <;> simp

private theorem toWellFormed_kindText (kind : Option InstagramMediaKind) :
    toWellFormed (kindText kind) = kindText kind := by
  cases kind with
  | none => rfl
  | some kind => exact toWellFormed_ofString _

private theorem map_hrefParams :
    (hrefParams values cursor).map (Prod.map toWellFormed toWellFormed) =
    hrefParams values.wellFormed (cursor.map toWellFormed) := by
  have hcursor : toWellFormed (cursor.getD []) = (cursor.map toWellFormed).getD [] := by
    cases cursor <;> rfl
  simp only [hrefParams, map_append, map_set, hcursor, PostsFilterValues.wellFormed,
    toWellFormed_kindText]

private theorem parse_query : FormUrlEncoded.parse
      (((buildPostsHref values cursor).dropWhile (· != 0x3F)).drop 1) =
    hrefParams values.wellFormed (cursor.map toWellFormed) := by
  have hquery : ((buildPostsHref values cursor).dropWhile (· != 0x3F)).drop 1 =
      FormUrlEncoded.serialise (hrefParams values cursor) := by
    have hpath : ∀ byte ∈ encode (ofString "/posts"), (byte != 0x3F) = true :=
      all_eq_true.mp (by decide)
    unfold buildPostsHref
    dsimp only
    split_ifs with hempty
    · rw [hempty]
      decide
    · rw [dropWhile_append_of_pos hpath]
      rfl
  rw [hquery, FormUrlEncoded.parse_serialise, map_hrefParams]

private theorem filter_set (name key : String) (value : Utf16) :
    (set name value).filter (fun pair => pair.1 == ofString key) =
      if name = key then set name value else [] := by
  have hkey : (ofString name == ofString key) = decide (name = key) := by
    rw [Bool.eq_iff_iff, beq_iff_eq, decide_eq_true_iff, ofString_injective.eq_iff]
  unfold set
  split_ifs with hempty hsame hsame <;> simp [hkey, hsame]

/-- What a link says under a name, read again. -/
def read (values : PostsFilterValues) (cursor : Option Utf16) (name : String) : Utf16 :=
  firstValue (searchParamsOf (buildPostsHref values cursor) name)

private theorem read_eq (name : String) : read values cursor name =
    (((hrefParams values.wellFormed (cursor.map toWellFormed)).filter fun pair =>
      pair.1 == ofString name).map Prod.snd).headD [] := by
  unfold read searchParamsOf
  rw [parse_query]
  dsimp only
  generalize ((hrefParams values.wellFormed (cursor.map toWellFormed)).filter fun pair =>
    pair.1 == ofString name).map Prod.snd = found
  match found with
  | [] | [_] | _ :: _ :: _ => rfl

theorem head?_set (name : String) (value : Utf16) :
    ((set name value).head?.map Prod.snd).getD [] = value := by
  unfold set
  split_ifs with hempty <;> simp [hempty]

/-- **What a link says.** Each value, with its lone surrogates replaced. -/
theorem read_values : read values cursor "q" = toWellFormed values.search ∧
    read values cursor "kind" = kindText values.kind ∧
    read values cursor "account" = toWellFormed values.account ∧
    read values cursor "from" = toWellFormed values.rawFrom ∧
    read values cursor "to" = toWellFormed values.rawTo ∧
    read values cursor "after" = (cursor.map toWellFormed).getD [] := by
  simp only [read_eq, hrefParams, filter_append, filter_set]
  simp [head?_set, PostsFilterValues.wellFormed]

/-! ### What is read again -/

/-- No class of a pattern accepts what surrogates are replaced by. -/
theorem units_of_sequenceOf {classes : List (Char → Bool)}
    (hclasses : ∀ accepts ∈ classes, accepts '\x00' = false ∧ accepts '\uFFFD' = false)
    {text : Utf16} (h : Text.sequenceOf classes (asciiString text).toList = true) :
    ∀ unit ∈ text, unit ≠ 0xFFFD ∧ (isLeading unit || isTrailing unit) = false := by
  have haccepted : ∀ (classes : List (Char → Bool)) (cs : List Char),
      Text.sequenceOf classes cs = true → ∀ c ∈ cs, ∃ accepts ∈ classes, accepts c = true := by
    intro classes
    induction classes with
    | nil =>
      intro cs h c hc
      cases cs with
      | nil => cases hc
      | cons head cs => cases h
    | cons accepts classes ih =>
      intro cs h c hc
      cases cs with
      | nil => cases h
      | cons head cs =>
        rw [Text.sequenceOf, Bool.and_eq_true] at h
        rcases mem_cons.mp hc with rfl | hc
        · exact ⟨accepts, mem_cons_self, h.1⟩
        · obtain ⟨other, hother, htrue⟩ := ih cs h.2 c hc
          exact ⟨other, mem_cons_of_mem _ hother, htrue⟩
  intro unit hunit
  obtain ⟨accepts, hmem, htrue⟩ := haccepted _ _ h (Char.ofNat unit.toNat)
    (by simpa [asciiString] using ⟨unit, hunit, rfl⟩)
  obtain ⟨hnull, hreplacement⟩ := hclasses accepts hmem
  constructor
  · rintro rfl
    exact Bool.false_ne_true (hreplacement.symm.trans htrue)
  · rw [surrogate_eq_false_iff]
    by_contra hsurrogate
    have hinvalid : ¬ unit.toNat.isValidChar := by
      unfold Nat.isValidChar
      omega
    rw [Char.ofNat, dif_neg hinvalid] at htrue
    exact Bool.false_ne_true (hnull.symm.trans htrue)

variable (text : Utf16)

theorem accountId?_toWellFormed : accountId? (toWellFormed text) = accountId? text := by
  refine Option.ext fun id => toWellFormed_iff (P := fun text => accountId? text = some id) ?_ text
  intro text h
  unfold accountId? at h
  split_ifs at h with huuid
  exact units_of_sequenceOf (by decide) huuid

private theorem parseDate_toWellFormed (endOfDay : Bool) :
    parseDate other (toWellFormed text) endOfDay = parseDate other text endOfDay := by
  refine Option.ext fun date =>
    toWellFormed_iff (P := fun text => parseDate other text endOfDay = some date) ?_ text
  intro text h
  unfold parseDate at h
  split_ifs at h with hempty hdate
  all_goals exact units_of_sequenceOf (by decide) hdate

private theorem toWellFormed_eq_all {text : Utf16} :
    toWellFormed text = ofString "all" ↔ text = ofString "all" := by
  have hunits : (ofString "all").all (fun unit =>
      unit != 0xFFFD && !(isLeading unit || isTrailing unit)) = true := by decide
  refine toWellFormed_iff (P := fun text => text = ofString "all") (fun text h unit hunit => ?_) text
  rw [h] at hunit
  simpa using all_eq_true.mp hunits unit hunit

private theorem ne_nil_toWellFormed : (toWellFormed text != []) = (text != []) := by
  rw [Bool.eq_iff_iff, bne_iff_ne, bne_iff_ne, ne_eq, ne_eq, toWellFormed_eq_nil]

private theorem accountFails_toWellFormed :
    accountFails (toWellFormed text) = accountFails text := by
  have hall : (toWellFormed text != ofString "all") = (text != ofString "all") := by
    rw [Bool.eq_iff_iff, bne_iff_ne, bne_iff_ne, ne_eq, ne_eq, toWellFormed_eq_all]
  rw [accountFails, accountFails, ne_nil_toWellFormed, hall, accountId?_toWellFormed]

private theorem datesFail_toWellFormed (rawFrom rawTo : Utf16) :
    datesFail other (toWellFormed rawFrom) (toWellFormed rawTo) = datesFail other rawFrom rawTo := by
  simp only [datesFail, ne_nil_toWellFormed, parseDate_toWellFormed]

theorem mediaKind?_kindText (kind : Option InstagramMediaKind) :
    mediaKind? (kindText kind) = kind ∧ kindFails (kindText kind) = false := by
  have hkind : mediaKind? (kindText kind) = kind := by
    cases kind with
    | none => decide
    | some kind => exact oneOf_word kind
  refine ⟨hkind, ?_⟩
  rw [kindFails, hkind]
  cases kind <;> simp [kindText]

/-- **A search that is read again** is the same when none of its surrogates is alone and it ends
in no space. -/
theorem searchOf_toWellFormed_iff (rawSearch : Utf16) :
    searchOf (toWellFormed (searchOf rawSearch)) = searchOf rawSearch ↔
      toWellFormed (searchOf rawSearch) = searchOf rawSearch ∧
        ∀ unit ∈ (searchOf rawSearch).getLast?, isSpace unit = false := by
  have hfirst : ∀ unit ∈ (searchOf rawSearch).head?, isSpace unit = false := by
    intro unit hunit
    rw [searchOf, List.head?_take, if_neg (by decide)] at hunit
    exact isSpace_head?_trim hunit
  have hlength : (searchOf rawSearch).length ≤ 120 := length_take_le _ _
  generalize searchOf rawSearch = search at *
  have hcut : searchOf (toWellFormed search) = trim (toWellFormed search) := by
    refine take_of_length_le ((trim_sublist _).length_le.trans ?_)
    rwa [length_toWellFormed]
  rw [hcut]
  constructor
  · intro h
    have hwhole : trim (toWellFormed search) = toWellFormed search :=
      (trim_sublist _).eq_of_length (by rw [h, length_toWellFormed])
    refine ⟨hwhole.symm.trans h, fun unit hunit => ?_⟩
    rw [← h] at hunit
    exact isSpace_getLast?_trim hunit
  · rintro ⟨hwell, hlast⟩
    rw [hwell, trim_eq_self hfirst hlast]

private theorem filled_inj {text other : Utf16} : filled text = filled other ↔ text = other := by
  unfold filled
  split_ifs with htext hother hother <;> simp_all

/-! ### Paging -/

variable (other) (searchParams : PostsSearchParams) (cursor)

/-- The next page has the filters of this one, and starts at the cursor. -/
def PagingKeepsFilter : Prop :=
  let page := parsePostsFilters other searchParams
  let next := parsePostsFilters other (searchParamsOf (buildPostsHref page.values cursor))
  next.filters = page.filters ∧ next.cursor = cursor

private theorem next_eq (values : PostsFilterValues) :
    let next := parsePostsFilters other (searchParamsOf (buildPostsHref values cursor))
    next.filters =
      { instagramAccountId := accountId? values.account
        matchesNothing := accountFails values.account || datesFail other values.rawFrom values.rawTo
        mediaKind := values.kind
        publishedFrom := parseDate other values.rawFrom false
        publishedTo := parseDate other values.rawTo true
        search := filled (searchOf (toWellFormed values.search)) } ∧
      next.cursor = filled ((cursor.map toWellFormed).getD []) := by
  obtain ⟨hsearch, hkind, haccount, hfrom, hto, hafter⟩ :=
    (read_values : read values cursor "q" = _ ∧ _)
  unfold read at hsearch hkind haccount hfrom hto hafter
  obtain ⟨hsame, hrecognised⟩ := mediaKind?_kindText values.kind
  simp only [parsePostsFilters, hsearch, hkind, haccount, hfrom, hto, hafter,
    accountId?_toWellFormed, accountFails_toWellFormed, datesFail_toWellFormed,
    parseDate_toWellFormed, hsame, hrecognised, Bool.false_or, and_self]

private theorem cursor_eq_iff : filled ((cursor.map toWellFormed).getD []) = cursor ↔
    ∀ text ∈ cursor, text ≠ [] ∧ toWellFormed text = text := by
  cases cursor with
  | none => simp [filled]
  | some text =>
    by_cases hempty : text = []
    · simp [filled, hempty]
    · simp [filled, hempty]

/-- **When paging keeps the filter.** A kind that is not recognised is lost, and with it that
nothing matches; a search that was cut is cut again or has half of a pair replaced. -/
theorem paging_keeps_filter_iff : PagingKeepsFilter cursor other searchParams ↔
    (kindFails (firstValue (searchParams "kind")) = true →
      accountFails (firstValue (searchParams "account")) = true ∨
        datesFail other (firstValue (searchParams "from")) (firstValue (searchParams "to")) =
          true) ∧
    (toWellFormed (searchOf (firstValue (searchParams "q"))) =
        searchOf (firstValue (searchParams "q")) ∧
      ∀ unit ∈ (searchOf (firstValue (searchParams "q"))).getLast?, isSpace unit = false) ∧
    ∀ text ∈ cursor, text ≠ [] ∧ toWellFormed text = text := by
  -- "all" is shown as no account, which is read as "all" is
  have haccount (raw : Utf16) : accountId? (if accountId? raw = none ∧ raw = ofString "all" then []
        else raw) = accountId? raw ∧
      accountFails (if accountId? raw = none ∧ raw = ofString "all" then [] else raw) =
        accountFails raw := by
    split_ifs with hall
    · rw [hall.2]
      decide
    · exact ⟨rfl, rfl⟩
  obtain ⟨hfilters, hcursor⟩ :=
    next_eq cursor other (parsePostsFilters other searchParams).values
  unfold PagingKeepsFilter
  dsimp only
  rw [hfilters, hcursor, cursor_eq_iff, ← searchOf_toWellFormed_iff, ← filled_inj, ← and_assoc]
  refine and_congr_left' ?_
  simp only [parsePostsFilters, haccount, InstagramPostListFilters.mk.injEq, true_and]
  refine and_congr_left' ?_
  cases kindFails (firstValue (searchParams "kind")) <;>
    cases accountFails (firstValue (searchParams "account")) <;>
      cases datesFail other (firstValue (searchParams "from")) (firstValue (searchParams "to")) <;>
        simp

/-- The kind "REELS" is not recognised, so nothing matches; the next page has no filter. -/
theorem unrecognised_kind_is_dropped : ¬ PagingKeepsFilter none (fun _ => none)
    (fun name => if name = "kind" then .one (ofString "REELS") else .undefined) := by
  rintro ⟨hfilters, -⟩
  have hnothing := congrArg InstagramPostListFilters.matchesNothing hfilters
  revert hnothing
  decide +kernel

end PostsPage

end ContentAutomation
