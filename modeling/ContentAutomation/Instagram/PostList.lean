import ContentAutomation.Instagram.Provider
import ContentAutomation.Jobs.Enqueue
import ContentAutomation.Library.Keyset
import ContentAutomation.Library.Transition
import ContentAutomation.Worker.Tables
import Mathlib.Data.Prod.Lex
import Mathlib.Data.String.Basic

/-!
# Walking the list of posts

The triage list shows the posts of a workspace that match a filter, newest first, a page at
a time. A page is anchored to the last post of the page before it, which is skipped by
count. An import that commits between two pages may rewrite the anchor; in every walk whose
anchors still match the filter and have kept their date whenever a page is read, each post
that matches throughout is returned exactly once.
-/

namespace ContentAutomation

open Relational Transaction List

/-! ### Imports -/

/-- `CommitInstagramMediaPageInput`; each item comes with the identifier that is created for
its post if it has none. -/
structure CommitInstagramMediaPageInput where
  cursor : Option String
  importedAt : ℤ
  invalidCount : ℕ
  media : List (NormalisedInstagramMedia × String)
  skippedCount : ℕ
  stage : String
  syncRunId : String

/-- `InstagramMediaPageCommit`. -/
structure InstagramMediaPageCommit where
  imported : ℕ
  updated : ℕ

/-- What an import writes to a post. -/
def importedPost (item : NormalisedInstagramMedia) (importedAt : ℤ) (syncRunId : String)
    (row : InstagramPost) : InstagramPost :=
  { row with
    caption := item.caption
    lastImportedAt := importedAt
    lastSyncRunId := some syncRunId
    mediaKind := item.kind
    mediaProductType := item.mediaProductType
    mediaType := item.mediaType
    permalink := item.permalink
    providerThumbnailUrl := item.ephemeralThumbnailUrl
    publishedAt := item.publishedAt }

/-- A post that an import creates. -/
def createdPost (context : WorkspaceContext) (instagramAccountId : String)
    (item : NormalisedInstagramMedia) (importedAt : ℤ) (syncRunId id : String) : InstagramPost :=
  importedPost item importedAt syncRunId
    { id
      workspaceId := context.workspaceId
      instagramAccountId
      mediaKind := item.kind
      publishedAt := item.publishedAt
      currentAnalysisId := none
      providerMediaId := item.providerMediaId
      firstImportedAt := importedAt }

/-- The items of a page, one after the other. -/
def importMedia (context : WorkspaceContext) (run : SyncRun) (importedAt : ℤ)
    (existing : List InstagramPost) :
    List (NormalisedInstagramMedia × String) → InstagramMediaPageCommit →
      WorkerTransaction InstagramMediaPageCommit
  | [], counts => pure counts
  | (item, id) :: media, counts =>
    match existing.find? fun post => post.providerMediaId == item.providerMediaId with
    | some post => do
      let _ ← instagramPost.updateMany (importedPost item importedAt run.id)
        fun row => row.id == post.id
      importMedia context run importedAt existing media
        { counts with updated := counts.updated + 1 }
    | none => do
      instagramPost.create
        (createdPost context run.instagramAccountId item importedAt run.id id)
      importMedia context run importedAt existing media
        { counts with imported := counts.imported + 1 }

/-- `commitInstagramMediaPage`. -/
def commitInstagramMediaPage (context : WorkspaceContext) (input : CommitInstagramMediaPageInput) :
    WorkerTransaction InstagramMediaPageCommit :=
  if isSafeJobStage input.stage = false then raise (validationError "SYNC_RUN_STAGE_INVALID")
  else if isSafeInteger input.invalidCount = false then
    raise (validationError "SYNC_RUN_INVALID_COUNT_INVALID")
  else if isSafeInteger input.skippedCount = false then
    raise (validationError "SYNC_RUN_SKIPPED_COUNT_INVALID")
  else do
    let run ← syncRun.findFirst fun row => row.id == input.syncRunId && row.state == .running &&
      row.workspaceId == context.workspaceId
    match run with
    | none => raise (conflictError "SYNC_RUN_NOT_ACTIVE")
    | some run => do
      let existing ← read fun db => db.app.instagramPosts.rows.filter fun row =>
        row.instagramAccountId == run.instagramAccountId &&
          (input.media.map fun entry => entry.1.providerMediaId).contains row.providerMediaId
      let counts ← importMedia context run input.importedAt existing input.media ⟨0, 0⟩
      let advanced ← syncRun.updateMany
        (fun row => { row with
          checkpointAt := some input.importedAt
          cursor := input.cursor
          itemsImported := row.itemsImported + counts.imported
          itemsInvalid := row.itemsInvalid + input.invalidCount
          itemsSeen := row.itemsSeen + (input.media.length + input.invalidCount + input.skippedCount)
          itemsSkipped := row.itemsSkipped + input.skippedCount
          itemsUpdated := row.itemsUpdated + counts.updated
          pagesCompleted := row.pagesCompleted + 1
          stage := input.stage })
        fun row => row.id == run.id && row.state == .running &&
          row.workspaceId == context.workspaceId
      if advanced ≠ 1 then raise (conflictError "SYNC_RUN_NOT_ACTIVE")
      else pure counts

/-- Every post is identified as `createId` does it. -/
def PostsIdentified (db : Database WorkerTables) : Prop :=
  ∀ row ∈ db.app.instagramPosts.rows, isUuidV7 row.id = true

/-- The items of a page leave every post identified. -/
theorem preserves_importMedia {context : WorkspaceContext} {run : SyncRun} {importedAt : ℤ}
    {existing : List InstagramPost} {media : List (NormalisedInstagramMedia × String)}
    {counts : InstagramMediaPageCommit} (hids : ∀ entry ∈ media, isUuidV7 entry.2) :
    Preserves PostsIdentified (importMedia context run importedAt existing media counts) := by
  induction media generalizing counts with
  | nil => exact preserves_pure
  | cons entry media ih =>
    obtain ⟨item, id⟩ := entry
    have hrest : ∀ counts, Preserves PostsIdentified
        (importMedia context run importedAt existing media counts) := fun counts =>
      ih fun entry hentry => hids entry (mem_cons_of_mem _ hentry)
    unfold importMedia
    split
    · refine Preserves.bind ?_ fun _ => hrest _
      intro db hdb
      apply WorkerTable.ensures_updateMany
      intro rows hrows row hrow
      have hmem : row ∈ rows.rows := hrow
      rw [hrows] at hmem
      obtain ⟨before, hbefore, rfl⟩ := mem_map.mp hmem
      split
      · exact hdb before hbefore
      · exact hdb before hbefore
    · refine Preserves.bind ?_ fun _ => hrest _
      intro db hdb
      apply WorkerTable.ensures_create
      intro rows hrows row hrow
      have hmem : row ∈ rows.rows := hrow
      rw [hrows, mem_append, mem_singleton] at hmem
      rcases hmem with hbefore | rfl
      · exact hdb row hbefore
      · exact hids _ mem_cons_self

private theorem preserves_commitInstagramMediaPage {context : WorkspaceContext}
    {input : CommitInstagramMediaPageInput}
    (hids : ∀ entry ∈ input.media, isUuidV7 entry.2) :
    Preserves PostsIdentified (commitInstagramMediaPage context input) := by
  unfold commitInstagramMediaPage
  refine .ite preserves_raise (.ite preserves_raise (.ite preserves_raise ?_))
  refine .bind (fun _ hdb => hdb) fun run => ?_
  cases run with
  | none => exact preserves_raise
  | some run =>
    refine .bind (fun _ hdb => hdb) fun existing => ?_
    refine .bind (preserves_importMedia hids) fun counts => ?_
    refine .bind ?_ fun advanced => .ite preserves_raise preserves_pure
    have hkeeps : ∀ data selects, Keeps (fun db : Database WorkerTables => db.app.instagramPosts)
        (syncRun.updateMany data selects) := fun _ _ => WorkerTable.keeps_updateMany fun _ _ => rfl
    exact (hkeeps _ _).preserves (J := fun posts : Table instagramPostSchema =>
      ∀ row ∈ posts.rows, isUuidV7 row.id = true)

/-! ### Pages -/

def instagramPostPageSize : ℕ := 24

def instagramPostSearchLimit : ℕ := 120

/-- `InstagramPostListFilters`. -/
structure InstagramPostListFilters where
  instagramAccountId : Option String := none
  matchesNothing : Bool := false
  mediaKind : Option InstagramMediaKind := none
  publishedFrom : Option ℤ := none
  publishedTo : Option ℤ := none
  search : Option Utf16 := none

/-- `SourceVideoState`. -/
inductive SourceVideoState
  | none | pendingValidation | ready | rejected

/-- `AnalysisState`. -/
inductive AnalysisState
  | none | inProgress | analysed

/-- `InstagramPostListItem`; its dates are instants. -/
structure InstagramPostListItem where
  analysisState : AnalysisState
  caption : Option Utf16
  id : String
  instagramAccountId : String
  lastImportedAt : ℤ
  mediaKind : InstagramMediaKind
  mediaProductType : Option Utf16
  mediaType : Utf16
  permalink : Option Utf16
  providerThumbnailUrl : Option Utf16
  publishedAt : ℤ
  sourceVideoState : SourceVideoState

/-- `InstagramPostList`. -/
structure InstagramPostList where
  generatedAt : ℤ
  nextCursor : Option String
  posts : List InstagramPostListItem
  totalCount : ℕ

/-- What the list takes from the database and the runtime: whether a text contains another
one in any case, and whether a text is an address under HTTPS. -/
structure PostListRuntime where
  contains : Utf16 → Utf16 → Bool
  isHttpsUrl : Utf16 → Bool

/-- `resolveAnalysisState`. -/
def resolveAnalysisState (currentAnalysisId : Option String) (stages : List AnalysisJobStage) :
    AnalysisState :=
  if currentAnalysisId.isSome then .analysed
  else if stages.any fun stage => stage != .published && stage != .abandoned then .inProgress
  else .none

/-- `resolveSourceVideoState`. -/
def resolveSourceVideoState (states : List VideoAssetState) : SourceVideoState :=
  if states.contains .ready then .ready
  else if states.contains .pendingValidation then .pendingValidation
  else if states.contains .rejected then .rejected
  else .none

/-- `createPostWhere`. -/
def createPostWhere (runtime : PostListRuntime) (workspaceId : String)
    (filters : InstagramPostListFilters) (row : InstagramPost) : Bool :=
  row.workspaceId == workspaceId &&
    filters.instagramAccountId.all (fun accountId =>
      accountId == "" || row.instagramAccountId == accountId) &&
    filters.mediaKind.all (fun kind => row.mediaKind == kind) &&
    filters.publishedFrom.all (fun publishedFrom => decide (publishedFrom ≤ row.publishedAt)) &&
    filters.publishedTo.all (fun publishedTo => decide (row.publishedAt ≤ publishedTo)) &&
    filters.search.all fun search => search.isEmpty ||
      row.caption.any fun caption => runtime.contains caption (search.take instagramPostSearchLimit)

/-- `parseCursor`. -/
def parseCursor (cursor : Option String) : Option String := cursor.filter isUuidV7

/-- The order of the list: newest first, of the same time the greatest identifier first. -/
def InstagramPost.position (row : InstagramPost) : (ℤ ×ₗ String)ᵒᵈ :=
  OrderDual.toDual (toLex (row.publishedAt, row.id))

/-- `instagramPost.findMany` as the list calls it. A cursor without a row finds nothing. -/
def findPosts (selects : InstagramPost → Bool) (anchor : Option String) (take : ℕ)
    (rows : List InstagramPost) : List InstagramPost :=
  match anchor with
  | none => Keyset.page InstagramPost.position selects none 0 take rows
  | some id =>
    match rows.find? fun row => row.id == id with
    | none => []
    | some row => Keyset.page InstagramPost.position selects (some row.position) 1 take rows

/-- `toListItem`, with the stages and states that the query selects beside the post. -/
def toListItem (runtime : PostListRuntime) (app : WorkerTables) (row : InstagramPost) :
    InstagramPostListItem where
  analysisState := resolveAnalysisState row.currentAnalysisId
    ((app.analysisRequests.rows.filter fun job =>
      job.instagramPostId == row.id && job.workspaceId == row.workspaceId).map
        AnalysisRequest.stage)
  caption := row.caption
  id := row.id
  instagramAccountId := row.instagramAccountId
  lastImportedAt := row.lastImportedAt
  mediaKind := row.mediaKind
  mediaProductType := row.mediaProductType
  mediaType := row.mediaType
  permalink := row.permalink.filter runtime.isHttpsUrl
  providerThumbnailUrl := row.providerThumbnailUrl.filter runtime.isHttpsUrl
  publishedAt := row.publishedAt
  sourceVideoState := resolveSourceVideoState
    ((app.videoAssets.rows.filter fun asset =>
      asset.instagramPostId == row.id && asset.workspaceId == row.workspaceId).map
        VideoAsset.state)

/-- `loadInstagramPostList`. -/
def loadInstagramPostList (runtime : PostListRuntime) (context : WorkspaceContext)
    (filters : InstagramPostListFilters) (cursor : Option String) (now : ℤ) (app : WorkerTables) :
    InstagramPostList :=
  if filters.matchesNothing then ⟨now, none, [], 0⟩
  else
    let selects := createPostWhere runtime context.workspaceId filters
    let records := findPosts selects (parseCursor cursor) (instagramPostPageSize + 1)
      app.instagramPosts.rows
    let hasMore := decide (instagramPostPageSize < records.length)
    let page := if hasMore then records.take instagramPostPageSize else records
    { generatedAt := now
      nextCursor := if hasMore then page.getLast?.map InstagramPost.id else none
      posts := page.map (toListItem runtime app)
      totalCount := app.instagramPosts.rows.countP selects }

/-! ### Walks -/

/-- How far a walk has come. -/
inductive WalkPhase
  | reading (cursor : Option String)
  | ended
  deriving DecidableEq

/-- Someone follows the cursors of the list, while imports commit. -/
structure PostWalk where
  db : Database WorkerTables
  phase : WalkPhase
  /-- The items of the pages so far, in their order. -/
  returned : List InstagramPostListItem

/-- What may happen: the next page is read, or an import commits. -/
inductive PostWalkEvent
  | read (now : ℤ)
  | importPage (context : WorkspaceContext) (input : CommitInstagramMediaPageInput)

namespace PostWalk

variable (runtime : PostListRuntime) (context : WorkspaceContext)
  (filters : InstagramPostListFilters)

/-- A walk before its first page. -/
def start (db : Database WorkerTables) : PostWalk := ⟨db, .reading none, []⟩

/-- The walk after its next page. -/
def readPage (now : ℤ) (s : PostWalk) : PostWalk :=
  match s.phase with
  | .ended => s
  | .reading cursor =>
    let list := loadInstagramPostList runtime context filters cursor now s.db.app
    { s with
      phase :=
        match list.nextCursor with
        | none => .ended
        | some cursor => .reading (some cursor)
      returned := s.returned ++ list.posts }

/-- One step, if the event can happen. An import creates its identifiers itself. -/
def step (s : PostWalk) : PostWalkEvent → Option PostWalk
  | .read now => some (s.readPage runtime context filters now)
  | .importPage owner input =>
    if input.media.all fun entry => isUuidV7 entry.2 then
      some { s with db := ((commitInstagramMediaPage owner input).commit s.db).2 }
    else none

/-- The system takes a step. -/
def Step (s : PostWalk) (event : PostWalkEvent) (t : PostWalk) : Prop :=
  s.step runtime context filters event = some t

/-- Which posts the list shows. -/
def selects (row : InstagramPost) : Bool :=
  !filters.matchesNothing && createPostWhere runtime context.workspaceId filters row

/-- **The condition.** If the event reads a page that is anchored to a post, that post still
matches the filter, and has the date it was returned with. -/
def AnchorStays (s : PostWalk) (event : PostWalkEvent) : Prop :=
  match event, s.phase with
  | .read _, .reading (some cursor) => ∃ row ∈ s.db.app.instagramPosts.rows, row.id = cursor ∧
      selects runtime context filters row = true ∧
        s.returned.getLast?.map InstagramPostListItem.publishedAt = some row.publishedAt
  | _, _ => True

/-- The list shows a post with a date. -/
def Shows (s : PostWalk) (id : String) (publishedAt : ℤ) : Prop :=
  ∃ row ∈ s.db.app.instagramPosts.rows, row.id = id ∧ row.publishedAt = publishedAt ∧
    selects runtime context filters row = true

/-! ### One page -/

section Pages

variable {runtime context filters} {db : Database WorkerTables} {bound : Option (ℤ ×ₗ String)ᵒᵈ}
  {row : InstagramPost} {n : ℕ}

/-- The posts that the list shows behind a position, in their order. -/
def shown (runtime : PostListRuntime) (context : WorkspaceContext)
    (filters : InstagramPostListFilters) (bound : Option (ℤ ×ₗ String)ᵒᵈ)
    (db : Database WorkerTables) : List InstagramPost :=
  Keyset.behind InstagramPost.position (createPostWhere runtime context.workspaceId filters) bound
    db.app.instagramPosts.rows

private theorem pairwise_position (posts : Table instagramPostSchema) :
    posts.rows.Pairwise fun row other => row.position ≠ other.position := by
  refine (Table.pairwise_key instagramPostSchema_keyedBy_id posts).imp ?_
  intro row other hids hpositions
  have hpair := toLex.injective (OrderDual.toDual.injective hpositions)
  exact hids (Prod.mk.inj hpair).2

private theorem pairwise_shown : (shown runtime context filters bound db).Pairwise
    fun row other => row.position < other.position :=
  Keyset.pairwise_behind (pairwise_position db.app.instagramPosts)

private theorem findPosts_of_anchor (hrow : row ∈ db.app.instagramPosts.rows)
    (hselects : createPostWhere runtime context.workspaceId filters row) :
    findPosts (createPostWhere runtime context.workspaceId filters) (some row.id) n
        db.app.instagramPosts.rows =
      (shown runtime context filters (some row.position) db).take n := by
  have hfound : (db.app.instagramPosts.rows.find? fun other => other.id == row.id) = some row :=
    (Table.lookup_eq_some instagramPostSchema_keyedBy_id).mpr ⟨hrow, rfl⟩
  unfold findPosts
  simp only [hfound]
  exact Keyset.page_of_anchor (pairwise_position db.app.instagramPosts) hrow hselects

/-- What is read when the query finds the start of what is shown behind a position. -/
theorem loaded {cursor : Option String} {now : ℤ} (hfilters : filters.matchesNothing = false)
    (hfound : findPosts (createPostWhere runtime context.workspaceId filters) (parseCursor cursor)
        (instagramPostPageSize + 1) db.app.instagramPosts.rows =
      (shown runtime context filters bound db).take (instagramPostPageSize + 1)) :
    let list := loadInstagramPostList runtime context filters cursor now db.app
    let page := (shown runtime context filters bound db).take instagramPostPageSize
    list.posts = page.map (toListItem runtime db.app) ∧
      ((list.nextCursor = none ∧ page = shown runtime context filters bound db) ∨
        ∃ last, page.getLast? = some last ∧ list.nextCursor = some last.id) := by
  unfold loadInstagramPostList
  simp only [hfilters, Bool.false_eq_true, if_false, hfound, length_take, take_take]
  by_cases hmore : instagramPostPageSize < (shown runtime context filters bound db).length
  · have hlength : instagramPostPageSize <
        min (instagramPostPageSize + 1) (shown runtime context filters bound db).length := by
      omega
    have hpositive : 0 < instagramPostPageSize := by decide
    have hpage : (shown runtime context filters bound db).take instagramPostPageSize ≠ [] := by
      intro hempty
      have hzero := congrArg List.length hempty
      rw [length_take, length_nil] at hzero
      omega
    obtain ⟨last, hlast⟩ : ∃ last, ((shown runtime context filters bound db).take
        instagramPostPageSize).getLast? = some last := ⟨_, List.getLast?_eq_some_getLast hpage⟩
    simp only [hlength, decide_true, if_true, min_eq_left (Nat.le_succ instagramPostPageSize)]
    exact ⟨trivial, .inr ⟨last, hlast, by rw [hlast]; rfl⟩⟩
  · have hlength : ¬ instagramPostPageSize <
        min (instagramPostPageSize + 1) (shown runtime context filters bound db).length := by
      omega
    have hall : (shown runtime context filters bound db).take (instagramPostPageSize + 1) =
        shown runtime context filters bound db := take_of_length_le (by omega)
    have hall' : (shown runtime context filters bound db).take instagramPostPageSize =
        shown runtime context filters bound db := take_of_length_le (by omega)
    simp only [hlength, decide_false, if_false, Bool.false_eq_true, hall, hall']
    exact ⟨trivial, .inl ⟨trivial, trivial⟩⟩

private theorem count_page (hrow : row ∈ db.app.instagramPosts.rows) :
    ((((shown runtime context filters bound db).take n).map (toListItem runtime db.app)).map
        InstagramPostListItem.id).count row.id =
      if row ∈ (shown runtime context filters bound db).take n then 1 else 0 := by
  have hids : (((shown runtime context filters bound db).take n).map (toListItem runtime db.app)).map
      InstagramPostListItem.id =
        ((shown runtime context filters bound db).take n).map InstagramPost.id := by
    rw [map_map]
    rfl
  have hrows : ∀ other ∈ (shown runtime context filters bound db).take n,
      other ∈ db.app.instagramPosts.rows := fun other hother =>
    (Keyset.mem_behind.mp (mem_of_mem_take hother)).1
  have hnodup : (((shown runtime context filters bound db).take n).map InstagramPost.id).Nodup := by
    rw [List.Nodup, pairwise_map]
    have hordered : ((shown runtime context filters bound db).take n).Pairwise
        fun row other => row.position < other.position :=
      pairwise_shown.sublist (take_sublist n _)
    refine hordered.imp_of_mem ?_
    intro left right hleft hright hlt hid
    have hsame : left = right := Table.eq_of_key instagramPostSchema_keyedBy_id
      (hrows left hleft) (hrows right hright) hid
    rw [hsame] at hlt
    exact lt_irrefl _ hlt
  rw [hids]
  split
  · next hmem => exact count_eq_one_of_mem hnodup (mem_map_of_mem hmem)
  · next hnot =>
    rw [count_eq_zero]
    intro hmem
    obtain ⟨other, hother, hid⟩ := mem_map.mp hmem
    have hsame : other = row := Table.eq_of_key instagramPostSchema_keyedBy_id
      (hrows other hother) hrow hid
    rw [hsame] at hother
    exact hnot hother

end Pages

/-! ### Each post once -/

section Walks

variable {runtime context filters} {s t : PostWalk} {event : PostWalkEvent} {id : String}
  {publishedAt : ℤ} {now : ℤ} {history : List (PostWalk × PostWalkEvent)}

/-- The position at which an item was returned. -/
def itemPosition (item : InstagramPostListItem) : (ℤ ×ₗ String)ᵒᵈ :=
  OrderDual.toDual (toLex (item.publishedAt, item.id))

/-- How often an identifier was returned. -/
def timesReturned (s : PostWalk) (id : String) : ℕ :=
  (s.returned.map InstagramPostListItem.id).count id

/-- What has been returned of a post with a position: it was returned once, if the walk has
come past its position, and else it was not. -/
def Counted (s : PostWalk) (id : String) (publishedAt : ℤ) : Prop :=
  match s.phase with
  | .reading none => s.returned = []
  | .reading (some cursor) => isUuidV7 cursor = true ∧ ∃ last, s.returned.getLast? = some last ∧
      last.id = cursor ∧ s.timesReturned id =
        if OrderDual.toDual (toLex (publishedAt, id)) ≤ itemPosition last then 1 else 0
  | .ended => s.timesReturned id = 1

/-- What a read starts from: the posts behind a position, of which those before were
counted. -/
theorem Counted.bound {cursor : Option String} (hcounted : s.Counted id publishedAt)
    (hphase : s.phase = .reading cursor) (hfilters : filters.matchesNothing = false)
    (hanchor : s.AnchorStays runtime context filters (.read now)) :
    ∃ bound : Option (ℤ ×ₗ String)ᵒᵈ,
      (∀ n, findPosts (createPostWhere runtime context.workspaceId filters) (parseCursor cursor) n
          s.db.app.instagramPosts.rows = (shown runtime context filters bound s.db).take n) ∧
        s.timesReturned id =
          if ∀ position ∈ bound, position < OrderDual.toDual (toLex (publishedAt, id)) then 0
          else 1 := by
  unfold Counted at hcounted
  unfold AnchorStays at hanchor
  rw [hphase] at hcounted hanchor
  cases cursor with
  | none =>
    refine ⟨none, fun n => Keyset.page_none, ?_⟩
    have hnothing : s.returned = [] := hcounted
    simp [timesReturned, hnothing]
  | some cursor =>
    obtain ⟨hcursor, last, hlast, rfl, hcount⟩ := hcounted
    obtain ⟨row, hrow, hid, hselects, hdate⟩ := hanchor
    have hselects' : createPostWhere runtime context.workspaceId filters row = true := by
      unfold selects at hselects
      rw [hfilters] at hselects
      exact hselects
    have hposition : row.position = itemPosition last := by
      have hdate' : last.publishedAt = row.publishedAt := by
        rw [hlast] at hdate
        exact Option.some.inj hdate
      unfold InstagramPost.position itemPosition
      rw [hdate', hid]
    refine ⟨some row.position, ?_, ?_⟩
    · intro n
      have hparse : parseCursor (some last.id) = some row.id := by
        unfold parseCursor
        rw [Option.filter_some_pos hcursor, hid]
      rw [hparse]
      exact findPosts_of_anchor hrow hselects'
    · rw [hcount, hposition]
      by_cases hpast : OrderDual.toDual (toLex (publishedAt, id)) ≤ itemPosition last
      · rw [if_pos hpast, if_neg (by simpa using hpast)]
      · rw [if_neg hpast, if_pos (by simpa using not_le.mp hpast)]

/-- **Step lemma.** Reading a page whose anchor stays counts each post that is shown. -/
theorem Counted.readPage (hids : PostsIdentified s.db)
    (hanchor : s.AnchorStays runtime context filters (.read now))
    (hshows : s.Shows runtime context filters id publishedAt) (h : s.Counted id publishedAt) :
    (s.readPage runtime context filters now).Counted id publishedAt := by
  obtain ⟨row, hrow, rfl, rfl, hselected⟩ := hshows
  have hfilters : filters.matchesNothing = false := by
    unfold selects at hselected
    cases hmatches : filters.matchesNothing
    · rfl
    · rw [hmatches] at hselected
      cases hselected
  have hselects : createPostWhere runtime context.workspaceId filters row = true := by
    unfold selects at hselected
    rw [hfilters] at hselected
    exact hselected
  unfold PostWalk.readPage
  cases hphase : s.phase with
  | ended => exact h
  | reading cursor =>
    obtain ⟨bound, hfound, hcount⟩ := h.bound hphase hfilters hanchor
    obtain ⟨hposts, hnext⟩ := loaded hfilters (hfound _)
    have hpage : ((((shown runtime context filters bound s.db).take instagramPostPageSize).map
        (toListItem runtime s.db.app)).map InstagramPostListItem.id).count row.id =
          if row ∈ (shown runtime context filters bound s.db).take instagramPostPageSize
            then 1 else 0 := count_page hrow
    have hbehind : row ∈ shown runtime context filters bound s.db ↔
        ∀ position ∈ bound, position < row.position := by
      unfold shown
      rw [Keyset.mem_behind]
      exact ⟨fun hmem => hmem.2.2, fun hlater => ⟨hrow, hselects, hlater⟩⟩
    have hcount' : s.timesReturned row.id =
        if ∀ position ∈ bound, position < row.position then 0 else 1 := hcount
    have htotal : ((s.returned ++ (loadInstagramPostList runtime context filters cursor now
        s.db.app).posts).map InstagramPostListItem.id).count row.id = s.timesReturned row.id +
          if row ∈ (shown runtime context filters bound s.db).take instagramPostPageSize
            then 1 else 0 := by
      rw [hposts, map_append, count_append, hpage]
      rfl
    rcases hnext with ⟨hnone, hall⟩ | ⟨last, hlast, hcursor⟩
    · -- the last page: what had not been returned is on it
      simp only [Counted, hnone, timesReturned]
      rw [htotal, hall, hcount']
      by_cases hlater : ∀ position ∈ bound, position < row.position
      · rw [if_pos hlater, if_pos (hbehind.mpr hlater)]
      · rw [if_neg hlater, if_neg fun hmem => hlater (hbehind.mp hmem)]
    · have hlastShown : last ∈ shown runtime context filters bound s.db :=
        mem_of_mem_take (mem_of_getLast? hlast)
      obtain ⟨hlastRow, -, hlastLater⟩ := Keyset.mem_behind.mp hlastShown
      have hon : row ∈ (shown runtime context filters bound s.db).take instagramPostPageSize ↔
          row ∈ shown runtime context filters bound s.db ∧ row.position ≤ last.position :=
        Keyset.mem_take_iff pairwise_shown hlast
      simp only [Counted, hcursor, timesReturned]
      refine ⟨hids last hlastRow, toListItem runtime s.db.app last, ?_, rfl, ?_⟩
      · rw [hposts, List.getLast?_append, List.getLast?_map, hlast]
        rfl
      · rw [htotal, hcount']
        have hitem : itemPosition (toListItem runtime s.db.app last) = last.position := rfl
        have hown : OrderDual.toDual (toLex (row.publishedAt, row.id)) = row.position := rfl
        rw [hitem, hown]
        by_cases hlater : ∀ position ∈ bound, position < row.position
        · by_cases hpast : row.position ≤ last.position
          · rw [if_pos hlater, if_pos (hon.mpr ⟨hbehind.mpr hlater, hpast⟩), if_pos hpast]
          · rw [if_pos hlater, if_neg fun hmem => hpast (hon.mp hmem).2, if_neg hpast]
        · -- what is not behind the last anchor is not behind this one either
          have hpast : row.position ≤ last.position := by
            push Not at hlater
            obtain ⟨position, hposition, hle⟩ := hlater
            exact hle.trans (hlastLater position hposition).le
          rw [if_neg hlater, if_neg fun hmem => hlater (hbehind.mp (hon.mp hmem).1), if_pos hpast]

theorem Counted.of_same (h : s.Counted id publishedAt) (hphase : t.phase = s.phase)
    (hreturned : t.returned = s.returned) : t.Counted id publishedAt := by
  unfold Counted timesReturned at h ⊢
  rw [hphase, hreturned]
  exact h

private theorem identified_step (hids : PostsIdentified s.db)
    (hstep : Step runtime context filters s event t) : PostsIdentified t.db := by
  unfold Step step at hstep
  cases event with
  | read now =>
    cases hstep
    unfold PostWalk.readPage
    split
    · exact hids
    · exact hids
  | importPage owner input =>
    simp only at hstep
    split at hstep
    · next hcreated =>
      cases hstep
      exact (preserves_commitInstagramMediaPage (all_eq_true.mp hcreated)).commit hids
    · cases hstep

private theorem counted_of_run {db : Database WorkerTables} (hids : PostsIdentified db)
    (hrun : Transition.Run (Step runtime context filters) (start db) history s)
    (hanchors : ∀ visited ∈ history, visited.1.AnchorStays runtime context filters visited.2)
    (hshows : ∀ visited ∈ history, (∃ now, visited.2 = .read now) →
      visited.1.Shows runtime context filters id publishedAt) :
    PostsIdentified s.db ∧ s.Counted id publishedAt := by
  induction hrun with
  | refl => exact ⟨hids, rfl⟩
  | @tail history t u event hbefore hstep ih =>
    obtain ⟨hidentified, hcounted⟩ := ih
      (fun visited hmem => hanchors visited (mem_cons_of_mem _ hmem))
      (fun visited hmem => hshows visited (mem_cons_of_mem _ hmem))
    refine ⟨identified_step hidentified hstep, ?_⟩
    unfold Step step at hstep
    cases event with
    | read now =>
      cases hstep
      exact hcounted.readPage hidentified (hanchors _ mem_cons_self)
        (hshows _ mem_cons_self ⟨now, rfl⟩)
    | importPage owner input =>
      simp only at hstep
      split at hstep
      · cases hstep
        exact hcounted.of_same rfl rfl
      · cases hstep

/-! ### The end of a walk -/

/-- How many posts a walk may have before it, and whether it goes on at all. -/
def ahead (s : PostWalk) : ℕ :=
  match s.phase with
  | .ended => 0
  | .reading none => s.db.app.instagramPosts.rows.length + 1
  | .reading (some cursor) =>
    match s.db.app.instagramPosts.rows.find? fun row => row.id == cursor with
    | none => 1
    | some anchor =>
      Keyset.ahead InstagramPost.position anchor.position s.db.app.instagramPosts.rows + 1

/-- The cursor of a walk names a post as `createId` does it. -/
def CursorIdentified (s : PostWalk) : Prop :=
  ∀ cursor, s.phase = .reading (some cursor) → isUuidV7 cursor = true

private theorem exists_of_nextCursor {cursor : Option String} {app : WorkerTables}
    {next : String}
    (hnext : (loadInstagramPostList runtime context filters cursor now app).nextCursor = some next) :
    ∃ last ∈ findPosts (createPostWhere runtime context.workspaceId filters) (parseCursor cursor)
      (instagramPostPageSize + 1) app.instagramPosts.rows, last.id = next := by
  unfold loadInstagramPostList at hnext
  split at hnext
  · cases hnext
  · simp only at hnext
    split at hnext
    · next hmore =>
      obtain ⟨last, hlast, hid⟩ := Option.map_eq_some_iff.mp hnext
      exact ⟨last, mem_of_mem_take (mem_of_getLast? hlast), hid⟩
    · cases hnext

private theorem mem_of_findPosts {selects : InstagramPost → Bool} {anchor : Option String} {n : ℕ}
    {posts : Table instagramPostSchema} {row : InstagramPost}
    (h : row ∈ findPosts selects anchor n posts.rows) :
    row ∈ posts.rows ∧ ∀ id, anchor = some id → ∃ found,
      posts.rows.find? (fun other => other.id == id) = some found ∧
        found.position < row.position := by
  unfold findPosts at h
  split at h
  · refine ⟨?_, fun id hid => by cases hid⟩
    rw [Keyset.page_none] at h
    exact (Keyset.mem_behind.mp (mem_of_mem_take h)).1
  · next id =>
    split at h
    · cases h
    · next found hfound =>
      obtain ⟨hmem, hlater⟩ := Keyset.lt_of_mem_page (pairwise_position posts) h
      refine ⟨hmem, ?_⟩
      rintro other ⟨⟩
      exact ⟨found, hfound, hlater⟩

/-- Reading a page ends the walk or leaves it with fewer posts before it. -/
theorem ahead_readPage (hids : PostsIdentified s.db) (hcursor : s.CursorIdentified)
    (hreading : s.phase ≠ .ended) :
    (s.readPage runtime context filters now).ahead < s.ahead ∧
      (s.readPage runtime context filters now).CursorIdentified := by
  unfold PostWalk.readPage
  cases hphase : s.phase with
  | ended => exact absurd hphase hreading
  | reading cursor =>
    cases hnext : (loadInstagramPostList runtime context filters cursor now
        s.db.app).nextCursor with
    | none =>
      have hsome : 0 < s.ahead := by
        unfold ahead
        rw [hphase]
        cases cursor with
        | none => exact Nat.succ_pos _
        | some cursor =>
          dsimp only
          split
          · exact Nat.one_pos
          · exact Nat.succ_pos _
      constructor
      · simp only [ahead, hnext]
        exact hsome
      · intro next hreading'
        simp only [hnext] at hreading'
        cases hreading'
    | some next =>
      obtain ⟨last, hlast, rfl⟩ := exists_of_nextCursor hnext
      obtain ⟨hmem, hlater⟩ := mem_of_findPosts hlast
      have hfound : (s.db.app.instagramPosts.rows.find? fun row => row.id == last.id) =
          some last := (Table.lookup_eq_some instagramPostSchema_keyedBy_id).mpr ⟨hmem, rfl⟩
      constructor
      · simp only [ahead, hnext, hfound, hphase]
        cases cursor with
        | none =>
          have hfewer : Keyset.ahead InstagramPost.position last.position _ < _ :=
            Keyset.ahead_lt_length hmem
          dsimp only
          omega
        | some cursor =>
          have hparse : parseCursor (some cursor) = some cursor := by
            unfold parseCursor
            rw [Option.filter_some_pos (hcursor cursor hphase)]
          obtain ⟨anchor, hanchor, hlt⟩ := hlater cursor hparse
          have hfewer : Keyset.ahead InstagramPost.position last.position _ < _ :=
            Keyset.ahead_lt hmem hlt
          simp only [hanchor]
          omega
      · intro other hreading'
        simp only [hnext] at hreading'
        cases hreading'
        exact hids last hmem

/-- A walk whose pages are read to the end. -/
def readPages (runtime : PostListRuntime) (context : WorkspaceContext)
    (filters : InstagramPostListFilters) (s : PostWalk) (times : List ℤ) : PostWalk :=
  times.foldl (fun s now => s.readPage runtime context filters now) s

private theorem readPages_of_ended (h : s.phase = .ended) (times : List ℤ) :
    s.readPages runtime context filters times = s := by
  induction times with
  | nil => rfl
  | cons now times ih =>
    have hsame : s.readPage runtime context filters now = s := by
      unfold PostWalk.readPage
      rw [h]
    unfold readPages at ih ⊢
    rw [foldl_cons, hsame, ih]

/-- **A walk ends** after as many pages as there are posts before it, if no more imports
commit. -/
theorem ended_readPages {times : List ℤ} (hids : PostsIdentified s.db)
    (hcursor : s.CursorIdentified) (htimes : s.ahead ≤ times.length) :
    (s.readPages runtime context filters times).phase = .ended := by
  induction times generalizing s with
  | nil =>
    have hnone : s.ahead = 0 := Nat.le_zero.mp htimes
    unfold ahead at hnone
    unfold readPages
    rw [foldl_nil]
    cases hphase : s.phase with
    | ended => rfl
    | reading cursor =>
      rw [hphase] at hnone
      cases cursor with
      | none => cases hnone
      | some cursor =>
        dsimp only at hnone
        split at hnone <;> cases hnone
  | cons now times ih =>
    by_cases hended : s.phase = .ended
    · rw [readPages_of_ended hended]
      exact hended
    · obtain ⟨hfewer, hcursor'⟩ : (s.readPage runtime context filters now).ahead < s.ahead ∧
          (s.readPage runtime context filters now).CursorIdentified :=
        ahead_readPage hids hcursor hended
      have hids' : PostsIdentified (s.readPage runtime context filters now).db := by
        unfold PostWalk.readPage
        split
        · exact hids
        · exact hids
      rw [length_cons] at htimes
      have henough : (s.readPage runtime context filters now).ahead ≤ times.length := by omega
      exact ih hids' hcursor' henough

/-- The cursor of every walk names a post as `createId` does it. -/
theorem cursorIdentified_of_run {db : Database WorkerTables}
    (hids : PostsIdentified db)
    (hrun : Transition.Run (Step runtime context filters) (start db) history s) :
    PostsIdentified s.db ∧ s.CursorIdentified := by
  induction hrun with
  | refl => exact ⟨hids, by rintro cursor ⟨⟩⟩
  | @tail history t u event hbefore hstep ih =>
    refine ⟨identified_step ih.1 hstep, ?_⟩
    unfold Step step at hstep
    cases event with
    | read now =>
      cases hstep
      by_cases hended : t.phase = .ended
      · have hsame : t.readPage runtime context filters now = t := by
          unfold PostWalk.readPage
          rw [hended]
        rw [hsame]
        exact ih.2
      · exact (ahead_readPage ih.1 ih.2 hended).2
    | importPage owner input =>
      simp only at hstep
      split at hstep
      · cases hstep
        exact ih.2
      · cases hstep

private theorem ahead_le : s.ahead ≤ s.db.app.instagramPosts.rows.length + 1 := by
  unfold ahead
  split
  · omega
  · omega
  · split
    · omega
    · next anchor hanchor =>
      have hfewer : Keyset.ahead InstagramPost.position anchor.position _ < _ :=
        Keyset.ahead_lt_length (mem_of_find?_eq_some hanchor)
      omega

/-- **Walking the list loses and repeats nothing**, if each page is read while the post it is
anchored to still matches the filter and has kept its date. Then every post that the list
shows with one date at each of these reads has been returned exactly once when the walk
ends; and however far a walk has come, it ends if no more imports commit. -/
theorem walk_returns_each_post_once {db : Database WorkerTables}
    {history : List (PostWalk × PostWalkEvent)} (hids : PostsIdentified db)
    (hrun : Transition.Run (Step runtime context filters) (start db) history s)
    (hanchors : ∀ visited ∈ history, visited.1.AnchorStays runtime context filters visited.2) :
    (∀ times : List ℤ, s.db.app.instagramPosts.rows.length < times.length →
        (s.readPages runtime context filters times).phase = .ended) ∧
      (s.phase = .ended → ∀ id publishedAt,
        (∀ visited ∈ history, (∃ now, visited.2 = .read now) →
          visited.1.Shows runtime context filters id publishedAt) → s.timesReturned id = 1) := by
  constructor
  · intro times htimes
    obtain ⟨hidentified, hcursor⟩ := cursorIdentified_of_run hids hrun
    have hbound := ahead_le (s := s)
    exact ended_readPages hidentified hcursor (by omega)
  · intro hended id publishedAt hshows
    have hcounted := (counted_of_run hids hrun hanchors hshows).2
    unfold Counted at hcounted
    rw [hended] at hcounted
    exact hcounted

instance : Decidable (s.Shows runtime context filters id publishedAt) :=
  inferInstanceAs (Decidable (∃ row ∈ _, _))

instance : Decidable (s.AnchorStays runtime context filters event) := by
  unfold AnchorStays
  split <;> infer_instance

end Walks

end PostWalk

namespace PostListSample

open PostWalk

def ids : List String :=
  (["0", "1"].flatMap fun first =>
    ["0", "1", "2", "3", "4", "5", "6", "7", "8", "9", "a", "b", "c", "d", "e", "f"].map
      fun last => "01900000-0000-7000-8000-0000000000" ++ first ++ last).take 25

def posts : List InstagramPost :=
  ids.mapIdx fun number id =>
    { id
      workspaceId := "workspace"
      instagramAccountId := "account"
      mediaKind := .reel
      publishedAt := -number
      currentAnalysisId := none
      providerMediaId := [number.toUInt16]
      caption := some (Utf16.ofString "cat") }

def run : SyncRun where
  id := "run"
  workspaceId := "workspace"
  instagramAccountId := "account"
  trigger := .scheduled
  backgroundJobId := none
  state := .running
  stage := "importing"
  checkpointAt := none
  completedAt := none
  failureClass := none
  failureCode := none

def database : Database WorkerTables where
  clock := 0
  backgroundJobs := Table.empty _
  jobAttempts := Table.empty _
  jobOutbox := Table.empty _
  auditEvents := Table.empty _
  internalUsers := []
  analysisJobs := []
  app :=
    { WorkerTables.empty with
      instagramPosts := ⟨posts, by decide +kernel⟩
      syncRuns := ⟨[run], by decide +kernel⟩ }

def runtime : PostListRuntime where
  contains caption search := caption == search
  isHttpsUrl _ := false

def context : WorkspaceContext := ⟨"workspace"⟩

def filters : InstagramPostListFilters := { search := some (Utf16.ofString "cat") }

/-- The post of a number, with another caption. -/
def rewritten (number : ℕ) : NormalisedInstagramMedia where
  caption := some (Utf16.ofString "dog")
  ephemeralMediaUrl := none
  ephemeralThumbnailUrl := none
  kind := .reel
  mediaProductType := none
  mediaType := Utf16.ofString "VIDEO"
  permalink := none
  providerMediaId := [number.toUInt16]
  publishedAt := -number
  rawPayload := .null
  rawPayloadHash := HexDigest.zeros
  username := none

def rewriting (number : ℕ) : PostWalkEvent :=
  .importPage context
    { cursor := none
      importedAt := 0
      invalidCount := 0
      media := [(rewritten number, "01900000-0000-7000-8000-0000000000ff")]
      skippedCount := 0
      stage := "importing"
      syncRunId := "run" }

/-- The walk that events make. -/
def walk (events : List PostWalkEvent) : List (PostWalk × PostWalkEvent) × PostWalk :=
  (Transition.replay (step runtime context filters) [] (start database) events).getD
    ([], start database)

private theorem run_walk (events : List PostWalkEvent) :
    Transition.Run (Step runtime context filters) (start database) (walk events).1
      (walk events).2 := by
  unfold walk
  cases hreplay : Transition.replay (step runtime context filters) [] (start database) events with
  | none => exact .refl
  | some result => exact Transition.Run.replay .refl hreplay

def last : String := "01900000-0000-7000-8000-000000000018"

/-- **A post is lost.** The 24th post is the anchor of the second page. An import rewrites it
so that it no longer matches, and the post behind it is skipped in its place, though it
matches at every moment of the walk. -/
theorem walk_loses_post :
    PostsIdentified database ∧
      Transition.Run (Step runtime context filters) (start database)
        (walk [.read 0, rewriting 23, .read 0]).1 (walk [.read 0, rewriting 23, .read 0]).2 ∧
      (∀ visited ∈ (walk [.read 0, rewriting 23, .read 0]).1,
        visited.1.Shows runtime context filters last (-24)) ∧
      (walk [.read 0, rewriting 23, .read 0]).2.phase = .ended ∧
      (walk [.read 0, rewriting 23, .read 0]).2.timesReturned last = 0 := by
  refine ⟨?_, run_walk _, ?_, ?_, ?_⟩
  · unfold PostsIdentified
    decide +kernel
  all_goals decide +kernel

/-- A walk returns the post where the import between its pages rewrites another one. -/
theorem walk_returns_post : (walk [.read 0, rewriting 3, .read 0]).2.phase = .ended ∧
    (walk [.read 0, rewriting 3, .read 0]).2.timesReturned last = 1 := by
  have hids : PostsIdentified database := by
    unfold PostsIdentified
    decide +kernel
  have hended : (walk [.read 0, rewriting 3, .read 0]).2.phase = .ended := by decide +kernel
  have hanchors : ∀ visited ∈ (walk [.read 0, rewriting 3, .read 0]).1,
      visited.1.AnchorStays runtime context filters visited.2 := by
    decide +kernel
  have hshows : ∀ visited ∈ (walk [.read 0, rewriting 3, .read 0]).1,
      visited.1.Shows runtime context filters last (-24) := by
    decide +kernel
  exact ⟨hended, (walk_returns_each_post_once hids (run_walk _) hanchors).2 hended last (-24)
    fun visited hvisited _ => hshows visited hvisited⟩

end PostListSample

end ContentAutomation
