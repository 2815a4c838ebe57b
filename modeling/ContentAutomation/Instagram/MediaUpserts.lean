import ContentAutomation.Instagram.Columns
import ContentAutomation.Instagram.PostList
import ContentAutomation.Library.PageWriter

/-!
# Committing a page of media

A page of media is written by provider identifier: an item whose identifier has a post updates it,
any other creates one. Which identifiers have posts is looked up before the first item, so an
identifier without a post may stand in a page only once. The raw payload, its hash and the API
version must fit their columns; the rows here do not hold them.
-/

namespace ContentAutomation

open Relational Transaction List

/-! ### Columns -/

/-- Which values a column takes is decidable. -/
instance : (type : ColumnType) → (value : ColumnValue) → Decidable (type.Takes value)
  | .int, .whole _ | .bigInt, .whole _ | .timestamp, .whole _ => inferInstanceAs (Decidable (_ ∧ _))
  | .decimal _ _, .exact _ => inferInstanceAs (Decidable (_ < _))
  | .char _, .text _ | .varChar _, .text _ => inferInstanceAs (Decidable (_ ∧ _))
  | .text, .text value => inferInstanceAs (Decidable (0 ∉ value))
  | .json, .json value => inferInstanceAs (Decidable value.ZeroFree)
  | .int, .exact _ | .int, .text _ | .int, .json _ | .bigInt, .exact _ | .bigInt, .text _
  | .bigInt, .json _ | .timestamp, .exact _ | .timestamp, .text _ | .timestamp, .json _
  | .decimal _ _, .whole _ | .decimal _ _, .text _ | .decimal _ _, .json _ | .char _, .whole _
  | .char _, .exact _ | .char _, .json _ | .varChar _, .whole _ | .varChar _, .exact _
  | .varChar _, .json _ | .text, .whole _ | .text, .exact _ | .text, .json _ | .json, .whole _
  | .json, .exact _ | .json, .text _ => .isFalse id

instance (cell : Cell) : Decidable cell.Fits :=
  match h : cell.value with
  | none => .isTrue fun value hvalue => by rw [h] at hvalue; cases hvalue
  | some value =>
    decidable_of_iff (cell.type.Takes value)
      ⟨fun htakes _ hvalue => by rw [h] at hvalue; exact Option.some.inj hvalue ▸ htakes,
        fun hfits => hfits value h⟩

/-- The first of some cells that does not fit its column. -/
def unfitCell (cells : List Cell) : Option Cell := cells.find? fun cell => !decide cell.Fits

theorem unfitCell_eq_none {cells : List Cell} :
    unfitCell cells = none ↔ ∀ cell ∈ cells, cell.Fits := by
  simp [unfitCell]

/-- `commitInstagramMediaPage`, with the columns of `instagram_posts`: the page is refused for a
value that its column does not take. -/
def commitMediaPageColumns (context : WorkspaceContext) (input : CommitInstagramMediaPageInput) :
    WorkerTransaction InstagramMediaPageCommit := do
  let counts ← commitInstagramMediaPage context input
  match unfitCell (input.media.flatMap fun entry => entry.1.cells) with
  | some cell => refuse (.check cell.column)
  | none => pure counts

/-! ### The items of a page -/

/-- How media are written to the posts of an account. -/
def mediaWriter (context : WorkspaceContext) (run : SyncRun) (importedAt : ℤ) :
    PageWriter instagramPostSchema (NormalisedInstagramMedia × String) Utf16 String where
  key entry := entry.1.providerMediaId
  rowKey post :=
    if post.instagramAccountId = run.instagramAccountId then some post.providerMediaId else none
  rowId := InstagramPost.id
  data entry := importedPost entry.1 importedAt run.id
  row entry := createdPost context run.instagramAccountId entry.1 importedAt run.id entry.2
  passes _ := True
  collides first second k hfirst hsecond := by
    obtain ⟨haccount, hmedia⟩ := Option.ite_none_right_eq_some.mp hfirst
    obtain ⟨haccount', hmedia'⟩ := Option.ite_none_right_eq_some.mp hsecond
    refine instagramPostSchema_keyedBy_media.collision_ne_none ?_
    rw [haccount, haccount', Option.some.inj (hmedia.trans hmedia'.symm)]
  keyed := instagramPostSchema_keyedBy_id
  keepsKeys item := by
    intro index hindex row other
    rcases mem_cons.mp hindex with rfl | hindex
    · exact ⟨rfl, rfl⟩
    · rw [mem_singleton.mp hindex]
      exact ⟨rfl, rfl⟩
  rowKey_data _ _ := rfl
  rowId_data _ _ := rfl
  rowKey_row _ := if_pos rfl
  data_data _ _ := rfl
  data_row _ := rfl
  checked_data _ _ _ := iff_of_true rfl trivial
  checked_row _ := iff_of_true rfl trivial

section Page

variable {context : WorkspaceContext} {run : SyncRun} {importedAt : ℤ}
  {existing : List InstagramPost} {db : Database WorkerTables}

/-- The post that was looked up for a provider identifier. -/
def existingPost (existing : List InstagramPost) (providerMediaId : Utf16) : Option InstagramPost :=
  existing.find? fun post => post.providerMediaId == providerMediaId

/-- The items of a page return where they are written, and count what they have done. -/
theorem run_importMedia {media : List (NormalisedInstagramMedia × String)}
    {counts : InstagramMediaPageCommit}
    {result : InstagramMediaPageCommit × Database WorkerTables} :
    (importMedia context run importedAt existing media counts).run db = .ok result ↔
      ∃ rows, (mediaWriter context run importedAt).write (existingPost existing) media
          db.app.instagramPosts = .ok rows ∧
        result = (⟨counts.imported +
              ((mediaWriter context run importedAt).inserted (existingPost existing) media).length,
            counts.updated +
              ((mediaWriter context run importedAt).updated (existingPost existing) media).length⟩,
          { db with app := { db.app with instagramPosts := rows } }) := by
  induction media generalizing counts db with
  | nil =>
    constructor
    · intro h
      exact ⟨db.app.instagramPosts, rfl, (Except.ok.inj h).symm⟩
    · rintro ⟨rows, hrows, rfl⟩
      cases hrows
      rfl
  | cons entry media ih =>
    obtain ⟨item, id⟩ := entry
    unfold importMedia
    cases hfound : existingPost existing item.providerMediaId with
    | some found =>
      have hfind : (existing.find? fun post => post.providerMediaId == item.providerMediaId) =
          some found := hfound
      have hkey : existingPost existing ((mediaWriter context run importedAt).key (item, id)) =
          some found := hfound
      rw [hfind, PageWriter.inserted_cons_of_some hkey, PageWriter.updated_cons_of_some hkey]
      simp only [PageWriter.write_cons_of_some hkey, run_bind_eq_ok, WorkerTable.run_updateMany, ih]
      constructor
      · rintro ⟨count, db', ⟨rows₁, hupdate, rfl⟩, rows, hwrite, rfl⟩
        refine ⟨rows, ⟨rows₁, count, hupdate, hwrite⟩, ?_⟩
        simp only [length_cons, Nat.add_assoc, Nat.add_comm 1]
        rfl
      · rintro ⟨rows, ⟨rows₁, count, hupdate, hwrite⟩, rfl⟩
        refine ⟨count, _, ⟨rows₁, hupdate, rfl⟩, rows, hwrite, ?_⟩
        simp only [length_cons, Nat.add_assoc, Nat.add_comm 1]
        rfl
    | none =>
      have hfind : (existing.find? fun post => post.providerMediaId == item.providerMediaId) =
          none := hfound
      have hkey : existingPost existing ((mediaWriter context run importedAt).key (item, id)) =
          none := hfound
      rw [hfind, PageWriter.inserted_cons_of_none hkey, PageWriter.updated_cons_of_none hkey]
      simp only [PageWriter.write_cons_of_none hkey, run_bind_eq_ok, WorkerTable.run_create, ih]
      constructor
      · rintro ⟨⟨⟩, db', ⟨rows₁, hcreate, rfl⟩, rows, hwrite, rfl⟩
        refine ⟨rows, ⟨rows₁, hcreate, hwrite⟩, ?_⟩
        simp only [length_cons, Nat.add_assoc, Nat.add_comm 1]
        rfl
      · rintro ⟨rows, ⟨rows₁, hcreate, hwrite⟩, rfl⟩
        refine ⟨(), _, ⟨rows₁, hcreate, rfl⟩, rows, hwrite, ?_⟩
        simp only [length_cons, Nat.add_assoc, Nat.add_comm 1]
        rfl

end Page

/-! ### The page -/

section Commit

variable (context : WorkspaceContext) (input : CommitInstagramMediaPageInput)
  (db : Database WorkerTables)

def activeRun : Option SyncRun :=
  db.app.syncRuns.findFirst fun row => row.id == input.syncRunId && row.state == .running &&
    row.workspaceId == context.workspaceId

/-- The run after a page. -/
def advancedRun (counts : InstagramMediaPageCommit) (row : SyncRun) : SyncRun :=
  { row with
    checkpointAt := some input.importedAt
    cursor := input.cursor
    itemsImported := row.itemsImported + counts.imported
    itemsInvalid := row.itemsInvalid + input.invalidCount
    itemsSeen := row.itemsSeen + (input.media.length + input.invalidCount + input.skippedCount)
    itemsSkipped := row.itemsSkipped + input.skippedCount
    itemsUpdated := row.itemsUpdated + counts.updated
    pagesCompleted := row.pagesCompleted + 1
    stage := input.stage }

/-- The posts of an account that the items of a page are looked up in. -/
def lookedUp (run : SyncRun) : List InstagramPost :=
  db.app.instagramPosts.rows.filter fun row =>
    row.instagramAccountId == run.instagramAccountId &&
      (input.media.map fun entry => entry.1.providerMediaId).contains row.providerMediaId

/-- A page that can be committed whatever its items are called: its run is active, its counts,
stage and cursor are valid, and its values fit their columns. -/
structure MediaPageInOrder : Prop where
  stage : isSafeJobStage input.stage = true
  invalid : isSafeInteger input.invalidCount = true
  skipped : isSafeInteger input.skippedCount = true
  cursor : input.cursor ≠ some ""
  active : (activeRun context input db).isSome = true
  fits : ∀ entry ∈ input.media, ∀ cell ∈ entry.1.cells, cell.Fits

/-- The items of a page whose identifier has no post in the account. -/
def newMedia (run : SyncRun) : List (NormalisedInstagramMedia × String) :=
  input.media.filter fun entry => !db.app.instagramPosts.rows.any fun post =>
    post.instagramAccountId == run.instagramAccountId &&
      post.providerMediaId == entry.1.providerMediaId

/-- No identifier without a post stands twice in the page. -/
def NewMediaOnce : Prop := ∀ run, activeRun context input db = some run →
  ((newMedia input db run).map fun entry => entry.1.providerMediaId).Nodup

/-- The identifiers that are created for the page are new. -/
structure CreatedIdsNew : Prop where
  distinct : (input.media.map Prod.snd).Nodup
  unused : ∀ entry ∈ input.media, ∀ post ∈ db.app.instagramPosts.rows, post.id ≠ entry.2

/-- What a page leaves: one post for each provider identifier, with the data of the last item
under it, and every older post under its own identifier and first import. -/
structure MediaPageUpserted (run : SyncRun) (counts : InstagramMediaPageCommit)
    (db' : Database WorkerTables) : Prop where
  one : ∀ entry ∈ input.media, (db'.app.instagramPosts.rows.countP fun post =>
    post.instagramAccountId == run.instagramAccountId &&
      post.providerMediaId == entry.1.providerMediaId) = 1
  last : ∀ before entry after, input.media = before ++ entry :: after →
    (∀ later ∈ after, later.1.providerMediaId ≠ entry.1.providerMediaId) →
      ∃ post ∈ db'.app.instagramPosts.rows, post.instagramAccountId = run.instagramAccountId ∧
        post.providerMediaId = entry.1.providerMediaId ∧
          importedPost entry.1 input.importedAt run.id post = post
  kept : ∀ post ∈ db.app.instagramPosts.rows, ∃ post' ∈ db'.app.instagramPosts.rows,
    post'.id = post.id ∧ post'.firstImportedAt = post.firstImportedAt ∧
      post'.instagramAccountId = post.instagramAccountId ∧
        post'.providerMediaId = post.providerMediaId
  counted : counts.imported + counts.updated = input.media.length

/-- The page is committed, as an upsert by provider identifier. -/
def MediaPageStored : Prop :=
  ∃ run counts db', activeRun context input db = some run ∧
    (commitMediaPageColumns context input).commit db = (.ok counts, db') ∧
      MediaPageUpserted input db run counts db'

end Commit

section Conditions

variable {context : WorkspaceContext} {input : CommitInstagramMediaPageInput}
  {db db' : Database WorkerTables} {run : SyncRun} {counts : InstagramMediaPageCommit}
  {importedAt : ℤ}

private theorem of_activeRun (hrun : activeRun context input db = some run) :
    run ∈ db.app.syncRuns.rows ∧ run.id = input.syncRunId ∧ run.state = .running ∧
      run.workspaceId = context.workspaceId := by
  have hfound := List.find?_some hrun
  simp only [Bool.and_eq_true, beq_iff_eq] at hfound
  exact ⟨mem_of_find?_eq_some hrun, hfound.1.1, hfound.1.2, hfound.2⟩

/-- The run of a page moves on, unless its cursor is empty. -/
theorem exists_advance_iff (counts : InstagramMediaPageCommit)
    (hrun : activeRun context input db = some run) :
    (∃ runs, db.app.syncRuns.updateMany (advancedRun input counts) (fun row => row.id == run.id &&
        row.state == .running && row.workspaceId == context.workspaceId) = .ok (runs, 1)) ↔
      input.cursor ≠ some "" := by
  obtain ⟨hmem, -, hstate, hworkspace⟩ := of_activeRun hrun
  have hselected : (run.id == run.id && run.state == .running &&
      run.workspaceId == context.workspaceId) = true := by
    simp [hstate, hworkspace]
  have hchecked : ∀ row : SyncRun, syncRunSchema.failedCheck (advancedRun input counts row) = none ↔
      input.cursor ≠ some "" := by
    intro row
    rw [Schema.failedCheck_eq_none]
    cases hcursor : input.cursor <;> simp [syncRunSchema, advancedRun, hcursor]
  constructor
  · rintro ⟨runs, hupdate⟩
    obtain ⟨hrows, -⟩ := Table.updateMany_eq_ok.mp hupdate
    refine (hchecked run).mp (runs.checked ?_)
    rw [hrows]
    exact mem_map.mpr ⟨run, hmem, if_pos hselected⟩
  · intro hcursor
    have hkeys : syncRunSchema.KeepsKeys (advancedRun input counts) := by
      intro index hindex row other
      rcases mem_cons.mp hindex with rfl | hindex
      · exact ⟨rfl, rfl⟩
      rcases mem_cons.mp hindex with rfl | hindex
      · exact ⟨rfl, rfl⟩
      · rw [mem_singleton.mp hindex]
        exact ⟨rfl, rfl⟩
    obtain ⟨runs, -, hupdate⟩ := db.app.syncRuns.updateMany_of_freesKeys hkeys.frees
      (fun row => row.id == run.id && row.state == .running &&
        row.workspaceId == context.workspaceId) fun row _ _ => (hchecked row).mpr hcursor
    have hone : (db.app.syncRuns.rows.countP fun row => row.id == run.id &&
        row.state == .running && row.workspaceId == context.workspaceId) = 1 := by
      refine countP_eq_one_of_pairwise ?_ hmem hselected
      refine (db.app.syncRuns.pairwise_key syncRunSchema_keyedBy_id).imp fun hne hboth => hne ?_
      simp only [Bool.and_eq_true, beq_iff_eq] at hboth
      rw [hboth.1.1.1, hboth.2.1.1]
    exact ⟨runs, by rw [hupdate, hone]⟩

private theorem run_bind_activeRun {β : Type} {next : Option SyncRun → WorkerTransaction β}
    {found : Option SyncRun} (hrun : activeRun context input db = found) :
    ((syncRun.findFirst fun row => row.id == input.syncRunId && row.state == .running &&
      row.workspaceId == context.workspaceId) >>= next).run db = (next found).run db := by
  rw [← hrun]
  rfl

/-- What a page commits, before its columns are looked at. -/
theorem run_commitInstagramMediaPage :
    (commitInstagramMediaPage context input).run db = .ok (counts, db') ↔
      isSafeJobStage input.stage ∧ isSafeInteger input.invalidCount ∧
        isSafeInteger input.skippedCount ∧
        ∃ run rows runs, activeRun context input db = some run ∧
          (mediaWriter context run input.importedAt).write
            (existingPost (lookedUp input db run)) input.media db.app.instagramPosts = .ok rows ∧
          counts = ⟨((mediaWriter context run input.importedAt).inserted
              (existingPost (lookedUp input db run)) input.media).length,
            ((mediaWriter context run input.importedAt).updated
              (existingPost (lookedUp input db run)) input.media).length⟩ ∧
          db.app.syncRuns.updateMany (advancedRun input counts) (fun row => row.id == run.id &&
            row.state == .running && row.workspaceId == context.workspaceId) = .ok (runs, 1) ∧
          db' = { db with app := { db.app with instagramPosts := rows, syncRuns := runs } } := by
  unfold commitInstagramMediaPage
  by_cases hstage : isSafeJobStage input.stage = true
  swap
  · rw [if_pos (Bool.not_eq_true _ ▸ hstage)]
    exact iff_of_false run_raise_ne fun h => hstage h.1
  by_cases hinvalid : isSafeInteger input.invalidCount = true
  swap
  · rw [if_neg (by rw [hstage]; decide), if_pos (Bool.not_eq_true _ ▸ hinvalid)]
    exact iff_of_false run_raise_ne fun h => hinvalid h.2.1
  by_cases hskipped : isSafeInteger input.skippedCount = true
  swap
  · rw [if_neg (by rw [hstage]; decide), if_neg (by rw [hinvalid]; decide),
      if_pos (Bool.not_eq_true _ ▸ hskipped)]
    exact iff_of_false run_raise_ne fun h => hskipped h.2.2.1
  rw [if_neg (by rw [hstage]; decide), if_neg (by rw [hinvalid]; decide),
    if_neg (by rw [hskipped]; decide), and_iff_right hstage, and_iff_right hinvalid,
    and_iff_right hskipped]
  cases hrun : activeRun context input db with
  | none =>
    rw [run_bind_activeRun hrun]
    exact iff_of_false run_raise_ne fun ⟨_, _, _, hnone, _⟩ => by cases hnone
  | some run =>
    rw [run_bind_activeRun hrun]
    rw [run_bind_eq_ok]
    constructor
    · rintro ⟨existing, db₀, hread, hrest⟩
      cases hread
      obtain ⟨counts₀, db₁, himport, hrest⟩ := run_bind_eq_ok.mp hrest
      obtain ⟨rows, hwrite, heq⟩ := run_importMedia.mp himport
      obtain ⟨advanced, db₂, hadvance, hrest⟩ := run_bind_eq_ok.mp hrest
      obtain ⟨runs, hupdate, hdb⟩ := WorkerTable.run_updateMany.mp hadvance
      by_cases hone : advanced = 1
      · rw [if_neg (not_not.mpr hone)] at hrest
        cases hrest
        cases heq
        rw [Nat.zero_add, Nat.zero_add] at hupdate
        subst hone
        refine ⟨run, rows, runs, rfl, hwrite, ?_, ?_, hdb⟩
        · rw [Nat.zero_add, Nat.zero_add]
          rfl
        · simp only [Nat.zero_add]
          exact hupdate
      · rw [if_pos hone] at hrest
        exact absurd hrest run_raise_ne
    · rintro ⟨found, rows, runs, hfound, hwrite, rfl, hupdate, rfl⟩
      cases hfound
      refine ⟨lookedUp input db run, db, rfl, run_bind_eq_ok.mpr ⟨_, _,
        run_importMedia.mpr ⟨rows, hwrite, rfl⟩, run_bind_eq_ok.mpr ⟨1, _,
          WorkerTable.run_updateMany.mpr ⟨runs, ?_, rfl⟩, ?_⟩⟩⟩
      · simp only [Nat.zero_add]
        exact hupdate
      · rw [if_neg (by decide)]
        simp only [Nat.zero_add]
        rfl

private theorem rowKey_mediaWriter {post : InstagramPost} {providerMediaId : Utf16} :
    (mediaWriter context run importedAt).rowKey post = some providerMediaId ↔
      post.instagramAccountId = run.instagramAccountId ∧ post.providerMediaId = providerMediaId :=
  Option.ite_none_right_eq_some.trans (and_congr_right fun _ => Option.some_inj)

private theorem existingPost_eq_some {providerMediaId : Utf16} {found : InstagramPost}
    (h : existingPost (lookedUp input db run) providerMediaId = some found) :
    found ∈ db.app.instagramPosts.rows ∧ found.instagramAccountId = run.instagramAccountId ∧
      found.providerMediaId = providerMediaId := by
  obtain ⟨hmem, hselected⟩ := mem_filter.mp (mem_of_find?_eq_some h)
  have hmedia := List.find?_some h
  simp only [Bool.and_eq_true, beq_iff_eq] at hselected hmedia
  exact ⟨hmem, hselected.1, hmedia⟩

/-- Nothing is looked up for an item exactly if the account has no post under its identifier. -/
theorem isNone_existingPost {entry : NormalisedInstagramMedia × String} (h : entry ∈ input.media) :
    (existingPost (lookedUp input db run) entry.1.providerMediaId).isNone =
      !db.app.instagramPosts.rows.any fun post =>
        post.instagramAccountId == run.instagramAccountId &&
          post.providerMediaId == entry.1.providerMediaId := by
  rw [Bool.eq_iff_iff, Option.isNone_iff_eq_none, Bool.not_eq_true', any_eq_false]
  unfold existingPost lookedUp
  rw [List.find?_eq_none]
  simp only [mem_filter, Bool.and_eq_true, beq_iff_eq, and_imp]
  constructor
  · rintro hnone post hpost ⟨haccount, hmedia⟩
    refine hnone post hpost haccount ?_ hmedia
    rw [contains_eq_mem, decide_eq_true_eq, hmedia]
    exact mem_map_of_mem h
  · intro hnone post hpost haccount _ hmedia
    exact hnone post hpost ⟨haccount, hmedia⟩

private theorem inserted_mediaWriter :
    (mediaWriter context run importedAt).inserted (existingPost (lookedUp input db run))
      input.media = newMedia input db run :=
  filter_congr fun _ hentry => isNone_existingPost hentry

private theorem finds_mediaWriter : (mediaWriter context run importedAt).Finds
    (existingPost (lookedUp input db run)) db.app.instagramPosts := by
  intro providerMediaId found hfound
  obtain ⟨hmem, hsame⟩ := existingPost_eq_some hfound
  exact ⟨found, hmem, rfl, rowKey_mediaWriter.mpr hsame⟩

private theorem fresh_mediaWriter (hnew : CreatedIdsNew input db) :
    (mediaWriter context run importedAt).Fresh db.app.instagramPosts input.media where
  stored old hold entry hentry hne := by
    rw [Schema.collision_eq_none]
    intro index hindex
    rcases mem_cons.mp hindex with rfl | hindex
    · exact beq_false_of_ne (hnew.unused entry hentry old hold)
    · rw [mem_singleton.mp hindex]
      refine Bool.eq_false_iff.mpr fun hsame => hne (rowKey_mediaWriter.mpr ?_)
      rw [Bool.and_eq_true, beq_iff_eq, beq_iff_eq] at hsame
      exact hsame
  other := by
    refine (pairwise_map.mp hnew.distinct).imp fun {entry later} hids hkeys => ?_
    rw [Schema.collision_eq_none]
    intro index hindex
    rcases mem_cons.mp hindex with rfl | hindex
    · exact beq_false_of_ne hids
    · rw [mem_singleton.mp hindex]
      refine Bool.eq_false_iff.mpr fun hsame => hkeys ?_
      rw [Bool.and_eq_true] at hsame
      exact beq_iff_eq.mp hsame.2

/-- A page is written exactly if no identifier without a post stands twice in it. -/
theorem exists_write_media_iff (hnew : CreatedIdsNew input db) :
    (∃ rows, (mediaWriter context run importedAt).write (existingPost (lookedUp input db run))
        input.media db.app.instagramPosts = .ok rows) ↔
      ((newMedia input db run).map fun entry => entry.1.providerMediaId).Nodup := by
  have hlooked : (mediaWriter context run importedAt).LooksUp
      (existingPost (lookedUp input db run)) input.media db.app.instagramPosts := by
    intro entry hentry old hold hkey
    obtain ⟨hmem, hnone⟩ := mem_filter.mp hentry
    have hnone : (existingPost (lookedUp input db run) entry.1.providerMediaId).isNone = true :=
      hnone
    rw [isNone_existingPost hmem, Bool.not_eq_true', any_eq_false] at hnone
    refine hnone old hold ?_
    rw [Bool.and_eq_true, beq_iff_eq, beq_iff_eq]
    exact rowKey_mediaWriter.mp hkey
  rw [PageWriter.exists_write_iff (fresh_mediaWriter hnew) finds_mediaWriter hlooked,
    inserted_mediaWriter]
  exact and_iff_right fun _ _ => trivial

private theorem mediaPageUpserted_of_write {rows : Table instagramPostSchema}
    (hwrite : (mediaWriter context run input.importedAt).write
      (existingPost (lookedUp input db run)) input.media db.app.instagramPosts = .ok rows)
    (hrows : db'.app.instagramPosts = rows)
    (hcounts : counts = ⟨((mediaWriter context run input.importedAt).inserted
        (existingPost (lookedUp input db run)) input.media).length,
      ((mediaWriter context run input.importedAt).updated
        (existingPost (lookedUp input db run)) input.media).length⟩) :
    MediaPageUpserted input db run counts db' := by
  obtain ⟨hone, hlast, hkept⟩ := PageWriter.upserted_of_write finds_mediaWriter hwrite
  constructor
  case one =>
    intro entry hentry
    rw [hrows, ← hone entry hentry]
    refine countP_congr fun post _ => ?_
    rw [decide_eq_true_eq, Bool.and_eq_true, beq_iff_eq, beq_iff_eq]
    exact rowKey_mediaWriter.symm
  case last =>
    intro before entry after hsplit hafter
    obtain ⟨post, hpost, hkey, hdata⟩ := hlast before entry after hsplit hafter
    obtain ⟨haccount, hmedia⟩ := rowKey_mediaWriter.mp hkey
    rw [hrows]
    exact ⟨post, hpost, haccount, hmedia, hdata⟩
  case kept =>
    intro post hpost
    rw [hrows]
    refine ⟨_, hkept post hpost, ?_⟩
    exact ⟨PageWriter.keeps_latest InstagramPost.id (fun _ _ => rfl) _ post,
      PageWriter.keeps_latest InstagramPost.firstImportedAt (fun _ _ => rfl) _ post,
      PageWriter.keeps_latest InstagramPost.instagramAccountId (fun _ _ => rfl) _ post,
      PageWriter.keeps_latest InstagramPost.providerMediaId (fun _ _ => rfl) _ post⟩
  case counted =>
    rw [hcounts]
    exact PageWriter.length_inserted_add_updated _ _

/-- **What a page of media commits.** A page is stored, as an upsert, exactly if it is in order and
no identifier without a post stands in it twice. -/
theorem mediaPageStored_iff (hnew : CreatedIdsNew input db) :
    MediaPageStored context input db ↔
      MediaPageInOrder context input db ∧ NewMediaOnce context input db := by
  have hcolumns : ∀ {counts db'}, (commitMediaPageColumns context input).commit db =
        (.ok counts, db') ↔
      (commitInstagramMediaPage context input).run db = .ok (counts, db') ∧
        ∀ entry ∈ input.media, ∀ cell ∈ entry.1.cells, cell.Fits := by
    intro counts db'
    rw [commit_eq_ok, commitMediaPageColumns, run_bind_eq_ok]
    cases hunfit : unfitCell (input.media.flatMap fun entry => entry.1.cells) with
    | none =>
      have hfits : ∀ entry ∈ input.media, ∀ cell ∈ entry.1.cells, cell.Fits := fun entry hentry cell
        hcell => unfitCell_eq_none.mp hunfit cell (mem_flatMap.mpr ⟨entry, hentry, hcell⟩)
      rw [and_iff_left hfits]
      constructor
      · rintro ⟨counts', db'', hpage, hpure⟩
        cases hpure
        exact hpage
      · intro hpage
        exact ⟨counts, db', hpage, rfl⟩
    | some cell =>
      refine iff_of_false (fun ⟨_, _, _, hraised⟩ => run_raise_ne hraised) fun ⟨_, hfits⟩ => ?_
      have hnone : unfitCell (input.media.flatMap fun entry => entry.1.cells) = none := by
        rw [unfitCell_eq_none]
        intro cell hcell
        obtain ⟨entry, hentry, hcell⟩ := mem_flatMap.mp hcell
        exact hfits entry hentry cell hcell
      rw [hnone] at hunfit
      cases hunfit
  constructor
  · rintro ⟨run, counts, db', hrun, hcommit, -⟩
    obtain ⟨hpage, hfits⟩ := hcolumns.mp hcommit
    obtain ⟨hstage, hinvalid, hskipped, found, rows, runs, hfound, hwrite, -, hupdate, -⟩ :=
      run_commitInstagramMediaPage.mp hpage
    refine ⟨⟨hstage, hinvalid, hskipped, (exists_advance_iff _ hfound).mp ⟨runs, hupdate⟩, ?_, hfits⟩,
      fun run' hrun' => ?_⟩
    · rw [hfound]
      rfl
    · rw [hfound] at hrun'
      cases hrun'
      exact (exists_write_media_iff hnew).mp ⟨rows, hwrite⟩
  · rintro ⟨⟨hstage, hinvalid, hskipped, hcursor, hactive, hfits⟩, honce⟩
    obtain ⟨run, hrun⟩ := Option.isSome_iff_exists.mp hactive
    obtain ⟨rows, hwrite⟩ := (exists_write_media_iff hnew).mpr (honce run hrun)
    obtain ⟨runs, hupdate⟩ := (exists_advance_iff ⟨_, _⟩ hrun).mpr hcursor
    refine ⟨run, _, _, hrun, hcolumns.mpr ⟨run_commitInstagramMediaPage.mpr ⟨hstage, hinvalid,
      hskipped, run, rows, runs, hrun, hwrite, rfl, hupdate, rfl⟩, hfits⟩, ?_⟩
    exact mediaPageUpserted_of_write hwrite rfl rfl

end Conditions

end ContentAutomation
