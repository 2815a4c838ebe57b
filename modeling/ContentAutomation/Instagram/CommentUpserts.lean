import ContentAutomation.Instagram.MediaUpserts

/-!
# Committing a page of comments

A page of comments is written like a page of media, by provider identifier under one post. A
thread arrives nested and is stored flat, so a reply that the provider also lists by itself stands
in the page twice.
-/

namespace ContentAutomation

open Relational Transaction List PageWriter

/-! ### Tables -/

/-- A row of `instagram_comments`. -/
structure InstagramComment where
  id : String
  workspaceId : String
  instagramPostId : String
  providerCommentId : Utf16
  parentProviderCommentId : Option Utf16
  text : Utf16
  username : Option Utf16
  likeCount : Option ℤ
  publishedAt : ℤ
  firstImportedAt : ℤ
  lastImportedAt : ℤ
  rawPayload : Json
  rawPayloadHash : HexDigest
  rawApiVersion : Utf16

/-- The constraints of `instagram_comments`. -/
def instagramCommentSchema : Schema InstagramComment where
  checks :=
    [("instagram_comments_like_count_non_negative", fun row =>
      row.likeCount.all fun likeCount => decide (0 ≤ likeCount)),
      ("instagram_comments_parent_not_self", fun row =>
        row.parentProviderCommentId != some row.providerCommentId)]
  indexes :=
    [("instagram_comments_pkey", fun row other => row.id == other.id),
      ("instagram_comments_instagram_post_id_provider_comment_id_key", fun row other =>
        row.instagramPostId == other.instagramPostId &&
          row.providerCommentId == other.providerCommentId)]

private theorem instagramCommentSchema_keyedBy_id :
    instagramCommentSchema.KeyedBy InstagramComment.id :=
  ⟨_, mem_cons_self, fun _ _ h => by simpa using h⟩

private theorem instagramCommentSchema_keyedBy_comment :
    instagramCommentSchema.KeyedBy fun row : InstagramComment =>
      (row.instagramPostId, row.providerCommentId) :=
  ⟨_, mem_cons_of_mem _ mem_cons_self, fun _ _ h => by simpa using h⟩

/-- The row of `instagram_posts` that a comment names, as its foreign key does. -/
def HasPost (posts : Table instagramPostSchema) (workspaceId instagramPostId : String) : Prop :=
  ∃ post ∈ posts.rows, post.workspaceId = workspaceId ∧ post.id = instagramPostId

instance (posts : Table instagramPostSchema) (workspaceId instagramPostId : String) :
    Decidable (HasPost posts workspaceId instagramPostId) :=
  inferInstanceAs (Decidable (∃ post ∈ posts.rows, _))

/-- The comments, and the posts that they are under. -/
@[ext] structure CommentTables where
  instagramPosts : Table instagramPostSchema
  instagramComments : Table instagramCommentSchema
  /-- `instagram_comments_workspace_id_instagram_post_id_fkey`. -/
  owned : ∀ comment ∈ instagramComments.rows,
    HasPost instagramPosts comment.workspaceId comment.instagramPostId

/-- Why the database refuses a statement on comments. -/
inductive CommentRefusal
  | violation (violation : Violation)
  | foreignKey
  | column (name : String)
  | recordNotFound

/-- A transaction on comments. -/
abbrev CommentTransaction (α : Type) := Transaction CommentTables CommentRefusal α

/-! ### Statements -/

/-- `CommitInstagramCommentsInput`; each comment comes with the identifier that is created for its
row if it has none. -/
structure CommitInstagramCommentsInput where
  comments : List (NormalisedInstagramComment × String)
  importedAt : ℤ
  instagramPostId : String
  rawApiVersion : Utf16

/-- `InstagramCommentsCommit`. -/
structure InstagramCommentsCommit where
  imported : ℕ
  updated : ℕ

/-- What an import writes to a comment. -/
def importedComment (comment : NormalisedInstagramComment) (importedAt : ℤ)
    (rawApiVersion : Utf16) (row : InstagramComment) : InstagramComment :=
  { row with
    lastImportedAt := importedAt
    likeCount := comment.likeCount
    parentProviderCommentId := comment.parentProviderCommentId
    publishedAt := comment.publishedAt
    rawApiVersion
    rawPayload := comment.rawPayload
    rawPayloadHash := comment.rawPayloadHash
    text := comment.text
    username := comment.username }

/-- A comment that an import creates. -/
def createdComment (context : WorkspaceContext) (input : CommitInstagramCommentsInput)
    (comment : NormalisedInstagramComment) (id : String) : InstagramComment where
  id
  workspaceId := context.workspaceId
  instagramPostId := input.instagramPostId
  providerCommentId := comment.providerCommentId
  parentProviderCommentId := comment.parentProviderCommentId
  text := comment.text
  username := comment.username
  likeCount := comment.likeCount
  publishedAt := comment.publishedAt
  firstImportedAt := input.importedAt
  lastImportedAt := input.importedAt
  rawPayload := comment.rawPayload
  rawPayloadHash := comment.rawPayloadHash
  rawApiVersion := input.rawApiVersion

/-- The cells that a statement writes of a comment. -/
def commentCells (input : CommitInstagramCommentsInput) (comment : NormalisedInstagramComment) :
    List Cell :=
  ⟨"raw_api_version", .varChar 16, some (.text input.rawApiVersion)⟩ :: comment.cells

/-- Store other comments, under the posts that are there. -/
def storeComments (comments : Table instagramCommentSchema) : CommentTransaction Unit := fun tables =>
  if howned : ∀ comment ∈ comments.rows,
      HasPost tables.instagramPosts comment.workspaceId comment.instagramPostId then
    .ok ((), ⟨tables.instagramPosts, comments, howned⟩)
  else .error .foreignKey

/-- `transaction.instagramComment.update`, by identifier. -/
def updateComment (input : CommitInstagramCommentsInput) (comment : NormalisedInstagramComment)
    (id : String) : CommentTransaction Unit := fun tables =>
  match unfitCell (commentCells input comment) with
  | some cell => .error (.column cell.column)
  | none =>
    match tables.instagramComments.updateMany
        (importedComment comment input.importedAt input.rawApiVersion) (fun row => row.id == id) with
    | .error violation => .error (.violation violation)
    | .ok (_, 0) => .error .recordNotFound
    | .ok (comments, _) => storeComments comments tables

/-- `transaction.instagramComment.create`. -/
def createComment (context : WorkspaceContext) (input : CommitInstagramCommentsInput)
    (comment : NormalisedInstagramComment) (id : String) : CommentTransaction Unit := fun tables =>
  match unfitCell (commentCells input comment) with
  | some cell => .error (.column cell.column)
  | none =>
    match tables.instagramComments.create (createdComment context input comment id) with
    | .error violation => .error (.violation violation)
    | .ok comments => storeComments comments tables

/-- The comments of a page, one after the other. -/
def importComments (context : WorkspaceContext) (input : CommitInstagramCommentsInput)
    (existing : List InstagramComment) : List (NormalisedInstagramComment × String) →
      InstagramCommentsCommit → CommentTransaction InstagramCommentsCommit
  | [], counts => pure counts
  | (comment, id) :: comments, counts =>
    match existing.find? fun row => row.providerCommentId == comment.providerCommentId with
    | some found => do
      updateComment input comment found.id
      importComments context input existing comments { counts with updated := counts.updated + 1 }
    | none => do
      createComment context input comment id
      importComments context input existing comments { counts with imported := counts.imported + 1 }

/-- The stored comments that a page is looked up in. -/
def storedComments (context : WorkspaceContext) (input : CommitInstagramCommentsInput)
    (tables : CommentTables) : List InstagramComment :=
  tables.instagramComments.rows.filter fun row => row.instagramPostId == input.instagramPostId &&
    (input.comments.map fun entry => entry.1.providerCommentId).contains row.providerCommentId &&
      row.workspaceId == context.workspaceId

/-- `commitInstagramComments`. -/
def commitInstagramComments (context : WorkspaceContext) (input : CommitInstagramCommentsInput) :
    CommentTransaction InstagramCommentsCommit :=
  if input.comments.isEmpty then pure ⟨0, 0⟩
  else do
    let existing ← read (storedComments context input)
    importComments context input existing input.comments ⟨0, 0⟩

/-- A comment passes the checks of its table: its likes are not negative, and it does not answer
itself. -/
structure CommentPasses (comment : NormalisedInstagramComment) : Prop where
  likes : ∀ likeCount, comment.likeCount = some likeCount → 0 ≤ likeCount
  parent : comment.parentProviderCommentId ≠ some comment.providerCommentId

private theorem failedCheck_importedComment {comment : NormalisedInstagramComment} {importedAt : ℤ}
    {rawApiVersion : Utf16} (row : InstagramComment)
    (hkey : row.providerCommentId = comment.providerCommentId) :
    instagramCommentSchema.failedCheck (importedComment comment importedAt rawApiVersion row) = none ↔
      CommentPasses comment := by
  rw [Schema.failedCheck_eq_none]
  simp only [instagramCommentSchema, importedComment, forall_mem_cons, not_mem_nil,
    false_imp_iff, implies_true, and_true, Option.all_eq_true, decide_eq_true_eq, bne_iff_ne, hkey]
  exact ⟨fun ⟨hlikes, hparent⟩ => ⟨hlikes, hparent⟩, fun ⟨hlikes, hparent⟩ => ⟨hlikes, hparent⟩⟩

/-- How comments are written under a post. -/
def commentWriter (context : WorkspaceContext) (input : CommitInstagramCommentsInput) :
    PageWriter instagramCommentSchema (NormalisedInstagramComment × String) Utf16 String where
  key entry := entry.1.providerCommentId
  rowKey row :=
    if row.instagramPostId = input.instagramPostId then some row.providerCommentId else none
  rowId := InstagramComment.id
  data entry := importedComment entry.1 input.importedAt input.rawApiVersion
  row entry := createdComment context input entry.1 entry.2
  passes entry := CommentPasses entry.1
  collides first second k hfirst hsecond := by
    obtain ⟨hpost, hcomment⟩ := Option.ite_none_right_eq_some.mp hfirst
    obtain ⟨hpost', hcomment'⟩ := Option.ite_none_right_eq_some.mp hsecond
    refine instagramCommentSchema_keyedBy_comment.collision_ne_none ?_
    rw [hpost, hpost', Option.some.inj (hcomment.trans hcomment'.symm)]
  keyed := instagramCommentSchema_keyedBy_id
  keepsKeys item := by
    intro index hindex row other
    rcases mem_cons.mp hindex with rfl | hindex
    · exact ⟨rfl, rfl⟩
    · rw [mem_singleton.mp hindex]
      exact ⟨rfl, rfl⟩
  rowKey_data _ _ := rfl
  rowId_data _ _ := rfl
  rowKey_row _ := if_pos rfl
  data_data _ _ := rfl
  data_row _ := rfl
  checked_data _ old hkey :=
    failedCheck_importedComment old (Option.some.inj (Option.ite_none_right_eq_some.mp hkey).2)
  checked_row entry := failedCheck_importedComment (createdComment context input entry.1 entry.2) rfl

section Statements

variable {context : WorkspaceContext} {input : CommitInstagramCommentsInput}
  {comment : NormalisedInstagramComment} {id : String} {tables tables' : CommentTables}
  {comments : Table instagramCommentSchema}

private theorem storeComments_eq_ok (howned : ∀ comment ∈ comments.rows,
      HasPost tables.instagramPosts comment.workspaceId comment.instagramPostId) :
    storeComments comments tables = .ok ((), tables') ↔
      tables'.instagramPosts = tables.instagramPosts ∧ tables'.instagramComments = comments := by
  unfold storeComments
  rw [dif_pos howned, Except.ok.injEq, Prod.mk.injEq]
  constructor
  · rintro ⟨-, rfl⟩
    exact ⟨rfl, rfl⟩
  · rintro ⟨hposts, hcomments⟩
    exact ⟨rfl, CommentTables.ext hposts.symm hcomments.symm⟩

private theorem owned_of_update {importedAt : ℤ} {rawApiVersion : Utf16} {count : ℕ}
    {selects : InstagramComment → Bool}
    (h : tables.instagramComments.updateMany (importedComment comment importedAt rawApiVersion)
      selects = .ok (comments, count)) :
    ∀ row ∈ comments.rows, HasPost tables.instagramPosts row.workspaceId row.instagramPostId := by
  intro row hrow
  rw [(Table.updateMany_eq_ok.mp h).1] at hrow
  obtain ⟨old, hold, rfl⟩ := mem_map.mp hrow
  split <;> exact tables.owned old hold

/-- An insert leaves every comment under its post, if that of the new one is there. -/
theorem owned_of_create
    (hpost : HasPost tables.instagramPosts context.workspaceId input.instagramPostId)
    (h : tables.instagramComments.create (createdComment context input comment id) = .ok comments) :
    ∀ row ∈ comments.rows, HasPost tables.instagramPosts row.workspaceId row.instagramPostId := by
  intro row hrow
  rw [Table.create_eq_ok.mp h, mem_append, mem_singleton] at hrow
  rcases hrow with hold | rfl
  · exact tables.owned row hold
  · exact hpost

/-- An update returns where its values fit and its row is there. -/
theorem run_updateComment : (updateComment input comment id).run tables = .ok ((), tables') ↔
    (∀ cell ∈ commentCells input comment, cell.Fits) ∧ ∃ comments n,
      tables.instagramComments.updateMany
        (importedComment comment input.importedAt input.rawApiVersion) (fun row => row.id == id) =
          .ok (comments, n + 1) ∧
      tables'.instagramPosts = tables.instagramPosts ∧ tables'.instagramComments = comments := by
  unfold updateComment
  rw [← unfitCell_eq_none]
  simp only [StateT.run]
  cases unfitCell (commentCells input comment) with
  | some cell => simp
  | none =>
    rcases hupdate : tables.instagramComments.updateMany
        (importedComment comment input.importedAt input.rawApiVersion) (fun row => row.id == id) with
      violation | ⟨comments, _ | n⟩
    · simp
    · simp
    · simp only [storeComments_eq_ok (owned_of_update hupdate), Except.ok.injEq, Prod.mk.injEq, true_and]
      constructor
      · intro h
        exact ⟨comments, n, ⟨rfl, rfl⟩, h⟩
      · rintro ⟨comments', n', ⟨rfl, -⟩, h⟩
        exact h

/-- An insert returns where its values fit, its post is there and its row is inserted. -/
theorem run_createComment :
    (createComment context input comment id).run tables = .ok ((), tables') ↔
      (∀ cell ∈ commentCells input comment, cell.Fits) ∧
        HasPost tables.instagramPosts context.workspaceId input.instagramPostId ∧ ∃ comments,
          tables.instagramComments.create (createdComment context input comment id) = .ok comments ∧
          tables'.instagramPosts = tables.instagramPosts ∧
            tables'.instagramComments = comments := by
  unfold createComment
  rw [← unfitCell_eq_none]
  simp only [StateT.run]
  cases unfitCell (commentCells input comment) with
  | some cell => simp
  | none =>
    cases hcreate : tables.instagramComments.create (createdComment context input comment id) with
    | error violation => simp
    | ok comments =>
      have hlast : createdComment context input comment id ∈ comments.rows := by
        rw [Table.create_eq_ok.mp hcreate]
        exact mem_append_right _ (mem_singleton_self _)
      simp only [true_and, Except.ok.injEq, exists_eq_left']
      by_cases hpost : HasPost tables.instagramPosts context.workspaceId input.instagramPostId
      · rw [storeComments_eq_ok (owned_of_create hpost hcreate), and_iff_right hpost]
      · refine iff_of_false (fun h => hpost ?_) fun h => hpost h.1
        unfold storeComments at h
        split at h
        · next howned => exact howned _ hlast
        · cases h

end Statements

/-! ### The page -/

section Page

variable {context : WorkspaceContext} {input : CommitInstagramCommentsInput}
  {tables tables' : CommentTables}

/-- The comment that was looked up for a provider identifier. -/
def existingComment (existing : List InstagramComment) (providerCommentId : Utf16) :
    Option InstagramComment :=
  existing.find? fun row => row.providerCommentId == providerCommentId

/-- The comments of a page return where they are written, their values fit, and the post of those
that are new is there. -/
theorem run_importComments {existing : List InstagramComment}
    {comments : List (NormalisedInstagramComment × String)} {counts counts' : InstagramCommentsCommit}
    (hfinds : (commentWriter context input).Finds (existingComment existing)
      tables.instagramComments) :
    (importComments context input existing comments counts).run tables = .ok (counts', tables') ↔
      (∃ rows, (commentWriter context input).write (existingComment existing) comments
          tables.instagramComments = .ok rows ∧
        tables'.instagramPosts = tables.instagramPosts ∧ tables'.instagramComments = rows) ∧
      counts' = ⟨counts.imported +
          ((commentWriter context input).inserted (existingComment existing) comments).length,
        counts.updated +
          ((commentWriter context input).updated (existingComment existing) comments).length⟩ ∧
      (∀ entry ∈ comments, ∀ cell ∈ commentCells input entry.1, cell.Fits) ∧
      ((commentWriter context input).inserted (existingComment existing) comments ≠ [] →
        HasPost tables.instagramPosts context.workspaceId input.instagramPostId) := by
  induction comments generalizing counts tables with
  | nil =>
    constructor
    · intro h
      obtain ⟨rfl, rfl⟩ := Prod.mk.inj (Except.ok.inj h)
      exact ⟨⟨_, rfl, rfl, rfl⟩, rfl,
        fun _ hmem => (not_mem_nil hmem).elim, fun hne => absurd rfl hne⟩
    · rintro ⟨⟨rows, hrows, hposts, hcomments⟩, rfl, -, -⟩
      cases hrows
      rw [CommentTables.ext hposts hcomments]
      rfl
  | cons entry comments ih =>
    obtain ⟨comment, id⟩ := entry
    unfold importComments
    rw [forall_mem_cons]
    cases hfound : existingComment existing comment.providerCommentId with
    | some found =>
      have hfind : (existing.find? fun row => row.providerCommentId == comment.providerCommentId) =
          some found := hfound
      have hkey : existingComment existing ((commentWriter context input).key (comment, id)) =
          some found := hfound
      rw [hfind, inserted_cons_of_some hkey, updated_cons_of_some hkey]
      rw [run_bind_eq_ok]
      constructor
      · rintro ⟨⟨⟩, tables₁, hupdate, hrest⟩
        obtain ⟨hfits, rows₁, n, hstatement, hposts, hrows⟩ := run_updateComment.mp hupdate
        obtain ⟨-, hmap, -⟩ := (updateMany_eq_ok_iff hfinds hkey).mp hstatement
        have hfinds₁ : (commentWriter context input).Finds (existingComment existing)
            tables₁.instagramComments := by
          rw [hrows]
          exact hfinds.rewrite hmap
        obtain ⟨⟨rows, hwrite, hposts', hrows'⟩, hcounts, hfits', hnew⟩ := (ih hfinds₁).mp hrest
        rw [hrows] at hwrite
        rw [hposts] at hposts' hnew
        refine ⟨⟨rows, (write_cons_of_some hkey).mpr ⟨rows₁, _, hstatement, hwrite⟩,
          hposts', hrows'⟩, ?_, ⟨hfits, hfits'⟩, hnew⟩
        rw [hcounts]
        simp only [length_cons, Nat.add_assoc, Nat.add_comm 1]
      · rintro ⟨⟨rows, hwrite, hposts, hrows⟩, hcounts, ⟨hfits, hfits'⟩, hnew⟩
        obtain ⟨rows₁, count, hstatement, hwrite⟩ := (write_cons_of_some hkey).mp hwrite
        obtain ⟨-, hmap, rfl⟩ := (updateMany_eq_ok_iff hfinds hkey).mp hstatement
        have hfinds₁ : (commentWriter context input).Finds (existingComment existing) rows₁ :=
          hfinds.rewrite hmap
        refine ⟨(), ⟨tables.instagramPosts, rows₁, owned_of_update hstatement⟩,
          run_updateComment.mpr ⟨hfits, rows₁, 0, hstatement, rfl, rfl⟩,
          (ih hfinds₁).mpr ⟨⟨rows, hwrite, hposts, hrows⟩, ?_, hfits', hnew⟩⟩
        rw [hcounts]
        simp only [length_cons, Nat.add_assoc, Nat.add_comm 1]
    | none =>
      have hfind : (existing.find? fun row => row.providerCommentId == comment.providerCommentId) =
          none := hfound
      have hkey : existingComment existing ((commentWriter context input).key (comment, id)) =
          none := hfound
      rw [hfind, inserted_cons_of_none hkey, updated_cons_of_none hkey]
      rw [run_bind_eq_ok]
      constructor
      · rintro ⟨⟨⟩, tables₁, hcreate, hrest⟩
        obtain ⟨hfits, hpost, rows₁, hstatement, hposts, hrows⟩ := run_createComment.mp hcreate
        have hfinds₁ : (commentWriter context input).Finds (existingComment existing)
            tables₁.instagramComments := by
          rw [hrows]
          exact hfinds.insert (Table.create_eq_ok.mp hstatement)
        obtain ⟨⟨rows, hwrite, hposts', hrows'⟩, hcounts, hfits', -⟩ := (ih hfinds₁).mp hrest
        rw [hrows] at hwrite
        rw [hposts] at hposts'
        refine ⟨⟨rows, (write_cons_of_none hkey).mpr ⟨rows₁, hstatement, hwrite⟩,
          hposts', hrows'⟩, ?_, ⟨hfits, hfits'⟩, fun _ => hpost⟩
        rw [hcounts]
        simp only [length_cons, Nat.add_assoc, Nat.add_comm 1]
      · rintro ⟨⟨rows, hwrite, hposts, hrows⟩, hcounts, ⟨hfits, hfits'⟩, hnew⟩
        have hpost := hnew (cons_ne_nil _ _)
        obtain ⟨rows₁, hstatement, hwrite⟩ := (write_cons_of_none hkey).mp hwrite
        have hfinds₁ : (commentWriter context input).Finds (existingComment existing) rows₁ :=
          hfinds.insert (Table.create_eq_ok.mp hstatement)
        refine ⟨(), ⟨tables.instagramPosts, rows₁, owned_of_create hpost hstatement⟩,
          run_createComment.mpr ⟨hfits, hpost, rows₁, hstatement, rfl, rfl⟩,
          (ih hfinds₁).mpr ⟨⟨rows, hwrite, hposts, hrows⟩, ?_, hfits', fun _ => hpost⟩⟩
        rw [hcounts]
        simp only [length_cons, Nat.add_assoc, Nat.add_comm 1]

end Page

section Commit

variable (context : WorkspaceContext) (input : CommitInstagramCommentsInput) (tables : CommentTables)

/-- A page of comments that can be committed whatever its comments are called: its post is there,
its values fit their columns, and its comments pass the checks. -/
structure CommentPageInOrder : Prop where
  post : input.comments ≠ [] →
    HasPost tables.instagramPosts context.workspaceId input.instagramPostId
  fits : ∀ entry ∈ input.comments, ∀ cell ∈ commentCells input entry.1, cell.Fits
  passes : ∀ entry ∈ input.comments, CommentPasses entry.1

/-- The comments of a page whose identifier has no row under the post. -/
def newComments : List (NormalisedInstagramComment × String) :=
  input.comments.filter fun entry => !tables.instagramComments.rows.any fun row =>
    row.instagramPostId == input.instagramPostId &&
      row.providerCommentId == entry.1.providerCommentId

/-- No identifier without a row stands twice in the page. -/
def NewCommentsOnce : Prop :=
  ((newComments input tables).map fun entry => entry.1.providerCommentId).Nodup

/-- The identifiers that are created for the page are new. -/
structure CreatedCommentIdsNew : Prop where
  distinct : (input.comments.map Prod.snd).Nodup
  unused : ∀ entry ∈ input.comments, ∀ row ∈ tables.instagramComments.rows, row.id ≠ entry.2

/-- What a page leaves: one row for each provider identifier, with the data of the last comment
under it, and every older row under its own identifier and first import. -/
structure CommentPageUpserted (counts : InstagramCommentsCommit) (tables' : CommentTables) :
    Prop where
  one : ∀ entry ∈ input.comments, (tables'.instagramComments.rows.countP fun row =>
    row.instagramPostId == input.instagramPostId &&
      row.providerCommentId == entry.1.providerCommentId) = 1
  last : ∀ before entry after, input.comments = before ++ entry :: after →
    (∀ later ∈ after, later.1.providerCommentId ≠ entry.1.providerCommentId) →
      ∃ row ∈ tables'.instagramComments.rows, row.instagramPostId = input.instagramPostId ∧
        row.providerCommentId = entry.1.providerCommentId ∧
          importedComment entry.1 input.importedAt input.rawApiVersion row = row
  kept : ∀ row ∈ tables.instagramComments.rows, ∃ row' ∈ tables'.instagramComments.rows,
    row'.id = row.id ∧ row'.firstImportedAt = row.firstImportedAt ∧
      row'.instagramPostId = row.instagramPostId ∧ row'.providerCommentId = row.providerCommentId
  counted : counts.imported + counts.updated = input.comments.length

/-- The page is committed, as an upsert by provider identifier. -/
def CommentPageStored : Prop :=
  ∃ counts tables', (commitInstagramComments context input).commit tables = (.ok counts, tables') ∧
    CommentPageUpserted input tables counts tables'

end Commit

section Conditions

variable {context : WorkspaceContext} {input : CommitInstagramCommentsInput}
  {tables tables' : CommentTables} {counts : InstagramCommentsCommit}

private theorem rowKey_commentWriter {row : InstagramComment} {providerCommentId : Utf16} :
    (commentWriter context input).rowKey row = some providerCommentId ↔
      row.instagramPostId = input.instagramPostId ∧ row.providerCommentId = providerCommentId :=
  Option.ite_none_right_eq_some.trans (and_congr_right fun _ => Option.some_inj)

private theorem existingComment_eq_some {providerCommentId : Utf16} {found : InstagramComment}
    (h : existingComment (storedComments context input tables) providerCommentId = some found) :
    found ∈ tables.instagramComments.rows ∧ found.instagramPostId = input.instagramPostId ∧
      found.providerCommentId = providerCommentId ∧ found.workspaceId = context.workspaceId := by
  obtain ⟨hmem, hselected⟩ := mem_filter.mp (mem_of_find?_eq_some h)
  have hcomment := List.find?_some h
  simp only [Bool.and_eq_true, beq_iff_eq] at hselected hcomment
  exact ⟨hmem, hselected.1.1, hcomment, hselected.2⟩

private theorem finds_commentWriter : (commentWriter context input).Finds
    (existingComment (storedComments context input tables)) tables.instagramComments := by
  intro providerCommentId found hfound
  obtain ⟨hmem, hpost, hcomment, -⟩ := existingComment_eq_some hfound
  exact ⟨found, hmem, rfl, rowKey_commentWriter.mpr ⟨hpost, hcomment⟩⟩

/-- Nothing is looked up for a comment exactly if the post has no row under its identifier. -/
theorem isNone_existingComment {entry : NormalisedInstagramComment × String}
    (hpost : HasPost tables.instagramPosts context.workspaceId input.instagramPostId)
    (h : entry ∈ input.comments) :
    (existingComment (storedComments context input tables) entry.1.providerCommentId).isNone =
      !tables.instagramComments.rows.any fun row =>
        row.instagramPostId == input.instagramPostId &&
          row.providerCommentId == entry.1.providerCommentId := by
  -- every comment of the post is of its workspace
  have hworkspace : ∀ row ∈ tables.instagramComments.rows,
      row.instagramPostId = input.instagramPostId → row.workspaceId = context.workspaceId := by
    intro row hrow hsame
    obtain ⟨post, hmem, hworkspace, hid⟩ := hpost
    obtain ⟨post', hmem', hworkspace', hid'⟩ := tables.owned row hrow
    rw [← hworkspace, ← hworkspace', Table.eq_of_key instagramPostSchema_keyedBy_id hmem' hmem
      (hid'.trans (hsame.trans hid.symm))]
  rw [Bool.eq_iff_iff, Option.isNone_iff_eq_none, Bool.not_eq_true', any_eq_false]
  unfold existingComment storedComments
  rw [List.find?_eq_none]
  simp only [mem_filter, Bool.and_eq_true, beq_iff_eq, and_imp]
  constructor
  · rintro hnone row hrow ⟨hunder, hcomment⟩
    refine hnone row hrow hunder ?_ (hworkspace row hrow hunder) hcomment
    rw [contains_eq_mem, decide_eq_true_eq, hcomment]
    exact mem_map_of_mem h
  · intro hnone row hrow hunder _ _ hcomment
    exact hnone row hrow ⟨hunder, hcomment⟩

private theorem inserted_commentWriter
    (hpost : HasPost tables.instagramPosts context.workspaceId input.instagramPostId) :
    (commentWriter context input).inserted
      (existingComment (storedComments context input tables)) input.comments =
        newComments input tables :=
  filter_congr fun _ hentry => isNone_existingComment hpost hentry

private theorem fresh_commentWriter (hnew : CreatedCommentIdsNew input tables) :
    (commentWriter context input).Fresh tables.instagramComments input.comments where
  stored old hold entry hentry hne := by
    rw [Schema.collision_eq_none]
    intro index hindex
    rcases mem_cons.mp hindex with rfl | hindex
    · exact beq_false_of_ne (hnew.unused entry hentry old hold)
    · rw [mem_singleton.mp hindex]
      refine Bool.eq_false_iff.mpr fun hsame => hne (rowKey_commentWriter.mpr ?_)
      rw [Bool.and_eq_true, beq_iff_eq, beq_iff_eq] at hsame
      exact hsame
  other := by
    refine (pairwise_map.mp hnew.distinct).imp fun {entry later} hids hkeys => ?_
    rw [Schema.collision_eq_none]
    intro index hindex
    rcases mem_cons.mp hindex with rfl | hindex
    · exact beq_false_of_ne hids
    · rw [mem_singleton.mp hindex]
      refine Bool.eq_false_iff.mpr fun hsame => hkeys ?_
      rw [Bool.and_eq_true] at hsame
      exact beq_iff_eq.mp hsame.2

/-- A page is written exactly if its comments pass the checks, and no identifier without a row
stands in it twice. -/
theorem exists_write_comments_iff (hnew : CreatedCommentIdsNew input tables)
    (hpost : HasPost tables.instagramPosts context.workspaceId input.instagramPostId) :
    (∃ rows, (commentWriter context input).write
        (existingComment (storedComments context input tables)) input.comments
          tables.instagramComments = .ok rows) ↔
      (∀ entry ∈ input.comments, CommentPasses entry.1) ∧ NewCommentsOnce input tables := by
  have hlooked : (commentWriter context input).LooksUp
      (existingComment (storedComments context input tables)) input.comments
        tables.instagramComments := by
    intro entry hentry old hold hkey
    obtain ⟨hmem, hnone⟩ := mem_filter.mp hentry
    have hnone : (existingComment (storedComments context input tables)
        entry.1.providerCommentId).isNone = true := hnone
    rw [isNone_existingComment hpost hmem, Bool.not_eq_true', any_eq_false] at hnone
    refine hnone old hold ?_
    rw [Bool.and_eq_true, beq_iff_eq, beq_iff_eq]
    exact rowKey_commentWriter.mp hkey
  rw [exists_write_iff (fresh_commentWriter hnew) finds_commentWriter hlooked,
    inserted_commentWriter hpost]
  rfl

private theorem commentPageUpserted_of_write {rows : Table instagramCommentSchema}
    (hwrite : (commentWriter context input).write
      (existingComment (storedComments context input tables)) input.comments
        tables.instagramComments = .ok rows)
    (hrows : tables'.instagramComments = rows)
    (hcounts : counts.imported + counts.updated = input.comments.length) :
    CommentPageUpserted input tables counts tables' := by
  obtain ⟨hone, hlast, hkept⟩ := upserted_of_write finds_commentWriter hwrite
  constructor
  case one =>
    intro entry hentry
    rw [hrows, ← hone entry hentry]
    refine countP_congr fun row _ => ?_
    rw [decide_eq_true_eq, Bool.and_eq_true, beq_iff_eq, beq_iff_eq]
    exact rowKey_commentWriter.symm
  case last =>
    intro before entry after hsplit hafter
    obtain ⟨row, hrow, hkey, hdata⟩ := hlast before entry after hsplit hafter
    obtain ⟨hunder, hcomment⟩ := rowKey_commentWriter.mp hkey
    rw [hrows]
    exact ⟨row, hrow, hunder, hcomment, hdata⟩
  case kept =>
    intro row hrow
    rw [hrows]
    refine ⟨_, hkept row hrow, ?_⟩
    exact ⟨keeps_latest InstagramComment.id (fun _ _ => rfl) _ row,
      keeps_latest InstagramComment.firstImportedAt (fun _ _ => rfl) _ row,
      keeps_latest InstagramComment.instagramPostId (fun _ _ => rfl) _ row,
      keeps_latest InstagramComment.providerCommentId (fun _ _ => rfl) _ row⟩
  case counted => exact hcounts

/-- **What a page of comments commits.** A page is stored, as an upsert, exactly if it is in order
and no identifier without a row stands in it twice. -/
theorem commentPageStored_iff (hnew : CreatedCommentIdsNew input tables) :
    CommentPageStored context input tables ↔
      CommentPageInOrder context input tables ∧ NewCommentsOnce input tables := by
  unfold CommentPageStored
  simp only [commit_eq_ok]
  unfold commitInstagramComments
  by_cases hempty : input.comments = []
  · refine iff_of_true ?_ ?_
    · rw [if_pos (by rw [hempty]; rfl)]
      refine ⟨⟨0, 0⟩, tables, rfl, ?_, ?_, fun row hrow => ⟨row, hrow, rfl, rfl, rfl, rfl⟩, ?_⟩
      · intro entry hentry
        rw [hempty] at hentry
        exact (not_mem_nil hentry).elim
      · intro before entry after hsplit
        rw [hempty] at hsplit
        exact (append_ne_nil_of_right_ne_nil _ (cons_ne_nil _ _) hsplit.symm).elim
      · rw [hempty]
        rfl
    · refine ⟨⟨fun hne => absurd hempty hne, ?_, ?_⟩, ?_⟩
      · intro entry hentry
        rw [hempty] at hentry
        exact (not_mem_nil hentry).elim
      · intro entry hentry
        rw [hempty] at hentry
        exact (not_mem_nil hentry).elim
      · unfold NewCommentsOnce newComments
        rw [hempty]
        exact nodup_nil
  rw [if_neg (by rw [List.isEmpty_iff]; exact hempty)]
  constructor
  · rintro ⟨counts, tables', hrun, -⟩
    obtain ⟨existing, tables₀, hread, himport⟩ := run_bind_eq_ok.mp hrun
    cases hread
    obtain ⟨⟨rows, hwrite, -, -⟩, -, hfits, hnewPost⟩ :=
      (run_importComments finds_commentWriter).mp himport
    have hpost : HasPost tables.instagramPosts context.workspaceId input.instagramPostId := by
      by_cases hinserted : (commentWriter context input).inserted
          (existingComment (storedComments context input tables)) input.comments = []
      · -- every comment of the page has a row, whose post is there
        obtain ⟨entry, hentry⟩ := exists_mem_of_ne_nil _ hempty
        have hfound := filter_eq_nil_iff.mp hinserted entry hentry
        obtain ⟨found, hfound⟩ := Option.ne_none_iff_exists'.mp fun hnone =>
          hfound (Option.isNone_iff_eq_none.mpr hnone)
        obtain ⟨hmem, hunder, -, hworkspace⟩ := existingComment_eq_some hfound
        obtain ⟨post, hpost, hsame, hid⟩ := tables.owned found hmem
        exact ⟨post, hpost, hsame.trans hworkspace, hid.trans hunder⟩
      · exact hnewPost hinserted
    obtain ⟨hpasses, honce⟩ := (exists_write_comments_iff hnew hpost).mp ⟨rows, hwrite⟩
    exact ⟨⟨fun _ => hpost, hfits, hpasses⟩, honce⟩
  · rintro ⟨⟨hpost, hfits, hpasses⟩, honce⟩
    have hpost := hpost hempty
    obtain ⟨rows, hwrite⟩ := (exists_write_comments_iff hnew hpost).mpr ⟨hpasses, honce⟩
    have howned : ∀ row ∈ rows.rows,
        HasPost tables.instagramPosts row.workspaceId row.instagramPostId := by
      intro row hrow
      rw [(of_write finds_commentWriter hwrite).2.2.2, mem_append, mem_map,
        mem_map] at hrow
      rcases hrow with ⟨old, hold, rfl⟩ | ⟨entry, -, rfl⟩
      · have hworkspace := keeps_latest (w := commentWriter context input)
          InstagramComment.workspaceId (fun _ _ => rfl) input.comments old
        have hunder := keeps_latest (w := commentWriter context input)
          InstagramComment.instagramPostId (fun _ _ => rfl) input.comments old
        rw [hworkspace, hunder]
        exact tables.owned old hold
      · exact hpost
    refine ⟨_, ⟨tables.instagramPosts, rows, howned⟩, run_bind_eq_ok.mpr ⟨_, _, rfl,
      (run_importComments finds_commentWriter).mpr ⟨⟨rows, hwrite, rfl, rfl⟩, rfl, hfits,
        fun _ => hpost⟩⟩, commentPageUpserted_of_write hwrite rfl ?_⟩
    rw [Nat.zero_add, Nat.zero_add]
    exact length_inserted_add_updated _ _

end Conditions

namespace UpsertSample

def run : SyncRun where
  id := "run"
  workspaceId := "workspace"
  instagramAccountId := "account"
  trigger := .manual
  backgroundJobId := none
  state := .running
  stage := "importing"
  checkpointAt := none
  completedAt := none
  failureClass := none
  failureCode := none

private theorem run_valid : syncRunSchema.violation [run] = none := by decide

def database : Database WorkerTables where
  clock := 0
  backgroundJobs := Table.empty _
  jobAttempts := Table.empty _
  jobOutbox := Table.empty _
  auditEvents := Table.empty _
  internalUsers := []
  analysisJobs := []
  app := { WorkerTables.empty with syncRuns := ⟨[run], run_valid⟩ }

def media : NormalisedInstagramMedia where
  caption := none
  ephemeralMediaUrl := none
  ephemeralThumbnailUrl := none
  kind := .reel
  mediaProductType := none
  mediaType := Utf16.ofString "VIDEO"
  permalink := none
  providerMediaId := Utf16.ofString "17890000000000001"
  publishedAt := 1700000000000
  rawPayload := .object []
  rawPayloadHash := HexDigest.zeros
  username := none

/-- A page with some items. -/
def mediaPage (media : List (NormalisedInstagramMedia × String)) :
    CommitInstagramMediaPageInput where
  cursor := none
  importedAt := 1700000001000
  invalidCount := 0
  media
  skippedCount := 0
  stage := "importing"
  syncRunId := "run"

def post : InstagramPost where
  id := "post"
  workspaceId := "workspace"
  instagramAccountId := "account"
  mediaKind := .reel
  publishedAt := 1700000000000
  currentAnalysisId := none

private theorem post_valid : instagramPostSchema.violation [post] = none := by decide

def tables : CommentTables where
  instagramPosts := ⟨[post], post_valid⟩
  instagramComments := Table.empty _
  owned _ h := (not_mem_nil h).elim

/-- A comment, which may be a reply. -/
def comment (id : String) (parent : Option String) : NormalisedInstagramComment where
  likeCount := some 1
  parentProviderCommentId := parent.map Utf16.ofString
  providerCommentId := Utf16.ofString id
  publishedAt := 1700000000000
  rawPayload := .object []
  rawPayloadHash := HexDigest.zeros
  text := []
  username := none

/-- A page with some comments. -/
def commentPage (comments : List (NormalisedInstagramComment × String)) :
    CommitInstagramCommentsInput where
  comments
  importedAt := 1700000001000
  instagramPostId := "post"
  rawApiVersion := Utf16.ofString instagramApiVersion

/-- The row of a reply that an earlier page has brought. -/
def reply : InstagramComment :=
  createdComment ⟨"workspace"⟩ (commentPage []) (comment "17890000000000002" none) "row"

private theorem reply_valid : instagramCommentSchema.violation [reply] = none := by decide

/-- The tables with this reply. -/
def replied : CommentTables where
  instagramPosts := ⟨[post], post_valid⟩
  instagramComments := ⟨[reply], reply_valid⟩
  owned row hrow := by
    rw [mem_singleton.mp hrow]
    exact ⟨post, mem_singleton_self _, rfl, rfl⟩

/-- A thread whose reply the provider also lists by itself. -/
def thread : List (NormalisedInstagramComment × String) :=
  [(comment "17890000000000001" none, "a"),
    (comment "17890000000000002" (some "17890000000000001"), "b"),
    (comment "17890000000000002" none, "c")]

private theorem mediaPage_inOrder {page : List (NormalisedInstagramMedia × String)}
    (h : ∀ entry ∈ page, entry.1 = media) :
    MediaPageInOrder ⟨"workspace"⟩ (mediaPage page) database where
  stage := (by decide : isSafeJobStage "importing" = true)
  invalid := (by decide : isSafeInteger 0 = true)
  skipped := (by decide : isSafeInteger 0 = true)
  cursor := (by decide : none ≠ some "")
  active := (by decide : (activeRun ⟨"workspace"⟩ (mediaPage []) database).isSome = true)
  fits entry hentry := by
    have hfits : ∀ cell ∈ media.cells, cell.Fits := by decide
    rw [h entry hentry]
    exact hfits

private theorem thread_inOrder {tables : CommentTables} (h : post ∈ tables.instagramPosts.rows)
    (n : ℕ) :
    CommentPageInOrder ⟨"workspace"⟩ (commentPage (thread.take n)) tables where
  post _ := ⟨post, h, rfl, rfl⟩
  fits entry hentry := by
    have hfits : ∀ entry ∈ thread, ∀ cell ∈ commentCells (commentPage []) entry.1, cell.Fits := by
      decide
    exact hfits entry (mem_of_mem_take hentry)
  passes entry hentry := by
    have hlikes : ∀ entry ∈ thread, entry.1.likeCount = some 1 := by
      simp [thread, comment]
    have hparent : ∀ entry ∈ thread,
        entry.1.parentProviderCommentId ≠ some entry.1.providerCommentId := by
      decide
    refine ⟨fun likeCount hsome => ?_, hparent entry (mem_of_mem_take hentry)⟩
    rw [hlikes entry (mem_of_mem_take hentry)] at hsome
    cases hsome
    decide

private theorem thread_idsNew {tables : CommentTables}
    (h : ∀ entry ∈ thread, ∀ row ∈ tables.instagramComments.rows, row.id ≠ entry.2) (n : ℕ) :
    CreatedCommentIdsNew (commentPage (thread.take n)) tables where
  distinct := by
    have hdistinct : (thread.map Prod.snd).Nodup := by decide
    exact hdistinct.sublist ((take_sublist n thread).map _)
  unused entry hentry := h entry (mem_of_mem_take hentry)

end UpsertSample

end ContentAutomation
