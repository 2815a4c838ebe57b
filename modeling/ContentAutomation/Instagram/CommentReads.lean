import ContentAutomation.Chat.PostDossier
import ContentAutomation.Instagram.CommentUpserts
import Mathlib.Data.Int.ConditionallyCompleteOrder

/-!
# Reading comments, most liked first

The comments of all posts of a dossier are read in one order and shared out among the posts; those
of one post are read alone in the same order. The order puts comments whose like count is unknown
first, and leaves comments of one like count and one instant in any order.
-/

namespace ContentAutomation

open Relational Keyset List

/-! ### The reads -/

/-- `orderBy: [{ likeCount: "desc" }, { publishedAt: "desc" }]`, where nulls are first. -/
def commentOrder (comment : InstagramComment) : WithBot ℤ ×ₗ ℤ :=
  toLex (descending comment.likeCount, -comment.publishedAt)

/-- `where: { instagramPostId: { in: postIds }, workspaceId }`. -/
def isOfPosts (context : WorkspaceContext) (postIds : List String) (row : InstagramComment) : Bool :=
  postIds.contains row.instagramPostId && row.workspaceId == context.workspaceId

/-- `where: { instagramPostId, workspaceId }`. -/
def isOfPost (context : WorkspaceContext) (postId : String) (row : InstagramComment) : Bool :=
  row.instagramPostId == postId && row.workspaceId == context.workspaceId

/-- What a read of comments may give: the rows that are selected, in an order that is asked for. -/
def IsRead (comments : Table instagramCommentSchema) (selects : InstagramComment → Bool)
    (read : List InstagramComment) : Prop :=
  Arranges commentOrder (comments.rows.filter selects) read

/-- A comment of `commentsByPost`: it joins the bucket of its post, unless that is full. -/
def bucketComment (buckets : String → List InstagramComment) (comment : InstagramComment) :
    String → List InstagramComment :=
  let bucket := buckets comment.instagramPostId
  if postDossierCommentCap ≤ bucket.length then buckets
  else Function.update buckets comment.instagramPostId (bucket ++ [comment])

/-- `commentsByPost`. -/
def commentsByPost (read : List InstagramComment) : String → List InstagramComment :=
  read.foldl bucketComment fun _ => []

/-- `loadInstagramComments`, of what its read gives without a limit. -/
def loadInstagramComments (read : List InstagramComment) (limit : ℕ) : List InstagramComment :=
  read.take limit

/-! ### What they are for -/

/-- A comment is liked at least as much as another; one whose count is unknown is liked least. -/
def InstagramComment.AtLeastAsLiked (comment other : InstagramComment) : Prop :=
  ∀ likes ∈ other.likeCount, ∃ more ∈ comment.likeCount, likes ≤ more

/-- What is carried is as many of the comments as the cap allows, the most liked ones, in the order
of their likes. -/
structure CarriesMostLiked (comments carried : List InstagramComment) : Prop where
  length : carried.length = min postDossierCommentCap comments.length
  ordered : carried.Pairwise InstagramComment.AtLeastAsLiked
  most : ∃ others, (carried ++ others).Perm comments ∧
    ∀ comment ∈ carried, ∀ other ∈ others, comment.AtLeastAsLiked other

/-- However ties are ordered, the dossier of a post carries its most liked comments, and the comments
that are loaded for the post alone are the same. -/
def ShowsMostLiked (comments : Table instagramCommentSchema) (context : WorkspaceContext)
    (postIds : List String) (postId : String) : Prop :=
  ∀ read single, IsRead comments (isOfPosts context postIds) read →
    IsRead comments (isOfPost context postId) single →
    CarriesMostLiked (comments.rows.filter (isOfPost context postId))
      (commentsByPost read postId) ∧
    ∀ limit ≤ postDossierCommentCap,
      loadInstagramComments single limit = (commentsByPost read postId).take limit

/-! ### The order -/

variable {comments : Table instagramCommentSchema} {context : WorkspaceContext}
  {postIds : List String} {postId : String} {comment other : InstagramComment}

private theorem commentOrder_eq_iff : commentOrder comment = commentOrder other ↔
    comment.likeCount = other.likeCount ∧ comment.publishedAt = other.publishedAt := by
  unfold commentOrder
  rw [toLex_inj, Prod.mk.injEq, neg_inj, descending_injective.eq_iff]

private theorem atLeastAsLiked_of_le (hknown : comment.likeCount.isSome)
    (h : commentOrder comment ≤ commentOrder other) : comment.AtLeastAsLiked other := by
  intro likes hlikes
  obtain ⟨more, hmore⟩ := Option.isSome_iff_exists.mp hknown
  refine ⟨more, hmore, ?_⟩
  have hfirst : (commentOrder comment).1 ≤ (commentOrder other).1 := Prod.Lex.monotone_fst _ _ h
  rw [commentOrder, commentOrder, hmore, Option.mem_def.mp hlikes] at hfirst
  exact descending_le_iff.mp hfirst

private theorem likeCount_eq_none_of_le (hunknown : other.likeCount = none)
    (h : commentOrder comment ≤ commentOrder other) : comment.likeCount = none := by
  have hfirst : (commentOrder comment).1 ≤ (commentOrder other).1 := Prod.Lex.monotone_fst _ _ h
  rw [commentOrder, commentOrder, hunknown] at hfirst
  exact eq_none_of_descending_le hfirst

/-! ### The buckets -/

private theorem commentsByPost_eq (read : List InstagramComment) (postId : String) :
    commentsByPost read postId =
      (read.filter fun row => row.instagramPostId == postId).take postDossierCommentCap := by
  have hfold : ∀ buckets : String → List InstagramComment,
      (buckets postId).length ≤ postDossierCommentCap →
      read.foldl bucketComment buckets postId =
        (buckets postId ++ read.filter fun row => row.instagramPostId == postId).take
          postDossierCommentCap := by
    induction read with
    | nil =>
      intro buckets hlength
      rw [foldl_nil, filter_nil, append_nil, take_of_length_le hlength]
    | cons first rest ih =>
      intro buckets hlength
      rw [foldl_cons]
      by_cases hpost : first.instagramPostId = postId
      · rw [filter_cons_of_pos (by simpa using hpost)]
        by_cases hfull : postDossierCommentCap ≤ (buckets postId).length
        · have hbucket : bucketComment buckets first = buckets := by
            rw [bucketComment, hpost]
            exact if_pos hfull
          rw [hbucket, ih buckets hlength, take_append_of_le_length hfull,
            take_append_of_le_length hfull]
        · have hbucket : bucketComment buckets first postId = buckets postId ++ [first] := by
            rw [bucketComment, hpost]
            simp only [if_neg hfull, Function.update_self]
          rw [ih _ (by rw [hbucket, length_append, length_singleton]; omega), hbucket,
            append_assoc, singleton_append]
      · have hbucket : bucketComment buckets first postId = buckets postId := by
          unfold bucketComment
          split
          · rfl
          · rw [Function.update_of_ne (Ne.symm hpost)]
        rw [filter_cons_of_neg (by simpa using hpost), ih _ (by rw [hbucket]; exact hlength),
          hbucket]
  rw [commentsByPost, hfold _ (Nat.zero_le _), nil_append]

/-- What a read of several posts gives of one is what a read of the one may give. -/
theorem IsRead.filter (hpost : postId ∈ postIds) {read : List InstagramComment}
    (h : IsRead comments (isOfPosts context postIds) read) :
    IsRead comments (isOfPost context postId)
      (read.filter fun row => row.instagramPostId == postId) where
  perm := by
    refine (h.perm.filter _).trans (Perm.of_eq ?_)
    rw [filter_filter]
    refine filter_congr fun row _ => ?_
    by_cases hrow : row.instagramPostId = postId
    · simp [isOfPosts, isOfPost, hrow, hpost]
    · simp [isOfPosts, isOfPost, beq_false_of_ne hrow]
  ordered := h.ordered.filter _

private theorem exists_isRead (comments : Table instagramCommentSchema)
    (selects : InstagramComment → Bool) :
    ∃ read, IsRead comments selects read :=
  ⟨_, perm_insertionSort (fun left right => commentOrder left ≤ commentOrder right) _,
    pairwise_insertionSort _ _⟩

/-! ### What the buckets hold -/

private theorem carriesMostLiked_take {own read : List InstagramComment}
    (h : Arranges commentOrder own read)
    (hcounts : (∀ comment ∈ own, comment.likeCount.isSome) ∨
      ∀ comment ∈ own, comment.likeCount = none) :
    CarriesMostLiked own (read.take postDossierCommentCap) := by
  have hliked : read.Pairwise InstagramComment.AtLeastAsLiked := by
    refine h.ordered.imp_of_mem fun {comment other} hcomment hother hle => ?_
    rcases hcounts with hknown | hunknown
    · exact atLeastAsLiked_of_le (hknown comment (h.perm.mem_iff.mp hcomment)) hle
    · intro likes hlikes
      rw [hunknown other (h.perm.mem_iff.mp hother)] at hlikes
      cases hlikes
  have hsplit := take_append_drop postDossierCommentCap read
  refine ⟨by rw [length_take, h.perm.length_eq], hliked.sublist (take_sublist _ _),
    read.drop postDossierCommentCap, by rw [hsplit]; exact h.perm, ?_⟩
  rw [← hsplit] at hliked
  exact (pairwise_append.mp hliked).2.2

/-- If a count is known and another is not, they are not: an unknown one is first. -/
theorem not_carriesMostLiked_take {own read : List InstagramComment}
    (h : Arranges commentOrder own read) (hknown : comment ∈ own) (hunknown : other ∈ own)
    (hsome : comment.likeCount.isSome) (hnone : other.likeCount = none) :
    ¬ CarriesMostLiked own (read.take postDossierCommentCap) := by
  rintro ⟨-, hordered, others, hperm, hmost⟩
  cases read with
  | nil => exact absurd (h.perm.mem_iff.mpr hunknown) not_mem_nil
  | cons first rest =>
    have hfirst : first.likeCount = none := by
      rcases mem_cons.mp (h.perm.mem_iff.mpr hunknown) with rfl | hlater
      · exact hnone
      · exact likeCount_eq_none_of_le hnone ((pairwise_cons.mp h.ordered).1 other hlater)
    have hcarried : (first :: rest).take postDossierCommentCap =
        first :: rest.take 11 := take_succ_cons
    rw [hcarried] at hordered hperm hmost
    have hliked : first.AtLeastAsLiked comment := by
      rcases mem_append.mp (hperm.mem_iff.mpr hknown) with hcomment | hcomment
      · rcases mem_cons.mp hcomment with rfl | hlater
        · rw [hfirst] at hsome
          cases hsome
        · exact (pairwise_cons.mp hordered).1 comment hlater
      · exact hmost first mem_cons_self comment hcomment
    obtain ⟨likes, hlikes⟩ := Option.isSome_iff_exists.mp hsome
    obtain ⟨more, hmore, -⟩ := hliked likes hlikes
    rw [hfirst] at hmore
    cases hmore

/-- **A dossier carries the most liked comments** of a post, and those that are loaded for the post
alone, exactly when the like counts of the post's comments are all known or all unknown and no
comment of the first ones shares its count and its instant with another. -/
theorem dossier_shows_most_liked_iff (hpost : postId ∈ postIds) :
    ShowsMostLiked comments context postIds postId ↔
      ((∀ comment ∈ comments.rows.filter (isOfPost context postId),
          comment.likeCount.isSome = true) ∨
        ∀ comment ∈ comments.rows.filter (isOfPost context postId), comment.likeCount = none) ∧
      ∀ comment ∈ comments.rows.filter (isOfPost context postId),
        ∀ other ∈ comments.rows.filter (isOfPost context postId),
        comment.likeCount = other.likeCount → comment.publishedAt = other.publishedAt →
        before commentOrder (commentOrder comment)
          (comments.rows.filter (isOfPost context postId)) < postDossierCommentCap →
        comment = other := by
  obtain ⟨read, hread⟩ := exists_isRead comments (isOfPosts context postIds)
  have hties := @take_eq_take_iff _ _ _ commentOrder
    (comments.rows.filter (isOfPost context postId)) postDossierCommentCap
  constructor
  · intro h
    constructor
    · by_contra hmixed
      rw [not_or] at hmixed
      push Not at hmixed
      obtain ⟨⟨other, hother, hnone⟩, comment, hcomment, hsome⟩ := hmixed
      obtain ⟨single, hsingle⟩ := exists_isRead comments (isOfPost context postId)
      have hcarries := (h read single hread hsingle).1
      rw [commentsByPost_eq] at hcarries
      exact not_carriesMostLiked_take (hread.filter hpost) hcomment hother
        (Option.isSome_iff_ne_none.mpr hsome) (by simpa using hnone) hcarries
    · intro comment hcomment other hother hlikes hpublished hbefore
      refine hties.mp (fun first second hfirst hsecond => ?_) comment hcomment other hother
        (commentOrder_eq_iff.mpr ⟨hlikes, hpublished⟩) hbefore
      exact ((h read first hread hfirst).2 _ le_rfl).trans
        ((h read second hread hsecond).2 _ le_rfl).symm
  · rintro ⟨hcounts, hunique⟩ read single hread hsingle
    rw [commentsByPost_eq]
    have hown := hread.filter hpost
    refine ⟨carriesMostLiked_take hown hcounts, fun limit hlimit => ?_⟩
    have hsame := hties.mpr (fun comment hcomment other hother hkey hbefore =>
      hunique comment hcomment other hother (commentOrder_eq_iff.mp hkey).1
        (commentOrder_eq_iff.mp hkey).2 hbefore) single _ hsingle hown
    rw [← hsame, take_take, Nat.min_eq_left hlimit, loadInstagramComments]

namespace CommentReadsSample

/-- A comment of the post, with its count. -/
def row (id : String) (likeCount : Option ℤ) : InstagramComment where
  id := id
  workspaceId := "workspace"
  instagramPostId := "post"
  providerCommentId := Utf16.ofString id
  parentProviderCommentId := none
  text := Utf16.ofString "text"
  username := none
  likeCount := likeCount
  publishedAt := 0
  firstImportedAt := 0
  lastImportedAt := 0
  rawPayload := .null
  rawPayloadHash := HexDigest.zeros
  rawApiVersion := Utf16.ofString "v24.0"

def known : Table instagramCommentSchema :=
  ⟨[row "a" (some 5), row "b" (some 9), row "c" (some 2)], by decide⟩

def mixed : Table instagramCommentSchema := ⟨[row "a" (some 5), row "b" none], by decide⟩

/-- Three comments of different counts are shown. -/
theorem known_is_shown : ShowsMostLiked known ⟨"workspace"⟩ ["post"] "post" := by
  have hown : known.rows.filter (isOfPost ⟨"workspace"⟩ "post") = known.rows := rfl
  have hdistinct : (known.rows.map InstagramComment.likeCount).Nodup := by decide
  refine (dossier_shows_most_liked_iff mem_cons_self).mpr ?_
  rw [hown]
  refine ⟨.inl (by decide), fun own hmem other hother hlikes _ _ => ?_⟩
  exact inj_on_of_nodup_map hdistinct hmem hother hlikes

/-- **An unknown count is carried before a known one.** -/
theorem unknown_is_first : ¬ ShowsMostLiked mixed ⟨"workspace"⟩ ["post"] "post" := by
  intro h
  have hown : mixed.rows.filter (isOfPost ⟨"workspace"⟩ "post") =
      [row "a" (some 5), row "b" none] := rfl
  obtain ⟨read, hread⟩ := exists_isRead mixed (isOfPosts ⟨"workspace"⟩ ["post"])
  obtain ⟨single, hsingle⟩ := exists_isRead mixed (isOfPost ⟨"workspace"⟩ "post")
  have hcarries := (h read single hread hsingle).1
  rw [commentsByPost_eq, hown] at hcarries
  have harranged := hread.filter (mem_singleton_self "post")
  unfold IsRead at harranged
  rw [hown] at harranged
  exact not_carriesMostLiked_take harranged mem_cons_self
    (mem_cons_of_mem _ mem_cons_self) rfl rfl hcarries

end CommentReadsSample

end ContentAutomation
