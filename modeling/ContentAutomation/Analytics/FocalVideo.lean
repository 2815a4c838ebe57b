import ContentAutomation.Analytics.Cohorts

/-!
# The video in focus

A post is compared to a cohort from which it is excluded. What is excluded is the post under its
identifier, while a video may have been published under several accounts, so that a copy of it can
stay in the cohort. The limit of a recent cohort bounds what is read and not what is kept, so that
copies also take the places of other videos.
-/

namespace ContentAutomation

open Relational FirstCopies List InstagramPost InstagramMetricSnapshot

/-- What a post is compared by: its own value, and the cohort. -/
structure PostComparison where
  focalValue : Option ℚ
  cohort : Cohort

/-- The request for the cohort of a post. -/
def CohortRequest.about (request : CohortRequest) (focalPostId : String) : CohortRequest :=
  { request with focalPostId := some focalPostId }

/-- `comparePostToCohort`, up to the comparison that is made of its two parts. -/
def comparePostToCohort (db : AnalyticsTables) (context : WorkspaceContext) (kind : CohortKind)
    (request : CohortRequest) (focalPostId : String) : PostComparison where
  focalValue := loadPostMetricValue db context request.ageWindow request.metric focalPostId
  cohort := loadCohort db context kind (request.about focalPostId)

/-- Every post that is considered is counted in one way. -/
def CohortCoverage.Adds (coverage : CohortCoverage) : Prop :=
  coverage.eligiblePosts =
    coverage.postsWithValue + coverage.postsMissingMetric + coverage.postsMissingSnapshot

namespace CohortRequest

variable (db : AnalyticsTables) (context : WorkspaceContext) (kind : CohortKind)
  (request : CohortRequest) (focal : InstagramPost)

/-- The distinct videos among some posts that are not the video of the post, in their order. -/
def otherVideos (posts : List InstagramPost) : List Utf16 :=
  ((firstCopies providerMediaId posts).filter fun post =>
    decide (post.providerMediaId ≠ focal.providerMediaId)).map providerMediaId

/-- The video of the post is not in the cohort that it is compared to, a recent cohort considers
the newest other videos up to its limit, and the counts of the coverage add up. -/
structure KeepsFocalVideoOut : Prop where
  absent : ∀ member ∈ (comparePostToCohort db context kind request focal.id).cohort.members,
    db.videoOf member.postId ≠ some focal.providerMediaId
  recent : kind = .recent →
    ((request.about focal.id).bounded context kind db).map providerMediaId =
      (otherVideos focal (db.newestPosts (request.selects context kind))).take
        recentCohortPostLimit
  partition : (comparePostToCohort db context kind request focal.id).cohort.coverage.Adds

/-- The post is kept for its video, and is not behind the limit of a recent cohort. -/
def IsConsidered (post : InstagramPost) : Prop :=
  request.isChosen db context kind post = true ∧ (kind = .recent →
    ((request.posts context kind db).takeWhile fun other => decide (other ≠ post)).countP
      (request.isChosen db context kind) < recentCohortPostLimit)

/-- No copy of the video of the post has a value and is considered; a recent cohort considers no
copy of it at all, and as many other videos as there are up to its limit are among the posts that
are read. -/
structure SetsCopiesAside : Prop where
  unmeasured : ∀ copy ∈ request.posts context kind db,
    copy.providerMediaId = focal.providerMediaId →
    (request.about focal.id).IsConsidered db context kind copy →
    request.isMeasurable db context copy = false
  unread : kind = .recent → ∀ copy ∈ request.posts context kind db,
    copy.providerMediaId = focal.providerMediaId →
    ¬ (request.about focal.id).IsConsidered db context kind copy
  enough : kind = .recent →
    min recentCohortPostLimit
        (otherVideos focal (db.newestPosts (request.selects context kind))).length ≤
      (otherVideos focal (request.posts context kind db)).length

variable {db context kind request focal} {post : InstagramPost}
  {snapshots : List InstagramMetricSnapshot} {windowKey : SnapshotAgeWindowKey}

/-! ### Copies of the video -/

private theorem bounded_subset : request.bounded context kind db ⊆ db.posts.rows := by
  intro post hpost
  exact (mem_newestPosts.mp (mem_posts (mem_bounded.mp hpost).1)).1

private theorem mem_bounded_iff : post ∈ request.bounded context kind db ↔
    post ∈ request.posts context kind db ∧ request.IsConsidered db context kind post :=
  mem_bounded

/-- **The video in the cohort.** No member is of the video exactly if no copy of it that is
considered has a value. -/
theorem absent_iff :
    (∀ member ∈ (comparePostToCohort db context kind request focal.id).cohort.members,
        db.videoOf member.postId ≠ some focal.providerMediaId) ↔
      ∀ copy ∈ request.posts context kind db, copy.providerMediaId = focal.providerMediaId →
        (request.about focal.id).IsConsidered db context kind copy →
        request.isMeasurable db context copy = false := by
  have hvideos : (loadCohort db context kind (request.about focal.id)).members.filterMap
      (fun member => db.videoOf member.postId) = _ := videos_members bounded_subset
  have habsent : (∀ member ∈ (comparePostToCohort db context kind request focal.id).cohort.members,
      db.videoOf member.postId ≠ some focal.providerMediaId) ↔
      focal.providerMediaId ∉ (((request.about focal.id).bounded context kind db).filter
        ((request.about focal.id).isMeasurable db context)).map providerMediaId := by
    rw [← hvideos, mem_filterMap]
    simp only [not_exists, not_and]
    rfl
  rw [habsent, mem_map]
  constructor
  · intro hnone copy hcopy hvideo hconsidered
    by_contra hmeasurable
    rw [Bool.not_eq_false] at hmeasurable
    exact hnone ⟨copy, mem_filter.mpr
      ⟨mem_bounded_iff.mpr ⟨hcopy, hconsidered⟩, hmeasurable⟩, hvideo⟩
  · rintro hnone ⟨copy, hcopy, hvideo⟩
    obtain ⟨hbounded, hmeasurable⟩ := mem_filter.mp hcopy
    obtain ⟨hread, hconsidered⟩ := mem_bounded_iff.mp hbounded
    have hfalse : (request.about focal.id).isMeasurable db context copy = false :=
      hnone copy hread hvideo hconsidered
    rw [hfalse] at hmeasurable
    cases hmeasurable

/-! ### A recent cohort -/

private theorem filter_isChosen :
    (request.posts context kind db).filter (request.isChosen db context kind) =
      (firstCopies providerMediaId (request.posts context kind db)).filter
        fun post => decide (request.focal ≠ some post.id) := by
  rw [firstCopies_eq_filter nodup_posts, filter_filter]
  refine filter_congr fun post _ => ?_
  rw [Bool.and_comm]
  rfl

private theorem focal_ne_of_video (hfocal : focal ∈ db.posts.rows) (hpost : post ∈ db.posts.rows)
    (h : post.providerMediaId ≠ focal.providerMediaId) :
    (request.about focal.id).focal ≠ some post.id := by
  intro hsame
  apply h
  have hid : focal.id = post.id :=
    Option.some.inj (Option.filter_eq_some_iff.mp hsame).1
  rw [Table.eq_of_key instagramPostSchema_keyedBy_id hpost hfocal hid.symm]

/-- Where no copy of the video is considered, a recent cohort considers the first other videos of
the posts that it reads. -/
theorem map_bounded_recent (hfocal : focal ∈ db.posts.rows) (hrecent : kind = .recent)
    (hother : ∀ post ∈ (request.about focal.id).bounded context kind db,
      post.providerMediaId ≠ focal.providerMediaId) :
    ((request.about focal.id).bounded context kind db).map providerMediaId =
      (otherVideos focal (request.posts context kind db)).take recentCohortPostLimit := by
  have hbounded : (request.about focal.id).bounded context kind db = _ := bounded_eq
  rw [if_pos hrecent, filter_isChosen] at hbounded
  have hnarrow : ∀ post ∈ firstCopies providerMediaId
      ((request.about focal.id).posts context kind db),
      decide (post.providerMediaId ≠ focal.providerMediaId) = true →
        decide ((request.about focal.id).focal ≠ some post.id) = true := by
    intro post hpost hvideo
    have hread := (mem_newestPosts.mp (mem_posts (mem_firstCopies.mp hpost).mem)).1
    exact decide_eq_true (focal_ne_of_video hfocal hread (of_decide_eq_true hvideo))
  rw [hbounded] at hother ⊢
  rw [take_filter_congr hnarrow fun post hpost => decide_eq_true (hother post hpost), map_take]
  rfl

private theorem otherVideos_prefix : otherVideos focal (request.posts context kind db) <+:
    otherVideos focal (db.newestPosts (request.selects context kind)) := by
  have hsplit : db.newestPosts (request.selects context kind) =
      request.posts context kind db ++
        (db.newestPosts (request.selects context kind)).drop (take kind) :=
    (take_append_drop _ _).symm
  unfold otherVideos
  rw [hsplit]
  exact (( firstCopies_prefix _).filter _).map _

/-- **A recent cohort** considers the newest other videos exactly if it considers no copy of the
video, and enough other videos are among the posts that it reads. -/
theorem recent_iff (hfocal : focal ∈ db.posts.rows) (hrecent : kind = .recent) :
    ((request.about focal.id).bounded context kind db).map providerMediaId =
        (otherVideos focal (db.newestPosts (request.selects context kind))).take
          recentCohortPostLimit ↔
      (∀ copy ∈ request.posts context kind db, copy.providerMediaId = focal.providerMediaId →
          ¬ (request.about focal.id).IsConsidered db context kind copy) ∧
        min recentCohortPostLimit
            (otherVideos focal (db.newestPosts (request.selects context kind))).length ≤
          (otherVideos focal (request.posts context kind db)).length := by
  have hprefix : otherVideos focal (request.posts context kind db) <+: _ := otherVideos_prefix
  constructor
  · intro hvideos
    have hother : ∀ post ∈ (request.about focal.id).bounded context kind db,
        post.providerMediaId ≠ focal.providerMediaId := by
      intro post hpost
      have hmem : post.providerMediaId ∈
          otherVideos focal (db.newestPosts (request.selects context kind)) := by
        apply mem_of_mem_take (i := recentCohortPostLimit)
        rw [← hvideos]
        exact mem_map_of_mem hpost
      obtain ⟨other, hfiltered, heq⟩ := mem_map.mp hmem
      rw [← heq]
      exact of_decide_eq_true (mem_filter.mp hfiltered).2
    refine ⟨fun copy hcopy hvideo hconsidered => ?_, ?_⟩
    · exact hother copy (mem_bounded_iff.mpr ⟨hcopy, hconsidered⟩) hvideo
    · rw [map_bounded_recent hfocal hrecent hother] at hvideos
      have hlength := congrArg List.length hvideos
      rw [length_take, length_take] at hlength
      omega
  · rintro ⟨hnone, henough⟩
    rw [map_bounded_recent hfocal hrecent fun post hpost hvideo =>
      hnone post (mem_bounded_iff.mp hpost).1 hvideo (mem_bounded_iff.mp hpost).2]
    obtain ⟨rest, hrest⟩ := hprefix
    rw [← hrest, length_append] at henough
    have hnothing : rest.take
        (recentCohortPostLimit - (otherVideos focal (request.posts context kind db)).length) =
          [] := by
      rw [take_eq_nil_iff]
      by_cases hrest : rest.length = 0
      · exact .inr (length_eq_zero_iff.mp hrest)
      · left
        omega
    rw [← hrest, take_append, hnothing, append_nil]

/-! ### The coverage -/

private theorem selectedRow_isSome {postId : String} :
    (selectedRow snapshots windowKey postId).isSome ↔
      (selectComparableSnapshots (snapshots.map candidate) windowKey
        postId).isSome := by
  constructor
  · intro h
    obtain ⟨row, hrow⟩ := Option.isSome_iff_exists.mp h
    obtain ⟨selected, hselected, -⟩ := Option.bind_eq_some_iff.mp hrow
    exact Option.isSome_iff_exists.mpr ⟨selected, hselected⟩
  · intro h
    obtain ⟨selected, hselected⟩ := Option.isSome_iff_exists.mp h
    have hmem := (selectComparableSnapshot_spec hselected).1
    obtain ⟨source, hsource, rfl⟩ := mem_map.mp (mem_filter.mp hmem).1
    unfold selectedRow
    rw [hselected, Option.bind_some, List.find?_isSome]
    exact ⟨source, hsource, beq_self_eq_true _⟩

private theorem mem_of_selected {postId : String}
    (h : (selectComparableSnapshots (snapshots.map candidate) windowKey
      postId).isSome) :
    postId ∈ snapshots.map instagramPostId := by
  obtain ⟨selected, hselected⟩ := Option.isSome_iff_exists.mp h
  obtain ⟨hcandidate, hpost⟩ := mem_filter.mp (selectComparableSnapshot_spec hselected).1
  obtain ⟨source, hsource, rfl⟩ := mem_map.mp hcandidate
  exact mem_map.mpr ⟨source, hsource, beq_iff_eq.mp hpost⟩

/-- The posts for which a snapshot is selected, counted once by their snapshots and once by
themselves. -/
theorem length_chosen {posts : List InstagramPost} (hnodup : (posts.map InstagramPost.id).Nodup)
    (hposts : ∀ row ∈ snapshots, row.instagramPostId ∈ posts.map InstagramPost.id) :
    ((snapshots.map instagramPostId).dedup.filter fun postId =>
        (selectComparableSnapshots (snapshots.map candidate) windowKey
          postId).isSome).length =
      posts.countP fun post => (selectedRow snapshots windowKey post.id).isSome := by
  have hperm : ((snapshots.map instagramPostId).dedup.filter fun postId =>
      (selectComparableSnapshots (snapshots.map candidate) windowKey
        postId).isSome).Perm
      ((posts.filter fun post => (selectedRow snapshots windowKey post.id).isSome).map
        InstagramPost.id) := by
    refine (perm_ext_iff_of_nodup ((nodup_dedup _).filter _)
      ((filter_sublist.map _).nodup hnodup)).mpr fun postId => ?_
    rw [mem_filter, mem_dedup]
    constructor
    · rintro ⟨hmem, hselected⟩
      obtain ⟨row, hrow, rfl⟩ := mem_map.mp hmem
      obtain ⟨post, hpost, hid⟩ := mem_map.mp (hposts row hrow)
      refine mem_map.mpr ⟨post, mem_filter.mpr ⟨hpost, ?_⟩, hid⟩
      rw [hid]
      exact selectedRow_isSome.mpr hselected
    · intro hmem
      obtain ⟨post, hpost, rfl⟩ := mem_map.mp hmem
      have hselected := selectedRow_isSome.mp (mem_filter.mp hpost).2
      exact ⟨mem_of_selected hselected, hselected⟩
  rw [hperm.length_eq, length_map, countP_eq_length_filter]

private theorem length_members_add (snapshots : List InstagramMetricSnapshot)
    (posts : List InstagramPost) :
    (posts.filterMap (request.member snapshots)).length +
        posts.countP (fun post => (selectedRow snapshots request.ageWindow post.id).any fun row =>
          (snapshotValue request.metric row).isNone) =
      posts.countP fun post => (selectedRow snapshots request.ageWindow post.id).isSome := by
  have hpost (post : InstagramPost) :
      ((if (request.member snapshots post).isSome = true then 1 else 0) +
        if (selectedRow snapshots request.ageWindow post.id).any (fun row =>
          (snapshotValue request.metric row).isNone) = true then 1 else 0) =
        if (selectedRow snapshots request.ageWindow post.id).isSome = true then 1 else 0 := by
    unfold member
    cases selectedRow snapshots request.ageWindow post.id with
    | none => rfl
    | some row => cases hvalue : snapshotValue request.metric row <;> simp [hvalue]
  rw [length_filterMap_eq_countP]
  induction posts with
  | nil => rfl
  | cons post posts ih =>
    rw [countP_cons, countP_cons, countP_cons, ← hpost post, ← ih]
    omega

/-- **The counts of the coverage add up.** -/
theorem adds_coverage : (loadCohort db context kind request).coverage.Adds := by
  have hids : ((request.bounded context kind db).map InstagramPost.id).Nodup := by
    refine Nodup.map_on ?_ nodup_bounded.of_map
    intro post hpost other hother hid
    exact Table.eq_of_key instagramPostSchema_keyedBy_id (bounded_subset hpost)
      (bounded_subset hother) hid
  -- the snapshots that are read are snapshots of the posts that are considered
  obtain ⟨snapshots, hsnapshots⟩ : ∃ snapshots, snapshots =
      db.readSnapshots context ((request.bounded context kind db).map InstagramPost.id)
        (snapshotAgeWindowFor request.ageWindow).minimumSeconds
        (snapshotAgeWindowFor request.ageWindow).maximumSeconds := ⟨_, rfl⟩
  have hposts : ∀ row ∈ snapshots,
      row.instagramPostId ∈ (request.bounded context kind db).map InstagramPost.id := by
    intro row hrow
    rw [hsnapshots] at hrow
    have hselected := (mem_filter.mp hrow).2
    rw [Bool.and_eq_true, Bool.and_eq_true] at hselected
    exact contains_iff_mem.mp hselected.1.1
  have hchosen : _ = (request.bounded context kind db).countP fun post =>
      (selectedRow snapshots request.ageWindow post.id).isSome := length_chosen hids hposts
  have hmembers : _ = (request.bounded context kind db).countP fun post =>
      (selectedRow snapshots request.ageWindow post.id).isSome :=
    length_members_add snapshots (request.bounded context kind db)
  have hle : ((request.bounded context kind db).countP fun post =>
      (selectedRow snapshots request.ageWindow post.id).isSome) ≤
        (request.bounded context kind db).length := countP_le_length
  unfold CohortCoverage.Adds loadCohort summariseCoverage
  dsimp only
  rw [← hsnapshots, hchosen]
  omega

end CohortRequest

/-- **The video in focus.** It is not in the cohort that its post is compared to, a recent cohort
considers the newest other videos and the counts add up, exactly if the copies that are considered
have no value, a recent cohort considers none, and enough other videos are among those it reads. -/
theorem keeps_focal_video_out_iff (db : AnalyticsTables) (context : WorkspaceContext)
    (kind : CohortKind) (request : CohortRequest) (focal : InstagramPost)
    (hfocal : focal ∈ db.posts.rows) :
    request.KeepsFocalVideoOut db context kind focal ↔
      request.SetsCopiesAside db context kind focal := by
  constructor
  · rintro ⟨habsent, hrecent, -⟩
    refine ⟨CohortRequest.absent_iff.mp habsent, fun hkind => ?_, fun hkind => ?_⟩
    · exact ((CohortRequest.recent_iff hfocal hkind).mp (hrecent hkind)).1
    · exact ((CohortRequest.recent_iff hfocal hkind).mp (hrecent hkind)).2
  · rintro ⟨hunmeasured, hunread, henough⟩
    refine ⟨CohortRequest.absent_iff.mpr hunmeasured, fun hkind => ?_,
      CohortRequest.adds_coverage⟩
    exact (CohortRequest.recent_iff hfocal hkind).mpr ⟨hunread hkind, henough hkind⟩

namespace FocalSample

/-- A copy of one video. -/
def post (id account : String) (publishedAt : ℤ) : InstagramPost where
  id := id
  workspaceId := "w"
  instagramAccountId := account
  mediaKind := .video
  publishedAt := publishedAt
  currentAnalysisId := none
  providerMediaId := [86]

/-- A snapshot of a copy, a week after it was published. -/
def snapshot (id postId : String) : InstagramMetricSnapshot where
  id := id
  workspaceId := "w"
  instagramPostId := postId
  capturedAt := 604801000
  postAgeSeconds := 604800
  ageBucket := .day7
  apiVersion := "v23.0"
  values := [(.likes, 4), (.comments, 3), (.shares, 2), (.saves, 1)]
  availability := [.likes, .comments, .shares, .saves].map fun canonical =>
    (canonical, ⟨.available, none, none, none, none, some .count⟩)
  followerCount := none
  rawPayloadHash := "h"

private theorem posts_apart : instagramPostSchema.violation [post "p" "a" 1000, post "q" "b" 2000] =
    none := by decide

private theorem snapshots_apart :
    instagramMetricSnapshotSchema.violation [snapshot "s" "p", snapshot "t" "q"] = none := by
  decide

/-- Two accounts have published one video, and both copies have been observed. -/
def tables : AnalyticsTables where
  posts := ⟨[post "p" "a" 1000, post "q" "b" 2000], posts_apart⟩
  analyses := []
  snapshots := ⟨[snapshot "s" "p", snapshot "t" "q"], snapshots_apart⟩

def bothAccounts : CohortRequest := ⟨.day7, none, none, none, .engagementCount, 0, 5000⟩

/-- The condition, at the older copy. -/
theorem older_copy_iff :
    bothAccounts.KeepsFocalVideoOut tables ⟨"w"⟩ .account (post "p" "a" 1000) ↔
      bothAccounts.SetsCopiesAside tables ⟨"w"⟩ .account (post "p" "a" 1000) :=
  keeps_focal_video_out_iff tables ⟨"w"⟩ .account bothAccounts (post "p" "a" 1000)
    mem_cons_self

/-- **A video is compared to its own copy**: the newer copy is the one that is kept, and the older
one is the one that is excluded. -/
theorem video_is_compared_to_its_copy : ¬ ∀ (db : AnalyticsTables) (context : WorkspaceContext)
    (kind : CohortKind) (request : CohortRequest), ∀ focal ∈ db.posts.rows,
      request.KeepsFocalVideoOut db context kind focal := by
  intro h
  have habsent := (h tables ⟨"w"⟩ .account bothAccounts (post "p" "a" 1000)
    mem_cons_self).absent
  revert habsent
  decide +kernel

end FocalSample

end ContentAutomation
