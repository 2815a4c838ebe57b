import ContentAutomation.Analytics.DerivedMetrics
import ContentAutomation.Instagram.SnapshotSchedule
import ContentAutomation.Library.FirstCopies
import ContentAutomation.Worker.Tables

/-!
# Cohorts

The posts that one post is compared to, each with the value of one metric in one window of age.
A cohort that is bounded to no account reads the posts of all of them. Of a video that several
accounts have published it keeps the first copy that it reads, and only then asks which of the
posts have a value. A value is read of a post in the same way whether the post is in focus or
one of many.
-/

namespace ContentAutomation

open Relational FirstCopies List InstagramPost

/-! ### Reading -/

/-- The current analysis of a post, as far as it groups posts. -/
structure AnalysisFeatureRow where
  id : String
  workspaceId : String
  analyticsEligible : Bool
  contentFormat : Option String
  contentPillar : Option String
  ctaType : Option String
  durationSeconds : Option ℚ
  hookCategory : Option String
  presenterMode : Option String

/-- The tables that analytics read. -/
structure AnalyticsTables where
  posts : Table instagramPostSchema
  analyses : List AnalysisFeatureRow
  snapshots : Table instagramMetricSnapshotSchema

namespace AnalyticsTables

variable (db : AnalyticsTables) (context : WorkspaceContext)

/-- Posts by `orderBy: [{ publishedAt: "desc" }, { id: "desc" }]`. -/
def newestPosts (selects : InstagramPost → Bool) : List InstagramPost :=
  (db.posts.rows.filter selects).insertionSort fun left right => isListedBefore left right

/-- The snapshots of posts whose ages are between bounds; no upper bound is infinite. -/
def readSnapshots (postIds : List String) (minimumSeconds : ℤ) (maximumSeconds : Option ℤ) :
    List InstagramMetricSnapshot :=
  db.snapshots.rows.filter fun row => postIds.contains row.instagramPostId &&
    (decide (minimumSeconds ≤ row.postAgeSeconds) &&
      isWithin row.postAgeSeconds maximumSeconds) && row.workspaceId == context.workspaceId

end AnalyticsTables

/-- `selectComparableSnapshots`, for a post. -/
def selectComparableSnapshots (candidates : List ComparableSnapshotCandidate)
    (windowKey : SnapshotAgeWindowKey) (postId : String) : Option ComparableSnapshotCandidate :=
  selectComparableSnapshot (candidates.filter fun candidate => candidate.postId == postId)
    windowKey

/-- The row that is selected of the snapshots of a post. -/
def selectedRow (snapshots : List InstagramMetricSnapshot) (windowKey : SnapshotAgeWindowKey)
    (postId : String) : Option InstagramMetricSnapshot :=
  (selectComparableSnapshots (snapshots.map InstagramMetricSnapshot.candidate) windowKey
    postId).bind fun selected => snapshots.find? fun row => row.id == selected.snapshotId

/-- The value that a metric has in a snapshot. -/
def snapshotValue (metric : DerivedMetric) (row : InstagramMetricSnapshot) : Option ℚ :=
  let result := calculateDerivedMetric metric
    (createMetricInputs (readInstagramSnapshotObservations row) row.id)
  if result.isAvailable = true then result.value else none

/-- `loadPostMetricValue`. -/
def loadPostMetricValue (db : AnalyticsTables) (context : WorkspaceContext)
    (ageWindow : SnapshotAgeWindowKey) (metric : DerivedMetric) (focalPostId : String) :
    Option ℚ :=
  let window := snapshotAgeWindowFor ageWindow
  let rows := db.readSnapshots context [focalPostId] window.minimumSeconds window.maximumSeconds
  (selectedRow rows ageWindow focalPostId).bind (snapshotValue metric)

/-! ### Cohorts -/

/-- `CohortKind`. -/
inductive CohortKind
  | account | recent | category
  deriving DecidableEq

/-- `CohortRequest`. -/
structure CohortRequest where
  ageWindow : SnapshotAgeWindowKey
  focalPostId : Option String
  instagramAccountId : Option String
  mediaCategory : Option Utf16
  metric : DerivedMetric
  publishedFrom : ℤ
  publishedTo : ℤ

/-- `CohortMember`. -/
structure CohortMember where
  postId : String
  publishedAt : ℤ
  snapshotId : String
  value : ℚ

/-- `CohortCoverage`. -/
structure CohortCoverage where
  eligiblePosts : ℕ
  missingRatio : ℚ
  postsMissingMetric : ℕ
  postsMissingSnapshot : ℕ
  postsWithValue : ℕ

/-- `CohortDefinition`. -/
structure CohortDefinition where
  ageWindow : SnapshotAgeWindowKey
  categoryValue : Option Utf16
  instagramAccountId : Option String
  kind : CohortKind
  metric : DerivedMetric
  publishedFrom : ℤ
  publishedTo : ℤ

/-- `Cohort`, but for the fingerprint and the spread, which are made of its other parts. -/
structure Cohort where
  coverage : CohortCoverage
  definition : CohortDefinition
  members : List CohortMember

/-- `cohortPostLimit`. -/
def cohortPostLimit : ℕ := 500

/-- `recentCohortPostLimit`. -/
def recentCohortPostLimit : ℕ := 20

/-- `recentCohortDays`. -/
def recentCohortDays : ℤ := 90

/-- `dedupeCollaboratorPosts`. -/
def dedupeCollaboratorPosts (posts : List InstagramPost) : List InstagramPost :=
  firstCopies providerMediaId posts

/-- `excludeFocalPost`. -/
def excludeFocalPost (entries : List InstagramPost) (focalPostId : String) : List InstagramPost :=
  entries.filter fun entry => entry.id != focalPostId

/-- `summariseCoverage`. -/
def summariseCoverage (eligiblePosts postsMissingMetric postsMissingSnapshot postsWithValue : ℕ) :
    CohortCoverage where
  eligiblePosts
  missingRatio :=
    if eligiblePosts = 0 then 0 else (postsMissingSnapshot + postsMissingMetric) / eligiblePosts
  postsMissingMetric
  postsMissingSnapshot
  postsWithValue

namespace CohortRequest

variable (context : WorkspaceContext) (kind : CohortKind) (request : CohortRequest)

/-- `resolvePublishedFrom`. -/
def resolvePublishedFrom : ℤ :=
  if kind ≠ .recent then request.publishedFrom
  else max (request.publishedTo - recentCohortDays * Calendar.dayMilliseconds) request.publishedFrom

def category : Option Utf16 :=
  if kind = .category then request.mediaCategory.filter fun category => category ≠ [] else none

def focal : Option String := request.focalPostId.filter fun id => id ≠ ""

/-- What the query for posts selects. -/
def selects (post : InstagramPost) : Bool :=
  request.instagramAccountId.all (fun id => post.instagramAccountId == id) &&
    decide (request.resolvePublishedFrom kind ≤ post.publishedAt) &&
    decide (post.publishedAt ≤ request.publishedTo) && post.workspaceId == context.workspaceId &&
    (request.category kind).all fun category => post.mediaProductType == some category

def take : ℕ := if kind = .recent then recentCohortPostLimit + 1 else cohortPostLimit

/-- The posts that the query reads. -/
def posts (db : AnalyticsTables) : List InstagramPost :=
  (db.newestPosts (request.selects context kind)).take (take kind)

/-- The posts that the cohort asks for a value. -/
def bounded (db : AnalyticsTables) : List InstagramPost :=
  let posts := request.posts context kind db
  let all := if request.instagramAccountId = none then dedupeCollaboratorPosts posts else posts
  let eligible :=
    match request.focal with
    | none => all
    | some focalPostId => excludeFocalPost all focalPostId
  if kind = .recent then eligible.take recentCohortPostLimit else eligible

def definition : CohortDefinition where
  ageWindow := request.ageWindow
  categoryValue := if kind = .category then request.mediaCategory else none
  instagramAccountId := request.instagramAccountId
  kind
  metric := request.metric
  publishedFrom := request.resolvePublishedFrom kind
  publishedTo := request.publishedTo

/-- A post with its value, if its snapshot has one. -/
def member (snapshots : List InstagramMetricSnapshot) (post : InstagramPost) :
    Option CohortMember :=
  (selectedRow snapshots request.ageWindow post.id).bind fun row =>
    (snapshotValue request.metric row).map fun value =>
      { postId := post.id, publishedAt := post.publishedAt, snapshotId := row.id, value }

end CohortRequest

/-- `loadCohort`. -/
def loadCohort (db : AnalyticsTables) (context : WorkspaceContext) (kind : CohortKind)
    (request : CohortRequest) : Cohort :=
  let window := snapshotAgeWindowFor request.ageWindow
  let bounded := request.bounded context kind db
  let snapshots := db.readSnapshots context (bounded.map InstagramPost.id) window.minimumSeconds
    window.maximumSeconds
  let members := bounded.filterMap (request.member snapshots)
  let chosen := (snapshots.map InstagramMetricSnapshot.instagramPostId).dedup.filter fun postId =>
    (selectComparableSnapshots (snapshots.map InstagramMetricSnapshot.candidate)
      request.ageWindow postId).isSome
  let postsMissingMetric := bounded.countP fun post =>
    (selectedRow snapshots request.ageWindow post.id).any fun row =>
      (snapshotValue request.metric row).isNone
  { coverage := summariseCoverage bounded.length postsMissingMetric
      (bounded.length - chosen.length) members.length
    definition := request.definition kind
    members }

/-! ### One value for a post -/

private theorem instagramMetricSnapshotSchema_keyedBy_id :
    instagramMetricSnapshotSchema.KeyedBy InstagramMetricSnapshot.id :=
  ⟨_, mem_cons_self, fun _ _ h => by simpa using h⟩

section Selection

variable {db : AnalyticsTables} {context : WorkspaceContext}
  {snapshots others : List InstagramMetricSnapshot} {windowKey : SnapshotAgeWindowKey}
  {postId : String} {postIds : List String} {minimumSeconds : ℤ} {maximumSeconds : Option ℤ}

private theorem selectedRow_eq_some {row : InstagramMetricSnapshot}
    (hsnapshots : snapshots ⊆ db.snapshots.rows)
    (h : selectedRow snapshots windowKey postId = some row) :
    row ∈ snapshots ∧ row.instagramPostId = postId ∧
      selectComparableSnapshot ((snapshots.filter fun row => row.instagramPostId == postId).map
        InstagramMetricSnapshot.candidate) windowKey = some row.candidate := by
  obtain ⟨selected, hselected, hfind⟩ := Option.bind_eq_some_iff.mp h
  unfold selectComparableSnapshots at hselected
  rw [List.filter_map] at hselected
  have hselected' : selectComparableSnapshot
      ((snapshots.filter fun row => row.instagramPostId == postId).map
        InstagramMetricSnapshot.candidate) windowKey = some selected := hselected
  obtain ⟨source, hsource, rfl⟩ := mem_map.mp (selectComparableSnapshot_spec hselected').1
  obtain ⟨hmem, hpost⟩ := mem_filter.mp hsource
  have hfound : snapshots.find? (fun row => row.id == source.candidate.snapshotId) = some source :=
    Table.find?_eq_some_of_key instagramMetricSnapshotSchema_keyedBy_id hsnapshots hmem
  obtain rfl := Option.mem_unique hfind hfound
  exact ⟨hmem, by simpa using hpost, hselected'⟩

private theorem selectedRow_congr (hsnapshots : snapshots ⊆ db.snapshots.rows)
    (hothers : others ⊆ db.snapshots.rows)
    (hsame : (snapshots.filter fun row => row.instagramPostId == postId) =
      others.filter fun row => row.instagramPostId == postId) :
    selectedRow snapshots windowKey postId = selectedRow others windowKey postId := by
  have hsome {first second : List InstagramMetricSnapshot} {row : InstagramMetricSnapshot}
      (hfirst : first ⊆ db.snapshots.rows) (hsecond : second ⊆ db.snapshots.rows)
      (hsame : (first.filter fun row => row.instagramPostId == postId) =
        second.filter fun row => row.instagramPostId == postId)
      (h : selectedRow first windowKey postId = some row) :
      selectedRow second windowKey postId = some row := by
    obtain ⟨hrow, hpost, hselected⟩ := selectedRow_eq_some hfirst h
    have hmem : row ∈ first.filter fun row => row.instagramPostId == postId :=
      mem_filter.mpr ⟨hrow, by simpa using hpost⟩
    rw [hsame] at hmem hselected
    refine Option.bind_eq_some_iff.mpr ⟨row.candidate, ?_, ?_⟩
    · unfold selectComparableSnapshots
      rw [List.filter_map]
      exact hselected
    · exact Table.find?_eq_some_of_key instagramMetricSnapshotSchema_keyedBy_id hsecond
        (mem_filter.mp hmem).1
  apply Option.ext
  intro row
  exact ⟨hsome hsnapshots hothers hsame, hsome hothers hsnapshots hsame.symm⟩

private theorem filter_readSnapshots (hpost : postId ∈ postIds) :
    ((db.readSnapshots context postIds minimumSeconds maximumSeconds).filter fun row =>
      row.instagramPostId == postId) =
      db.readSnapshots context [postId] minimumSeconds maximumSeconds := by
  unfold AnalyticsTables.readSnapshots
  rw [filter_filter]
  refine filter_congr fun row _ => ?_
  by_cases hrow : row.instagramPostId = postId
  · simp [hrow, hpost]
  · simp [hrow]

private theorem readSnapshots_subset :
    db.readSnapshots context postIds minimumSeconds maximumSeconds ⊆ db.snapshots.rows :=
  fun _ hrow => (mem_filter.mp hrow).1

/-- **One value for a post**: what is selected for it among the snapshots of many posts is what
is selected for it alone. -/
theorem selectedRow_readSnapshots (hpost : postId ∈ postIds) :
    selectedRow (db.readSnapshots context postIds minimumSeconds maximumSeconds) windowKey
        postId =
      selectedRow (db.readSnapshots context [postId] minimumSeconds maximumSeconds) windowKey
        postId := by
  refine selectedRow_congr readSnapshots_subset readSnapshots_subset ?_
  rw [filter_readSnapshots hpost, filter_readSnapshots mem_cons_self]

end Selection

/-! ### Pooled cohorts -/

theorem nodup_posts (db : AnalyticsTables) : db.posts.rows.Nodup :=
  (Table.pairwise_key instagramPostSchema_keyedBy_id db.posts).imp fun hne heq =>
    hne (congrArg InstagramPost.id heq)

variable {db : AnalyticsTables} {selects : InstagramPost → Bool}

theorem mem_newestPosts {post : InstagramPost} :
    post ∈ db.newestPosts selects ↔ post ∈ db.posts.rows ∧ selects post := by
  unfold AnalyticsTables.newestPosts
  rw [mem_insertionSort, mem_filter]

theorem nodup_newestPosts :
    (db.newestPosts selects).Nodup :=
  (perm_insertionSort _ _).nodup_iff.mpr ((nodup_posts db).filter _)

/-- The video of a post. -/
def AnalyticsTables.videoOf (db : AnalyticsTables) (postId : String) : Option Utf16 :=
  (db.posts.lookup InstagramPost.id postId).map InstagramPost.providerMediaId

theorem videoOf_eq {post : InstagramPost} (h : post ∈ db.posts.rows) :
    db.videoOf post.id = some post.providerMediaId := by
  unfold AnalyticsTables.videoOf
  rw [(Table.lookup_eq_some instagramPostSchema_keyedBy_id).mpr ⟨h, rfl⟩]
  rfl

theorem filterMap_eq_map_filter {α β : Type} {f : α → Option β} {g : α → β} {test : α → Bool}
    {rows : List α} (h : ∀ row ∈ rows, f row = if test row then some (g row) else none) :
    rows.filterMap f = (rows.filter test).map g := by
  rw [← filterMap_eq_map, ← filterMap_eq_filter, filterMap_filterMap]
  refine filterMap_congr fun row hrow => ?_
  rw [h row hrow]
  cases htest : test row <;> simp [Option.guard, htest]

namespace CohortRequest

variable {context : WorkspaceContext} {kind : CohortKind} {request : CohortRequest}
  {post : InstagramPost}

variable (db context kind request) in
/-- The posts that the definition of the cohort admits, but for the focal one. -/
def eligible : List InstagramPost :=
  (db.newestPosts (request.selects context kind)).filter fun post =>
    decide (request.focal ≠ some post.id)

variable (db context request) in
/-- The post has a value in the window. -/
def isMeasurable (post : InstagramPost) : Bool :=
  (loadPostMetricValue db context request.ageWindow request.metric post.id).isSome

variable (db context kind request) in
/-- The copy that the cohort keeps of its video: the first that the query reads, unless that is
the focal post. -/
def isChosen (post : InstagramPost) : Bool :=
  decide (IsFirst providerMediaId (request.posts context kind db) post) &&
    decide (request.focal ≠ some post.id)

theorem mem_posts (h : post ∈ request.posts context kind db) :
    post ∈ db.newestPosts (request.selects context kind) := mem_of_mem_take h

theorem nodup_posts : (request.posts context kind db).Nodup :=
  (take_sublist _ _).nodup nodup_newestPosts

private theorem nodup_videos {instagramAccountId : String}
    (haccount : request.instagramAccountId = some instagramAccountId) :
    ((db.newestPosts (request.selects context kind)).map providerMediaId).Nodup := by
  have hkey : instagramPostSchema.KeyedBy fun post : InstagramPost =>
      (post.instagramAccountId, post.providerMediaId) :=
    ⟨_, mem_cons_of_mem _ mem_cons_self, fun _ _ h => by simpa using h⟩
  have howner : ∀ post ∈ db.newestPosts (request.selects context kind),
      post.instagramAccountId = instagramAccountId := by
    intro post hpost
    have hselects := (mem_newestPosts.mp hpost).2
    unfold selects at hselects
    rw [haccount] at hselects
    simp only [Bool.and_eq_true, Option.all_some, beq_iff_eq] at hselects
    exact hselects.1.1.1.1
  refine Nodup.map_on ?_ nodup_newestPosts
  intro post hpost other hother hvideo
  refine Table.eq_of_key hkey (mem_newestPosts.mp hpost).1 (mem_newestPosts.mp hother).1 ?_
  rw [howner post hpost, howner other hother, hvideo]

private theorem copies_eq : (if request.instagramAccountId = none
      then dedupeCollaboratorPosts (request.posts context kind db)
      else request.posts context kind db) =
    firstCopies providerMediaId (request.posts context kind db) := by
  split
  · rfl
  · next haccount =>
    obtain ⟨instagramAccountId, haccount⟩ := Option.ne_none_iff_exists'.mp haccount
    have hvideos : ((request.posts context kind db).map providerMediaId).Nodup :=
      ((take_sublist _ _).map _).nodup (nodup_videos haccount)
    exact (firstCopies_of_nodup hvideos).symm

/-- The cohort asks the copies that it keeps for a value. -/
theorem bounded_eq :
    request.bounded context kind db =
      if kind = .recent then
        ((request.posts context kind db).filter (request.isChosen db context kind)).take
          recentCohortPostLimit
      else (request.posts context kind db).filter (request.isChosen db context kind) := by
  have hcopies : (match request.focal with
      | none => firstCopies providerMediaId (request.posts context kind db)
      | some focalPostId => excludeFocalPost
          (firstCopies providerMediaId (request.posts context kind db))
            focalPostId) =
      (request.posts context kind db).filter (request.isChosen db context kind) := by
    unfold excludeFocalPost
    rw [firstCopies_eq_filter nodup_posts]
    cases hfocal : request.focal with
    | none =>
      refine filter_congr fun post _ => ?_
      simp [isChosen, hfocal]
    | some focalPostId =>
      dsimp only
      rw [filter_filter]
      refine filter_congr fun post _ => ?_
      rw [Bool.and_comm, Bool.eq_iff_iff]
      simp [isChosen, hfocal, eq_comm (a := focalPostId)]
  unfold bounded
  dsimp only
  rw [copies_eq, hcopies]

theorem mem_bounded :
    post ∈ request.bounded context kind db ↔ post ∈ request.posts context kind db ∧
      request.isChosen db context kind post ∧ (kind = .recent →
        ((request.posts context kind db).takeWhile fun other => decide (other ≠ post)).countP
          (request.isChosen db context kind) < recentCohortPostLimit) := by
  rw [bounded_eq]
  split
  · next hrecent => rw [mem_take_filter nodup_posts, forall_prop_of_true hrecent]
  · next hrecent => rw [mem_filter, forall_prop_of_false hrecent, and_true]

theorem nodup_bounded :
    ((request.bounded context kind db).map providerMediaId).Nodup := by
  have hchosen : ((request.posts context kind db).filter
      (request.isChosen db context kind)).Sublist
        (firstCopies providerMediaId (request.posts context kind db)) := by
    rw [firstCopies_eq_filter nodup_posts]
    refine monotone_filter_right _ fun post => Bool.le_iff_imp.mpr fun hpost => ?_
    exact (Bool.and_eq_true_iff.mp hpost).1
  rw [bounded_eq]
  split
  · exact (((take_sublist _ _).trans hchosen).map _).nodup nodup_firstCopies
  · exact (hchosen.map _).nodup nodup_firstCopies

theorem videos_members (hbounded : request.bounded context kind db ⊆ db.posts.rows) :
    (loadCohort db context kind request).members.filterMap (fun member => db.videoOf member.postId) =
      ((request.bounded context kind db).filter (request.isMeasurable db context)).map
        InstagramPost.providerMediaId := by
  unfold loadCohort
  rw [filterMap_filterMap]
  apply filterMap_eq_map_filter
  intro post hpost
  have hvalue : loadPostMetricValue db context request.ageWindow request.metric post.id =
      (selectedRow (db.readSnapshots context ((request.bounded context kind db).map
        InstagramPost.id) (snapshotAgeWindowFor request.ageWindow).minimumSeconds
        (snapshotAgeWindowFor request.ageWindow).maximumSeconds) request.ageWindow post.id).bind
          (snapshotValue request.metric) := by
    rw [selectedRow_readSnapshots (mem_map_of_mem hpost)]
    rfl
  unfold isMeasurable
  rw [hvalue]
  unfold member
  cases selectedRow _ request.ageWindow post.id with
  | none => rfl
  | some row =>
    cases hmetric : snapshotValue request.metric row with
    | none => simp [hmetric]
    | some value => simp [hmetric, videoOf_eq (hbounded hpost)]

/-- **Cohorts.** Each video with an eligible copy that has a value counts once in a cohort, of all
accounts or of one, and no other video does, exactly if the copy that is kept of each of them has a value, and
in a recent cohort comes before the limit. -/
theorem countsOnce_members_iff :
    CountsOnce providerMediaId (fun post => request.isMeasurable db context post)
        (request.eligible db context kind)
        ((loadCohort db context kind request).members.filterMap fun member =>
          db.videoOf member.postId) ↔
      ∀ copy ∈ request.eligible db context kind, request.isMeasurable db context copy →
        ∃ chosen ∈ request.posts context kind db,
          chosen.providerMediaId = copy.providerMediaId ∧
            request.isChosen db context kind chosen ∧
              request.isMeasurable db context chosen ∧ (kind = .recent →
                ((request.posts context kind db).takeWhile fun other =>
                  decide (other ≠ chosen)).countP (request.isChosen db context kind) <
                    recentCohortPostLimit) := by
  have hposts : ∀ post ∈ request.bounded context kind db,
      post ∈ db.newestPosts (request.selects context kind) ∧
        request.isChosen db context kind post = true := by
    intro post hpost
    obtain ⟨hread, hchosen, -⟩ := mem_bounded.mp hpost
    exact ⟨mem_posts hread, hchosen⟩
  rw [videos_members fun post hpost => (mem_newestPosts.mp (hposts post hpost).1).1,
    countsOnce_iff_of_nodup nodup_bounded ?_]
  · refine forall₂_congr fun copy _ => imp_congr_right fun _ => exists_congr fun chosen => ?_
    rw [mem_bounded]
    tauto
  · intro post hpost
    obtain ⟨hread, hchosen⟩ := hposts post hpost
    exact mem_filter.mpr ⟨hread, (Bool.and_eq_true_iff.mp hchosen).2⟩

end CohortRequest

end ContentAutomation
