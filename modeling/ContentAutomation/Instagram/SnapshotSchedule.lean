import ContentAutomation.Instagram.Snapshots
import ContentAutomation.Library.Transition

/-!
# Scheduled snapshots

The sweep asks which posts owe a snapshot and enqueues a job for each, once per
post and bucket. The job runs later, as often as it is retried, and files what it
observes under the bucket of the age at which it observed.
-/

namespace ContentAutomation

open Relational List

/-! ### The scheduler and its jobs -/

/-- A snapshot job, by what its key and its resource say. -/
structure SnapshotJob where
  workspaceId : String
  idempotencyKey : String
  resourceId : String
  /-- The job has not come to a terminal state. -/
  isOpen : Bool
  deriving DecidableEq

/-- `InstagramPostDueForSnapshot`. -/
structure InstagramPostDueForSnapshot where
  ageBucket : InstagramSnapshotBucket
  postAgeSeconds : ℤ
  postId : String
  workspaceId : String

/-- Where an attempt of a snapshot job stands. -/
inductive CapturePhase
  | unused
  /-- The post and its account have been read; the provider is asked. -/
  | fetching (job : SnapshotJob) (post : InstagramPost) (followerCount : Option ℤ)
  /-- The observation has been made; its commit is to come. -/
  | committing (job : SnapshotJob) (post : InstagramPost) (input : InstagramSnapshotInput)
  | ended
  deriving DecidableEq

/-- The scheduler, the posts, and the attempts of the jobs. -/
structure SnapshotSchedule where
  clock : ℤ
  accounts : List InstagramAccount
  posts : List InstagramPost
  snapshots : Table instagramMetricSnapshotSchema
  /-- What the sweeps have found due and not enqueued yet. -/
  due : List InstagramPostDueForSnapshot
  jobs : List SnapshotJob
  attempts : ℕ → CapturePhase

/-- What may happen. -/
inductive SnapshotEvent
  | tick (elapsed : ℕ)
  /-- An import writes a post. -/
  | importPost (post : InstagramPost)
  /-- A connection changes. -/
  | writeAccount (account : InstagramAccount)
  /-- A sweep asks what is due. -/
  | sweep (limit : ℤ)
  /-- A sweep enqueues the next post it found, or fails to. -/
  | enqueue (succeeds : Bool)
  /-- A job is run, for the first time or again. -/
  | begin (attempt : ℕ) (job : SnapshotJob)
  | capture (attempt : ℕ) (observations : List InstagramMetricObservation)
  | commit (attempt : ℕ) (snapshotId : String)
  /-- An attempt is lost, or fails. -/
  | abandon (attempt : ℕ)
  /-- A job is cancelled, or fails for good. -/
  | settle (job : SnapshotJob)

/-- `boundedTake`. -/
def boundedTake (limit : ℤ) : ℕ := (min (max limit 1) 200).toNat

/-- The newest posts come first, and of two equally new ones the one with the greater id. -/
def isListedBefore (left right : InstagramPost) : Bool :=
  decide (right.publishedAt < left.publishedAt) ||
    (left.publishedAt == right.publishedAt && decide (right.id ≤ left.id))

namespace SnapshotSchedule

variable (hash : List InstagramMetricObservation → String)

/-- The schedule before the first sweep. -/
def start (clock : ℤ) (accounts : List InstagramAccount) (posts : List InstagramPost) :
    SnapshotSchedule where
  clock := clock
  accounts := accounts
  posts := posts
  snapshots := Table.empty _
  due := []
  jobs := []
  attempts _ := .unused

/-- The account of a post is connected. -/
def isConnected (s : SnapshotSchedule) (post : InstagramPost) : Bool :=
  s.accounts.any fun account => account.id == post.instagramAccountId &&
    account.workspaceId == post.workspaceId && account.connectionStatus == .active

/-- The buckets under which a post has been observed. -/
def capturedBuckets (s : SnapshotSchedule) (postId : String) : List InstagramSnapshotBucket :=
  (s.snapshots.rows.filter fun row => row.instagramPostId == postId).map
    InstagramMetricSnapshot.ageBucket

/-- What a sweep finds a post due for. -/
def dueFor (s : SnapshotSchedule) (post : InstagramPost) : Option InstagramPostDueForSnapshot :=
  (instagramSnapshotDueFor (s.capturedBuckets post.id)
    ((s.clock - post.publishedAt) / 1000)).map fun owed =>
      { ageBucket := owed.ageBucket
        postAgeSeconds := owed.postAgeSeconds
        postId := post.id
        workspaceId := post.workspaceId }

/-- The posts that are not yet past the closing buckets, as far as a sweep reads them. -/
def closing (s : SnapshotSchedule) (take : ℕ) : List InstagramPost :=
  ((s.posts.filter fun post =>
    s.isConnected post && decide (s.clock - 3456000 * 1000 ≤ post.publishedAt)).insertionSort
      fun left right => isListedBefore left right).take (take * 5)

/-- The posts past the closing buckets that owe their last observation, as far as a
sweep reads them. -/
def settled (s : SnapshotSchedule) (take : ℕ) : List InstagramPost :=
  ((s.posts.filter fun post =>
    s.isConnected post && instagramInsightMediaKinds.contains post.mediaKind &&
      decide (post.publishedAt < s.clock - 3456000 * 1000) &&
      !(s.capturedBuckets post.id).contains .mature).insertionSort
        fun left right => isListedBefore left right).take take

/-- `listInstagramPostsDueForSnapshot`. -/
def listInstagramPostsDueForSnapshot (s : SnapshotSchedule) (limit : ℤ) :
    List InstagramPostDueForSnapshot :=
  let take := boundedTake limit
  ((s.closing take ++ s.settled take).filterMap s.dueFor).take take

/-- Enqueue a snapshot job, unless its key stands for a job already. -/
def enqueueSnapshot (s : SnapshotSchedule) (due : InstagramPostDueForSnapshot) :
    SnapshotSchedule :=
  let idempotencyKey := instagramSnapshotKey due.postId due.ageBucket
  if s.jobs.any fun job => job.workspaceId == due.workspaceId &&
      job.idempotencyKey == idempotencyKey then s
  else { s with jobs := s.jobs ++ [⟨due.workspaceId, idempotencyKey, due.postId, true⟩] }

/-- Another phase of an attempt. -/
def setAttempt (s : SnapshotSchedule) (attempt : ℕ) (phase : CapturePhase) : SnapshotSchedule :=
  { s with attempts := Function.update s.attempts attempt phase }

/-- A job comes to a terminal state. -/
def closeJob (s : SnapshotSchedule) (job : SnapshotJob) : SnapshotSchedule :=
  { s with jobs := s.jobs.map fun other => if other = job then { job with isOpen := false } else other }

/-- The reads with which `captureSnapshot` begins; `none` if it ends there. -/
def loadPost (s : SnapshotSchedule) (job : SnapshotJob) : Option (InstagramPost × Option ℤ) := do
  let post ← s.posts.find? fun post =>
    post.id == job.resourceId && post.workspaceId == job.workspaceId
  if instagramInsightMediaKinds.contains post.mediaKind then
    let account ← s.accounts.find? fun account =>
      account.id == post.instagramAccountId && account.workspaceId == job.workspaceId
    if account.connectionStatus = .active then some (post, account.followerCount) else none
  else none

/-- The observation that `captureSnapshot` returns to be committed. -/
def capturedInput (s : SnapshotSchedule) (post : InstagramPost) (followerCount : Option ℤ)
    (observations : List InstagramMetricObservation) : InstagramSnapshotInput where
  apiVersion := instagramApiVersion
  capturedAt := s.clock
  followerCount := followerCount
  instagramPostId := post.id
  observations := observations
  postAgeSeconds := postAgeSecondsAt post.publishedAt s.clock

/-- One step of the schedule, if the event can happen. -/
def next (s : SnapshotSchedule) : SnapshotEvent → Option SnapshotSchedule
  | .tick elapsed => some { s with clock := s.clock + elapsed }
  | .importPost post =>
    some { s with posts := post :: s.posts.filter fun other => other.id != post.id }
  | .writeAccount account =>
    some { s with accounts := account :: s.accounts.filter fun other => other.id != account.id }
  | .sweep limit => some { s with due := s.due ++ s.listInstagramPostsDueForSnapshot limit }
  | .enqueue succeeds =>
    match s.due with
    | [] => none
    | due :: rest =>
      some (if succeeds then { s with due := rest }.enqueueSnapshot due else { s with due := rest })
  | .begin attempt job =>
    if s.attempts attempt = .unused ∧ job ∈ s.jobs ∧ job.isOpen = true then
      match s.loadPost job with
      | none => some (s.setAttempt attempt .ended)
      | some (post, followerCount) => some (s.setAttempt attempt (.fetching job post followerCount))
    else none
  | .capture attempt observations =>
    match s.attempts attempt with
    | .fetching job post followerCount =>
      some (s.setAttempt attempt
        (.committing job post (s.capturedInput post followerCount observations)))
    | _ => none
  | .commit attempt snapshotId =>
    match s.attempts attempt with
    | .committing job _ input =>
      if job ∈ s.jobs ∧ job.isOpen = true then
        match insertMetricSnapshot hash job.workspaceId snapshotId input s.snapshots with
        | none => some (s.setAttempt attempt .ended)
        | some snapshots => some (({ s with snapshots }.closeJob job).setAttempt attempt .ended)
      else some (s.setAttempt attempt .ended)
    | _ => none
  | .abandon attempt => some (s.setAttempt attempt .ended)
  | .settle job => some (s.closeJob job)

/-- The steps of the schedule. -/
def Step (s : SnapshotSchedule) (event : SnapshotEvent) (t : SnapshotSchedule) : Prop :=
  s.next hash event = some t

end SnapshotSchedule

namespace SnapshotSchedule

variable {hash : List InstagramMetricObservation → String} {s t : SnapshotSchedule}
  {event : SnapshotEvent}

/-- The candidates of a post. -/
def candidatesOf (s : SnapshotSchedule) (postId : String) : List ComparableSnapshotCandidate :=
  (s.snapshots.rows.filter fun row => row.instagramPostId == postId).map
    InstagramMetricSnapshot.candidate

/-- Every stored snapshot can be selected for its bucket, and a bucket that counts as
observed holds an observation that can. -/
structure Selectable (s : SnapshotSchedule) : Prop where
  usable : ∀ row ∈ s.snapshots.rows, row.Usable
  observed : ∀ postId ageBucket, ageBucket ∈ s.capturedBuckets postId →
    (∃ row ∈ s.snapshots.rows, row.instagramPostId = postId ∧ row.ageBucket = ageBucket ∧
      row.Usable) ∧
    (selectComparableSnapshot (s.candidatesOf postId) ageBucket.ageWindow).isSome = true

private theorem selectable_iff : s.Selectable ↔ ∀ row ∈ s.snapshots.rows, row.Usable := by
  constructor
  · intro h
    exact h.usable
  · intro husable
    refine ⟨husable, fun postId ageBucket hcaptured => ?_⟩
    obtain ⟨row, hmem, rfl⟩ := mem_map.mp hcaptured
    obtain ⟨hrow, hpost⟩ := mem_filter.mp hmem
    have hpostId : row.instagramPostId = postId := by simpa using hpost
    refine ⟨⟨row, hrow, hpostId, rfl, husable row hrow⟩, ?_⟩
    rw [selectComparableSnapshot_isSome]
    exact ⟨row.candidate, mem_map_of_mem hmem,
      InstagramMetricSnapshot.usable_iff.mp (husable row hrow)⟩

/-- The commit of an attempt would add a row: its job is open, the observation is
accepted, and nothing like it is stored. -/
def HasRoomFor (hash : List InstagramMetricObservation → String) (s : SnapshotSchedule)
    (job : SnapshotJob) (snapshotId : String) (input : InstagramSnapshotInput) : Prop :=
  (job ∈ s.jobs ∧ job.isOpen = true) ∧
    ∃ row, requestedSnapshot hash job.workspaceId snapshotId input = .ok row ∧
      s.snapshots.HasRoom row

/-- If the event is a commit that adds a row, then the post's age at the capture is in
none of the gaps between the windows. -/
def StoresOutsideGaps (hash : List InstagramMetricObservation → String) (s : SnapshotSchedule) :
    SnapshotEvent → Prop
  | .commit attempt snapshotId => ∀ job post input,
      s.attempts attempt = .committing job post input → s.HasRoomFor hash job snapshotId input →
        ¬ InAgeGap (postAgeSecondsAt post.publishedAt input.capturedAt)
  | _ => True

/-- The invariant: rows are filed by their age, and what waits to be committed has the
age of its capture. -/
structure Inv (s : SnapshotSchedule) : Prop where
  filed : ∀ row ∈ s.snapshots.rows, row.Filed
  aged : ∀ attempt job post input, s.attempts attempt = .committing job post input →
    input.postAgeSeconds = postAgeSecondsAt post.publishedAt input.capturedAt

/-- A step leaves the snapshots alone, or is a commit that adds a row there is room
for. -/
theorem Step.snapshots_cases (hstep : s.Step hash event t) :
    (t.snapshots = s.snapshots ∧ ∀ attempt snapshotId job post input,
        event = .commit attempt snapshotId → s.attempts attempt = .committing job post input →
          ¬ s.HasRoomFor hash job snapshotId input) ∨
      ∃ attempt snapshotId job post input row, event = .commit attempt snapshotId ∧
        s.attempts attempt = .committing job post input ∧
        s.HasRoomFor hash job snapshotId input ∧
        requestedSnapshot hash job.workspaceId snapshotId input = .ok row ∧
        t.snapshots.rows = s.snapshots.rows ++ [row] := by
  unfold Step next at hstep
  cases event with
  | commit attempt snapshotId =>
    dsimp only at hstep
    split at hstep
    · next job post input hattempt =>
      have honly : ∀ {job' post' input'}, s.attempts attempt = .committing job' post' input' →
          job' = job ∧ input' = input := by
        intro job' post' input' h
        rw [hattempt] at h
        cases h
        exact ⟨rfl, rfl⟩
      by_cases hroom : s.HasRoomFor hash job snapshotId input
      · right
        obtain ⟨hopen, row, hrequested, hrow⟩ := hroom
        obtain ⟨snapshots, hrows, hresult⟩ :=
          insertMetricSnapshot_of_hasRoom hrequested hrow
        rw [if_pos hopen, hresult] at hstep
        cases hstep
        exact ⟨attempt, snapshotId, job, post, input, row, rfl, hattempt,
          ⟨hopen, row, hrequested, hrow⟩, hrequested, hrows⟩
      · left
        refine ⟨?_, ?_⟩
        · split at hstep
          · next hopen =>
            split at hstep
            · cases hstep
              rfl
            · next snapshots hresult =>
              cases hstep
              refine insertMetricSnapshot_of_not_hasRoom (fun h => ?_) hresult
              exact hroom ⟨hopen, h⟩
          · cases hstep
            rfl
        · rintro attempt' snapshotId' job' post' input' heq hattempt'
          cases heq
          obtain ⟨rfl, rfl⟩ := honly hattempt'
          exact hroom
    · cases hstep
  | begin attempt job =>
    refine .inl ⟨?_, by simp⟩
    dsimp only at hstep
    split at hstep
    · split at hstep <;> (cases hstep; rfl)
    · cases hstep
  | enqueue succeeds =>
    refine .inl ⟨?_, by simp⟩
    dsimp only at hstep
    split at hstep
    · cases hstep
    · cases hstep
      split
      · unfold enqueueSnapshot
        dsimp only
        split <;> rfl
      · rfl
  | capture attempt observations =>
    refine .inl ⟨?_, by simp⟩
    dsimp only at hstep
    split at hstep
    · cases hstep
      rfl
    · cases hstep
  | tick _ | importPost _ | writeAccount _ | sweep _ | abandon _ | settle _ =>
    cases hstep
    exact .inl ⟨rfl, by simp⟩

/-- What waits to be committed after a step waited before it, or was captured in it. -/
theorem Step.committing_cases (hstep : s.Step hash event t) {attempt : ℕ} {job : SnapshotJob}
    {post : InstagramPost} {input : InstagramSnapshotInput}
    (hattempt : t.attempts attempt = .committing job post input) :
    s.attempts attempt = .committing job post input ∨
      input.postAgeSeconds = postAgeSecondsAt post.publishedAt input.capturedAt := by
  -- a phase that is set is the phase of its attempt, and the others stay
  have hset : ∀ {u : SnapshotSchedule} {other : ℕ} {phase : CapturePhase},
      u.attempts = s.attempts → (u.setAttempt other phase).attempts attempt =
        .committing job post input → phase = .committing job post input ∨
          s.attempts attempt = .committing job post input := by
    intro u other phase hsame h
    by_cases heq : attempt = other
    · subst heq
      left
      simpa [setAttempt] using h
    · right
      simpa [setAttempt, heq, hsame] using h
  unfold Step next at hstep
  cases event with
  | commit other snapshotId =>
    dsimp only at hstep
    split at hstep
    · split at hstep
      · split at hstep
        · cases hstep
          rcases hset rfl hattempt with hphase | hold
          · cases hphase
          · exact .inl hold
        · cases hstep
          rcases hset rfl hattempt with hphase | hold
          · cases hphase
          · exact .inl hold
      · cases hstep
        rcases hset rfl hattempt with hphase | hold
        · cases hphase
        · exact .inl hold
    · cases hstep
  | begin other job' =>
    dsimp only at hstep
    split at hstep
    · split at hstep
      · cases hstep
        rcases hset rfl hattempt with hphase | hold
        · cases hphase
        · exact .inl hold
      · cases hstep
        rcases hset rfl hattempt with hphase | hold
        · cases hphase
        · exact .inl hold
    · cases hstep
  | capture other observations =>
    dsimp only at hstep
    split at hstep
    · cases hstep
      rcases hset rfl hattempt with hphase | hold
      · cases hphase
        exact .inr rfl
      · exact .inl hold
    · cases hstep
  | abandon other =>
    cases hstep
    rcases hset rfl hattempt with hphase | hold
    · cases hphase
    · exact .inl hold
  | enqueue succeeds =>
    left
    dsimp only at hstep
    split at hstep
    · cases hstep
    · cases hstep
      revert hattempt
      unfold enqueueSnapshot
      dsimp only
      split_ifs <;> exact id
  | tick _ | importPost _ | writeAccount _ | sweep _ | settle _ =>
    cases hstep
    exact .inl hattempt

theorem Inv.step (hinv : s.Inv) (hstep : s.Step hash event t) : t.Inv := by
  constructor
  · intro row hrow
    rcases hstep.snapshots_cases with
      ⟨hsame, -⟩ | ⟨attempt, snapshotId, job, post, input, added, -, hattempt, -, hrequested, hrows⟩
    · rw [hsame] at hrow
      exact hinv.filed row hrow
    · rw [hrows] at hrow
      rcases mem_append.mp hrow with hold | hnew
      · exact hinv.filed row hold
      · obtain ⟨values, hadded⟩ := requestedSnapshot_eq_ok hrequested
        have hage : 0 ≤ input.postAgeSeconds := by
          rw [hinv.aged attempt job post input hattempt]
          exact postAgeSecondsAt_nonneg _ _
        rw [mem_singleton.mp hnew, hadded]
        exact (filed_metricSnapshotRow _ _ _ _ hage).1
  · intro attempt job post input hattempt
    rcases hstep.committing_cases hattempt with hold | hcaptured
    · exact hinv.aged attempt job post input hold
    · exact hcaptured

/-- **One step.** Everything stored can be selected after a step exactly when it could
before, and the step stores nothing whose capture fell into a gap. -/
theorem Inv.selectable_step (hinv : s.Inv) (hstep : s.Step hash event t) :
    t.Selectable ↔ s.Selectable ∧ s.StoresOutsideGaps hash event := by
  rw [selectable_iff, selectable_iff]
  rcases hstep.snapshots_cases with
    ⟨hsame, hnothing⟩ | ⟨attempt, snapshotId, job, post, input, row, rfl, hattempt, hroom,
      hrequested, hrows⟩
  · have houtside : s.StoresOutsideGaps hash event := by
      cases event with
      | commit attempt snapshotId =>
        intro job post input hattempt hroom
        exact absurd hroom (hnothing attempt snapshotId job post input rfl hattempt)
      | _ => trivial
    rw [hsame]
    exact ⟨fun h => ⟨h, houtside⟩, And.left⟩
  · have haged := hinv.aged attempt job post input hattempt
    obtain ⟨values, hadded⟩ := requestedSnapshot_eq_ok hrequested
    obtain ⟨hfiled, hage⟩ := filed_metricSnapshotRow hash job.workspaceId snapshotId values
      (haged ▸ postAgeSecondsAt_nonneg post.publishedAt input.capturedAt)
    rw [← hadded] at hfiled hage
    have hrow : row.Usable ↔ s.StoresOutsideGaps hash (.commit attempt snapshotId) := by
      rw [hfiled.usable_iff, hage, haged]
      constructor
      · intro hgap job' post' input' hattempt' _
        rw [hattempt] at hattempt'
        cases hattempt'
        exact hgap
      · intro h
        exact h job post input hattempt hroom
    rw [hrows, ← hrow]
    constructor
    · intro h
      refine ⟨fun other hother => ?_, ?_⟩
      · exact h other (mem_append_left _ hother)
      · exact h row (mem_append_right _ (mem_singleton_self row))
    · rintro ⟨hold, hnew⟩ other hother
      rcases mem_append.mp hother with hmem | hmem
      · exact hold other hmem
      · rw [mem_singleton.mp hmem]
        exact hnew

theorem inv_start (clock : ℤ) (accounts : List InstagramAccount) (posts : List InstagramPost) :
    (start clock accounts posts).Inv := by
  constructor
  · intro row hrow
    cases hrow
  · intro attempt job post input h
    cases h

/-- **Snapshots and their windows.** In every run, whatever the delays between sweeps
and captures, every stored snapshot can be selected for its bucket, and every bucket
that counts as observed holds one that can, exactly when no stored observation was
captured while the age of its post was in a gap. -/
theorem stored_snapshots_are_selectable_iff {clock : ℤ} {accounts : List InstagramAccount}
    {posts : List InstagramPost} {history : List (SnapshotSchedule × SnapshotEvent)}
    (hrun : Transition.Run (Step hash) (start clock accounts posts) history t) :
    t.Selectable ↔ ∀ visited ∈ history, visited.1.StoresOutsideGaps hash visited.2 := by
  suffices h : t.Inv ∧ (t.Selectable ↔
      ∀ visited ∈ history, visited.1.StoresOutsideGaps hash visited.2) from h.2
  induction hrun with
  | refl =>
    refine ⟨inv_start clock accounts posts, ?_⟩
    rw [selectable_iff]
    constructor
    · intro _ visited hvisited
      cases hvisited
    · intro _ row hrow
      cases hrow
  | @tail history t u event _ hstep ih =>
    obtain ⟨hinv, hiff⟩ := ih
    refine ⟨hinv.step hstep, ?_⟩
    rw [hinv.selectable_step hstep, hiff, forall_mem_cons, and_comm]

/-! ### A delayed capture -/

namespace Sample

def account : InstagramAccount where
  id := "account"
  workspaceId := "workspace"
  connectionStatus := .active
  followerCount := none
  tokenExpiresAt := none
  lastSuccessfulSyncAt := none
  analyticsDirtySince := none
  analyticsDueAt := none
  currentStrategyId := none

def post : InstagramPost where
  id := "post"
  workspaceId := "workspace"
  instagramAccountId := "account"
  mediaKind := .reel
  publishedAt := 0
  currentAnalysisId := none

def job : SnapshotJob := ⟨"workspace", "instagram-snapshot-post-hour_1", "post", true⟩

/-- The observations when the provider grants none of the requested metrics. -/
def observations : List InstagramMetricObservation :=
  [.views, .reach, .likes, .comments, .shares, .saves, .totalInteractions, .totalWatchTimeMs,
    .averageWatchTimeMs, .skipRate].map (observation .permissionMissing) ++
  [.plays, .follows, .profileVisits, .profileActivity].map (observation .notRequested)

/-- The fingerprint of these observations. -/
def payloadHash (_ : List InstagramMetricObservation) : String :=
  "73812ad89b8f0aa8ce8cd10ba89a5e8c3ddfcefb8f7007ff268dcb63e7c98fcb"

def published : SnapshotSchedule := start 0 [account] [post]

/-- After one hour the post is found due; its job captures it after a delay, and the
day goes on. -/
def events (delay rest : ℕ) : List SnapshotEvent :=
  [.tick 3600000, .sweep 50, .enqueue true, .begin 0 job, .tick delay, .capture 0 observations,
    .commit 0 "snapshot", .tick rest]

/-- The run of a delay, up to the age of 24 hours. -/
def runWith (delay rest : ℕ) : List (SnapshotSchedule × SnapshotEvent) × SnapshotSchedule :=
  (Transition.replay (next payloadHash) [] published (events delay rest)).getD ([], published)

private theorem run_runWith (delay rest : ℕ) :
    Transition.Run (Step payloadHash) published (runWith delay rest).1 (runWith delay rest).2 := by
  unfold runWith
  cases hreplay : Transition.replay (next payloadHash) [] published (events delay rest) with
  | none => exact .refl
  | some result => exact Transition.Run.replay .refl hreplay

/-- A delay of two hours files the observation of a three hours old post under the first
day, where no comparison selects it; at 24 hours no sweep finds the post due. -/
theorem delayed_snapshot_is_never_selected :
    Transition.Reachable (Step payloadHash) published (runWith 7200000 75600000).2 ∧
      (runWith 7200000 75600000).2.clock = 86400000 ∧
      (runWith 7200000 75600000).2.capturedBuckets "post" = [.day1] ∧
      ¬ (runWith 7200000 75600000).2.Selectable ∧
      (runWith 7200000 75600000).2.listInstagramPostsDueForSnapshot 50 = [] := by
  refine ⟨⟨_, run_runWith 7200000 75600000⟩, by decide, by decide, ?_,
    by decide⟩
  intro h
  have hnone : ((runWith 7200000 75600000).2.snapshots.rows.all fun row =>
      (selectComparableSnapshot [row.candidate] row.ageBucket.ageWindow).isSome) = false := by
    decide
  have hall : ((runWith 7200000 75600000).2.snapshots.rows.all fun row =>
      (selectComparableSnapshot [row.candidate] row.ageBucket.ageWindow).isSome) = true := by
    rw [all_eq_true]
    intro row hrow
    rw [h.usable row hrow]
    rfl
  rw [hnone] at hall
  cases hall

/-- Without a delay the snapshot can be selected, as no capture fell into a gap. -/
theorem prompt_snapshot_is_selectable :
    (runWith 0 0).2.snapshots.rows.length = 1 ∧
      ((runWith 0 0).2.Selectable ↔
        ∀ visited ∈ (runWith 0 0).1, visited.1.StoresOutsideGaps payloadHash visited.2) :=
  ⟨by decide, stored_snapshots_are_selectable_iff (run_runWith 0 0)⟩

end Sample

end SnapshotSchedule

end ContentAutomation
