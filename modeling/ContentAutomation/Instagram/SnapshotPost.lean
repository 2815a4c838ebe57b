import ContentAutomation.Instagram.Observations
import ContentAutomation.Instagram.SyncAccount

/-!
# Capturing a snapshot of a post

The work of `instagram.snapshot.post`: it asks the provider for one group of metrics after the
other, and makes observations of what it answers. A group that fails in a way that a retry may
mend fails the job; every other failure becomes the availability of the metrics. So does a
refusal of the request itself, as an error of the provider, and a body without a data array
counts as one that has none of the metrics.
-/

namespace ContentAutomation

open Relational Transaction List

/-! ### Requests for insights -/

/-- `InstagramInsightsError`. -/
structure InstagramInsightsError where
  groupKey : String
  responseClass : InstagramResponseClass
  reasonCode : String
  retryAfterMs : Option ℚ := none

/-- A request for a group of metrics. -/
structure InsightGroupRequest where
  accessToken : String
  providerMediaId : Utf16
  metric : List Utf16

/-- Why a group is not requested at all. -/
def insightGroupRefusal (providerMediaId : Utf16) (group : InstagramInsightGroup) :
    Option InstagramInsightsError :=
  if isProviderId 32 providerMediaId = false then
    some ⟨group.key, .invalidRequest, "MEDIA_ID_INVALID", none⟩
  else if group.metrics = [] then some ⟨group.key, .invalidRequest, "METRIC_GROUP_EMPTY", none⟩
  else none

/-- `fetchInstagramInsightGroup`, after its request. -/
def readInsightGroupAnswer (group : InstagramInsightGroup) :
    GraphAnswer → Except InstagramInsightsError Json
  | .unreachable => .error ⟨group.key, .transient, "INSIGHTS_UNREACHABLE", none⟩
  | .responded response =>
    if response.isOk = false then
      .error ⟨group.key, classifyInstagramResponse response.body response.status,
        "INSIGHTS_REJECTED", parseInstagramRetryAfterMs response.retryAfter⟩
    else
      match response.body with
      | .null => .error ⟨group.key, .transient, "INSIGHTS_NOT_JSON", none⟩
      | body => .ok body

/-- `toJobFailure`, of an error of the provider: it depends on the class of the error. -/
def InstagramInsightsError.toJobFailure (error : InstagramInsightsError) : JobFailure :=
  InstagramMediaError.toJobFailure ⟨error.responseClass, error.reasonCode, error.retryAfterMs⟩

/-! ### The work -/

/-- What the handler calls that is not in the repository. -/
structure SnapshotDeployment where
  hash : List InstagramMetricObservation → String
  createId : JobClaim → String
  /-- `decryptCredential`, for an account of a workspace; `none` if it or `loadMasterKeys`
  throws. -/
  decryptCredential : String → String → String → Option String

/-- What the groups of metrics of a post are requested with. -/
structure SnapshotCapture where
  job : SyncJob
  post : InstagramPost
  account : InstagramAccount
  accessToken : String

/-- What `recordInstagramMetricSnapshot` is called with. -/
def SnapshotCapture.input (capture : SnapshotCapture)
    (observations : List InstagramMetricObservation) (capturedAt : ℤ) : InstagramSnapshotInput where
  apiVersion := instagramApiVersion
  capturedAt
  followerCount := capture.account.followerCount
  instagramPostId := capture.post.id
  observations := observations ++
    instagramUnrequestedObservations (instagramRequestedMetrics capture.post.mediaKind)
  postAgeSeconds := postAgeSecondsAt capture.post.publishedAt capturedAt

/-- Where `captureSnapshot` stands, before what it does next. -/
inductive SnapshotWork
  | started (job : SyncJob)
  | loadingJob (job : SyncJob)
  | loadingPost (job : SyncJob) (resourceId : String)
  | loadingAccount (job : SyncJob) (post : InstagramPost)
  | loadingCredential (job : SyncJob) (post : InstagramPost) (account : InstagramAccount)
  | beating (capture : SnapshotCapture)
  | announcing (capture : SnapshotCapture)
  | checking (capture : SnapshotCapture) (group : InstagramInsightGroup)
      (groups : List InstagramInsightGroup) (observations : List InstagramMetricObservation)
  | fetching (capture : SnapshotCapture) (group : InstagramInsightGroup)
      (groups : List InstagramInsightGroup) (observations : List InstagramMetricObservation)
  | assembling (capture : SnapshotCapture) (observations : List InstagramMetricObservation)
  | returning (capture : SnapshotCapture) (observations : List InstagramMetricObservation)
      (capturedAt : ℤ)
  | skipping
  | throwing (exception : WorkException)

namespace SnapshotWork

variable (deployment : SnapshotDeployment)

/-- A `JobHandlerFailure`. -/
def throwingFailure (errorClass : JobFailureClass) (errorCode : String) : SnapshotWork :=
  .throwing (.failure ⟨none, errorClass, errorCode, none⟩)

/-- What a callback throws is thrown on. -/
def rethrow (error : Option JobError) : SnapshotWork := .throwing (.ofCallback error)

/-- `captureSnapshot` after it has loaded its job. -/
def afterJob (job : SyncJob) (row : Option BackgroundJob) : SnapshotWork :=
  match row with
  | none => throwingFailure .invalidInput "SNAPSHOT_RESOURCE_INVALID"
  | some row =>
    if row.resourceType ≠ some "instagram_post" then
      throwingFailure .invalidInput "SNAPSHOT_RESOURCE_INVALID"
    else
      match row.resourceId.filter fun id => id != "" with
      | none => throwingFailure .invalidInput "SNAPSHOT_RESOURCE_INVALID"
      | some resourceId => .loadingPost job resourceId

/-- `captureSnapshot` after it has loaded its post. -/
def afterPost (job : SyncJob) : Option InstagramPost → SnapshotWork
  | none => throwingFailure .invalidInput "SNAPSHOT_POST_MISSING"
  | some post =>
    if instagramInsightGroups post.mediaKind = [] then .skipping else .loadingAccount job post

/-- `captureSnapshot` after it has loaded its account. -/
def afterAccount (job : SyncJob) (post : InstagramPost) : Option InstagramAccount → SnapshotWork
  | none => throwingFailure .invalidInput "SNAPSHOT_ACCOUNT_MISSING"
  | some account =>
    if account.connectionStatus ≠ .active then
      throwingFailure .credential "SNAPSHOT_ACCOUNT_NOT_CONNECTED"
    else .loadingCredential job post account

/-- `readAccessToken` after it has loaded the credential. -/
def afterCredential (job : SyncJob) (post : InstagramPost) (account : InstagramAccount) :
    Option IntegrationCredential → SnapshotWork
  | none => throwingFailure .credential "SNAPSHOT_CREDENTIAL_MISSING"
  | some credential =>
    match deployment.decryptCredential account.id job.context.workspaceId credential.ciphertext with
    | none => throwingFailure .credential "SNAPSHOT_CREDENTIAL_UNREADABLE"
    | some accessToken => .beating ⟨job, post, account, accessToken⟩

/-- The loop over the groups. -/
def enterLoop (capture : SnapshotCapture) (groups : List InstagramInsightGroup)
    (observations : List InstagramMetricObservation) : SnapshotWork :=
  match groups with
  | [] => .assembling capture observations
  | group :: groups => .checking capture group groups observations

/-- The loop after `fetchInstagramInsightGroup` has returned or thrown. -/
def afterResult (capture : SnapshotCapture) (group : InstagramInsightGroup)
    (groups : List InstagramInsightGroup) (observations : List InstagramMetricObservation) :
    Except InstagramInsightsError Json → SnapshotWork
  | .ok body => enterLoop capture groups (observations ++ readInstagramInsightGroup body group)
  | .error error =>
    if error.responseClass = .rateLimit ∨ error.responseClass = .transient then
      .throwing (.failure error.toJobFailure)
    else
      enterLoop capture groups (observations ++ instagramFailedGroupObservations group
        (instagramGroupFailureAvailability error.responseClass))

/-- `fetchInstagramInsightGroup` up to its request. -/
def fetch (capture : SnapshotCapture) (group : InstagramInsightGroup)
    (groups : List InstagramInsightGroup) (observations : List InstagramMetricObservation) :
    SnapshotWork :=
  match insightGroupRefusal capture.post.providerMediaId group with
  | some error => afterResult capture group groups observations (.error error)
  | none => .fetching capture group groups observations

/-- `result.commit`. -/
def commit (capture : SnapshotCapture) (observations : List InstagramMetricObservation)
    (capturedAt : ℤ) : WorkerTransaction Bool :=
  recordInstagramMetricSnapshot deployment.hash capture.job.context
    (deployment.createId capture.job.claim) (capture.input observations capturedAt)

/-- What `captureSnapshot` does next. -/
def next : SnapshotWork → Instruction WorkerTables InsightGroupRequest GraphAnswer SnapshotWork
  | .started job => .callback (.recordStage "loading_post") (.loadingJob job) rethrow
  | .loadingJob job =>
    .statement (asStatement
      (backgroundJob.findFirst fun row => row.id == job.delivery.envelope.domainJobId &&
        row.workspaceId == job.context.workspaceId) (afterJob job) (.throwing .other))
  | .loadingPost job resourceId =>
    .statement (asStatement
      (instagramPost.findFirst fun row => row.id == resourceId &&
        row.workspaceId == job.context.workspaceId) (afterPost job) (.throwing .other))
  | .loadingAccount job post =>
    .statement (asStatement
      (instagramAccount.findFirst fun row => row.id == post.instagramAccountId &&
        row.workspaceId == job.context.workspaceId) (afterAccount job post) (.throwing .other))
  | .loadingCredential job post account =>
    .statement (asStatement
      (integrationCredential.findFirst fun row => row.workspaceId == job.context.workspaceId &&
        row.accountId == account.id && row.status == .active)
      (afterCredential deployment job post account) (.throwing .other))
  | .beating capture => .callback .heartbeat (.announcing capture) rethrow
  | .announcing capture =>
    .callback (.recordStage "fetching_insights")
      (enterLoop capture (instagramInsightGroups capture.post.mediaKind) []) rethrow
  | .checking capture group groups observations =>
    .callback .throwIfCancellationRequested (fetch capture group groups observations) rethrow
  | .fetching capture group groups observations =>
    .request ⟨capture.accessToken, capture.post.providerMediaId,
      group.metrics.map InstagramMetricDefinition.provider⟩ fun answer =>
        afterResult capture group groups observations (readInsightGroupAnswer group answer)
  | .assembling capture observations =>
    .statement fun db => (db.contents, .returning capture observations db.clock)
  | .returning capture observations capturedAt =>
    .finish (.returned [asEffect (commit deployment capture observations capturedAt)])
  | .skipping => .finish (.returned [])
  | .throwing exception => .finish exception.outcome

end SnapshotWork

/-- The handler of `instagram.snapshot.post`. -/
def snapshotPostScript (deployment : SnapshotDeployment) :
    Script WorkerTables InsightGroupRequest GraphAnswer SnapshotWork where
  start delivery claim :=
    if (parseCorrelationId delivery.envelope.correlationId).isSome then .started ⟨delivery, claim⟩
    else SnapshotWork.throwingFailure .invalidInput "SNAPSHOT_CORRELATION_INVALID"
  next := SnapshotWork.next deployment

/-! ### What an answer says -/

/-- What is made of an answer. -/
def GraphAnswer.reading : GraphAnswer → InsightGroupAnswer
  | .unreachable => .failure .transient
  | .responded response =>
    if response.isOk = false then
      .failure (classifyInstagramResponse response.body response.status)
    else
      match response.body with
      | .null => .failure .transient
      | body => .body body

/-- What is made of a result. -/
def InsightGroupAnswer.ofResult : Except InstagramInsightsError Json → InsightGroupAnswer
  | .ok value => .body value
  | .error error => .failure error.responseClass

/-- A refusal for want of a permission: the token itself is neither unknown (401) nor expired
(190). -/
def InstagramResponse.DeniesPermission (response : InstagramResponse) : Prop :=
  response.status = 403 ∧ readErrorNumber response.body "code" ≠ some (.finite 190)

/-- The answer is a statement about its metrics: it has their data, or refuses them because a
permission is missing or they are not supported. -/
def GraphAnswer.SpeaksOfMetrics : GraphAnswer → Prop
  | .unreachable => False
  | .responded response =>
    if response.isOk = true then (dataItems? response.body).isSome = true
    else response.DeniesPermission ∨
      classifyInstagramResponse response.body response.status = .unsupported

/-- **The condition.** The answer refuses neither the request as such nor the token, and if it
has a body that is not null, that is an object with a data array. -/
def GraphAnswer.IsProper : GraphAnswer → Prop
  | .unreachable => True
  | .responded response =>
    (response.isOk = false →
      classifyInstagramResponse response.body response.status ≠ .invalidRequest ∧
      (classifyInstagramResponse response.body response.status = .authorisation →
        response.DeniesPermission)) ∧
    (response.HasBody → (dataItems? response.body).isSome = true)

theorem classify_of_deniesPermission {response : InstagramResponse} (h : response.DeniesPermission) :
    classifyInstagramResponse response.body response.status = .authorisation := by
  simp [classifyInstagramResponse, h.1]

theorem ofResult_readInsightGroupAnswer (group : InstagramInsightGroup) (answer : GraphAnswer) :
    .ofResult (readInsightGroupAnswer group answer) = answer.reading := by
  cases answer with
  | unreachable => rfl
  | responded response =>
    unfold readInsightGroupAnswer GraphAnswer.reading
    dsimp only
    split
    · rfl
    · split <;> rfl

theorem speaksOfMetrics_iff {answer : GraphAnswer} (hrate : answer.reading ≠ .failure .rateLimit)
    (htransient : answer.reading ≠ .failure .transient) :
    answer.SpeaksOfMetrics ↔ answer.IsProper := by
  cases answer with
  | unreachable => exact absurd rfl htransient
  | responded response =>
    unfold GraphAnswer.reading at hrate htransient
    unfold GraphAnswer.SpeaksOfMetrics GraphAnswer.IsProper InstagramResponse.HasBody
    by_cases hok : response.isOk = true
    · have hbody : response.body ≠ .null := by
        intro hnull
        simp [hok, hnull] at htransient
      simp [hok, hbody]
    · rw [Bool.not_eq_true] at hok
      have hdenies (h : response.DeniesPermission) := classify_of_deniesPermission h
      cases hclass : classifyInstagramResponse response.body response.status <;>
        simp_all

theorem reading_eq_invalidRequest {answer : GraphAnswer} (hproper : answer.IsProper) :
    answer.reading ≠ .failure .invalidRequest := by
  cases answer with
  | unreachable => exact fun h => nomatch h
  | responded response =>
    unfold GraphAnswer.reading
    dsimp only
    split
    · next hok =>
      intro h
      exact (hproper.1 hok).1 (InsightGroupAnswer.failure.inj h)
    · split <;> exact fun h => nomatch h

/-! ### What the groups come to -/

section Groups

variable {group : InstagramInsightGroup} {groups : List InstagramInsightGroup}
  {answer answer' : InstagramInsightGroup → InsightGroupAnswer} {result : InsightGroupAnswer}
  {observations more : List InstagramMetricObservation}

/-- A group goes wrong for the provider exactly when it refuses the request as such. -/
theorem providerError_groupObservations (hgroup : group.metrics ≠ [])
    (h : groupObservations group result = some observations) :
    (∃ entry ∈ observations, entry.availability = .providerError) ↔
      result = .failure .invalidRequest := by
  cases result with
  | body body =>
    cases h
    simp only [reduceCtorEq, iff_false, not_exists, not_and]
    intro entry hentry
    obtain ⟨definition, -, rfl⟩ := mem_map.mp hentry
    cases hfind : (acceptedObservations body group).reverse.find? fun entry =>
        entry.canonical = definition.canonical with
    | none => simp [InstagramMetricDefinition.absent, observation]
    | some found =>
      obtain ⟨item, -, hitem⟩ :=
        mem_filterMap.mp (mem_reverse.mp (mem_of_find?_eq_some hfind))
      cases hresult : normaliseInstagramInsightItem item group.metrics with
      | error reason => simp [hresult, Except.toOption] at hitem
      | ok accepted =>
        rw [hresult] at hitem
        cases hitem
        obtain ⟨fields, definition, -, -, ⟨-, rfl⟩ | ⟨raw, -, -, -, rfl⟩⟩ :=
          normaliseInstagramInsightItem_eq_ok hresult
        · simp [InstagramMetricDefinition.shared]
        · simp [InstagramMetricDefinition.shared]
  | failure responseClass =>
    obtain ⟨definition, hdefinition⟩ := exists_mem_of_ne_nil _ hgroup
    have hfailed : ∀ availability, (∃ entry ∈ instagramFailedGroupObservations group availability,
        entry.availability = .providerError) ↔ availability = .providerError := by
      intro availability
      constructor
      · rintro ⟨entry, hentry, hwrong⟩
        obtain ⟨definition, -, rfl⟩ := mem_map.mp hentry
        exact hwrong
      · rintro rfl
        exact ⟨_, mem_map_of_mem hdefinition, rfl⟩
    unfold groupObservations at h
    cases responseClass <;> simp at h <;> subst h <;>
      simp [hfailed, instagramGroupFailureAvailability]

theorem requestedObservations_congr (h : ∀ group ∈ groups, answer' group = answer group) :
    requestedObservations answer' groups = requestedObservations answer groups := by
  induction groups with
  | nil => rfl
  | cons group groups ih =>
    rw [forall_mem_cons] at h
    unfold requestedObservations
    rw [h.1, ih h.2]

theorem requestedObservations_append (h : requestedObservations answer groups = some observations)
    (hmore : groupObservations group (answer group) = some more) :
    requestedObservations answer (groups ++ [group]) = some (observations ++ more) := by
  induction groups generalizing observations with
  | nil =>
    cases h
    simp [requestedObservations, hmore]
  | cons first groups ih =>
    obtain ⟨taken, htaken, h⟩ := Option.bind_eq_some_iff.mp h
    obtain ⟨others, hothers, h⟩ := Option.bind_eq_some_iff.mp h
    cases h
    simp [requestedObservations, htaken, ih hothers]

private theorem exists_groupObservations
    (h : requestedObservations answer groups = some observations) :
    (∀ group ∈ groups, ∃ own, groupObservations group (answer group) = some own ∧
        own ⊆ observations) ∧
      ∀ entry ∈ observations, ∃ group ∈ groups, ∃ own,
        groupObservations group (answer group) = some own ∧ entry ∈ own := by
  induction groups generalizing observations with
  | nil =>
    cases h
    simp
  | cons first groups ih =>
    obtain ⟨own, hown, h⟩ := Option.bind_eq_some_iff.mp h
    obtain ⟨others, hothers, h⟩ := Option.bind_eq_some_iff.mp h
    cases h
    obtain ⟨heach, hentry⟩ := ih hothers
    constructor
    · intro group hgroup
      rcases mem_cons.mp hgroup with rfl | hrest
      · exact ⟨own, hown, subset_append_left _ _⟩
      · obtain ⟨taken, htaken, hsubset⟩ := heach group hrest
        exact ⟨taken, htaken, fun _ hmem => mem_append_right _ (hsubset hmem)⟩
    · intro entry hmem
      rcases mem_append.mp hmem with hmem | hmem
      · exact ⟨first, mem_cons_self, own, hown, hmem⟩
      · obtain ⟨group, hgroup, taken, htaken, hmem⟩ := hentry entry hmem
        exact ⟨group, mem_cons_of_mem _ hgroup, taken, htaken, hmem⟩

/-- Something goes wrong for the provider exactly when a group refuses the request as such. -/
theorem providerError_requestedObservations (hgroups : ∀ group ∈ groups, group.metrics ≠ [])
    (h : requestedObservations answer groups = some observations) :
    (∃ entry ∈ observations, entry.availability = .providerError) ↔
      ∃ group ∈ groups, answer group = .failure .invalidRequest := by
  obtain ⟨heach, hentry⟩ := exists_groupObservations h
  constructor
  · rintro ⟨entry, hmem, hwrong⟩
    obtain ⟨group, hgroup, own, hown, hmem⟩ := hentry entry hmem
    exact ⟨group, hgroup,
      (providerError_groupObservations (hgroups group hgroup) hown).mp ⟨entry, hmem, hwrong⟩⟩
  · rintro ⟨group, hgroup, hrefused⟩
    obtain ⟨own, hown, hsubset⟩ := heach group hgroup
    obtain ⟨entry, hmem, hwrong⟩ :=
      (providerError_groupObservations (hgroups group hgroup) hown).mpr hrefused
    exact ⟨entry, hsubset hmem, hwrong⟩

theorem answer_ne_of_requestedObservations
    (h : requestedObservations answer groups = some observations) (hgroup : group ∈ groups) :
    answer group ≠ .failure .rateLimit ∧ answer group ≠ .failure .transient := by
  obtain ⟨own, hown, -⟩ := (exists_groupObservations h).1 group hgroup
  constructor
  · intro hrate
    rw [hrate] at hown
    cases hown
  · intro htransient
    rw [htransient] at hown
    cases hown

end Groups

theorem instagramInsightGroups_spec (mediaKind : InstagramMediaKind) :
    (∀ group ∈ instagramInsightGroups mediaKind, group.metrics ≠ []) ∧
      (instagramInsightGroups mediaKind).Nodup := by
  cases mediaKind <;> decide

end ContentAutomation
