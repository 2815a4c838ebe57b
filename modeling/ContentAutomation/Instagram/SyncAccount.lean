import ContentAutomation.Instagram.MediaPages
import ContentAutomation.Instagram.PostList
import ContentAutomation.Worker.Answers
import ContentAutomation.Worker.Writes

/-!
# Importing the media of an account

The work of `instagram.sync.account`: it opens or resumes a run, asks for one page of media
after the other and commits each with the cursor that follows it, and in the end takes the run
for a success. A run succeeds after a page that has no successor or reaches the horizon. A body
that is no page is read as one without items, so such a body is passed over, or ends a run as a
success if it has no successor either.
-/

namespace ContentAutomation

open Relational Transaction List WorkerTable

/-! ### Runs -/

/-- How the class of a failure is stored. -/
def JobFailureClass.name : JobFailureClass → String
  | .transient => "TRANSIENT"
  | .rateLimit => "RATE_LIMIT"
  | .credential => "CREDENTIAL"
  | .invalidInput => "INVALID_INPUT"
  | .semanticOutput => "SEMANTIC_OUTPUT"
  | .database => "DATABASE"
  | .unknown => "UNKNOWN"

/-- An `OperationalError` for a row that is not there. -/
def notFoundError (code : String) : JobError := .operational ⟨code, .notFound, false, 404⟩ none

/-- `StartInstagramSyncRunInput`. -/
structure StartInstagramSyncRunInput where
  apiVersion : String
  backgroundJobId : String
  correlationId : String
  horizonStart : ℤ
  idempotencyKey : String
  instagramAccountId : String
  startedAt : ℤ
  trigger : SyncRunTrigger

/-- `safeIdempotencyKeyPattern` of the runs; a dot is not in it. -/
def isSafeSyncKey (key : String) : Bool :=
  Text.leadingThenBounded Text.isAlphanumeric
    (fun c => Text.isAlphanumeric c || c == ':' || c == '_' || c == '-') 254 key

/-- `startInstagramSyncRun` up to its search for the account. -/
def findSyncAccount (context : WorkspaceContext) (input : StartInstagramSyncRunInput) :
    WorkerTransaction Unit :=
  if isSafeSyncKey input.idempotencyKey = false then
    raise (validationError "SYNC_RUN_IDEMPOTENCY_KEY_INVALID")
  else do
    let account ← instagramAccount.findFirst fun row => row.id == input.instagramAccountId &&
      row.workspaceId == context.workspaceId
    match account with
    | none => raise (notFoundError "SYNC_ACCOUNT_NOT_FOUND")
    | some _ => pure ()

/-- The run that a key already has. -/
def findExistingRun (context : WorkspaceContext) (input : StartInstagramSyncRunInput) :
    WorkerTransaction (Option SyncRun) :=
  syncRun.findFirst fun row => row.workspaceId == context.workspaceId &&
    row.instagramAccountId == input.instagramAccountId && row.trigger == input.trigger &&
    row.idempotencyKey == input.idempotencyKey

/-- A failed run that goes on. -/
def reopenedRun (input : StartInstagramSyncRunInput) (row : SyncRun) : SyncRun :=
  { row with
    backgroundJobId := some input.backgroundJobId
    completedAt := none
    correlationId := input.correlationId
    failureClass := none
    failureCode := none
    stage := "starting"
    state := .running }

/-- A failed run is reopened. -/
def reopenRun (context : WorkspaceContext) (input : StartInstagramSyncRunInput)
    (existing : SyncRun) : WorkerTransaction Unit := do
  let reopened ← syncRun.updateMany (reopenedRun input) fun row => row.id == existing.id &&
    row.state == .failed && row.workspaceId == context.workspaceId
  if reopened ≠ 1 then raise (conflictError "SYNC_RUN_REOPEN_CONFLICT") else pure ()

/-- The run that has been reopened. -/
def findReopenedRun (context : WorkspaceContext) (existing : SyncRun) :
    WorkerTransaction SyncRun := do
  let run ← syncRun.findFirst fun row => row.id == existing.id &&
    row.workspaceId == context.workspaceId
  match run with
  | none => raise (notFoundError "SYNC_RUN_NOT_FOUND")
  | some run => pure run

/-- A new run. -/
def startedRun (context : WorkspaceContext) (input : StartInstagramSyncRunInput) (id : String) :
    SyncRun where
  id
  workspaceId := context.workspaceId
  instagramAccountId := input.instagramAccountId
  trigger := input.trigger
  backgroundJobId := some input.backgroundJobId
  state := .running
  stage := "starting"
  checkpointAt := none
  completedAt := none
  failureClass := none
  failureCode := none
  idempotencyKey := input.idempotencyKey
  horizonStart := some input.horizonStart
  apiVersion := input.apiVersion
  correlationId := input.correlationId
  startedAt := input.startedAt

/-- A run is created; whatever goes wrong is a run that is already active. -/
def createRun (context : WorkspaceContext) (input : StartInstagramSyncRunInput) (id : String) :
    WorkerTransaction SyncRun :=
  rethrow (fun _ => conflictError "SYNC_RUN_ALREADY_ACTIVE") do
    syncRun.create (startedRun context input id)
    pure (startedRun context input id)

/-- The cursor of a run, from which it goes on. -/
def findRunCursor (context : WorkspaceContext) (syncRunId : String) :
    WorkerTransaction (Option String) := do
  let run ← syncRun.findFirst fun row => row.id == syncRunId &&
    row.workspaceId == context.workspaceId
  pure (run.bind SyncRun.cursor)

/-- A run that has failed. -/
def failedRun (failure : JobFailure) (failedAt : ℤ) (row : SyncRun) : SyncRun :=
  { row with
    completedAt := some failedAt
    failureClass := some failure.errorClass.name
    failureCode := some failure.errorCode
    stage := "failed"
    state := .failed }

/-- `failInstagramSyncRun`. -/
def failInstagramSyncRun (context : WorkspaceContext) (failure : JobFailure) (failedAt : ℤ)
    (syncRunId : String) : WorkerTransaction Unit :=
  if Text.leadingThenBounded Text.isUpper
      (fun c => Text.isUpper c || Text.isDigit c || c == '_') 31 failure.errorClass.name = false then
    raise (validationError "SYNC_RUN_FAILURE_CLASS_INVALID")
  else if Text.leadingThenBounded Text.isUpper
      (fun c => Text.isUpper c || Text.isDigit c || c == '_') 63 failure.errorCode = false then
    raise (validationError "SYNC_RUN_FAILURE_CODE_INVALID")
  else do
    let _ ← syncRun.updateMany (failedRun failure failedAt) fun row => row.id == syncRunId &&
      row.state == .running && row.workspaceId == context.workspaceId
    pure ()

/-! ### The work -/

/-- `instagramBootstrapHorizonDays`. -/
def instagramBootstrapHorizonDays : ℤ := 180

/-- `instagramIncrementalOverlapDays`. -/
def instagramIncrementalOverlapDays : ℤ := 14

/-- `dayMilliseconds`. -/
def dayMilliseconds : ℤ := 86400000

/-- `instagramSyncTriggerFromKey`. -/
def instagramSyncTriggerFromKey (key : String) : Option SyncRunTrigger :=
  if "instagram-sync-manual-".toList <+: key.toList then some .manual
  else if "instagram-sync-scheduled-".toList <+: key.toList then some .scheduled
  else if "instagram-bootstrap-sync-".toList <+: key.toList then some .bootstrap
  else none

/-- What the handler calls that is not in the repository. -/
structure SyncDeployment where
  runtime : Runtime
  /-- The identifiers that an attempt creates, one after the other. -/
  createId : JobClaim → ℕ → String
  /-- `loadMasterKeys` does not throw. -/
  loadsMasterKeys : Bool
  /-- `decryptCredential`, for an account of a workspace; `none` if it throws. -/
  decryptCredential : String → String → String → Option String

/-- What `importAccountMedia` is called with. -/
structure SyncJob where
  delivery : Delivery
  claim : JobClaim

/-- What `startInstagramSyncRun` is called with, and what is kept for the pages meanwhile. -/
structure SyncOpening where
  job : SyncJob
  accessToken : String
  providerAccountId : String
  input : StartInstagramSyncRunInput

/-- What `pageAccountMedia` is called with. -/
structure SyncTask where
  job : SyncJob
  accessToken : String
  horizonStart : Option ℤ
  providerAccountId : String
  syncRunId : String

/-- The variables of the loop over the pages, and how many identifiers have been created. -/
structure SyncPaging where
  after : Option String
  pagesVisited : ℕ
  created : ℕ

/-- Where `importAccountMedia` stands, before what it does next. -/
inductive SyncWork
  | started (job : SyncJob)
  | loadingJob (job : SyncJob)
  | loadingAccount (job : SyncJob) (idempotencyKey resourceId : String)
  | loadingCredential (job : SyncJob) (idempotencyKey : String) (account : InstagramAccount)
  | startingRun (job : SyncJob) (idempotencyKey : String) (account : InstagramAccount)
      (accessToken : String)
  | findingRun (opening : SyncOpening)
  | reopeningRun (opening : SyncOpening) (existing : SyncRun)
  | rereadingRun (opening : SyncOpening) (existing : SyncRun)
  | creatingRun (opening : SyncOpening)
  | resuming (task : SyncTask)
  | beating (task : SyncTask) (paging : SyncPaging)
  | announcingFetch (task : SyncTask) (paging : SyncPaging)
  | fetching (task : SyncTask) (paging : SyncPaging)
  | announcingPage (task : SyncTask) (paging : SyncPaging) (page : InstagramMediaPage)
  | persisting (task : SyncTask) (paging : SyncPaging) (page : InstagramMediaPage)
  | recordingFailure (task : SyncTask) (failure : JobFailure)
  | returning (task : SyncTask)
  | throwing (exception : WorkException)

/-- `toJobFailure`, of an error of the provider. -/
def InstagramMediaError.toJobFailure (error : InstagramMediaError) : JobFailure :=
  match error.responseClass with
  | .authorisation => ⟨none, .credential, "INSTAGRAM_TOKEN_REJECTED", none⟩
  | .invalidRequest => ⟨none, .invalidInput, "INSTAGRAM_REQUEST_REJECTED", none⟩
  | .rateLimit => ⟨none, .rateLimit, "INSTAGRAM_RATE_LIMITED", error.retryAfterMs⟩
  | .transient => ⟨none, .transient, "INSTAGRAM_UNAVAILABLE", none⟩
  | .unsupported => ⟨none, .invalidInput, "INSTAGRAM_REQUEST_UNSUPPORTED", none⟩

/-- `toJobFailure`, of what the database throws. -/
def JobError.toJobFailure : JobError → JobFailure
  | .operational error _ =>
    if error.retryable then ⟨none, .database, "SYNC_DATABASE_UNAVAILABLE", none⟩
    else ⟨none, .unknown, "JOB_HANDLER_FAILED", none⟩
  | .fault _ => ⟨none, .unknown, "JOB_HANDLER_FAILED", none⟩

/-- A transaction of its own, as a statement of the work that tells by the exception how the
work goes on. -/
def asCaughtStatement {α Local : Type} (body : WorkerTransaction α) (next : α → Local)
    (rescue : JobError → Local) (db : Database WorkerTables) :
    (List AnalysisJob × WorkerTables) × Local :=
  match body.run db with
  | .ok (value, db') => (db'.contents, next value)
  | .error error => (db.contents, rescue error)

theorem asCaughtStatement_of_ensures {α Local : Type} {body : WorkerTransaction α}
    {next : α → Local} {rescue : JobError → Local} {db : Database WorkerTables}
    {P : List AnalysisJob × WorkerTables → Local → Prop}
    (h : body.Ensures (fun value db' => P db'.contents (next value)) (fun _ => True) db)
    (hrescue : ∀ error, P db.contents (rescue error)) :
    P (asCaughtStatement body next rescue db).1 (asCaughtStatement body next rescue db).2 := by
  unfold Ensures at h
  unfold asCaughtStatement
  cases hrun : body.run db with
  | error error => exact hrescue error
  | ok result =>
    rw [hrun] at h
    exact h

/-- The workspace of a job. -/
def SyncJob.context (job : SyncJob) : WorkspaceContext := job.delivery.context

/-- The request for the next page. -/
def SyncTask.request (task : SyncTask) (paging : SyncPaging) : MediaPageRequest where
  accessToken := task.accessToken
  providerAccountId := task.providerAccountId
  after := paging.after

namespace SyncWork

variable (deployment : SyncDeployment)

/-- A `JobHandlerFailure` before the run is open. -/
def throwingFailure (errorClass : JobFailureClass) (errorCode : String) : SyncWork :=
  .throwing (.failure ⟨none, errorClass, errorCode, none⟩)

/-- What a callback throws is thrown on. -/
def rethrow (error : Option JobError) : SyncWork := .throwing (.ofCallback error)

/-- `importAccountMedia` after it has loaded its job. -/
def afterJob (job : SyncJob) (row : Option BackgroundJob) : SyncWork :=
  match row.bind fun row => (row.resourceId.filter fun id => id != "").map fun id => (row, id) with
  | none => throwingFailure .invalidInput "SYNC_RESOURCE_INVALID"
  | some (row, resourceId) =>
    if row.resourceType ≠ some "instagram_account" then
      throwingFailure .invalidInput "SYNC_RESOURCE_INVALID"
    else .loadingAccount job row.idempotencyKey resourceId

/-- `importAccountMedia` after it has loaded its account. -/
def afterAccount (job : SyncJob) (idempotencyKey : String) : Option InstagramAccount → SyncWork
  | none => throwingFailure .invalidInput "SYNC_ACCOUNT_MISSING"
  | some account =>
    if account.connectionStatus ≠ .active then
      throwingFailure .credential "SYNC_ACCOUNT_NOT_CONNECTED"
    else .loadingCredential job idempotencyKey account

/-- `readAccessToken` after it has loaded the credential. -/
def afterCredential (job : SyncJob) (idempotencyKey : String) (account : InstagramAccount) :
    Option IntegrationCredential → SyncWork
  | none => throwingFailure .credential "SYNC_CREDENTIAL_MISSING"
  | some credential =>
    if deployment.loadsMasterKeys = false then
      throwingFailure .unknown "SYNC_ENCRYPTION_UNAVAILABLE"
    else
      match deployment.decryptCredential account.id job.context.workspaceId credential.ciphertext with
      | none => throwingFailure .credential "SYNC_CREDENTIAL_UNREADABLE"
      | some accessToken => .startingRun job idempotencyKey account accessToken

/-- What the run of an account is started with. -/
def startInput (job : SyncJob) (idempotencyKey : String) (account : InstagramAccount)
    (startedAt : ℤ) : StartInstagramSyncRunInput where
  apiVersion := instagramApiVersion
  backgroundJobId := job.delivery.envelope.domainJobId
  correlationId := job.delivery.envelope.correlationId
  horizonStart := startedAt -
    (if account.lastSuccessfulSyncAt.isSome then instagramIncrementalOverlapDays
      else instagramBootstrapHorizonDays) * dayMilliseconds
  idempotencyKey
  instagramAccountId := account.id
  startedAt
  trigger := (instagramSyncTriggerFromKey idempotencyKey).getD
    (if account.lastSuccessfulSyncAt.isSome then .scheduled else .bootstrap)

/-- `importAccountMedia` once its run is open. -/
def afterStart (opening : SyncOpening) (run : SyncRun) : SyncWork :=
  .resuming
    { job := opening.job
      accessToken := opening.accessToken
      horizonStart := run.horizonStart
      providerAccountId := opening.providerAccountId
      syncRunId := run.id }

/-- `startInstagramSyncRun` after it has looked for the run of its key. -/
def afterExisting (opening : SyncOpening) : Option SyncRun → SyncWork
  | none => .creatingRun opening
  | some existing =>
    if existing.state = .succeeded ∨ existing.state = .running then afterStart opening existing
    else .reopeningRun opening existing

/-- What is caught while pages are read, but for a cancellation. -/
def caught (task : SyncTask) : Option JobError → SyncWork
  | none => .throwing .cancelled
  | some error => .recordingFailure task error.toJobFailure

/-- The condition of the loop over the pages. -/
def enterLoop (task : SyncTask) (paging : SyncPaging) : SyncWork :=
  if paging.pagesVisited < instagramMaximumSyncPages then .beating task paging
  else .recordingFailure task ⟨none, .transient, "SYNC_PAGE_LIMIT_REACHED", none⟩

/-- `fetchInstagramMediaPage` up to its request. -/
def fetch (task : SyncTask) (paging : SyncPaging) : SyncWork :=
  match (task.request paging).refusal with
  | some error => .recordingFailure task error.toJobFailure
  | none => .fetching task paging

/-- The loop after `fetchInstagramMediaPage`. -/
def afterAnswer (task : SyncTask) (paging : SyncPaging) (answer : GraphAnswer) : SyncWork :=
  match readMediaPageAnswer answer with
  | .error error => .recordingFailure task error.toJobFailure
  | .ok page => .announcingPage task paging page

/-- What the page is committed as. -/
def pageInput (task : SyncTask) (paging : SyncPaging) (page : InstagramMediaPage)
    (importedAt : ℤ) : CommitInstagramMediaPageInput :=
  let tally := tallyItems deployment.runtime task.horizonStart page.items
  { cursor := page.after.or paging.after
    importedAt
    invalidCount := tally.invalidCount
    media := tally.media.mapIdx fun position media =>
      (media, deployment.createId task.job.claim (paging.created + position))
    skippedCount := tally.skippedCount
    stage := "page_committed"
    syncRunId := task.syncRunId }

/-- The loop after it has committed a page. -/
def afterPage (task : SyncTask) (paging : SyncPaging) (page : InstagramMediaPage) : SyncWork :=
  let tally := tallyItems deployment.runtime task.horizonStart page.items
  if page.isLast deployment.runtime task.horizonStart then .returning task
  else enterLoop task
    { after := page.after
      pagesVisited := paging.pagesVisited + 1
      created := paging.created + tally.media.length }

/-- `result.commit`. -/
def commit (task : SyncTask) : WorkerTransaction Unit := do
  let now ← read Database.clock
  completeInstagramSyncRun task.job.context task.syncRunId now

/-- What `importAccountMedia` does next. The first identifier of an attempt is that of its run. -/
def next : SyncWork → Instruction WorkerTables MediaPageRequest GraphAnswer SyncWork
  | .started job => .callback (.recordStage "loading_account") (.loadingJob job) rethrow
  | .loadingJob job =>
    .statement (asStatement
      (backgroundJob.findFirst fun row => row.id == job.delivery.envelope.domainJobId &&
        row.workspaceId == job.context.workspaceId) (afterJob job) (.throwing .other))
  | .loadingAccount job idempotencyKey resourceId =>
    .statement (asStatement
      (instagramAccount.findFirst fun row => row.id == resourceId &&
        row.workspaceId == job.context.workspaceId)
      (afterAccount job idempotencyKey) (.throwing .other))
  | .loadingCredential job idempotencyKey account =>
    .statement (asStatement
      (integrationCredential.findFirst fun row => row.workspaceId == job.context.workspaceId &&
        row.accountId == account.id && row.status == .active)
      (afterCredential deployment job idempotencyKey account) (.throwing .other))
  | .startingRun job idempotencyKey account accessToken =>
    .statement fun db =>
      let input := startInput job idempotencyKey account db.clock
      asStatement (findSyncAccount job.context input)
        (fun _ => .findingRun ⟨job, accessToken, account.providerAccountId, input⟩)
        (.throwing .other) db
  | .findingRun opening =>
    .statement (asStatement (findExistingRun opening.job.context opening.input)
      (afterExisting opening) (.throwing .other))
  | .reopeningRun opening existing =>
    .statement (asStatement (reopenRun opening.job.context opening.input existing)
      (fun _ => .rereadingRun opening existing) (.throwing .other))
  | .rereadingRun opening existing =>
    .statement (asStatement (findReopenedRun opening.job.context existing)
      (afterStart opening) (.throwing .other))
  | .creatingRun opening =>
    .statement (asStatement (createRun opening.job.context opening.input
        (deployment.createId opening.job.claim 0)) (afterStart opening) (.throwing .other))
  | .resuming task =>
    .statement (asCaughtStatement (findRunCursor task.job.context task.syncRunId)
      (fun cursor => enterLoop task ⟨cursor, 0, 1⟩) fun error => caught task (some error))
  | .beating task paging => .callback .heartbeat (.announcingFetch task paging) (caught task)
  | .announcingFetch task paging =>
    .callback (.recordStage "fetching_page") (fetch task paging) (caught task)
  | .fetching task paging => .request (task.request paging) (afterAnswer task paging)
  | .announcingPage task paging page =>
    .callback (.recordStage "persisting_page") (.persisting task paging page) (caught task)
  | .persisting task paging page =>
    .statement fun db => asCaughtStatement
      (commitInstagramMediaPage task.job.context (pageInput deployment task paging page db.clock))
      (fun _ => afterPage deployment task paging page) (fun error => caught task (some error)) db
  | .recordingFailure task failure =>
    .statement fun db => asStatement
      (failInstagramSyncRun task.job.context failure db.clock task.syncRunId)
      (fun _ => .throwing (.failure failure)) (.throwing .other) db
  | .returning task => .finish (.returned [asEffect (commit task)])
  | .throwing exception => .finish exception.outcome

end SyncWork

/-- The handler of `instagram.sync.account`. -/
def syncAccountScript (deployment : SyncDeployment) :
    Script WorkerTables MediaPageRequest GraphAnswer SyncWork where
  start delivery claim :=
    if (parseCorrelationId delivery.envelope.correlationId).isSome then .started ⟨delivery, claim⟩
    else SyncWork.throwingFailure .invalidInput "SYNC_CORRELATION_INVALID"
  next := SyncWork.next deployment

/-! ### What the writes keep -/

/-- No run is lost, and each keeps its horizon. -/
def RunsKept (before after : WorkerTables) : Prop :=
  ∀ row ∈ before.syncRuns.rows, ∃ row' ∈ after.syncRuns.rows,
    row'.id = row.id ∧ row'.horizonStart = row.horizonStart

/-- A run is newly taken for a success. -/
def NewlySucceeded (before after : WorkerTables) (run : SyncRun) : Prop :=
  run ∈ after.syncRuns.rows ∧ run.state = .succeeded ∧
    ∀ earlier ∈ before.syncRuns.rows, earlier.id = run.id → earlier.state ≠ .succeeded

/-- The last successful synchronisation of an account has moved. -/
def SyncMoved (before after : WorkerTables) (account : InstagramAccount) : Prop :=
  account ∈ after.instagramAccounts.rows ∧ account.lastSuccessfulSyncAt.isSome = true ∧
    ∀ earlier ∈ before.instagramAccounts.rows, earlier.id = account.id →
      earlier.lastSuccessfulSyncAt ≠ account.lastSuccessfulSyncAt

/-- No run is lost, none is newly taken for a success, and no account moves. -/
structure SyncsKept (before after : WorkerTables) : Prop where
  runs : RunsKept before after
  succeeded : ∀ run, ¬ NewlySucceeded before after run
  accounts : ∀ account, ¬ SyncMoved before after account

section Writes

variable {before after : WorkerTables} {context : WorkspaceContext} {db : Database WorkerTables}
  {input : StartInstagramSyncRunInput}

theorem RunsKept.refl (app : WorkerTables) : RunsKept app app :=
  fun row hrow => ⟨row, hrow, rfl, rfl⟩

theorem RunsKept.trans {app app' app'' : WorkerTables} (h : RunsKept app app')
    (h' : RunsKept app' app'') : RunsKept app app'' := by
  intro row hrow
  obtain ⟨row', hrow', hid, hhorizon⟩ := h row hrow
  obtain ⟨row'', hrow'', hid', hhorizon'⟩ := h' row' hrow'
  exact ⟨row'', hrow'', hid'.trans hid, hhorizon'.trans hhorizon⟩

theorem RunsKept.of_update {data : SyncRun → SyncRun} {selects : SyncRun → Bool}
    (hrows : after.syncRuns.rows =
      before.syncRuns.rows.map fun row => if selects row then data row else row)
    (hdata : ∀ row, (data row).id = row.id ∧ (data row).horizonStart = row.horizonStart) :
    RunsKept before after := by
  intro row hrow
  refine ⟨_, by rw [hrows]; exact mem_map_of_mem hrow, ?_⟩
  split
  · exact hdata row
  · exact ⟨rfl, rfl⟩

private theorem not_syncMoved (haccounts : after.instagramAccounts = before.instagramAccounts)
    (account : InstagramAccount) : ¬ SyncMoved before after account := by
  rintro ⟨haccount, -, hmoved⟩
  rw [haccounts] at haccount
  exact hmoved account haccount rfl rfl

theorem SyncsKept.of_same (hruns : after.syncRuns = before.syncRuns)
    (haccounts : after.instagramAccounts = before.instagramAccounts) :
    SyncsKept before after := by
  refine ⟨?_, ?_, not_syncMoved haccounts⟩
  · intro row hrow
    exact ⟨row, by rw [hruns]; exact hrow, rfl, rfl⟩
  · rintro run ⟨hrun, hstate, hnew⟩
    rw [hruns] at hrun
    exact hnew run hrun rfl hstate

theorem SyncsKept.of_update {data : SyncRun → SyncRun} {selects : SyncRun → Bool}
    (hrows : after.syncRuns.rows =
      before.syncRuns.rows.map fun row => if selects row then data row else row)
    (hdata : ∀ row, (data row).id = row.id ∧ (data row).horizonStart = row.horizonStart)
    (hstate : ∀ row, (data row).state = .succeeded → row.state = .succeeded)
    (haccounts : after.instagramAccounts = before.instagramAccounts) :
    SyncsKept before after := by
  refine ⟨RunsKept.of_update hrows hdata, ?_, not_syncMoved haccounts⟩
  rintro run ⟨hrun, hsucceeded, hnew⟩
  rw [hrows] at hrun
  obtain ⟨row, hrow, rfl⟩ := mem_map.mp hrun
  split at hsucceeded
  · next hselects =>
    refine hnew row hrow ?_ (hstate row hsucceeded)
    rw [if_pos hselects]
    exact (hdata row).1.symm
  · next hselects => exact hnew row hrow (by rw [if_neg hselects]) hsucceeded

theorem SyncsKept.of_create {row : SyncRun}
    (hrows : after.syncRuns.rows = before.syncRuns.rows ++ [row]) (hstate : row.state ≠ .succeeded)
    (haccounts : after.instagramAccounts = before.instagramAccounts) :
    SyncsKept before after := by
  refine ⟨?_, ?_, not_syncMoved haccounts⟩
  · intro earlier hearlier
    exact ⟨earlier, by rw [hrows]; exact mem_append_left _ hearlier, rfl, rfl⟩
  · rintro run ⟨hrun, hsucceeded, hnew⟩
    rw [hrows] at hrun
    rcases mem_append.mp hrun with hearlier | hlast
    · exact hnew run hearlier rfl hsucceeded
    · rw [mem_singleton.mp hlast] at hsucceeded
      exact hstate hsucceeded

private theorem ensures_reopenRun {existing : SyncRun} :
    (reopenRun context input existing).Ensures (fun _ db' => SyncsKept db.app db'.app)
      (fun _ => True) db := by
  unfold reopenRun
  rw [ensures_bind]
  apply ensures_updateMany
  intro rows hrows
  split
  · trivial
  · exact SyncsKept.of_update hrows (fun _ => ⟨rfl, rfl⟩) (fun _ h => nomatch h) rfl

private theorem ensures_createRun {id : String} :
    (createRun context input id).Ensures
      (fun run db' => SyncsKept db.app db'.app ∧ run ∈ db'.app.syncRuns.rows) (fun _ => True)
      db := by
  unfold createRun
  rw [ensures_rethrow, ensures_bind]
  apply ensures_create
  intro rows hrows
  refine ⟨SyncsKept.of_create hrows (fun h => nomatch h) rfl, ?_⟩
  show startedRun context input id ∈ rows.rows
  rw [hrows]
  exact mem_append_right _ (mem_singleton_self _)

private theorem ensures_failInstagramSyncRun {failure : JobFailure} {failedAt : ℤ}
    {syncRunId : String} :
    (failInstagramSyncRun context failure failedAt syncRunId).Ensures
      (fun _ db' => SyncsKept db.app db'.app) (fun _ => True) db := by
  unfold failInstagramSyncRun
  split_ifs
  · trivial
  · trivial
  · rw [ensures_bind]
    apply ensures_updateMany
    intro rows hrows
    exact SyncsKept.of_update hrows (fun _ => ⟨rfl, rfl⟩) (fun _ h => nomatch h) rfl

/-- The runs and the accounts. -/
def syncTables (db : Database WorkerTables) :
    Table syncRunSchema × Table instagramAccountSchema :=
  (db.app.syncRuns, db.app.instagramAccounts)

private theorem keeps_importMedia {run : SyncRun} {importedAt : ℤ} {existing : List InstagramPost}
    {media : List (NormalisedInstagramMedia × String)} {counts : InstagramMediaPageCommit} :
    Keeps syncTables (importMedia context run importedAt existing media counts) := by
  induction media generalizing counts with
  | nil => exact keeps_pure
  | cons entry media ih =>
    obtain ⟨item, id⟩ := entry
    unfold importMedia
    split
    · exact .bind (keeps_updateMany fun _ _ => rfl) fun _ => ih
    · refine .bind ?_ fun _ => ih
      intro db
      apply ensures_create
      intro rows _
      rfl

/-- A page takes no run for a success. -/
theorem ensures_commitInstagramMediaPage {input : CommitInstagramMediaPageInput} :
    (commitInstagramMediaPage context input).Ensures (fun _ db' => SyncsKept db.app db'.app)
      (fun _ => True) db := by
  unfold commitInstagramMediaPage
  split_ifs
  · trivial
  · trivial
  · trivial
  · unfold findFirst
    rw [ensures_bind, ensures_read]
    split
    · trivial
    · rw [ensures_bind, ensures_read]
      apply keeps_importMedia.ensures_bind
      intro counts db' hsame
      obtain ⟨hruns, haccounts⟩ := Prod.mk.inj hsame
      rw [ensures_bind]
      apply ensures_updateMany
      intro rows hrows
      have hrows' : rows.rows = db'.app.syncRuns.rows.map _ := hrows
      rw [hruns] at hrows'
      split
      · trivial
      · exact SyncsKept.of_update hrows' (fun _ => ⟨rfl, rfl⟩) (fun _ h => h) haccounts

section Completion

variable {data : SyncRun → SyncRun} {selects : SyncRun → Bool} {id : String} {run : SyncRun}

private theorem NewlySucceeded.id_eq (h : NewlySucceeded before after run)
    (hrows : after.syncRuns.rows =
      before.syncRuns.rows.map fun row => if selects row then data row else row)
    (hselects : ∀ row, selects row → (data row).id = id) : run.id = id := by
  obtain ⟨hrun, hsucceeded, hnew⟩ := h
  rw [hrows] at hrun
  obtain ⟨row, hrow, rfl⟩ := mem_map.mp hrun
  split
  · next hselected => exact hselects row hselected
  · next hselected =>
    rw [if_neg hselected] at hsucceeded
    exact absurd hsucceeded (hnew row hrow (by rw [if_neg hselected]))

private theorem newlySucceeded_of_update {row : SyncRun}
    (hrows : after.syncRuns.rows =
      before.syncRuns.rows.map fun row => if selects row then data row else row)
    (hrow : row ∈ before.syncRuns.rows) (hselected : selects row)
    (hstate : row.state = .running) (hid : (data row).id = row.id)
    (hsucceeded : (data row).state = .succeeded) (hrun : run ∈ after.syncRuns.rows)
    (hsame : run.id = row.id) : NewlySucceeded before after run := by
  have hupdated : data row ∈ after.syncRuns.rows := by
    rw [hrows]
    exact mem_map.mpr ⟨row, hrow, if_pos hselected⟩
  have heq : run = data row :=
    Table.eq_of_key syncRunSchema_keyedBy_id hrun hupdated (hsame.trans hid.symm)
  refine ⟨hrun, by rw [heq, hsucceeded], ?_⟩
  intro earlier hearlier hearlierId
  rw [Table.eq_of_key syncRunSchema_keyedBy_id hearlier hrow (hearlierId.trans hsame), hstate]
  exact fun h => nomatch h

private theorem SyncMoved.id_eq {account : InstagramAccount}
    {data : InstagramAccount → InstagramAccount}
    {selects : InstagramAccount → Bool} (h : SyncMoved before after account)
    (hrows : after.instagramAccounts.rows =
      before.instagramAccounts.rows.map fun row => if selects row then data row else row)
    (hselects : ∀ row, selects row → (data row).id = id) : account.id = id := by
  obtain ⟨haccount, -, hmoved⟩ := h
  rw [hrows] at haccount
  obtain ⟨row, hrow, rfl⟩ := mem_map.mp haccount
  split
  · next hselected => exact hselects row hselected
  · next hselected =>
    refine absurd ?_ (hmoved row hrow (by rw [if_neg hselected]))
    rw [if_neg hselected]

end Completion

/-- The tables differ at most by the success of one run, and by the accounts that it moves. -/
structure Completes (syncRunId : String) (before after : WorkerTables) : Prop where
  runs : RunsKept before after
  stay : ∀ run ∈ before.syncRuns.rows, run.state = .succeeded → run ∈ after.syncRuns.rows
  succeeded : ∀ run, NewlySucceeded before after run → run.id = syncRunId
  accounts : ∀ account, SyncMoved before after account →
    ∃ run, NewlySucceeded before after run ∧ run.instagramAccountId = account.id

theorem Completes.refl {id : String} (app : WorkerTables) : Completes id app app where
  runs := RunsKept.refl app
  stay _ hrun _ := hrun
  succeeded run h := absurd h.2.1 (h.2.2 run h.1 rfl)
  accounts account h := absurd rfl (h.2.2 account h.1 rfl)

theorem Completes.trans {id : String} {app app' app'' : WorkerTables} (h : Completes id app app')
    (h' : Completes id app' app'') : Completes id app app'' := by
  constructor
  case runs => exact h.runs.trans h'.runs
  case stay => exact fun run hrun hstate => h'.stay run (h.stay run hrun hstate) hstate
  case succeeded =>
    rintro run ⟨hrun, hstate, hnew⟩
    by_cases hfirst : ∃ earlier ∈ app'.syncRuns.rows,
        earlier.id = run.id ∧ earlier.state = .succeeded
    · obtain ⟨earlier, hearlier, hsame, hsucceeded⟩ := hfirst
      rw [← hsame]
      refine h.succeeded earlier ⟨hearlier, hsucceeded, ?_⟩
      exact fun first hfirst hid => hnew first hfirst (hid.trans hsame)
    · refine h'.succeeded run ⟨hrun, hstate, ?_⟩
      exact fun earlier hearlier hid hsucceeded => hfirst ⟨earlier, hearlier, hid, hsucceeded⟩
  case accounts =>
    rintro account ⟨haccount, hsome, hmoved⟩
    by_cases hfirst : ∃ earlier ∈ app'.instagramAccounts.rows,
        earlier.id = account.id ∧ earlier.lastSuccessfulSyncAt = account.lastSuccessfulSyncAt
    · obtain ⟨earlier, hearlier, hsame, hvalue⟩ := hfirst
      obtain ⟨run, ⟨hrun, hstate, hnew⟩, howner⟩ := h.accounts earlier ⟨hearlier, hvalue ▸ hsome,
        fun first hfirst hid => hvalue ▸ hmoved first hfirst (hid.trans hsame)⟩
      exact ⟨run, ⟨h'.stay run hrun hstate, hstate, hnew⟩, howner.trans hsame⟩
    · obtain ⟨run, ⟨hrun, hstate, hnew⟩, howner⟩ := h'.accounts account ⟨haccount, hsome,
        fun earlier hearlier hid hvalue => hfirst ⟨earlier, hearlier, hid, hvalue⟩⟩
      refine ⟨run, ⟨hrun, hstate, ?_⟩, howner⟩
      intro earlier hearlier hid hsucceeded
      exact hnew earlier (h.stay earlier hearlier hsucceeded) hid hsucceeded

/-- **A completion takes one run for a success.** It moves the account of that run only. -/
theorem ensures_completeInstagramSyncRun {syncRunId : String} {completedAt : ℤ} :
    (completeInstagramSyncRun context syncRunId completedAt).Ensures
      (fun _ db' => Completes syncRunId db.app db'.app) (fun _ => True) db := by
  unfold completeInstagramSyncRun
  rw [ensures_bind]
  apply ensures_updateMany
  intro rows hrows
  split
  · trivial
  · next hcount =>
    unfold findFirst
    rw [ensures_bind, ensures_read]
    split
    · trivial
    · next run hfind =>
      rw [ensures_bind]
      apply ensures_updateMany
      intro accounts haccounts
      have hrun : run ∈ rows.rows := mem_of_find?_eq_some hfind
      have hrunId : run.id = syncRunId := by
        have hfound := List.find?_some hfind
        simp only [Bool.and_eq_true, beq_iff_eq] at hfound
        exact hfound.1
      -- the run that has been counted was running
      obtain ⟨row, hrow, hselected⟩ : ∃ row ∈ db.app.syncRuns.rows, (row.id == syncRunId &&
          row.state == .running && row.workspaceId == context.workspaceId) = true := by
        apply countP_pos_iff.mp
        rw [show List.countP _ db.app.syncRuns.rows = 1 from not_not.mp hcount]
        exact Nat.one_pos
      have hmarked := hselected
      simp only [Bool.and_eq_true, beq_iff_eq] at hmarked
      constructor
      case runs => exact RunsKept.of_update hrows fun _ => ⟨rfl, rfl⟩
      case stay =>
        intro other hother hsucceeded
        show other ∈ rows.rows
        rw [hrows]
        refine mem_map.mpr ⟨other, hother, if_neg ?_⟩
        simp [hsucceeded]
      case succeeded =>
        intro other hother
        refine hother.id_eq hrows fun row hrow => ?_
        simp only [Bool.and_eq_true, beq_iff_eq] at hrow
        exact hrow.1.1
      case accounts =>
        intro account haccount
        refine ⟨run, newlySucceeded_of_update hrows hrow hselected hmarked.1.2 rfl rfl hrun
          (hrunId.trans hmarked.1.1.symm), ?_⟩
        refine (haccount.id_eq haccounts fun row hrow => ?_).symm
        simp only [Bool.and_eq_true, beq_iff_eq] at hrow
        exact hrow.1

end Writes

/-! ### What the work knows -/

/-- The run that pages are read for is there, with its horizon. -/
def SyncTask.Opened (task : SyncTask) (app : WorkerTables) : Prop :=
  ∃ row ∈ app.syncRuns.rows, row.id = task.syncRunId ∧ row.horizonStart = task.horizonStart

/-- The answers are pages after which the loop over the pages goes on. -/
def SyncTask.Passed (task : SyncTask) (runtime : Runtime) (answers : List GraphAnswer) : Prop :=
  ∀ answer ∈ answers, ∃ response, answer = .responded response ∧ response.HasBody ∧
    (readInstagramMediaPage response.body).isLast runtime task.horizonStart = false

/-- The last answer is a page after which the loop over the pages is left. -/
def SyncTask.EndedBy (task : SyncTask) (runtime : Runtime) (answers : List GraphAnswer) : Prop :=
  ∃ response earlier, answers = .responded response :: earlier ∧ response.HasBody ∧
    (readInstagramMediaPage response.body).isLast runtime task.horizonStart = true ∧
      task.Passed runtime earlier

namespace SyncWork

variable {deployment : SyncDeployment} {app app' : WorkerTables} {answers : List GraphAnswer}

/-- What the work knows of its run, and of the answers that it has received. -/
def Knows (runtime : Runtime) (app : WorkerTables) (answers : List GraphAnswer) : SyncWork → Prop
  | .started _ | .loadingJob _ | .loadingAccount .. | .loadingCredential .. | .startingRun ..
  | .findingRun _ | .reopeningRun .. | .rereadingRun .. | .creatingRun _ => answers = []
  | .resuming task | .beating task _ | .announcingFetch task _ | .fetching task _ =>
    task.Opened app ∧ task.Passed runtime answers
  | .announcingPage task _ page | .persisting task _ page => task.Opened app ∧
      ∃ response earlier, answers = .responded response :: earlier ∧ response.HasBody ∧
        page = readInstagramMediaPage response.body ∧ task.Passed runtime earlier
  | .returning task => task.Opened app ∧ task.EndedBy runtime answers
  | .recordingFailure .. | .throwing _ => True

/-- What is known of an outcome. -/
def KnowsOutcome (runtime : Runtime) (app : WorkerTables) (answers : List GraphAnswer) :
    ExecutionOutcome WorkerTables → Prop
  | .returned result => ∃ task, result = [asEffect (commit task)] ∧ task.Opened app ∧
      task.EndedBy runtime answers
  | _ => True

variable {task : SyncTask} {paging : SyncPaging} {runtime : Runtime} {state : SyncWork}
  {outcome : ExecutionOutcome WorkerTables}

theorem Opened.mono (h : RunsKept app app') (hopened : task.Opened app) :
    task.Opened app' := by
  obtain ⟨row, hrow, hid, hhorizon⟩ := hopened
  obtain ⟨row', hrow', hid', hhorizon'⟩ := h row hrow
  exact ⟨row', hrow', hid'.trans hid, hhorizon'.trans hhorizon⟩

theorem Knows.mono (h : RunsKept app app')
    (hknows : state.Knows runtime app answers) : state.Knows runtime app' answers := by
  cases state with
  | resuming | beating | announcingFetch | fetching | announcingPage | persisting | returning =>
    exact ⟨Opened.mono h hknows.1, hknows.2⟩
  | recordingFailure | throwing => trivial
  | _ => exact hknows

theorem KnowsOutcome.mono (h : RunsKept app app')
    (hknows : KnowsOutcome runtime app answers outcome) :
    KnowsOutcome runtime app' answers outcome := by
  cases outcome with
  | returned result =>
    obtain ⟨task, hresult, hopened, hended⟩ := hknows
    exact ⟨task, hresult, Opened.mono h hopened, hended⟩
  | threw | cancelled | abandoned => trivial

private theorem knows_caught {error : Option JobError} :
    (caught task error).Knows runtime app answers := by
  cases error <;> trivial

theorem knows_enterLoop (h : task.Opened app ∧ task.Passed runtime answers) :
    (enterLoop task paging).Knows runtime app answers := by
  unfold enterLoop
  split_ifs
  · exact h
  · trivial

theorem knows_fetch (h : task.Opened app ∧ task.Passed runtime answers) :
    (fetch task paging).Knows runtime app answers := by
  unfold fetch
  split
  · trivial
  · exact h

theorem knows_afterAnswer {answer : GraphAnswer}
    (h : task.Opened app ∧ task.Passed runtime answers) :
    (afterAnswer task paging answer).Knows runtime app (answer :: answers) := by
  unfold afterAnswer
  split
  · trivial
  · next page hpage =>
    obtain ⟨response, rfl, hbody, hread⟩ := readMediaPageAnswer_eq_ok hpage
    exact ⟨h.1, response, answers, rfl, hbody, hread, h.2⟩

private theorem knows_afterPage {page : InstagramMediaPage}
    (h : (persisting task paging page).Knows deployment.runtime app answers) :
    (afterPage deployment task paging page).Knows deployment.runtime app answers := by
  obtain ⟨hopened, response, earlier, rfl, hbody, rfl, hpassed⟩ := h
  unfold afterPage
  split_ifs with hends
  · exact ⟨hopened, response, earlier, rfl, hbody, hends, hpassed⟩
  · refine knows_enterLoop ⟨hopened, forall_mem_cons.mpr ⟨⟨response, rfl, hbody, ?_⟩, hpassed⟩⟩
    exact Bool.not_eq_true _ ▸ hends

private theorem knows_afterStart {opening : SyncOpening} {run : SyncRun}
    (hnone : answers = []) (hrun : run ∈ app.syncRuns.rows) :
    (afterStart opening run).Knows runtime app answers :=
  ⟨⟨run, hrun, rfl, rfl⟩, hnone ▸ forall_mem_nil _⟩

/-- What a statement leads to: no run is taken for a success, and the work knows what it has to
know. -/
def LeadsOn (runtime : Runtime) (before : WorkerTables) (answers : List GraphAnswer)
    (contents : List AnalysisJob × WorkerTables) (state : SyncWork) : Prop :=
  SyncsKept before contents.2 ∧ state.Knows runtime contents.2 answers

/-- **What a statement does**: it takes no run for a success, and its work knows what it has
to know. -/
theorem statement_spec (db : Database WorkerTables)
    {run : Database WorkerTables → (List AnalysisJob × WorkerTables) × SyncWork}
    (hnext : state.next deployment = .statement run)
    (hknows : state.Knows deployment.runtime db.app answers) :
    LeadsOn deployment.runtime db.app answers (run db).1 (run db).2 := by
  have hsame : SyncsKept db.app db.app := .of_same rfl rfl
  have hthrows : LeadsOn deployment.runtime db.app answers db.contents (.throwing .other) :=
    ⟨hsame, trivial⟩
  cases state with
  | loadingJob job =>
    cases hnext
    refine asStatement_of_ensures (P := LeadsOn deployment.runtime db.app answers) ?_ hthrows
    unfold backgroundJob.findFirst
    rw [ensures_read]
    refine ⟨hsame, ?_⟩
    unfold afterJob
    split
    · trivial
    · split_ifs <;> trivial
  | loadingAccount job idempotencyKey resourceId =>
    cases hnext
    refine asStatement_of_ensures (P := LeadsOn deployment.runtime db.app answers) ?_ hthrows
    unfold findFirst
    rw [ensures_read]
    refine ⟨hsame, ?_⟩
    unfold afterAccount
    split
    · trivial
    · split_ifs <;> trivial
  | loadingCredential job idempotencyKey account =>
    cases hnext
    refine asStatement_of_ensures (P := LeadsOn deployment.runtime db.app answers) ?_ hthrows
    unfold findFirst
    rw [ensures_read]
    refine ⟨hsame, ?_⟩
    unfold afterCredential
    split
    · trivial
    · split_ifs
      · trivial
      · split <;> trivial
  | startingRun job idempotencyKey account accessToken =>
    cases hnext
    refine asStatement_of_ensures (P := LeadsOn deployment.runtime db.app answers) ?_ hthrows
    unfold findSyncAccount
    split_ifs
    · trivial
    · unfold findFirst
      rw [ensures_bind, ensures_read]
      split
      · trivial
      · exact ⟨hsame, hknows⟩
  | findingRun opening =>
    cases hnext
    refine asStatement_of_ensures (P := LeadsOn deployment.runtime db.app answers) ?_ hthrows
    unfold findExistingRun findFirst
    rw [ensures_read]
    refine ⟨hsame, ?_⟩
    unfold afterExisting
    split
    · trivial
    · next existing hexisting =>
      split_ifs
      · exact knows_afterStart hknows (mem_of_find?_eq_some hexisting)
      · trivial
  | reopeningRun opening existing =>
    cases hnext
    refine asStatement_of_ensures (P := LeadsOn deployment.runtime db.app answers) ?_ hthrows
    exact ensures_reopenRun.mono (fun _ _ hkept => ⟨hkept, hknows⟩) fun _ _ => trivial
  | rereadingRun opening existing =>
    cases hnext
    refine asStatement_of_ensures (P := LeadsOn deployment.runtime db.app answers) ?_ hthrows
    unfold findReopenedRun findFirst
    rw [ensures_bind, ensures_read]
    split
    · trivial
    · next found hfound =>
      exact ⟨hsame, knows_afterStart hknows (mem_of_find?_eq_some hfound)⟩
  | creatingRun opening =>
    cases hnext
    refine asStatement_of_ensures (P := LeadsOn deployment.runtime db.app answers) ?_ hthrows
    exact ensures_createRun.mono
      (fun _ _ hcreated => ⟨hcreated.1, knows_afterStart hknows hcreated.2⟩) fun _ _ => trivial
  | resuming task =>
    cases hnext
    refine asCaughtStatement_of_ensures (P := LeadsOn deployment.runtime db.app answers) ?_
      fun _ => ⟨hsame, knows_caught⟩
    unfold findRunCursor findFirst
    rw [ensures_bind, ensures_read]
    exact ⟨hsame, knows_enterLoop hknows⟩
  | persisting task paging page =>
    cases hnext
    refine asCaughtStatement_of_ensures (P := LeadsOn deployment.runtime db.app answers) ?_
      fun _ => ⟨hsame, knows_caught⟩
    refine ensures_commitInstagramMediaPage.mono (fun _ db' hkept => ⟨hkept, ?_⟩)
      fun _ _ => trivial
    exact knows_afterPage (Knows.mono hkept.runs hknows)
  | recordingFailure task failure =>
    cases hnext
    refine asStatement_of_ensures (P := LeadsOn deployment.runtime db.app answers) ?_ hthrows
    exact ensures_failInstagramSyncRun.mono (fun _ _ hkept => ⟨hkept, trivial⟩) fun _ _ => trivial
  | throwing exception => cases exception <;> cases hnext
  | _ => cases hnext

theorem start_eq (deployment : SyncDeployment) (delivery : Delivery) (claim : JobClaim) :
    (syncAccountScript deployment).start delivery claim = .started ⟨delivery, claim⟩ ∨
      ∃ exception, (syncAccountScript deployment).start delivery claim = .throwing exception := by
  unfold syncAccountScript
  dsimp only
  split_ifs
  · exact .inl rfl
  · exact .inr ⟨_, rfl⟩

theorem callback_spec {resume : SyncWork} {kind : CallbackKind}
    {rescue : Option JobError → SyncWork} (hnext : state.next deployment = .callback kind resume rescue)
    (hknows : state.Knows deployment.runtime app answers) :
    resume.Knows deployment.runtime app answers ∧
      ∀ error, (rescue error).Knows deployment.runtime app answers := by
  cases state with
  | started job =>
    cases hnext
    exact ⟨hknows, fun _ => trivial⟩
  | beating task paging =>
    cases hnext
    exact ⟨hknows, fun _ => knows_caught⟩
  | announcingFetch task paging =>
    cases hnext
    exact ⟨knows_fetch hknows, fun _ => knows_caught⟩
  | announcingPage task paging page =>
    cases hnext
    exact ⟨hknows, fun _ => knows_caught⟩
  | throwing exception => cases exception <;> cases hnext
  | _ => cases hnext

theorem finish_spec (hnext : state.next deployment = .finish outcome)
    (hknows : state.Knows deployment.runtime app answers) :
    KnowsOutcome deployment.runtime app answers outcome := by
  cases state with
  | returning task =>
    cases hnext
    exact ⟨task, rfl, hknows⟩
  | throwing exception => cases exception <;> cases hnext <;> trivial
  | _ => cases hnext

theorem ensures_commit {db : Database WorkerTables} :
    (commit task).Ensures (fun _ db' => Completes task.syncRunId db.app db'.app) (fun _ => True)
      db := by
  unfold commit
  rw [ensures_bind, ensures_read]
  exact ensures_completeInstagramSyncRun

/-- The script keeps what is known, as long as no run is lost. -/
theorem tracks : (syncAccountScript deployment).Tracks RunsKept (Knows deployment.runtime)
    (KnowsOutcome deployment.runtime) := by
  constructor
  case refl => exact RunsKept.refl
  case trans => exact RunsKept.trans
  case mono => exact Knows.mono
  case monoDone => exact KnowsOutcome.mono
  case start =>
    intro app delivery claim
    have hstart := start_eq deployment delivery claim
    generalize (syncAccountScript deployment).start delivery claim = state at hstart ⊢
    rcases hstart with rfl | ⟨exception, rfl⟩
    · trivial
    · trivial
  case callback => exact callback_spec
  case statement =>
    intro answers state run db hnext _ hknows
    obtain ⟨hkept, hafter⟩ := statement_spec db hnext hknows
    exact ⟨trivial, hkept.runs, hafter⟩
  case request =>
    intro app answers state request resume hnext hknows answer _
    cases state with
    | fetching task paging =>
      cases hnext
      exact knows_afterAnswer hknows
    | throwing exception => cases exception <;> cases hnext
    | _ => cases hnext
  case finish => exact finish_spec
  case commit =>
    intro answers result update db written hupdate hwritten _ hdone
    obtain ⟨task, rfl, -, -⟩ := hdone
    have hruns : ∀ db, (commit task).Ensures (fun _ db' => RunsKept db.app db'.app)
        (fun _ => True) db := fun db =>
      ensures_commit.mono (fun _ _ hcompletes => hcompletes.runs) fun _ _ => trivial
    exact ⟨trivial, asEffect_of_ensures hruns hupdate hwritten⟩

end SyncWork

/-! ### Runs -/

/-- The jobs of `instagram.sync.account`, with the work on them. -/
abbrev SyncSystem := WorkSystem WorkerTables MediaPageRequest SyncWork

namespace SyncSystem

/-- A step of the system; the rest of the application leaves the synchronisations alone. -/
def Step (deployment : SyncDeployment) (environment : Environment WorkerTables) :
    SyncSystem → WorkEvent WorkerTables GraphAnswer → SyncSystem → Prop :=
  WorkSystem.Step environment (syncAccountScript deployment)
    fun before after => SyncsKept before.2 after.2

/-- A handler has returned the completion of a run. -/
def Returned (s : SyncSystem) (pid : ℕ) (syncRunId : String) : Prop :=
  ∃ attempt task, s.attempts pid = some attempt ∧
    attempt.work = .done (.returned [asEffect (SyncWork.commit task)]) ∧
      task.syncRunId = syncRunId

/-- **The condition.** A body that the answer brings is an object with a data array. -/
def BringsPage : GraphAnswer → Prop
  | .unreachable => True
  | .responded response => response.HasBody → (dataItems? response.body).isSome = true

/-- Every page was read: the last answer is a page that may end the synchronisation, and each
one before it is an object with a data array which links to a next page. -/
def ReadThrough (runtime : Runtime) (horizonStart : Option ℤ) (answers : List GraphAnswer) :
    Prop :=
  ∃ last earlier, answers = .responded last :: earlier ∧ last.HasBody ∧
    EndsSync runtime horizonStart last.body ∧
    ∀ answer ∈ earlier, ∃ response, answer = .responded response ∧ response.HasBody ∧
      (dataItems? response.body).isSome = true ∧ HasNextLink response.body

section Rules

variable {deployment : SyncDeployment} {environment : Environment WorkerTables}
  {s t : SyncSystem} {event : WorkEvent WorkerTables GraphAnswer}
  {history : List (SyncSystem × WorkEvent WorkerTables GraphAnswer)}

/-- **Step lemma.** A step leaves the synchronisations alone, or it commits the completion of
a run whose last page has ended it. -/
theorem completes_move {v : WorkView WorkerTables MediaPageRequest SyncWork}
    {answers : ℕ → List GraphAnswer}
    (htracks : WorkSystem.Tracks (SyncWork.Knows deployment.runtime)
      (SyncWork.KnowsOutcome deployment.runtime) answers s)
    (hmove : WorkMove (syncAccountScript deployment)
      (fun before after => SyncsKept before.2 after.2) event s.view v) :
    SyncsKept s.system.db.app v.app ∨ ∃ (pid : ℕ) (task : SyncTask),
      s.Returned pid task.syncRunId ∧ task.Opened s.system.db.app ∧
        task.EndedBy deployment.runtime (answers pid) ∧
        Completes task.syncRunId s.system.db.app v.app := by
  cases hmove with
  | idle | retry | begin | goOn | send => exact .inl (.of_same rfl rfl)
  | others hothers => exact .inl hothers
  | @statement _ pid attempt state run db hattempt hwork hnext hcontents =>
    left
    have hstate := htracks pid attempt hattempt
    rw [hwork] at hstate
    have happ : db.app = s.system.db.app := congrArg Prod.snd hcontents
    have hknows : state.Knows deployment.runtime db.app (answers pid) := happ ▸ hstate
    show SyncsKept s.system.db.app _
    rw [← happ]
    exact (SyncWork.statement_spec db hnext hknows).1
  | @commit _ _ app pid attempt result hattempt hwork hwrites =>
    right
    have hdone := htracks pid attempt hattempt
    rw [hwork] at hdone
    obtain ⟨task, rfl, hopened, hended⟩ := hdone
    refine ⟨pid, task, ⟨attempt, task, hattempt, hwork, rfl⟩, hopened, hended, ?_⟩
    apply hwrites (Completes task.syncRunId) Completes.refl Completes.trans
    intro update hupdate db written hwritten
    exact asEffect_of_ensures (fun _ => SyncWork.ensures_commit) hupdate hwritten

/-- The pages of a work that has come to its end were all read exactly when every body that it
was answered is an object with a data array. -/
theorem readThrough_iff_of_endedBy {runtime : Runtime} {task : SyncTask}
    {answers : List GraphAnswer} (h : task.EndedBy runtime answers) :
    ReadThrough runtime task.horizonStart answers ↔ ∀ answer ∈ answers, BringsPage answer := by
  obtain ⟨last, earlier, rfl, hbody, hlast, hpassed⟩ := h
  have hends := endsSync_iff_of_isLast hlast
  constructor
  · rintro ⟨_, _, ⟨⟩, -, hend, hpages⟩
    refine forall_mem_cons.mpr ⟨fun _ => hends.mp hend, fun answer hanswer => ?_⟩
    obtain ⟨response, rfl, -, hpage, -⟩ := hpages answer hanswer
    exact fun _ => hpage
  · intro hbrings
    rw [forall_mem_cons] at hbrings
    refine ⟨last, earlier, rfl, hbody, hends.mpr (hbrings.1 hbody), fun answer hanswer => ?_⟩
    obtain ⟨response, rfl, hhas, hgoesOn⟩ := hpassed answer hanswer
    refine ⟨response, rfl, hhas, hbrings.2 _ hanswer hhas, ?_⟩
    unfold InstagramMediaPage.isLast at hgoesOn
    rw [Bool.or_eq_false_iff, Bool.not_eq_false'] at hgoesOn
    exact hasNextPage_readInstagramMediaPage.mp hgoesOn.1

end Rules

/-! ### A small deployment -/

instance {before after : WorkerTables} {run : SyncRun} :
    Decidable (NewlySucceeded before after run) :=
  inferInstanceAs (Decidable (_ ∧ _ ∧ ∀ earlier ∈ _, _ → _))

instance {before after : WorkerTables} {account : InstagramAccount} :
    Decidable (SyncMoved before after account) :=
  inferInstanceAs (Decidable (_ ∧ _ ∧ ∀ earlier ∈ _, _ → _))

namespace Sample

open WorkSample

/-- The callbacks of `instagram.sync.account`. -/
def callbacks : Environment WorkerTables where
  resultExists _ _ := some false
  inspectResult _ _ := some .absent
  retryCallbacks := ⟨fun _ _ => some false, fun _ _ => some ⟨true, none⟩⟩

def deployment : SyncDeployment where
  runtime :=
    { numeral := fun _ => []
      dateParse := fun _ => none
      protocol := fun _ => none
      sha256 := fun _ => HexDigest.zeros }
  createId claim number := claim.leaseId ++ "-" ++ toString number
  loadsMasterKeys := true
  decryptCredential _ _ ciphertext := some ciphertext

def accountId : String := "01900000-0000-7000-8000-0000000000a1"

def account : InstagramAccount where
  id := accountId
  workspaceId := "workspace"
  connectionStatus := .active
  followerCount := none
  tokenExpiresAt := none
  lastSuccessfulSyncAt := none
  analyticsDirtySince := none
  analyticsDueAt := none
  currentStrategyId := none
  providerAccountId := "17841400000000000"

def credential : IntegrationCredential where
  id := "credential"
  workspaceId := "workspace"
  accountId
  ciphertext := "token"
  keyVersion := 1
  tokenType := "bearer"
  status := .active
  issuedAt := 0
  expiresAt := none
  refreshedAt := none
  lastValidatedAt := none
  lastValidationErrorClass := none

theorem account_accepted : instagramAccountSchema.violation [account] = none := by
  decide +kernel

theorem credential_accepted : integrationCredentialSchema.violation [credential] = none := by
  decide +kernel

def start : SyncSystem :=
  WorkSystem.initial 0 []
    { WorkerTables.empty with
      instagramAccounts := ⟨[account], account_accepted⟩
      integrationCredentials := ⟨[credential], credential_accepted⟩ }

/-- The first synchronisation of the account is enqueued. -/
def requested : WorkEvent WorkerTables GraphAnswer :=
  .framework (.command (.enqueue context
    { correlationId
      handlerVersion := 1
      idempotencyKey := "instagram-bootstrap-sync-account"
      inputVersion := none
      maxAttempts := none
      priority := none
      queueName := "instagram.sync.account"
      resourceId := some accountId
      resourceType := some "instagram_account" } jobId "outbox"))

/-- A handler opens the run, reads one page, commits it and returns. -/
def synchronised (body : Json) : List (WorkEvent WorkerTables GraphAnswer) :=
  requested :: begun "instagram.sync.account" 0 0 "lease" ++ announced 0 10 0 ++
    List.replicate 7 (.statement 0) ++ announced 0 11 0 ++ announced 0 12 0 ++
    [.send 0, .receive 0 (.responded ⟨200, body, none⟩)] ++ announced 0 13 0 ++
    [.statement 0] ++ (committed 0 0).dropLast

def completed : WorkEvent WorkerTables GraphAnswer := handled 0 0 "unused"

/-- What is shown of a step: a run is newly taken for a success, its account has moved, and
every body that was read before is such as it may be. -/
def shows (may : Json → Bool)
    (history : List (SyncSystem × WorkEvent WorkerTables GraphAnswer)) (s t : SyncSystem) :
    Bool :=
  decide (∃ run ∈ t.system.db.app.syncRuns.rows,
      NewlySucceeded s.system.db.app t.system.db.app run) &&
    decide (∃ account ∈ t.system.db.app.instagramAccounts.rows,
      SyncMoved s.system.db.app t.system.db.app account) &&
    history.all fun visited =>
      match visited.2 with
      | .receive _ (.responded response) => may response.body
      | _ => true

/-- What the last step of a synchronisation shows. -/
def outcome (may : Json → Bool) (body : Json) : Option Bool :=
  (Transition.replay (WorkSystem.quietStep callbacks (syncAccountScript deployment)) [] start
    (synchronised body)).bind fun reached =>
      (reached.2.quietStep callbacks (syncAccountScript deployment) completed).map fun t =>
        shows may reached.1 reached.2 t

theorem run_of_outcome {may : Json → Bool} {body : Json} (h : outcome may body = some true) :
    ∃ (history : List (SyncSystem × WorkEvent WorkerTables GraphAnswer)) (s t : SyncSystem),
      Transition.Run (Step deployment callbacks) start history s ∧
        Step deployment callbacks s completed t ∧
        (∃ run, NewlySucceeded s.system.db.app t.system.db.app run) ∧
        (∃ account, SyncMoved s.system.db.app t.system.db.app account) ∧
        ∀ visited ∈ history, ∀ pid response,
          visited.2 = .receive pid (.responded response) → may response.body := by
  obtain ⟨⟨history, s⟩, hreplay, hnext⟩ := Option.bind_eq_some_iff.mp h
  obtain ⟨t, hstep, hshows⟩ := Option.map_eq_some_iff.mp hnext
  simp only [shows, Bool.and_eq_true, decide_eq_true_eq, all_eq_true] at hshows
  obtain ⟨⟨⟨run, -, hrun⟩, account, -, haccount⟩, hmay⟩ := hshows
  refine ⟨history, s, t, WorkSystem.run_of_replay hreplay, WorkSystem.Step.of_quiet hstep,
    ⟨run, hrun⟩, ⟨account, haccount⟩, ?_⟩
  intro visited hvisited pid response hevent
  have hbody := hmay visited hvisited
  rw [hevent] at hbody
  exact hbody

end Sample

end SyncSystem

end ContentAutomation
