import ContentAutomation.Instagram.Schema
import ContentAutomation.Jobs.Database

/-!
# The tables that handlers write

Rows, `CHECK` constraints and unique indexes of the tables that the handlers of
the worker read and write beside the tables of the jobs, and the statements on
them. Columns that no modelled function reads or writes are left out.
-/

namespace ContentAutomation

open Relational Transaction List

/-! ### Credentials and imports -/

/-- `IntegrationCredentialStatus`. -/
inductive IntegrationCredentialStatus
  | active | reauthorisationRequired | revoked
  deriving DecidableEq

/-- A row of `integration_credentials`; its only integration type is Instagram. -/
structure IntegrationCredential where
  id : String
  workspaceId : String
  accountId : String
  ciphertext : String
  keyVersion : ℤ
  tokenType : String
  status : IntegrationCredentialStatus
  issuedAt : ℤ
  expiresAt : Option ℤ
  refreshedAt : Option ℤ
  lastValidatedAt : Option ℤ
  lastValidationErrorClass : Option String

/-- The constraints of `integration_credentials`. -/
def integrationCredentialSchema : Schema IntegrationCredential where
  checks :=
    [("integration_credentials_material_only_when_active", fun row =>
      (row.status == .active) == (row.ciphertext != ""))]
  indexes :=
    [("integration_credentials_pkey", fun row other => row.id == other.id),
      ("integration_credentials_one_active_per_account", fun row other =>
        row.status == .active && other.status == .active && row.accountId == other.accountId)]

/-- `SyncRunTrigger`. -/
inductive SyncRunTrigger
  | bootstrap | manual | scheduled | reconcile
  deriving DecidableEq

/-- `SyncRunState`. -/
inductive SyncRunState
  | running | succeeded | failed
  deriving DecidableEq

/-- A row of `sync_runs`. -/
structure SyncRun where
  id : String
  workspaceId : String
  instagramAccountId : String
  trigger : SyncRunTrigger
  backgroundJobId : Option String
  state : SyncRunState
  stage : String
  checkpointAt : Option ℤ
  completedAt : Option ℤ
  failureClass : Option String
  failureCode : Option String
  cursor : Option String := none
  itemsImported : ℕ := 0
  itemsInvalid : ℕ := 0
  itemsSeen : ℕ := 0
  itemsSkipped : ℕ := 0
  itemsUpdated : ℕ := 0
  pagesCompleted : ℕ := 0
  idempotencyKey : String := ""
  horizonStart : Option ℤ := none
  apiVersion : String := ""
  correlationId : String := ""
  startedAt : ℤ := 0
  deriving DecidableEq

/-- The constraints of `sync_runs`. A counter of the model cannot be negative. -/
def syncRunSchema : Schema SyncRun where
  checks := [("sync_runs_cursor_not_empty", fun row => row.cursor.all fun cursor => cursor != "")]
  indexes :=
    [("sync_runs_pkey", fun row other => row.id == other.id),
      ("sync_runs_workspace_id_instagram_account_id_trigger_idempot_key", fun row other =>
        row.workspaceId == other.workspaceId &&
          row.instagramAccountId == other.instagramAccountId && row.trigger == other.trigger &&
          row.idempotencyKey == other.idempotencyKey),
      ("sync_runs_one_running_per_account_trigger", fun row other =>
        row.state == .running && other.state == .running &&
          row.instagramAccountId == other.instagramAccountId && row.trigger == other.trigger)]

/-! ### Videos -/

/-- `VideoUploadIntentState`. -/
inductive VideoUploadIntentState
  | pending | completed | aborted | expired
  deriving DecidableEq

/-- A row of `video_upload_intents`. -/
structure VideoUploadIntent where
  id : String
  workspaceId : String
  instagramPostId : String
  pendingForPostId : Option String
  objectKey : String
  providerUploadId : String
  declaredBytes : ℕ
  partCount : ℕ
  state : VideoUploadIntentState
  expiresAt : ℤ
  completedAt : Option ℤ
  deriving DecidableEq

/-- The constraints of `video_upload_intents`. -/
def videoUploadIntentSchema : Schema VideoUploadIntent where
  checks := []
  indexes :=
    [("video_upload_intents_pkey", fun row other => row.id == other.id),
      ("video_upload_intents_object_key_key", fun row other => row.objectKey == other.objectKey),
      ("video_upload_intents_workspace_id_pending_for_post_id_key", fun row other =>
        row.pendingForPostId.isSome && row.workspaceId == other.workspaceId &&
          row.pendingForPostId == other.pendingForPostId)]

/-- `VideoAssetOrigin`. -/
inductive VideoAssetOrigin
  | userUpload | providerImport
  deriving DecidableEq

/-- `VideoAssetState`. -/
inductive VideoAssetState
  | pendingValidation | ready | rejected
  deriving DecidableEq

/-- `VideoAssetRejectionCode`. -/
inductive VideoAssetRejectionCode
  | emptyObject | bytesExceeded | checksumMismatch | containerUnsupported | containerMismatch
  | undecodable | noVideoStream | videoCodecUnsupported | audioCodecUnsupported
  | durationOutOfRange | dimensionsOutOfRange
  deriving DecidableEq

/-- What a probe has measured of a video. -/
structure VideoMeasurements where
  audioCodec : Option String
  containerFormat : Option String
  durationMs : Option ℕ
  heightPx : Option ℕ
  videoCodec : Option String
  widthPx : Option ℕ
  deriving DecidableEq

/-- A row of `video_assets`. -/
structure VideoAsset where
  id : String
  workspaceId : String
  instagramPostId : String
  origin : VideoAssetOrigin
  uploadIntentId : Option String
  importJobId : Option String
  objectKey : String
  objectVersion : Option String
  etag : String
  bytes : ℕ
  contentType : Option String
  state : VideoAssetState
  measurements : VideoMeasurements
  rejectionCode : Option VideoAssetRejectionCode
  validatedAt : Option ℤ
  purgeAfter : Option ℤ
  purgedAt : Option ℤ
  deriving DecidableEq

/-- The constraints of `video_assets`. -/
def videoAssetSchema : Schema VideoAsset where
  checks :=
    [("video_assets_single_provenance_check", fun row =>
        row.uploadIntentId.isSome != row.importJobId.isSome),
      ("video_assets_origin_matches_provenance_check", fun row =>
        (row.origin == .userUpload) == row.uploadIntentId.isSome)]
  indexes :=
    [("video_assets_pkey", fun row other => row.id == other.id),
      ("video_assets_workspace_id_upload_intent_id_key", fun row other =>
        row.uploadIntentId.isSome && row.workspaceId == other.workspaceId &&
          row.uploadIntentId == other.uploadIntentId),
      ("video_assets_workspace_id_import_job_id_key", fun row other =>
        row.importJobId.isSome && row.workspaceId == other.workspaceId &&
          row.importJobId == other.importJobId),
      ("video_assets_object_key_key", fun row other => row.objectKey == other.objectKey)]

/-! ### Analyses, statistics and strategies -/

/-- `AnalysisJobStage`. -/
inductive AnalysisJobStage
  | queued | uploading | awaitingFile | requesting | validating | repairing | published | abandoned
  deriving DecidableEq

/-- The columns of `analysis_jobs` that the analysis itself reads and writes. -/
structure AnalysisRequest where
  id : String
  workspaceId : String
  backgroundJobId : String
  instagramPostId : String
  videoAssetId : String
  requestSignature : String
  stage : AnalysisJobStage
  providerFileName : Option String
  /-- Why the last response was rejected. -/
  lastValidationIssues : List String := []

/-- The constraints of `analysis_jobs`. -/
def analysisRequestSchema : Schema AnalysisRequest where
  checks := []
  indexes :=
    [("analysis_jobs_pkey", fun row other => row.id == other.id),
      ("analysis_jobs_workspace_id_background_job_id_key", fun row other =>
        row.workspaceId == other.workspaceId && row.backgroundJobId == other.backgroundJobId)]

/-- A row of `post_analyses`; the analysis itself is one text. -/
structure PostAnalysis where
  id : String
  workspaceId : String
  instagramPostId : String
  analysisJobId : String
  requestSignature : String
  analysedAt : ℤ
  analyticsEligible : Bool
  result : String
  deriving DecidableEq

/-- The constraints of `post_analyses`. -/
def postAnalysisSchema : Schema PostAnalysis where
  checks := []
  indexes :=
    [("post_analyses_pkey", fun row other => row.id == other.id),
      ("post_analyses_workspace_id_analysis_job_id_key", fun row other =>
        row.workspaceId == other.workspaceId && row.analysisJobId == other.analysisJobId),
      ("post_analyses_workspace_id_request_signature_key", fun row other =>
        row.workspaceId == other.workspaceId && row.requestSignature == other.requestSignature)]

/-- `AnalyticsRunState`. -/
inductive AnalyticsRunState
  | building | active | superseded | failed
  deriving DecidableEq

/-- `AnalyticsRunFailureCode`. -/
inductive AnalyticsRunFailureCode
  | calculationFailed | inputsChanged | noEligibleAnalyses | statisticCountMismatch
  deriving DecidableEq

/-- A row of `account_analytics_runs`. -/
structure AccountAnalyticsRun where
  id : String
  workspaceId : String
  /-- The account of the run, or none for all linked accounts. -/
  instagramAccountId : Option String
  state : AnalyticsRunState
  ageWindow : SnapshotAgeWindowKey
  publishedFrom : ℤ
  publishedTo : ℤ
  inputFingerprint : String
  statisticCount : ℕ
  analysisCount : ℕ
  startedAt : ℤ
  activatedAt : Option ℤ
  durationMs : Option ℤ
  failureCode : Option AnalyticsRunFailureCode
  deriving DecidableEq

/-- The constraints of `account_analytics_runs`. Of a scope, which may be that of no
account, at most one run is active. -/
def accountAnalyticsRunSchema : Schema AccountAnalyticsRun where
  checks := []
  indexes :=
    [("account_analytics_runs_pkey", fun row other => row.id == other.id),
      ("account_analytics_runs_one_active_per_scope", fun row other =>
        row.state == .active && other.state == .active && row.workspaceId == other.workspaceId &&
          row.instagramAccountId == other.instagramAccountId)]

/-- A row of `account_analytics_run_statistics`. -/
structure AccountAnalyticsRunStatistic where
  workspaceId : String
  runId : String
  statisticId : String
  deriving DecidableEq

/-- The constraints of `account_analytics_run_statistics`. -/
def accountAnalyticsRunStatisticSchema : Schema AccountAnalyticsRunStatistic where
  checks := []
  indexes := [("account_analytics_run_statistics_pkey", fun row other => row == other)]

/-- `StrategyGenerationState`. -/
inductive StrategyGenerationState
  | pending | processing | succeeded | failed
  deriving DecidableEq

/-- `StrategyGenerationStage`. -/
inductive StrategyGenerationStage
  | requesting | repairing | publishing
  deriving DecidableEq

/-- What the provider reports of a request to its model. -/
structure ModelTelemetry where
  finishReason : Option String := none
  inputTokens : Option ℤ := none
  modelVersion : Option String := none
  outputTokens : Option ℤ := none
  providerLatencyMs : Option ℤ := none
  totalTokens : Option ℤ := none
  deriving DecidableEq

/-- A row of `strategy_generations`; the strategy itself is one text. -/
structure StrategyGeneration where
  id : String
  workspaceId : String
  instagramAccountId : Option String
  backgroundJobId : String
  /-- How many rows of evidence it was frozen with. -/
  evidenceCount : ℕ := 0
  state : StrategyGenerationState
  stage : StrategyGenerationStage := .requesting
  repairAttempted : Bool := false
  result : Option String
  recommendationFingerprints : List String := []
  telemetry : ModelTelemetry := {}
  generatedAt : Option ℤ
  completedAt : Option ℤ := none
  failureClass : Option JobFailureClass := none
  failureCode : Option String
  deriving DecidableEq

/-- The constraints of `strategy_generations`. -/
def strategyGenerationSchema : Schema StrategyGeneration where
  checks := []
  indexes :=
    [("strategy_generations_pkey", fun row other => row.id == other.id),
      ("strategy_generations_workspace_id_background_job_id_key", fun row other =>
        row.workspaceId == other.workspaceId && row.backgroundJobId == other.backgroundJobId)]

theorem strategyGenerationSchema_keyedBy_id :
    strategyGenerationSchema.KeyedBy StrategyGeneration.id :=
  ⟨_, mem_cons_self, fun _ _ h => by simpa using h⟩

/-- The constraints of `instagram_accounts`. -/
def instagramAccountSchema : Schema InstagramAccount where
  checks :=
    [("instagram_accounts_analytics_debounce_pair", fun row =>
      row.analyticsDirtySince.isNone == row.analyticsDueAt.isNone)]
  indexes := [("instagram_accounts_pkey", fun row other => row.id == other.id)]

/-- The constraints of `instagram_posts`. -/
def instagramPostSchema : Schema InstagramPost where
  checks := []
  indexes :=
    [("instagram_posts_pkey", fun row other => row.id == other.id),
      ("instagram_posts_instagram_account_id_provider_media_id_key", fun row other =>
        row.instagramAccountId == other.instagramAccountId &&
          row.providerMediaId == other.providerMediaId)]

theorem instagramPostSchema_keyedBy_id : instagramPostSchema.KeyedBy InstagramPost.id :=
  ⟨_, mem_cons_self, fun _ _ h => by simpa using h⟩

theorem instagramPostSchema_keyedBy_media : instagramPostSchema.KeyedBy fun row : InstagramPost =>
    (row.instagramAccountId, row.providerMediaId) :=
  ⟨_, mem_cons_of_mem _ mem_cons_self, fun _ _ h => by simpa using h⟩

theorem syncRunSchema_keyedBy_id : syncRunSchema.KeyedBy SyncRun.id :=
  ⟨_, mem_cons_self, fun _ _ h => by simpa using h⟩

/-- The tables that handlers write, beside those of the jobs. -/
structure WorkerTables where
  instagramAccounts : Table instagramAccountSchema
  integrationCredentials : Table integrationCredentialSchema
  instagramPosts : Table instagramPostSchema
  instagramMetricSnapshots : Table instagramMetricSnapshotSchema
  syncRuns : Table syncRunSchema
  videoUploadIntents : Table videoUploadIntentSchema
  videoAssets : Table videoAssetSchema
  analysisRequests : Table analysisRequestSchema
  postAnalyses : Table postAnalysisSchema
  accountAnalyticsRuns : Table accountAnalyticsRunSchema
  accountAnalyticsRunStatistics : Table accountAnalyticsRunStatisticSchema
  strategyGenerations : Table strategyGenerationSchema

theorem videoUploadIntentSchema_keyedBy_id :
    videoUploadIntentSchema.KeyedBy VideoUploadIntent.id :=
  ⟨_, mem_cons_self, fun _ _ h => by simpa using h⟩

theorem videoUploadIntentSchema_keyedBy_objectKey :
    videoUploadIntentSchema.KeyedBy VideoUploadIntent.objectKey :=
  ⟨_, mem_cons_of_mem _ mem_cons_self, fun _ _ h => by simpa using h⟩

def WorkerTables.empty : WorkerTables where
  instagramAccounts := Table.empty _
  integrationCredentials := Table.empty _
  instagramPosts := Table.empty _
  instagramMetricSnapshots := Table.empty _
  syncRuns := Table.empty _
  videoUploadIntents := Table.empty _
  videoAssets := Table.empty _
  analysisRequests := Table.empty _
  postAnalyses := Table.empty _
  accountAnalyticsRuns := Table.empty _
  accountAnalyticsRunStatistics := Table.empty _
  strategyGenerations := Table.empty _

/-- A transaction of the worker. -/
abbrev WorkerTransaction (α : Type) := JobTransaction WorkerTables α

/-- Where a table is among the tables of the worker. -/
structure WorkerTable {Row : Type} (S : Schema Row) where
  get : WorkerTables → Table S
  set : Table S → WorkerTables → WorkerTables

namespace WorkerTable

variable {Row : Type} {S : Schema Row}

/-- `findFirst`. -/
def findFirst (table : WorkerTable S) (selects : Row → Bool) : WorkerTransaction (Option Row) :=
  Transaction.read fun db => (table.get db.app).findFirst selects

/-- `count`. -/
def count (table : WorkerTable S) (selects : Row → Bool) : WorkerTransaction ℕ :=
  Transaction.read fun db => (table.get db.app).rows.countP selects

/-- Store what a statement makes of the table, or refuse it. -/
def store {α : Type} (table : WorkerTable S) (statement : Table S → Except Violation (Table S × α)) :
    WorkerTransaction α := fun db =>
  match statement (table.get db.app) with
  | .ok (rows, answer) => .ok (answer, { db with app := table.set rows db.app })
  | .error violation => refuse violation db

/-- `updateMany`. -/
def updateMany (table : WorkerTable S) (data : Row → Row) (selects : Row → Bool) :
    WorkerTransaction ℕ := table.store fun rows => rows.updateMany data selects

/-- `create`. -/
def create (table : WorkerTable S) (row : Row) : WorkerTransaction Unit :=
  table.store fun rows => (rows.create row).map fun created => (created, ())

/-- `createMany` with `skipDuplicates`. -/
def createMany (table : WorkerTable S) (row : Row) : WorkerTransaction Unit :=
  table.store fun rows => (rows.createSkippingDuplicates row).map fun created => (created, ())

variable {table : WorkerTable S} {data : Row → Row} {selects : Row → Bool}
  {db : Database WorkerTables} {post : Unit → Database WorkerTables → Prop}

theorem ensures_updateMany
    {post : ℕ → Database WorkerTables → Prop}
    (h : ∀ rows : Table S, (rows.rows = (table.get db.app).rows.map fun row =>
      if selects row then data row else row) →
        post ((table.get db.app).rows.countP selects) { db with app := table.set rows db.app }) :
    (table.updateMany data selects).Ensures post (fun _ => True) db := by
  unfold updateMany store Ensures
  simp only [StateT.run]
  rcases hresult : (table.get db.app).updateMany data selects with violation | ⟨rows, count⟩
  · trivial
  · obtain ⟨hrows, hcount⟩ := Table.updateMany_eq_ok.mp hresult
    rw [hcount]
    exact h rows hrows

variable {row : Row}

theorem ensures_create (h : ∀ rows : Table S, rows.rows = (table.get db.app).rows ++ [row] →
      post () { db with app := table.set rows db.app }) :
    (table.create row).Ensures post (fun _ => True) db := by
  unfold create store Ensures
  simp only [StateT.run]
  rcases hresult : (table.get db.app).create row with violation | rows
  · trivial
  · exact h rows (Table.create_eq_ok.mp hresult)

/-- What an insert that skips duplicates ensures, the table has with the row or without it. -/
theorem ensures_createMany (h : ∀ rows : Table S, rows = table.get db.app ∨
      rows.rows = (table.get db.app).rows ++ [row] →
        post () { db with app := table.set rows db.app }) :
    (table.createMany row).Ensures post (fun _ => True) db := by
  unfold createMany store Ensures
  simp only [StateT.run]
  rcases hresult : (table.get db.app).createSkippingDuplicates row with violation | rows
  · trivial
  · refine h rows ?_
    rcases (table.get db.app).createSkippingDuplicates_cases row with
      ⟨-, hskip⟩ | ⟨created, hrows, hcreate⟩ | hfailed | ⟨index, hunique⟩
    · rw [hresult] at hskip
      exact Or.inl (Except.ok.inj hskip)
    · rw [hresult] at hcreate
      rw [Except.ok.inj hcreate]
      exact Or.inr hrows
    · unfold Table.createSkippingDuplicates at hresult
      split at hresult
      · cases hresult
      · next hpassed => exact absurd hpassed hfailed
    · rw [hresult] at hunique
      cases hunique

theorem run_updateMany {result : ℕ × Database WorkerTables} :
    (table.updateMany data selects).run db = .ok result ↔
      ∃ rows, (table.get db.app).updateMany data selects = .ok (rows, result.1) ∧
        result.2 = { db with app := table.set rows db.app } := by
  unfold WorkerTable.updateMany WorkerTable.store
  simp only [StateT.run]
  cases (table.get db.app).updateMany data selects with
  | error violation => simp [refuse, Transaction.raise]
  | ok updated => simp [Prod.ext_iff, eq_comm]

theorem run_create {result : Unit × Database WorkerTables} :
    (table.create row).run db = .ok result ↔ ∃ rows, (table.get db.app).create row = .ok rows ∧
      result.2 = { db with app := table.set rows db.app } := by
  unfold WorkerTable.create WorkerTable.store
  simp only [StateT.run]
  cases (table.get db.app).create row with
  | error violation => simp [refuse, Transaction.raise, Except.map]
  | ok created => simp [Prod.ext_iff, eq_comm, Except.map]

theorem keeps_updateMany {τ : Type} {part : Database WorkerTables → τ}
    (hset : ∀ rows db, part { db with app := table.set rows db.app } = part db) : Keeps part (table.updateMany data selects) := by
  intro db
  apply ensures_updateMany
  intro rows _
  exact hset rows db

end WorkerTable

/-- The table `instagram_accounts`. -/
def instagramAccount : WorkerTable instagramAccountSchema :=
  ⟨WorkerTables.instagramAccounts, fun rows app => { app with instagramAccounts := rows }⟩

/-- The table `integration_credentials`. -/
def integrationCredential : WorkerTable integrationCredentialSchema :=
  ⟨WorkerTables.integrationCredentials, fun rows app => { app with integrationCredentials := rows }⟩

/-- The table `instagram_posts`. -/
def instagramPost : WorkerTable instagramPostSchema :=
  ⟨WorkerTables.instagramPosts, fun rows app => { app with instagramPosts := rows }⟩

/-- The table `instagram_metric_snapshots`. -/
def instagramMetricSnapshot : WorkerTable instagramMetricSnapshotSchema :=
  ⟨WorkerTables.instagramMetricSnapshots,
    fun rows app => { app with instagramMetricSnapshots := rows }⟩

/-- The table `sync_runs`. -/
def syncRun : WorkerTable syncRunSchema :=
  ⟨WorkerTables.syncRuns, fun rows app => { app with syncRuns := rows }⟩

/-- The table `video_upload_intents`. -/
def videoUploadIntent : WorkerTable videoUploadIntentSchema :=
  ⟨WorkerTables.videoUploadIntents, fun rows app => { app with videoUploadIntents := rows }⟩

/-- The table `video_assets`. -/
def videoAsset : WorkerTable videoAssetSchema :=
  ⟨WorkerTables.videoAssets, fun rows app => { app with videoAssets := rows }⟩

/-- The table `analysis_jobs`. -/
def analysisRequest : WorkerTable analysisRequestSchema :=
  ⟨WorkerTables.analysisRequests, fun rows app => { app with analysisRequests := rows }⟩

/-- The table `post_analyses`. -/
def postAnalysis : WorkerTable postAnalysisSchema :=
  ⟨WorkerTables.postAnalyses, fun rows app => { app with postAnalyses := rows }⟩

/-- The table `account_analytics_runs`. -/
def accountAnalyticsRun : WorkerTable accountAnalyticsRunSchema :=
  ⟨WorkerTables.accountAnalyticsRuns, fun rows app => { app with accountAnalyticsRuns := rows }⟩

/-- The table `account_analytics_run_statistics`. -/
def accountAnalyticsRunStatistic : WorkerTable accountAnalyticsRunStatisticSchema :=
  ⟨WorkerTables.accountAnalyticsRunStatistics,
    fun rows app => { app with accountAnalyticsRunStatistics := rows }⟩

/-- The table `strategy_generations`. -/
def strategyGeneration : WorkerTable strategyGenerationSchema :=
  ⟨WorkerTables.strategyGenerations, fun rows app => { app with strategyGenerations := rows }⟩

end ContentAutomation
