import ContentAutomation.Instagram.Snapshots
import ContentAutomation.Jobs.Enqueue
import ContentAutomation.Worker.Tables

/-!
# What handlers write

The functions of the database package that the handlers of the worker call in
their commit callbacks, statement by statement. Each takes the connection it
writes on from its caller; here they are transactions on the tables.
-/

namespace ContentAutomation

open Relational Transaction

/-! ### Analytics markers -/

/-- `analyticsDebounceMs`. -/
def analyticsDebounceMs : ℤ := 5 * 60 * 1000

/-- `markAnalyticsDirty`. -/
def markAnalyticsDirty (context : WorkspaceContext) (instagramAccountId : String) (now : ℤ) :
    WorkerTransaction Unit := do
  let _ ← instagramAccount.updateMany
    (fun row => { row with
      analyticsDirtySince := some now
      analyticsDueAt := some (now + analyticsDebounceMs) })
    fun row => row.analyticsDirtySince.isNone && row.id == instagramAccountId &&
      row.workspaceId == context.workspaceId
  pure ()

/-- The statement that clears the marker which a run started from. -/
def clearAnalyticsMarker (context : WorkspaceContext) (instagramAccountId : String)
    (dirtySince : ℤ) : WorkerTransaction Unit := do
  let _ ← instagramAccount.updateMany
    (fun row => { row with analyticsDirtySince := none, analyticsDueAt := none })
    fun row => row.analyticsDirtySince == some dirtySince && row.id == instagramAccountId &&
      row.workspaceId == context.workspaceId
  pure ()

/-! ### Snapshots and imports -/

/-- `recordInstagramMetricSnapshot`; it answers whether the observation is new. -/
def recordInstagramMetricSnapshot (hash : List InstagramMetricObservation → String)
    (context : WorkspaceContext) (snapshotId : String) (input : InstagramSnapshotInput) :
    WorkerTransaction Bool :=
  match requestedSnapshot hash context.workspaceId snapshotId input with
  | .error code => raise (validationError code)
  | .ok row => do
    instagramMetricSnapshot.createMany row
    match ← instagramMetricSnapshot.findFirst fun other => other.key == row.key &&
      other.workspaceId == context.workspaceId with
    | none => raise (.fault .recordNotFound)
    | some stored =>
      if stored.id = snapshotId then do
        let post ← instagramPost.findFirst fun post => post.id == input.instagramPostId &&
          post.workspaceId == context.workspaceId
        match post with
        | none => pure true
        | some post => do
          markAnalyticsDirty context post.instagramAccountId input.capturedAt
          pure true
      else pure false

/-- `completeInstagramSyncRun`. -/
def completeInstagramSyncRun (context : WorkspaceContext) (syncRunId : String)
    (completedAt : ℤ) : WorkerTransaction Unit := do
  let completed ← syncRun.updateMany
    (fun row => { row with
      checkpointAt := some completedAt
      completedAt := some completedAt
      failureClass := none
      failureCode := none
      stage := "completed"
      state := .succeeded })
    fun row => row.id == syncRunId && row.state == .running &&
      row.workspaceId == context.workspaceId
  if completed ≠ 1 then raise (conflictError "SYNC_RUN_NOT_ACTIVE")
  else do
    let run ← syncRun.findFirst fun row => row.id == syncRunId &&
      row.workspaceId == context.workspaceId
    match run with
    | none => raise (.operational ⟨"SYNC_RUN_NOT_FOUND", .notFound, false, 404⟩ none)
    | some run => do
      let _ ← instagramAccount.updateMany
        (fun row => { row with lastSuccessfulSyncAt := some completedAt })
        fun row => row.id == run.instagramAccountId && row.workspaceId == context.workspaceId
      pure ()

/-! ### Credentials -/

/-- The input of `rotateInstagramCredential`. -/
structure CredentialRotation where
  ciphertext : String
  credentialId : String
  expectedRefreshedAt : Option ℤ
  expiresAt : Option ℤ
  keyVersion : ℤ
  refreshedAt : ℤ
  tokenType : String

/-- A credential after a rotation. -/
def rotatedCredential (input : CredentialRotation) (row : IntegrationCredential) :
    IntegrationCredential :=
  { row with
    ciphertext := input.ciphertext
    expiresAt := input.expiresAt
    keyVersion := input.keyVersion
    lastValidatedAt := some input.refreshedAt
    lastValidationErrorClass := none
    refreshedAt := some input.refreshedAt
    tokenType := input.tokenType }

/-- `rotateInstagramCredential`; it answers whether the swap was made. -/
def rotateInstagramCredential (context : WorkspaceContext) (input : CredentialRotation) :
    WorkerTransaction Bool :=
  if input.ciphertext = "" then raise (validationError "CREDENTIAL_CIPHERTEXT_EMPTY")
  else do
    let rotated ← integrationCredential.updateMany (rotatedCredential input) fun row =>
      row.id == input.credentialId && row.refreshedAt == input.expectedRefreshedAt &&
        row.status == .active && row.workspaceId == context.workspaceId
    if rotated ≠ 1 then pure false
    else do
      let credential ← integrationCredential.findFirst fun row =>
        row.id == input.credentialId && row.workspaceId == context.workspaceId
      match credential with
      | none => raise (.fault .recordNotFound)
      | some credential => do
        let _ ← instagramAccount.updateMany (fun row => { row with tokenExpiresAt := input.expiresAt })
          fun row => row.id == credential.accountId && row.workspaceId == context.workspaceId
        pure true

/-- `recordInstagramCredentialValidation`. -/
def recordInstagramCredentialValidation (context : WorkspaceContext) (credentialId : String)
    (validatedAt : ℤ) : WorkerTransaction Unit := do
  let _ ← integrationCredential.updateMany
    (fun row => { row with
      lastValidatedAt := some validatedAt
      lastValidationErrorClass := none })
    fun row => row.id == credentialId && row.status == .active &&
      row.workspaceId == context.workspaceId
  pure ()

/-- The input of `requireInstagramReauthorisation`. -/
structure ReauthorisationRequirement where
  accountId : String
  correlationId : String
  credentialId : String
  occurredAt : ℤ
  reasonCode : String

/-- A credential after reauthorisation has been required. -/
def purgedCredential (input : ReauthorisationRequirement) (row : IntegrationCredential) :
    IntegrationCredential :=
  { row with
    ciphertext := ""
    lastValidatedAt := some input.occurredAt
    lastValidationErrorClass := some input.reasonCode
    status := .reauthorisationRequired }

/-- The audit event of a requirement. -/
def reauthorisationAudit (context : WorkspaceContext) (input : ReauthorisationRequirement)
    (auditId : String) : AuditEvent where
  id := auditId
  workspaceId := context.workspaceId
  actorType := .service
  actorUserId := none
  actorService := some "token-maintainer"
  action := "instagram.token.reauthorisation_required"
  resourceType := "instagram_account"
  resourceId := some input.accountId
  outcome := some "BLOCKED"
  reasonCode := some input.reasonCode
  correlationId := input.correlationId
  occurredAt := input.occurredAt

/-- The pattern of `assertSafeErrorClass`: `^[A-Z][A-Z0-9_]{0,63}$`. -/
def isSafeErrorClass (value : String) : Bool :=
  Text.leadingThenBounded Text.isUpper isUpperSnakeCharacter 63 value

/-- `requireInstagramReauthorisation`. -/
def requireInstagramReauthorisation (context : WorkspaceContext)
    (input : ReauthorisationRequirement) (auditId : String) : WorkerTransaction Unit :=
  if isSafeErrorClass input.reasonCode = false then
    raise (validationError "CREDENTIAL_ERROR_CLASS_INVALID")
  else do
    let _ ← integrationCredential.updateMany (purgedCredential input) fun row =>
      row.id == input.credentialId && row.status == .active &&
        row.workspaceId == context.workspaceId
    let _ ← instagramAccount.updateMany
      (fun row => { row with connectionStatus := .reauthorisationRequired })
      fun row => row.id == input.accountId && row.workspaceId == context.workspaceId
    auditEvent.create (reauthorisationAudit context input auditId)

/-! ### Videos -/

/-- An intent after it has been closed. -/
def closedIntent (state : VideoUploadIntentState) (completedAt : Option ℤ)
    (row : VideoUploadIntent) : VideoUploadIntent :=
  { row with completedAt, pendingForPostId := none, state }

/-- The condition under which an intent is closed. -/
def isOpenIntent (context : WorkspaceContext) (intentId : String) (row : VideoUploadIntent) :
    Bool :=
  row.id == intentId && row.state == .pending && row.workspaceId == context.workspaceId

/-- `closeVideoUploadIntent`; it answers whether this call closed the intent. -/
def closeVideoUploadIntent (context : WorkspaceContext) (intentId : String)
    (state : VideoUploadIntentState) (completedAt : Option ℤ) : WorkerTransaction Bool := do
  let closed ← videoUploadIntent.updateMany (closedIntent state completedAt)
    (isOpenIntent context intentId)
  pure (closed == 1)

private theorem videoUploadIntentSchema_freesKeys (state : VideoUploadIntentState)
    (closedAt : Option ℤ) :
    videoUploadIntentSchema.FreesKeys (closedIntent state closedAt) := by
  intro index hindex row other
  simp only [videoUploadIntentSchema, List.mem_cons, List.not_mem_nil, or_false] at hindex
  rcases hindex with rfl | rfl | rfl
  · exact ⟨id, id⟩
  · exact ⟨id, id⟩
  · constructor
    · intro _
      rfl
    · intro _
      cases hpending : other.pendingForPostId <;> simp [closedIntent, hpending]

/-- **The closing rule.** An open intent is closed, and it alone; otherwise nothing changes. -/
theorem closeVideoUploadIntent_cases (context : WorkspaceContext) (intentId : String)
    (state : VideoUploadIntentState) (completedAt : Option ℤ) (db : Database WorkerTables) :
    (∃ row ∈ db.app.videoUploadIntents.rows, isOpenIntent context intentId row = true ∧
      ∃ rows : Table videoUploadIntentSchema,
        rows.rows = db.app.videoUploadIntents.rows.map (fun row =>
          if isOpenIntent context intentId row then closedIntent state completedAt row else row) ∧
        (closeVideoUploadIntent context intentId state completedAt).run db =
          .ok (true, { db with app := { db.app with videoUploadIntents := rows } })) ∨
      (∀ row ∈ db.app.videoUploadIntents.rows, isOpenIntent context intentId row = false) ∧
        (closeVideoUploadIntent context intentId state completedAt).run db = .ok (false, db) := by
  by_cases hopen : ∃ row ∈ db.app.videoUploadIntents.rows, isOpenIntent context intentId row = true
  · left
    obtain ⟨row, hrow, hselected⟩ := hopen
    obtain ⟨rows, hrows, hupdate⟩ := db.app.videoUploadIntents.updateMany_of_freesKeys
      (videoUploadIntentSchema_freesKeys state completedAt) (isOpenIntent context intentId)
      fun _ _ _ => rfl
    have hone : db.app.videoUploadIntents.rows.countP (isOpenIntent context intentId) = 1 := by
      refine countP_eq_one_of_pairwise ?_ hrow hselected
      refine (db.app.videoUploadIntents.pairwise_key videoUploadIntentSchema_keyedBy_id).imp ?_
      intro row other hne hboth
      simp only [isOpenIntent, Bool.and_eq_true, beq_iff_eq] at hboth
      exact hne (hboth.1.1.1.trans hboth.2.1.1.symm)
    refine ⟨row, hrow, hselected, rows, hrows, ?_⟩
    unfold closeVideoUploadIntent WorkerTable.updateMany WorkerTable.store
    simp only [StateT.run, Bind.bind, StateT.bind, videoUploadIntent, hupdate, hone]
    rfl
  · right
    have hnone : ∀ row ∈ db.app.videoUploadIntents.rows,
        isOpenIntent context intentId row = false := by
      intro row hrow
      by_contra hselected
      exact hopen ⟨row, hrow, by simpa using hselected⟩
    refine ⟨hnone, ?_⟩
    have hsame := Table.updateMany_eq_self (closedIntent state completedAt) hnone
    unfold closeVideoUploadIntent WorkerTable.updateMany WorkerTable.store
    simp only [StateT.run, Bind.bind, StateT.bind, videoUploadIntent, hsame]
    rfl

/-- `markVideoAssetPurged`; it answers whether this call marked the asset. -/
def markVideoAssetPurged (context : WorkspaceContext) (assetId : String) (purgedAt : ℤ) :
    WorkerTransaction Bool := do
  let updated ← videoAsset.updateMany (fun row => { row with purgedAt := some purgedAt })
    fun row => row.id == assetId && row.purgedAt.isNone && row.state == .rejected &&
      row.workspaceId == context.workspaceId
  pure (updated == 1)

/-- What `createImportedVideoAsset` is told of an object. -/
structure CreateImportedVideoAssetInput where
  bytes : ℕ
  contentType : String
  etag : String
  importJobId : String
  instagramPostId : String
  objectKey : String
  objectVersion : Option String

def unmeasured : VideoMeasurements := ⟨none, none, none, none, none, none⟩

/-- The asset of an import. -/
def importedAsset (context : WorkspaceContext) (assetId : String)
    (input : CreateImportedVideoAssetInput) : VideoAsset where
  id := assetId
  workspaceId := context.workspaceId
  instagramPostId := input.instagramPostId
  origin := .providerImport
  uploadIntentId := none
  importJobId := some input.importJobId
  objectKey := input.objectKey
  objectVersion := input.objectVersion
  etag := input.etag
  bytes := input.bytes
  contentType := some input.contentType
  state := .pendingValidation
  measurements := unmeasured
  rejectionCode := none
  validatedAt := none
  purgeAfter := none
  purgedAt := none

/-- The job that validates an asset. -/
def assetValidation (correlationId assetId : String) : EnqueueBackgroundJobInput where
  correlationId := correlationId
  handlerVersion := 1
  idempotencyKey := "asset-validate-" ++ assetId
  inputVersion := none
  maxAttempts := none
  priority := none
  queueName := "asset.validate"
  resourceId := some assetId
  resourceType := some "video_asset"

/-- The verdict of a validation. -/
structure RecordVideoAssetValidationInput where
  assetId : String
  measurements : VideoMeasurements
  purgeAfter : Option ℤ
  rejectionCode : Option VideoAssetRejectionCode
  state : VideoAssetState
  validatedAt : ℤ

/-- `recordVideoAssetValidation`; it answers whether this call decided. -/
def recordVideoAssetValidation (context : WorkspaceContext)
    (input : RecordVideoAssetValidationInput) : WorkerTransaction Bool := do
  let updated ← videoAsset.updateMany
    (fun row => { row with
      measurements := input.measurements
      purgeAfter := input.purgeAfter
      rejectionCode := input.rejectionCode
      state := input.state
      validatedAt := some input.validatedAt })
    fun row => row.id == input.assetId && row.state == .pendingValidation &&
      row.workspaceId == context.workspaceId
  pure (updated == 1)

/-! ### Analyses, statistics and strategies -/

/-- `PublishAnalysisInput`. -/
structure PublishAnalysisInput where
  analysedAt : ℤ
  analysis : String
  analysisJobId : String
  analyticsEligible : Bool
  instagramPostId : String
  requestSignature : String

/-- `publishPostAnalysis`; it answers whether this call published. -/
def publishPostAnalysis (context : WorkspaceContext) (input : PublishAnalysisInput)
    (analysisId : String) : WorkerTransaction Bool := do
  let existing ← postAnalysis.findFirst fun row => row.analysisJobId == input.analysisJobId &&
    row.workspaceId == context.workspaceId
  if existing.isSome then pure false
  else do
    postAnalysis.create
      { id := analysisId
        workspaceId := context.workspaceId
        instagramPostId := input.instagramPostId
        analysisJobId := input.analysisJobId
        requestSignature := input.requestSignature
        analysedAt := input.analysedAt
        analyticsEligible := input.analyticsEligible
        result := input.analysis }
    let _ ← instagramPost.updateMany (fun row => { row with currentAnalysisId := some analysisId })
      fun row => row.id == input.instagramPostId && row.workspaceId == context.workspaceId
    let _ ← analysisRequest.updateMany
      (fun row => { row with providerFileName := none, stage := .published })
      fun row => row.id == input.analysisJobId && row.workspaceId == context.workspaceId
    let post ← instagramPost.findFirst fun row => row.id == input.instagramPostId &&
      row.workspaceId == context.workspaceId
    match post with
    | none => pure true
    | some post => do
      markAnalyticsDirty context post.instagramAccountId input.analysedAt
      pure true

/-- `failAnalyticsRun`. -/
def failAnalyticsRun (context : WorkspaceContext) (failureCode : AnalyticsRunFailureCode)
    (runId : String) : WorkerTransaction Unit := do
  let _ ← accountAnalyticsRun.updateMany
    (fun row => { row with failureCode := some failureCode, state := .failed })
    fun row => row.id == runId && row.state == .building &&
      row.workspaceId == context.workspaceId
  pure ()

/-- The input of `activateAnalyticsRun`. The marker is given only for an account. -/
structure AnalyticsActivation where
  dirtySince : Option ℤ
  expectedStatisticCount : ℕ
  inputFingerprint : String
  instagramAccountId : Option String
  now : ℤ
  runId : String

/-- `ActivationResult`. -/
inductive ActivationResult
  | activated (supersededRunId : Option String)
  | refused (reason : AnalyticsRunFailureCode)

/-- A run after its activation. -/
def activatedRun (input : AnalyticsActivation) (startedAt : ℤ) (written : ℕ)
    (row : AccountAnalyticsRun) : AccountAnalyticsRun :=
  { row with
    activatedAt := some input.now
    durationMs := some (input.now - startedAt)
    state := .active
    statisticCount := written }

/-- The statement of activation that supersedes the previous run. -/
def supersedeAnalyticsRun (context : WorkspaceContext) :
    Option AccountAnalyticsRun → WorkerTransaction Unit
  | none => pure ()
  | some previous => do
    let _ ← accountAnalyticsRun.updateMany (fun row => { row with state := .superseded })
      fun row => row.id == previous.id && row.workspaceId == context.workspaceId
    pure ()

/-- The statement of activation that clears the marker of an account. -/
def clearActivatedMarker (context : WorkspaceContext) (input : AnalyticsActivation) :
    WorkerTransaction Unit :=
  match input.instagramAccountId, input.dirtySince with
  | some instagramAccountId, some dirtySince =>
    clearAnalyticsMarker context instagramAccountId dirtySince
  | _, _ => pure ()

/-- What activation does once nothing refuses it. -/
def publishAnalyticsRun (context : WorkspaceContext) (input : AnalyticsActivation)
    (startedAt : ℤ) (written : ℕ) : WorkerTransaction ActivationResult := do
  let previous ← accountAnalyticsRun.findFirst fun row =>
    row.instagramAccountId == input.instagramAccountId && row.state == .active &&
      row.workspaceId == context.workspaceId
  supersedeAnalyticsRun context previous
  let _ ← accountAnalyticsRun.updateMany (activatedRun input startedAt written) fun row =>
    row.id == input.runId && row.workspaceId == context.workspaceId
  clearActivatedMarker context input
  pure (.activated (previous.map AccountAnalyticsRun.id))

/-- `activateAnalyticsRun`. -/
def activateAnalyticsRun (context : WorkspaceContext) (input : AnalyticsActivation) :
    WorkerTransaction ActivationResult := do
  let run ← accountAnalyticsRun.findFirst fun row => row.id == input.runId &&
    row.workspaceId == context.workspaceId
  match run with
  | none => do
    failAnalyticsRun context .inputsChanged input.runId
    pure (.refused .inputsChanged)
  | some run =>
    if run.inputFingerprint ≠ input.inputFingerprint then do
      failAnalyticsRun context .inputsChanged input.runId
      pure (.refused .inputsChanged)
    else do
      let written ← accountAnalyticsRunStatistic.count fun row => row.runId == input.runId &&
        row.workspaceId == context.workspaceId
      if written ≠ input.expectedStatisticCount then do
        failAnalyticsRun context .statisticCountMismatch input.runId
        pure (.refused .statisticCountMismatch)
      else publishAnalyticsRun context input run.startedAt written

/-- `PublishStrategyInput`. -/
structure PublishStrategyInput where
  generatedAt : ℤ
  instagramAccountId : Option String
  recommendationFingerprints : List String := []
  result : String
  strategyGenerationId : String
  telemetry : ModelTelemetry := {}

/-- A generation after its publication. -/
def publishedGeneration (input : PublishStrategyInput) (row : StrategyGeneration) :
    StrategyGeneration :=
  { row with
    completedAt := some input.generatedAt
    failureClass := none
    failureCode := none
    generatedAt := some input.generatedAt
    recommendationFingerprints := input.recommendationFingerprints
    result := some input.result
    stage := .publishing
    state := .succeeded
    telemetry := input.telemetry }

/-- `publishStrategyGeneration`; it answers whether this call published. -/
def publishStrategyGeneration (context : WorkspaceContext) (input : PublishStrategyInput) :
    WorkerTransaction Bool := do
  let existing ← strategyGeneration.findFirst fun row => row.id == input.strategyGenerationId &&
    row.result.isSome && row.workspaceId == context.workspaceId
  if existing.isSome then pure false
  else do
    let _ ← strategyGeneration.updateMany (publishedGeneration input) fun row =>
      row.id == input.strategyGenerationId && row.workspaceId == context.workspaceId
    match input.instagramAccountId with
    | none => pure true
    | some instagramAccountId => do
      let _ ← instagramAccount.updateMany
        (fun row => { row with currentStrategyId := some input.strategyGenerationId })
        fun row => row.id == instagramAccountId && row.workspaceId == context.workspaceId
      pure true

/-! ### Frames -/

section Frames

variable {Row : Type} {S : Schema Row} {context : WorkspaceContext}

/-- Leaves the tables of the jobs alone. -/
def KeepsJobs {α : Type} (body : WorkerTransaction α) : Prop := Keeps Database.backgroundJobs body

variable (table : WorkerTable S)

private theorem keepsJobs_store {α : Type} (statement : Table S → Except Violation (Table S × α)) :
    KeepsJobs (table.store statement) := by
  intro db
  unfold Ensures WorkerTable.store
  simp only [StateT.run]
  cases statement (table.get db.app) with
  | ok result => rfl
  | error violation => trivial

private theorem keepsJobs_updateMany (data : Row → Row) (selects : Row → Bool) :
    KeepsJobs (table.updateMany data selects) := keepsJobs_store table _

theorem keepsJobs_create (row : Row) : KeepsJobs (table.create row) :=
  keepsJobs_store table _

private theorem keepsJobs_findFirst (selects : Row → Bool) :
    KeepsJobs (table.findFirst selects) := keeps_read

private theorem keepsJobs_count (selects : Row → Bool) :
    KeepsJobs (table.count selects) := keeps_read

theorem KeepsJobs.then_pure {α β : Type} {body : WorkerTransaction α} (h : KeepsJobs body)
    (answer : α → β) : KeepsJobs (do
      let value ← body
      pure (answer value)) := Keeps.bind h fun _ => keeps_pure

private theorem keepsJobs_audit (row : AuditEvent) :
    KeepsJobs (auditEvent.create row : WorkerTransaction Unit) := by
  intro db
  unfold Ensures auditEvent.create
  simp only [StateT.run]
  cases db.auditEvents.create row with
  | ok auditEvents => rfl
  | error violation => trivial

private theorem keepsJobs_markAnalyticsDirty (instagramAccountId : String) (now : ℤ) :
    KeepsJobs (markAnalyticsDirty context instagramAccountId now) :=
  (keepsJobs_updateMany _ _ _).then_pure _

theorem keepsJobs_clearAnalyticsMarker (instagramAccountId : String) (dirtySince : ℤ) :
    KeepsJobs (clearAnalyticsMarker context instagramAccountId dirtySince) :=
  (keepsJobs_updateMany _ _ _).then_pure _

theorem keepsJobs_recordInstagramMetricSnapshot (hash : List InstagramMetricObservation → String)
    (snapshotId : String) (input : InstagramSnapshotInput) :
    KeepsJobs (recordInstagramMetricSnapshot hash context snapshotId input) := by
  unfold recordInstagramMetricSnapshot
  split
  · exact keeps_raise
  · refine Keeps.bind (keepsJobs_store _ _) fun _ => Keeps.bind (keepsJobs_findFirst _ _) ?_
    intro stored
    cases stored with
    | none => exact keeps_raise
    | some stored =>
      refine Keeps.ite (Keeps.bind (keepsJobs_findFirst _ _) fun post => ?_) keeps_pure
      cases post with
      | none => exact keeps_pure
      | some post => exact (keepsJobs_markAnalyticsDirty _ _).then_pure _

theorem keepsJobs_completeInstagramSyncRun (syncRunId : String) (completedAt : ℤ) :
    KeepsJobs (completeInstagramSyncRun context syncRunId completedAt) := by
  unfold completeInstagramSyncRun
  refine Keeps.bind (keepsJobs_updateMany _ _ _) fun completed => Keeps.ite keeps_raise ?_
  refine Keeps.bind (keepsJobs_findFirst _ _) fun run => ?_
  cases run with
  | none => exact keeps_raise
  | some run => exact (keepsJobs_updateMany _ _ _).then_pure _

theorem keepsJobs_rotateInstagramCredential (input : CredentialRotation) :
    KeepsJobs (rotateInstagramCredential context input) := by
  unfold rotateInstagramCredential
  refine Keeps.ite keeps_raise (Keeps.bind (keepsJobs_updateMany _ _ _) fun rotated => ?_)
  refine Keeps.ite keeps_pure (Keeps.bind (keepsJobs_findFirst _ _) fun credential => ?_)
  cases credential with
  | none => exact keeps_raise
  | some credential => exact (keepsJobs_updateMany _ _ _).then_pure _

theorem keepsJobs_recordInstagramCredentialValidation (credentialId : String) (validatedAt : ℤ) :
    KeepsJobs (recordInstagramCredentialValidation context credentialId validatedAt) :=
  (keepsJobs_updateMany _ _ _).then_pure _

theorem keepsJobs_requireInstagramReauthorisation (input : ReauthorisationRequirement)
    (auditId : String) : KeepsJobs (requireInstagramReauthorisation context input auditId) := by
  unfold requireInstagramReauthorisation
  refine Keeps.ite keeps_raise (Keeps.bind (keepsJobs_updateMany _ _ _) fun _ => ?_)
  exact Keeps.bind (keepsJobs_updateMany _ _ _) fun _ => keepsJobs_audit _

theorem keepsJobs_closeVideoUploadIntent (intentId : String) (state : VideoUploadIntentState)
    (completedAt : Option ℤ) :
    KeepsJobs (closeVideoUploadIntent context intentId state completedAt) :=
  (keepsJobs_updateMany _ _ _).then_pure _

theorem keepsJobs_markVideoAssetPurged (assetId : String) (purgedAt : ℤ) :
    KeepsJobs (markVideoAssetPurged context assetId purgedAt) :=
  (keepsJobs_updateMany _ _ _).then_pure _

theorem keepsJobs_recordVideoAssetValidation (input : RecordVideoAssetValidationInput) :
    KeepsJobs (recordVideoAssetValidation context input) :=
  (keepsJobs_updateMany _ _ _).then_pure _

theorem keepsJobs_publishPostAnalysis (input : PublishAnalysisInput) (analysisId : String) :
    KeepsJobs (publishPostAnalysis context input analysisId) := by
  unfold publishPostAnalysis
  refine Keeps.bind (keepsJobs_findFirst _ _) fun existing => Keeps.ite keeps_pure ?_
  refine Keeps.bind (keepsJobs_create _ _) fun _ => Keeps.bind (keepsJobs_updateMany _ _ _) ?_
  refine fun _ => Keeps.bind (keepsJobs_updateMany _ _ _) fun _ => ?_
  refine Keeps.bind (keepsJobs_findFirst _ _) fun post => ?_
  cases post with
  | none => exact keeps_pure
  | some post => exact (keepsJobs_markAnalyticsDirty _ _).then_pure _

private theorem keepsJobs_failAnalyticsRun (failureCode : AnalyticsRunFailureCode)
    (runId : String) :
    KeepsJobs (failAnalyticsRun context failureCode runId) :=
  (keepsJobs_updateMany _ _ _).then_pure _

private theorem keepsJobs_publishAnalyticsRun (input : AnalyticsActivation) (startedAt : ℤ)
    (written : ℕ) : KeepsJobs (publishAnalyticsRun context input startedAt written) := by
  unfold publishAnalyticsRun
  refine Keeps.bind (keepsJobs_findFirst _ _) fun previous => Keeps.bind ?_ fun _ => ?_
  · cases previous with
    | none => exact keeps_pure
    | some previous => exact (keepsJobs_updateMany _ _ _).then_pure _
  · refine Keeps.bind (keepsJobs_updateMany _ _ _) fun _ => Keeps.bind ?_ fun _ => keeps_pure
    unfold clearActivatedMarker
    split
    · exact keepsJobs_clearAnalyticsMarker _ _
    · exact keeps_pure

theorem keepsJobs_activateAnalyticsRun (input : AnalyticsActivation) :
    KeepsJobs (activateAnalyticsRun context input) := by
  unfold activateAnalyticsRun
  refine Keeps.bind (keepsJobs_findFirst _ _) fun run => ?_
  cases run with
  | none => exact (keepsJobs_failAnalyticsRun _ _).then_pure _
  | some run =>
    refine Keeps.ite ((keepsJobs_failAnalyticsRun _ _).then_pure _) ?_
    refine Keeps.bind (keepsJobs_count _ _) fun written => ?_
    exact Keeps.ite ((keepsJobs_failAnalyticsRun _ _).then_pure _)
      (keepsJobs_publishAnalyticsRun _ _ _)

theorem keepsJobs_publishStrategyGeneration (input : PublishStrategyInput) :
    KeepsJobs (publishStrategyGeneration context input) := by
  unfold publishStrategyGeneration
  refine Keeps.bind (keepsJobs_findFirst _ _) fun existing => Keeps.ite keeps_pure ?_
  refine Keeps.bind (keepsJobs_updateMany _ _ _) fun _ => ?_
  split
  · exact keeps_pure
  · exact (keepsJobs_updateMany _ _ _).then_pure _

end Frames

end ContentAutomation
