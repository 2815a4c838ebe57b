import ContentAutomation.Jobs.Settlement
import ContentAutomation.Library.Client
import ContentAutomation.Worker.Writes

/-!
# Commit callbacks

What the handlers of the worker hand to `commitJobSuccess`, and the statements that a
worker then sends, one by one: the job is marked, the callback runs, the attempt is
settled and the transaction commits. In between the worker may crash, its lease may be
taken and its job may be cancelled. The effects of a callback become visible together
with the success of the job, unless the callback leaves the transaction.
-/

namespace ContentAutomation

open Relational Transaction List

/-- The commit callbacks that handlers return, with what they have captured. -/
inductive CommitCallback
  /-- `async () => undefined`, which every handler but two may return. -/
  | nothing
  /-- Asset cleanup, of a rejected asset. -/
  | purgeAsset (assetId : String) (purgedAt : ℤ)
  /-- Asset cleanup, of an upload that was not completed. -/
  | releaseIntent (intentId : String)
  /-- Token maintenance, of a token that need not be refreshed. -/
  | recordCredentialValidation (credentialId : String) (validatedAt : ℤ)
  /-- Token maintenance, of a token that has been refreshed. -/
  | rotateCredential (input : CredentialRotation) (validatedAt : ℤ)
  /-- Token maintenance, of a token that is of no use. -/
  | requireReauthorisation (input : ReauthorisationRequirement) (auditId : String)
  /-- Snapshot of a post. -/
  | recordSnapshot (snapshotId : String) (input : InstagramSnapshotInput)
  /-- Synchronisation of an account. -/
  | completeSyncRun (syncRunId : String) (completedAt : ℤ)
  /-- Import of a video. -/
  | importAsset (correlationId assetId jobId outboxId : String)
      (input : CreateImportedVideoAssetInput)
  /-- Validation of a video. -/
  | recordAssetValidation (input : RecordVideoAssetValidationInput)
  /-- Analysis of a post. -/
  | publishAnalysis (input : PublishAnalysisInput) (analysisId : String)
  /-- Recalculation, of an account without anything to calculate from. -/
  | clearMarker (instagramAccountId : String) (dirtySince : ℤ)
  /-- Recalculation. -/
  | activateRun (input : AnalyticsActivation)
  /-- Generation of a strategy. -/
  | publishStrategy (input : PublishStrategyInput)

/-- A statement of which the answer is not used. -/
def ignoring {α : Type} (body : WorkerTransaction α) : WorkerTransaction Unit := do
  let _ ← body
  pure ()

/-- The callback of a rotation: a rotation that comes too late records that it probed. -/
def commitRotation (context : WorkspaceContext) (input : CredentialRotation) (validatedAt : ℤ) :
    WorkerTransaction Unit := do
  let rotated ← rotateInstagramCredential context input
  if rotated then pure ()
  else recordInstagramCredentialValidation context input.credentialId validatedAt

/-- The callback of an import: the asset, and the job that validates it. -/
def commitImport (context : WorkspaceContext)
    (correlationId assetId jobId outboxId : String) (input : CreateImportedVideoAssetInput) :
    WorkerTransaction Unit := do
  videoAsset.create (importedAsset context assetId input)
  ignoring (enqueueBackgroundJobInTransaction context (assetValidation correlationId assetId)
    jobId outboxId)

/-- The statement of a release: it is sent on `dependencies.database`. -/
def commitRelease (context : WorkspaceContext) (intentId : String) : WorkerTransaction Unit :=
  ignoring (closeVideoUploadIntent context intentId .expired none)

/-- The statements of a callback. -/
def CommitCallback.statements (hash : List InstagramMetricObservation → String)
    (context : WorkspaceContext) : CommitCallback → List (Statement (Database WorkerTables) JobError)
  | .nothing => []
  | .purgeAsset assetId purgedAt =>
    [⟨.transaction, ignoring (markVideoAssetPurged context assetId purgedAt)⟩]
  | .releaseIntent intentId => [⟨.own, commitRelease context intentId⟩]
  | .recordCredentialValidation credentialId validatedAt =>
    [⟨.transaction, recordInstagramCredentialValidation context credentialId validatedAt⟩]
  | .rotateCredential input validatedAt =>
    [⟨.transaction, commitRotation context input validatedAt⟩]
  | .requireReauthorisation input auditId =>
    [⟨.transaction, requireInstagramReauthorisation context input auditId⟩]
  | .recordSnapshot snapshotId input =>
    [⟨.transaction, ignoring (recordInstagramMetricSnapshot hash context snapshotId input)⟩]
  | .completeSyncRun syncRunId completedAt =>
    [⟨.transaction, completeInstagramSyncRun context syncRunId completedAt⟩]
  | .importAsset correlationId assetId jobId outboxId input =>
    [⟨.transaction, commitImport context correlationId assetId jobId outboxId input⟩]
  | .recordAssetValidation input =>
    [⟨.transaction, ignoring (recordVideoAssetValidation context input)⟩]
  | .publishAnalysis input analysisId =>
    [⟨.transaction, ignoring (publishPostAnalysis context input analysisId)⟩]
  | .clearMarker instagramAccountId dirtySince =>
    [⟨.transaction, clearAnalyticsMarker context instagramAccountId dirtySince⟩]
  | .activateRun input => [⟨.transaction, ignoring (activateAnalyticsRun context input)⟩]
  | .publishStrategy input => [⟨.transaction, ignoring (publishStrategyGeneration context input)⟩]

/-- The first statement of `commitJobSuccess`. -/
def markSucceeded (context : WorkspaceContext) (jobId leaseId : String) (completedAt : ℤ) :
    WorkerTransaction Unit := do
  let updated ← backgroundJob.updateMany (succeededJob completedAt) fun row =>
    row.id == jobId && isUncancelledHolder context leaseId row
  if updated ≠ 1 then raise jobLeaseLost else pure ()

/-- The last statement of `commitJobSuccess`. -/
def settleAttempt (leaseId : String) (completedAt : ℤ) : WorkerTransaction Unit := do
  let attempt ← jobAttempt.updateMany (succeededAttempt completedAt) fun row =>
    row.leaseId == leaseId && row.state == .active
  if attempt ≠ 1 then raise jobLeaseLost else pure ()

/-- What a worker sends to commit a result. -/
def commitProgram (hash : List InstagramMetricObservation → String) (context : WorkspaceContext)
    (jobId leaseId : String) (callback : CommitCallback) (completedAt : ℤ) :
    List (Statement (Database WorkerTables) JobError) :=
  ⟨.transaction, markSucceeded context jobId leaseId completedAt⟩ ::
    (callback.statements hash context ++
      [⟨.transaction, settleAttempt leaseId completedAt⟩])

/-- A job has succeeded. -/
def Database.HasSucceeded {App : Type} (db : Database App) (jobId : String) : Prop :=
  ∃ job, db.job? jobId = some job ∧ job.state = .succeeded

/-! ### Success -/

section Success

variable {context : WorkspaceContext} {jobId leaseId : String} {completedAt : ℤ}
  {db : Database WorkerTables} {hash : List InstagramMetricObservation → String}

private theorem ensures_markSucceeded : (markSucceeded context jobId leaseId completedAt).Ensures
    (fun _ db' => db'.HasSucceeded jobId) (fun _ => True) db := by
  unfold markSucceeded
  rw [ensures_bind]
  refine Ensures.mono (ensures_backgroundJob_updateMany (.inr unchecked_unique) (fun _ => ?_) fun job hjob hselects => ?_)
    (fun _ _ hpost => hpost) fun _ _ => trivial
  · rw [if_pos (by decide), ensures_raise]
    trivial
  · obtain ⟨hstate, -, -⟩ := holder_of_isUncancelledHolder hselects
    refine ⟨accepted_succeededJob (Database.accepted_of_job? hjob) hstate _, fun t hrows => ?_⟩
    rw [if_neg (by simp), ensures_pure]
    have hjobs := Database.job?_update hjob hselects hrows fun _ => rfl
    refine ⟨succeededJob completedAt job, ?_, rfl⟩
    rw [hjobs jobId, if_pos rfl]

private theorem KeepsJobs.keeps_success {body : WorkerTransaction Unit} (h : KeepsJobs body)
    (hsucceeded : db.HasSucceeded jobId) :
    body.Ensures (fun _ db' => db'.HasSucceeded jobId) (fun _ => True) db := by
  refine (h db).mono (fun _ db' hsame => ?_) fun _ _ => trivial
  obtain ⟨job, hjob, hstate⟩ := hsucceeded
  refine ⟨job, ?_, hstate⟩
  unfold Database.job? at hjob ⊢
  rwa [hsame]

private theorem keepsJobs_settleAttempt : KeepsJobs (settleAttempt leaseId completedAt) := by
  unfold settleAttempt
  refine Keeps.bind (fun db => ?_) fun attempt => Keeps.ite keeps_raise keeps_pure
  unfold Ensures jobAttempt.updateMany
  simp only [StateT.run]
  cases db.jobAttempts.updateMany _ _ with
  | ok result => rfl
  | error violation => trivial

private theorem keepsJobs_jobOutbox_createMany (row : JobOutbox) :
    KeepsJobs (jobOutbox.createMany row : WorkerTransaction Unit) := by
  intro db
  unfold Ensures jobOutbox.createMany
  simp only [StateT.run]
  cases db.jobOutbox.createSkippingDuplicates row with
  | ok jobOutbox => rfl
  | error violation => trivial

private theorem ensures_createMany_success {row : BackgroundJob}
    (hsucceeded : db.HasSucceeded jobId) :
    (backgroundJob.createMany row : WorkerTransaction Unit).Ensures
      (fun _ db' => db'.HasSucceeded jobId) (fun _ => True) db := by
  unfold Ensures backgroundJob.createMany
  simp only [StateT.run]
  rcases db.backgroundJobs.createSkippingDuplicates_cases row with
    ⟨-, hok⟩ | ⟨t, hrows, hok⟩ | hfailed | ⟨index, herror⟩
  · rw [hok]
    exact hsucceeded
  · rw [hok]
    obtain ⟨job, hjob, hstate⟩ := hsucceeded
    refine ⟨job, ?_, hstate⟩
    unfold Database.job? at hjob ⊢
    show t.lookup BackgroundJob.id jobId = some job
    rw [Table.lookup_append hrows, hjob]
    rfl
  · obtain ⟨constraint, hconstraint⟩ := Option.ne_none_iff_exists'.mp hfailed
    unfold Table.createSkippingDuplicates
    rw [hconstraint]
    trivial
  · rw [herror]
    trivial

private theorem ensures_enqueue_success {input : EnqueueBackgroundJobInput}
    {newJobId outboxId : String} (hsucceeded : db.HasSucceeded jobId) :
    (ignoring (enqueueBackgroundJobInTransaction context input newJobId outboxId)).Ensures
      (fun _ db' => db'.HasSucceeded jobId) (fun _ => True) db := by
  unfold ignoring enqueueBackgroundJobInTransaction
  rw [ensures_bind]
  cases input.refusal with
  | some code => trivial
  | none =>
    dsimp only
    rw [ensures_rethrow, ensures_bind, ensures_read, ensures_bind]
    refine (ensures_createMany_success hsucceeded).mono (fun _ db' hkept => ?_) fun _ _ => trivial
    rw [ensures_bind, ensures_read]
    cases db'.backgroundJobs.lookup BackgroundJob.idempotency _ with
    | none => trivial
    | some job =>
      dsimp only
      split
      · trivial
      · rw [ensures_bind]
        exact (keepsJobs_jobOutbox_createMany _).keeps_success hkept

-- that an enqueue keeps successes is all that is needed of it from here on
seal enqueueBackgroundJobInTransaction

theorem KeepsJobs.ignoring {α : Type} {body : WorkerTransaction α} (h : KeepsJobs body) :
    KeepsJobs (ignoring body) := h.then_pure _

private theorem keepsJobs_commitRotation (input : CredentialRotation) (validatedAt : ℤ) :
    KeepsJobs (commitRotation context input validatedAt) :=
  Keeps.bind (keepsJobs_rotateInstagramCredential _) fun _ =>
    Keeps.ite keeps_pure (keepsJobs_recordInstagramCredentialValidation _ _)

private theorem ensures_commitImport_success {correlationId assetId newJobId outboxId : String}
    {input : CreateImportedVideoAssetInput} (hsucceeded : db.HasSucceeded jobId) :
    (commitImport context correlationId assetId newJobId outboxId input).Ensures
      (fun _ db' => db'.HasSucceeded jobId) (fun _ => True) db := by
  unfold commitImport
  rw [ensures_bind]
  have hcreate := keepsJobs_create videoAsset (importedAsset context assetId input)
  refine (hcreate.keeps_success hsucceeded).mono (fun _ db' hkept => ?_) fun _ _ => trivial
  exact ensures_enqueue_success hkept

private theorem ensures_statements_success {callback : CommitCallback}
    {statement : Statement (Database WorkerTables) JobError}
    (hmem : statement ∈ callback.statements hash context) (hsucceeded : db.HasSucceeded jobId) :
    statement.body.Ensures (fun _ db' => db'.HasSucceeded jobId) (fun _ => True) db := by
  cases callback <;> simp only [CommitCallback.statements, mem_singleton, not_mem_nil]
    at hmem <;> subst hmem
  case importAsset => exact ensures_commitImport_success hsucceeded
  all_goals refine KeepsJobs.keeps_success ?_ hsucceeded
  case purgeAsset => exact (keepsJobs_markVideoAssetPurged _ _).ignoring
  case releaseIntent => exact (keepsJobs_closeVideoUploadIntent _ _ _).ignoring
  case recordCredentialValidation => exact keepsJobs_recordInstagramCredentialValidation _ _
  case rotateCredential => exact keepsJobs_commitRotation _ _
  case requireReauthorisation => exact keepsJobs_requireInstagramReauthorisation _ _
  case recordSnapshot => exact (keepsJobs_recordInstagramMetricSnapshot _ _ _).ignoring
  case completeSyncRun => exact keepsJobs_completeInstagramSyncRun _ _
  case recordAssetValidation => exact (keepsJobs_recordVideoAssetValidation _).ignoring
  case publishAnalysis => exact (keepsJobs_publishPostAnalysis _ _).ignoring
  case clearMarker => exact keepsJobs_clearAnalyticsMarker _ _
  case activateRun => exact (keepsJobs_activateAnalyticsRun _).ignoring
  case publishStrategy => exact (keepsJobs_publishStrategyGeneration _).ignoring

private theorem ensures_commitProgram {callback : CommitCallback} :
    (Transaction.sequence (Client.transactional
      (commitProgram hash context jobId leaseId callback completedAt))).Ensures
      (fun _ db' => db'.HasSucceeded jobId) (fun _ => True) db := by
  refine ensures_sequence_cons ensures_markSucceeded fun body hbody db hsucceeded => ?_
  rcases mem_append.mp (Client.mem_transactional.mp hbody) with hcallback | hlast
  · exact ensures_statements_success hcallback hsucceeded
  · cases mem_singleton.mp hlast
    exact keepsJobs_settleAttempt.keeps_success hsucceeded

end Success

/-! ### What becomes visible -/

/-- A worker that commits, with what everyone sees. -/
abbrev CommitClient := Client (Database WorkerTables) JobError

/-- A step shows nothing, or it is the commit of the whole program and the job has succeeded. -/
def ShowsWithJob (program : List (Statement (Database WorkerTables) JobError)) (jobId : String)
    (client next : CommitClient) : Prop :=
  next.visible = client.visible ∧ next.status ≠ .committed ∨
    Client.Commits program client next ∧ next.visible.HasSucceeded jobId

/-- The worker is about to send the statement of a release, on a connection of its own,
while everyone sees that the upload is pending. -/
def ReleasesDirectly (context : WorkspaceContext) (callback : CommitCallback)
    (client : CommitClient) (event : ClientEvent (Database WorkerTables)) : Prop :=
  event = .advance ∧ (∃ body rest, client.rest = ⟨.own, body⟩ :: rest) ∧
    ∃ intentId, callback = .releaseIntent intentId ∧
      ∃ intent ∈ client.visible.app.videoUploadIntents.rows,
        isOpenIntent context intentId intent = true

section Visibility

variable {hash : List InstagramMetricObservation → String} {context : WorkspaceContext}
  {jobId leaseId : String} {callback : CommitCallback} {completedAt : ℤ}
  {visible db : Database WorkerTables} {client next : CommitClient}
  {event : ClientEvent (Database WorkerTables)}

private theorem release_of_own {body : WorkerTransaction Unit}
    (hmem : ⟨.own, body⟩ ∈ commitProgram hash context jobId leaseId callback completedAt) :
    ∃ intentId, callback = .releaseIntent intentId ∧ body = commitRelease context intentId := by
  unfold commitProgram at hmem
  rcases mem_cons.mp hmem with hfirst | hmem
  · cases hfirst
  rcases mem_append.mp hmem with hcallback | hlast
  · cases callback with
    | releaseIntent intentId =>
      cases mem_singleton.mp hcallback
      exact ⟨intentId, rfl, rfl⟩
    | nothing => cases hcallback
    | _ => cases mem_singleton.mp hcallback
  · cases mem_singleton.mp hlast

/-- A release of an upload that is not pending changes nothing, and a release of a
pending upload changes what its connection shows. -/
theorem commitRelease_cases (context : WorkspaceContext) (intentId : String)
    (db : Database WorkerTables) :
    (∃ db', (commitRelease context intentId).run db = .ok ((), db') ∧ db' ≠ db ∧
      ∃ intent ∈ db.app.videoUploadIntents.rows, isOpenIntent context intentId intent = true) ∨
      (∀ intent ∈ db.app.videoUploadIntents.rows, isOpenIntent context intentId intent = false) ∧
        (commitRelease context intentId).run db = .ok ((), db) := by
  unfold commitRelease ignoring
  rw [StateT.run_bind]
  rcases closeVideoUploadIntent_cases context intentId .expired none db with
    ⟨intent, hintent, hopen, rows, hrows, hrun⟩ | ⟨hnone, hrun⟩
  · left
    rw [hrun]
    refine ⟨_, rfl, fun hsame => ?_, intent, hintent, hopen⟩
    have hunchanged : rows = db.app.videoUploadIntents :=
      congrArg (fun db : Database WorkerTables => db.app.videoUploadIntents) hsame
    have hkept : closedIntent .expired none intent ∈ db.app.videoUploadIntents.rows := by
      rw [← hunchanged, hrows]
      exact mem_map.mpr ⟨intent, hintent, by rw [if_pos hopen]⟩
    have hequal : closedIntent .expired none intent = intent :=
      Table.eq_of_key videoUploadIntentSchema_keyedBy_id hkept hintent rfl
    have hstate := congrArg VideoUploadIntent.state hequal
    simp only [isOpenIntent, Bool.and_eq_true, beq_iff_eq] at hopen
    rw [hopen.1.2] at hstate
    cases hstate
  · right
    rw [hrun]
    exact ⟨hnone, rfl⟩

/-- **What a step shows.** On its way through the program, a step of the worker shows
nothing or the whole commit, unless it releases a pending upload. -/
theorem showsWithJob_of_step
    (hfollows : client.Follows (commitProgram hash context jobId leaseId callback completedAt))
    (hown : event.IsOwn) (hstep : client.Step event next)
    (hdirect : ¬ ReleasesDirectly context callback client event) :
    ShowsWithJob (commitProgram hash context jobId leaseId callback completedAt) jobId client
      next := by
  unfold Client.Step Client.step at hstep
  cases event with
  | interfere visible => exact hown.elim
  | crash =>
    dsimp only at hstep
    split at hstep
    · cases hstep
      exact Or.inl ⟨rfl, by simp⟩
    · cases hstep
  | advance =>
    dsimp only at hstep
    split at hstep
    · next hrunning =>
      cases hstep
      rcases hfollows.advance_cases hrunning with hnothing | hcommits | hsent
      · exact Or.inl hnothing
      · right
        exact ⟨hcommits, ensures_commitProgram.of_run hcommits.2.2⟩
      · left
        obtain ⟨body, rest, hrest, hstatus, hrun⟩ := hsent
        have hmem := hfollows.rest ⟨.own, body⟩ (by rw [hrest]; exact mem_cons_self)
        obtain ⟨intentId, hcallback, rfl⟩ := release_of_own hmem
        rcases commitRelease_cases context intentId client.visible with
          ⟨_, _, _, intent, hintent, hopen⟩ | ⟨-, hsame⟩
        · exact absurd ⟨rfl, ⟨_, rest, hrest⟩, intentId, hcallback, intent, hintent, hopen⟩ hdirect
        · rw [hsame] at hrun
          have hvisible : client.visible = client.advance.visible :=
            congrArg Prod.snd (Except.ok.inj hrun)
          exact ⟨hvisible.symm, by simp [hstatus]⟩
    · cases hstep

private theorem not_showsWithJob_of_releasesDirectly
    (hfollows : client.Follows (commitProgram hash context jobId leaseId callback completedAt))
    (hdirect : ReleasesDirectly context callback client event) (hstep : client.Step event next) :
    ¬ ShowsWithJob (commitProgram hash context jobId leaseId callback completedAt) jobId client
      next := by
  obtain ⟨rfl, ⟨body, rest, hrest⟩, intentId, hcallback, intent, hintent, hopen⟩ := hdirect
  have hmem := hfollows.rest ⟨.own, body⟩ (by rw [hrest]; exact mem_cons_self)
  obtain ⟨intentId', hcallback', rfl⟩ := release_of_own hmem
  rw [hcallback] at hcallback'
  cases hcallback'
  obtain ⟨db', hrun, hchanged⟩ : ∃ db', (commitRelease context intentId).run client.visible =
      .ok ((), db') ∧ db' ≠ client.visible := by
    rcases commitRelease_cases context intentId client.visible with
      ⟨db', hrun, hchanged, -⟩ | ⟨hnone, -⟩
    · exact ⟨db', hrun, hchanged⟩
    · rw [hnone intent hintent] at hopen
      cases hopen
  unfold Client.Step Client.step at hstep
  dsimp only at hstep
  split at hstep
  · next hrunning =>
    cases hstep
    unfold Client.advance
    rw [hrest]
    simp only [hrun]
    rintro (⟨hsame, -⟩ | ⟨hcommits, -⟩)
    · exact hchanged hsame
    · have hstatus := hcommits.2.1
      simp only [hrunning] at hstatus
      cases hstatus
  · cases hstep

private theorem follows_of_reachable (h : Transition.Reachable Client.Step
    (Client.start visible (commitProgram hash context jobId leaseId callback completedAt)) client) :
    client.Follows (commitProgram hash context jobId leaseId callback completedAt) := by
  refine h.invariant (Client.follows_start _ _) ?_
  intro t u event ih hstep
  exact ih.step hstep

/-- **Effects commit with the job.** Whatever others do to the lease, the job and the
tables in between, and wherever the worker crashes: every step of the worker shows
nothing of its callback, or all of it together with the success of its job, exactly when
no step sends the statement of a release while the upload is pending. -/
theorem callback_commits_with_job_iff
    {history : List (CommitClient × ClientEvent (Database WorkerTables))}
    (hrun : Transition.Run Client.Step
      (Client.start visible (commitProgram hash context jobId leaseId callback completedAt))
      history client) :
    (∀ visited ∈ history, visited.2.IsOwn → ∀ next, visited.1.Step visited.2 next →
      ShowsWithJob (commitProgram hash context jobId leaseId callback completedAt) jobId
        visited.1 next) ↔
      ∀ visited ∈ history, ¬ ReleasesDirectly context callback visited.1 visited.2 := by
  constructor
  · intro hshows visited hvisited hdirect
    obtain ⟨hbefore, next, hstep, -⟩ := hrun.mem_history hvisited
    have hown : visited.2.IsOwn := by
      rw [hdirect.1]
      trivial
    exact not_showsWithJob_of_releasesDirectly (follows_of_reachable hbefore) hdirect hstep
      (hshows visited hvisited hown next hstep)
  · intro hdirect visited hvisited hown next hstep
    have hbefore := (hrun.mem_history hvisited).1
    exact showsWithJob_of_step (follows_of_reachable hbefore) hown hstep
      (hdirect visited hvisited)

end Visibility

/-! ### A release that outlives its worker -/

namespace CommitSample

/-- The job that releases an upload; a worker holds its lease. -/
def job : BackgroundJob where
  id := "job"
  workspaceId := "workspace"
  queueName := "asset.cleanup"
  handlerVersion := 1
  idempotencyKey := "asset-cleanup-intent-20260101"
  correlationId := "01900000-0000-7000-8000-0000000000c0"
  dispatchStatus := .dispatched
  state := .processing
  stage := "closing_intent"
  priority := 0
  attemptCount := 1
  maxAttempts := 8
  version := 4
  resourceType := some "video_upload_intent"
  resourceId := some "intent"
  inputVersion := none
  queuedAt := 0
  startedAt := some 1000
  heartbeatAt := some 1000
  leaseId := some "lease"
  leaseExpiresAt := some 121000
  nextAttemptAt := none
  completedAt := none
  lastErrorClass := none
  lastErrorCode := none
  nextAction := none
  cancellationRequestedAt := none
  cancellationReasonCode := none
  reconciliationRequiredAt := none
  reconciliationCode := none
  createdAt := 0

def attempt : JobAttempt where
  id := "attempt"
  workspaceId := "workspace"
  backgroundJobId := "job"
  attemptNumber := 1
  handlerVersion := 1
  state := .active
  stage := "closing_intent"
  leaseId := "lease"
  correlationId := "01900000-0000-7000-8000-0000000000c0"
  startedAt := 1000
  heartbeatAt := 1000
  completedAt := none
  nextAttemptAt := none
  errorClass := none
  errorCode := none
  nextAction := none

def intent : VideoUploadIntent where
  id := "intent"
  workspaceId := "workspace"
  instagramPostId := "post"
  pendingForPostId := some "post"
  objectKey := "uploads/intent"
  providerUploadId := "provider-upload"
  declaredBytes := 1000
  partCount := 1
  state := .pending
  expiresAt := 0
  completedAt := none

def asset : VideoAsset where
  id := "asset"
  workspaceId := "workspace"
  instagramPostId := "post"
  origin := .userUpload
  uploadIntentId := some "earlier-intent"
  importJobId := none
  objectKey := "uploads/earlier-intent"
  objectVersion := none
  etag := "etag"
  bytes := 1000
  contentType := none
  state := .rejected
  measurements := unmeasured
  rejectionCode := some .undecodable
  validatedAt := some 0
  purgeAfter := some 0
  purgedAt := none

/-- The database after the provider has released the parts of the upload, or the object of the
asset. -/
def released : Database WorkerTables where
  clock := 1000
  backgroundJobs := ⟨[job], by decide⟩
  jobAttempts := ⟨[attempt], by decide⟩
  jobOutbox := Table.empty _
  auditEvents := Table.empty _
  internalUsers := []
  analysisJobs := []
  app :=
    { WorkerTables.empty with
      videoUploadIntents := ⟨[intent], by decide⟩
      videoAssets := ⟨[asset], by decide⟩ }

/-- The worker that commits with a callback. -/
def worker (callback : CommitCallback) : CommitClient :=
  Client.start released (commitProgram (fun _ => "") ⟨"workspace"⟩ "job" "lease" callback 2000)

/-- Events that can happen to a worker one after the other. -/
abbrev Schedule (callback : CommitCallback) : Type :=
  { events : List (ClientEvent (Database WorkerTables)) //
    (Transition.replay Client.step [] (worker callback) events).isSome = true }

/-- The run of a schedule. -/
def runOf {callback : CommitCallback} (schedule : Schedule callback) :
    List (CommitClient × ClientEvent (Database WorkerTables)) × CommitClient :=
  (Transition.replay Client.step [] (worker callback) schedule.1).get schedule.2

theorem run_runOf {callback : CommitCallback} (schedule : Schedule callback) :
    Transition.Run Client.Step (worker callback) (runOf schedule).1 (runOf schedule).2 :=
  Transition.Run.replay .refl (Option.some_get schedule.2).symm

/-- The worker crashes between the release and its commit. -/
def crashing : Schedule (.releaseIntent "intent") := ⟨[.advance, .advance, .crash], by decide⟩

/-- The worker executes the purge of a rejected asset, and commits. -/
def purging : Schedule (.purgeAsset "asset" 2000) :=
  ⟨[.advance, .advance, .advance, .advance], by decide⟩

/-- A worker that crashes between the release and its commit leaves an expired upload
and a job that has not succeeded. -/
theorem release_outlives_crashed_worker :
    Transition.Reachable Client.Step (worker (.releaseIntent "intent")) (runOf crashing).2 ∧
      (runOf crashing).2.status = .rolledBack ∧
      (runOf crashing).2.visible.app.videoUploadIntents.rows =
        [closedIntent .expired none intent] ∧
      ((runOf crashing).2.visible.job? "job").map BackgroundJob.state = some .processing :=
  ⟨⟨_, run_runOf _⟩, by decide, by decide, by decide⟩

/-- A purge becomes visible with the success of its job, in the last step of the worker. -/
theorem purge_shows_with_job :
    ((runOf purging).2.status = .committed ∧
      (runOf purging).2.visible.app.videoAssets.rows.map VideoAsset.purgedAt = [some 2000] ∧
      ((runOf purging).2.visible.job? "job").map BackgroundJob.state = some .succeeded) ∧
    ∀ visited ∈ (runOf purging).1, visited.2.IsOwn → ∀ next, visited.1.Step visited.2 next →
      ShowsWithJob (commitProgram (fun _ => "") ⟨"workspace"⟩ "job" "lease"
        (.purgeAsset "asset" 2000) 2000) "job" visited.1 next := by
  refine ⟨⟨by decide, by decide, by decide⟩,
    (callback_commits_with_job_iff (run_runOf purging)).mpr ?_⟩
  rintro visited - ⟨-, -, intentId, hcallback, -⟩
  cases hcallback

end CommitSample

end ContentAutomation
