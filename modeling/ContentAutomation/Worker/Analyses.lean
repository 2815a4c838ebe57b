import ContentAutomation.Worker.Strategies

/-!
# Running an analysis

The work of `analysis.run`: it loads the frozen inputs of its job, hands the video to the
provider, asks for an analysis, asks once more if the answer is not valid, and publishes.
Whether it has asked once more is stored on the analysis job, and a retry by an operator
clears it. Between two retries the works on a job pay for one repair in every run in which
the stored bound is open, and the job has not been retried since the claim, whenever a
repair is taken.
-/

namespace ContentAutomation

open Relational Transaction List StrategySystem.Sample

/-! ### Writes -/

/-- `AnalysisJobRecord`. -/
structure AnalysisJobRecord where
  id : String
  instagramPostId : String
  providerFileName : Option String
  repairAttempted : Bool
  requestSignature : String
  videoAssetId : String

/-- `findAnalysisJobForBackgroundJob`. -/
def findAnalysisJobForBackgroundJob (context : WorkspaceContext) (backgroundJobId : String) :
    WorkerTransaction (Option AnalysisJobRecord) := do
  let job ← analysisJob.findFirst fun row =>
    row.backgroundJobId == backgroundJobId && row.workspaceId == context.workspaceId
  let inputs ← analysisRequest.findFirst fun row =>
    row.backgroundJobId == backgroundJobId && row.workspaceId == context.workspaceId
  match job, inputs with
  | some job, some inputs =>
    pure (some
      { id := job.id
        instagramPostId := inputs.instagramPostId
        providerFileName := inputs.providerFileName
        repairAttempted := job.repairAttempted
        requestSignature := inputs.requestSignature
        videoAssetId := inputs.videoAssetId })
  | _, _ => pure none

/-- `recordAnalysisProviderFile`. -/
def recordAnalysisProviderFile (context : WorkspaceContext) (analysisJobId : String)
    (providerFileName : Option String) : WorkerTransaction Unit := do
  let _ ← analysisRequest.updateMany (fun row => { row with providerFileName })
    fun row => row.id == analysisJobId && row.workspaceId == context.workspaceId
  pure ()

/-- An analysis job after a stage has been recorded. -/
def stagedAnalysisJob (repairAttempted : Option Bool) (row : AnalysisJob) : AnalysisJob :=
  { row with repairAttempted := repairAttempted.getD row.repairAttempted }

/-- `recordAnalysisStage`. -/
def recordAnalysisStage (context : WorkspaceContext) (analysisJobId : String)
    (stage : AnalysisJobStage) (repairAttempted : Option Bool)
    (validationIssues : Option (List String)) : WorkerTransaction Unit := do
  analysisJob.updateMany (stagedAnalysisJob repairAttempted) fun row =>
    row.id == analysisJobId && row.workspaceId == context.workspaceId
  let _ ← analysisRequest.updateMany
    (fun row => { row with
      lastValidationIssues := validationIssues.getD row.lastValidationIssues
      stage })
    fun row => row.id == analysisJobId && row.workspaceId == context.workspaceId
  pure ()

/-- `findAnalysisSourceAsset`. -/
def findAnalysisSourceAsset (context : WorkspaceContext) (videoAssetId : String) :
    WorkerTransaction (Option VideoAsset) :=
  videoAsset.findFirst fun row => row.id == videoAssetId && row.workspaceId == context.workspaceId

/-! ### Answers of the model -/

/-- `AnalysisValidationIssue`. -/
structure AnalysisValidationIssue where
  code : String
  message : String
  path : String

/-- An analysis that has been validated. -/
structure ValidAnalysis where
  analysis : String
  analyticsEligible : Bool

/-- `RunOutcome`. -/
structure RunOutcome where
  analysis : ValidAnalysis ⊕ List AnalysisValidationIssue
  telemetry : ModelTelemetry
  /-- Set only when the response could not be parsed at all. -/
  notJson : Option String

/-- The reason at the end of a message, in parentheses. -/
def issueReason (message : String) : Option String :=
  match message.toList.reverse with
  | ')' :: rest =>
    let reason := rest.takeWhile fun letter => letter.isLower || letter == '_'
    match rest.drop reason.length with
    | '(' :: _ => if reason.isEmpty then none else some (String.ofList reason.reverse)
    | _ => none
  | _ => none

/-- `describeIssues`. -/
def describeIssues (issues : List AnalysisValidationIssue) : List String :=
  issues.map fun issue =>
    let location := if issue.path = "" then issue.code else issue.code ++ " at " ++ issue.path
    match issueReason issue.message with
    | none => location
    | some reason => location ++ " (" ++ reason ++ ")"

/-- `failureRecord`. -/
def failureRecord (outcome : RunOutcome) : List String :=
  match outcome.notJson, outcome.analysis with
  | some shape, _ => [shape]
  | none, .inl _ => []
  | none, .inr issues => describeIssues issues

/-! ### The work -/

/-- A request to the model for an analysis; it carries the issues of the answer before it
when it is the repair. -/
structure AnalysisPrompt where
  fileUri : String
  previousIssues : Option (List AnalysisValidationIssue)
  previousWasNotJson : Bool
  probedDurationMs : ℕ

/-- What the work asks of the storage and of the provider. -/
inductive AnalysisCall
  | getObject (objectKey : String)
  | uploadVideo (displayName : String) (byteLength : ℕ)
  | waitForActiveFile (name : String)
  | generateStructuredText (prompt : AnalysisPrompt)
  | deleteFile (name : String)

/-- What comes back. -/
inductive AnalysisAnswer
  | object (bytes : Option ℕ)
  | uploaded (name : String)
  | active (uri : String)
  | responded (outcome : RunOutcome)
  | deleted
  | failed (responseClass : GeminiResponseClass) (retryAfterMs : Option ℚ)
  /-- An error that is not one of the provider's. -/
  | rejected

/-- What the work has loaded, with the file that the provider holds for it. -/
structure AnalysisTask where
  context : WorkspaceContext
  job : AnalysisJobRecord
  /-- The identifier that is created for the analysis. -/
  analysisId : String
  durationMs : ℕ
  providerFileName : Option String

/-- How the work ends, once the file has been released. -/
inductive AnalysisEnding
  | publishing (task : AnalysisTask) (analysis : ValidAnalysis)
  | throwing (exception : WorkException)

/-- Where `execute` stands, before what it does next. -/
inductive AnalysisWork
  | started (delivery : Delivery) (analysisId : String)
  | loadingJob (delivery : Delivery) (analysisId : String)
  | loadingAsset (context : WorkspaceContext) (job : AnalysisJobRecord) (analysisId : String)
  | announcingUpload (task : AnalysisTask) (objectKey : String)
  | recordingUpload (task : AnalysisTask) (objectKey : String)
  | readingObject (task : AnalysisTask) (objectKey : String)
  | uploading (task : AnalysisTask) (byteLength : ℕ)
  | recordingFile (task : AnalysisTask) (name : String)
  | announcingFile (task : AnalysisTask) (name : String)
  | recordingWait (task : AnalysisTask) (name : String)
  | awaitingFile (task : AnalysisTask) (name : String)
  | announcingRequest (task : AnalysisTask) (fileUri : String)
  | recordingRequest (task : AnalysisTask) (fileUri : String)
  | requesting (task : AnalysisTask) (fileUri : String)
  | announcingRepair (task : AnalysisTask) (fileUri : String) (outcome : RunOutcome)
    (issues : List AnalysisValidationIssue)
  | recordingRepair (task : AnalysisTask) (fileUri : String) (outcome : RunOutcome)
    (issues : List AnalysisValidationIssue)
  | repairing (task : AnalysisTask) (fileUri : String) (notJson : Bool)
    (issues : List AnalysisValidationIssue)
  | recordingRejection (task : AnalysisTask) (outcome : RunOutcome)
  | announcingPublication (task : AnalysisTask) (analysis : ValidAnalysis)
  | releasing (context : WorkspaceContext) (analysisJobId name : String) (ending : AnalysisEnding)
  | clearing (context : WorkspaceContext) (analysisJobId : String) (ending : AnalysisEnding)
  | ending (ending : AnalysisEnding)
  | ignoring

namespace AnalysisWork

/-- The end of the work, by way of the release of the file. -/
def leave (task : AnalysisTask) (last : AnalysisEnding) : AnalysisWork :=
  match task.providerFileName with
  | some name => .releasing task.context task.job.id name last
  | none => .ending last

/-- An exception of which the work has to release its file. -/
def throwing (task : AnalysisTask) (exception : WorkException) : AnalysisWork :=
  leave task (.throwing exception)

/-- A `JobHandlerFailure`. -/
def throwingFailure (task : AnalysisTask) (errorClass : JobFailureClass) (errorCode : String) :
    AnalysisWork := throwing task (.failure ⟨none, errorClass, errorCode, none⟩)

/-- What a callback throws is thrown on. -/
def rethrow (task : AnalysisTask) (error : Option JobError) : AnalysisWork :=
  throwing task (.ofCallback error)

/-- A `JobHandlerFailure` before there is a file. -/
def invalidInput (errorCode : String) : AnalysisWork :=
  .ending (.throwing (.failure ⟨none, .invalidInput, errorCode, none⟩))

/-- An answer that is an error, or is none to what was asked. -/
def afterError (task : AnalysisTask) : AnalysisAnswer → AnalysisWork
  | .failed responseClass retryAfterMs =>
    throwing task (.failure (toJobFailure responseClass retryAfterMs))
  | _ => throwing task .other

/-- `execute` after it has loaded the analysis job. -/
def afterJob (delivery : Delivery) (analysisId : String) : Option AnalysisJobRecord → AnalysisWork
  | none => .ignoring
  | some job => .loadingAsset delivery.context job analysisId

/-- `execute` after it has loaded the asset. -/
def afterAsset (context : WorkspaceContext) (job : AnalysisJobRecord) (analysisId : String) :
    Option VideoAsset → AnalysisWork
  | none => invalidInput "ANALYSIS_ASSET_NOT_READY"
  | some asset =>
    if asset.state ≠ .ready then invalidInput "ANALYSIS_ASSET_NOT_READY"
    else
      match asset.measurements.durationMs with
      | none | some 0 => invalidInput "ANALYSIS_DURATION_UNKNOWN"
      | some durationMs =>
        let task : AnalysisTask := ⟨context, job, analysisId, durationMs, job.providerFileName⟩
        match job.providerFileName with
        | none => .announcingUpload task asset.objectKey
        | some name => .announcingFile task name

/-- `execute` after it has read the object. -/
def afterObject (task : AnalysisTask) : AnalysisAnswer → AnalysisWork
  | .object (some bytes) => .uploading task bytes
  | .object none => throwingFailure task .transient "ANALYSIS_OBJECT_UNREADABLE"
  | _ => throwing task .other

/-- `execute` after it has uploaded the video. -/
def afterUpload (task : AnalysisTask) : AnalysisAnswer → AnalysisWork
  | .uploaded name => .recordingFile { task with providerFileName := some name } name
  | answer => afterError task answer

/-- `execute` after the provider has processed the file. -/
def afterFile (task : AnalysisTask) : AnalysisAnswer → AnalysisWork
  | .active uri => .announcingRequest task uri
  | answer => afterError task answer

/-- `execute` after an answer of the model, of which an invalid one goes another way. -/
def afterAnswer (task : AnalysisTask)
    (invalid : RunOutcome → List AnalysisValidationIssue → AnalysisWork) :
    AnalysisAnswer → AnalysisWork
  | .responded outcome =>
    match outcome.analysis with
    | .inl analysis => .announcingPublication task analysis
    | .inr issues => invalid outcome issues
  | answer => afterError task answer

/-- `execute` after the answer to its first request. -/
def afterRequest (task : AnalysisTask) (fileUri : String) : AnalysisAnswer → AnalysisWork :=
  afterAnswer task fun outcome issues =>
    if task.job.repairAttempted then .recordingRejection task outcome
    else .announcingRepair task fileUri outcome issues

/-- `execute` after the answer to its repair. -/
def afterRepair (task : AnalysisTask) : AnalysisAnswer → AnalysisWork :=
  afterAnswer task fun outcome _ => .recordingRejection task outcome

/-- `execute` after it has recorded why the last answer was rejected. -/
def afterRejection (task : AnalysisTask) (outcome : RunOutcome) : AnalysisWork :=
  throwingFailure task .semanticOutput
    (if outcome.notJson.isNone then "ANALYSIS_RESPONSE_INVALID" else "ANALYSIS_RESPONSE_NOT_JSON")

/-- `result.commit`. -/
def commit (task : AnalysisTask) (analysis : ValidAnalysis) : WorkerTransaction Bool := do
  let now ← read Database.clock
  publishPostAnalysis task.context
    { analysedAt := now
      analysis := analysis.analysis
      analysisJobId := task.job.id
      analyticsEligible := analysis.analyticsEligible
      instagramPostId := task.job.instagramPostId
      requestSignature := task.job.requestSignature } task.analysisId

/-- The outcome of the work. -/
def outcome : AnalysisEnding → ExecutionOutcome WorkerTables
  | .publishing task analysis => .returned [asEffect (commit task analysis)]
  | .throwing exception => exception.outcome

/-- A stage is recorded on a connection of its own. -/
def recordingStage (task : AnalysisTask) (stage : AnalysisJobStage) (repairAttempted : Option Bool)
    (validationIssues : Option (List String)) (next : AnalysisWork) :
    Instruction WorkerTables AnalysisCall AnalysisAnswer AnalysisWork :=
  .statement (asStatement
    (recordAnalysisStage task.context task.job.id stage repairAttempted validationIssues)
    (fun _ => next) (throwing task .other))

/-- What `execute` does next. -/
def next : AnalysisWork → Instruction WorkerTables AnalysisCall AnalysisAnswer AnalysisWork
  | .started delivery analysisId =>
    .callback (.recordStage "loading_inputs") (.loadingJob delivery analysisId)
      fun error => .ending (.throwing (.ofCallback error))
  | .loadingJob delivery analysisId =>
    .statement (asStatement
      (findAnalysisJobForBackgroundJob delivery.context delivery.envelope.domainJobId)
      (afterJob delivery analysisId) (.ending (.throwing .other)))
  | .loadingAsset context job analysisId =>
    .statement (asStatement (findAnalysisSourceAsset context job.videoAssetId)
      (afterAsset context job analysisId) (.ending (.throwing .other)))
  | .announcingUpload task objectKey =>
    .callback (.recordStage "uploading_source") (.recordingUpload task objectKey) (rethrow task)
  | .recordingUpload task objectKey =>
    recordingStage task .uploading none none (.readingObject task objectKey)
  | .readingObject task objectKey => .request (.getObject objectKey) (afterObject task)
  | .uploading task byteLength =>
    .request (.uploadVideo ("analysis-" ++ task.job.id) byteLength) (afterUpload task)
  | .recordingFile task name =>
    .statement (asStatement (recordAnalysisProviderFile task.context task.job.id (some name))
      (fun _ => .announcingFile task name) (throwing task .other))
  | .announcingFile task name =>
    .callback (.recordStage "awaiting_provider_file") (.recordingWait task name) (rethrow task)
  | .recordingWait task name =>
    recordingStage task .awaitingFile none none (.awaitingFile task name)
  | .awaitingFile task name => .request (.waitForActiveFile name) (afterFile task)
  | .announcingRequest task fileUri =>
    .callback (.recordStage "requesting_analysis") (.recordingRequest task fileUri) (rethrow task)
  | .recordingRequest task fileUri =>
    recordingStage task .requesting none none (.requesting task fileUri)
  | .requesting task fileUri =>
    .request (.generateStructuredText ⟨fileUri, none, false, task.durationMs⟩)
      (afterRequest task fileUri)
  | .announcingRepair task fileUri outcome issues =>
    .callback (.recordStage "repairing") (.recordingRepair task fileUri outcome issues)
      (rethrow task)
  | .recordingRepair task fileUri outcome issues =>
    recordingStage task .repairing (some true) (some (failureRecord outcome))
      (.repairing task fileUri outcome.notJson.isSome issues)
  | .repairing task fileUri notJson issues =>
    .request (.generateStructuredText ⟨fileUri, some issues, notJson, task.durationMs⟩)
      (afterRepair task)
  | .recordingRejection task outcome =>
    recordingStage task .requesting none (some (failureRecord outcome))
      (afterRejection task outcome)
  | .announcingPublication task analysis =>
    .callback (.recordStage "publishing") (leave task (.publishing task analysis)) (rethrow task)
  | .releasing context analysisJobId name last =>
    .request (.deleteFile name) fun _ => .clearing context analysisJobId last
  | .clearing context analysisJobId last =>
    .statement (asStatement (recordAnalysisProviderFile context analysisJobId none)
      (fun _ => .ending last) (.ending last))
  | .ending last => .finish (outcome last)
  | .ignoring => .finish (.returned [])

end AnalysisWork

open AnalysisWork

/-- The handler of `analysis.run`. The identifiers of the analyses are made by the attempts. -/
def analysisRunScript (createId : JobClaim → String) :
    Script WorkerTables AnalysisCall AnalysisAnswer AnalysisWork where
  start delivery claim :=
    if (parseCorrelationId delivery.envelope.correlationId).isSome then
      .started delivery (createId claim)
    else invalidInput "ANALYSIS_CORRELATION_INVALID"
  next := next

/-! ### What the work does -/

namespace AnalysisWork

/-- The delivery whose analysis job has not been loaded yet. -/
def delivery? : AnalysisWork → Option Delivery
  | .started delivery _ | .loadingJob delivery _ => some delivery
  | _ => none

/-- The analysis job that the work is on. -/
def record? : AnalysisWork → Option (WorkspaceContext × String)
  | .loadingAsset context job _ => some (context, job.id)
  | .announcingUpload task _ | .recordingUpload task _ | .readingObject task _ | .uploading task _
  | .recordingFile task _ | .announcingFile task _ | .recordingWait task _ | .awaitingFile task _
  | .announcingRequest task _ | .recordingRequest task _ | .requesting task _
  | .announcingRepair task _ _ _ | .recordingRepair task _ _ _ | .repairing task _ _ _
  | .recordingRejection task _ | .announcingPublication task _ => some (task.context, task.job.id)
  | _ => none

/-- The work has taken its repair, and has not sent it yet. -/
def isRepairing : AnalysisWork → Bool
  | .repairing .. => true
  | _ => false

/-- The work goes on with what it has loaded, and takes no repair. -/
structure GoesOn (state state' : AnalysisWork) : Prop where
  delivery : state'.delivery? = none ∨ state'.delivery? = state.delivery?
  record : state'.record? = none ∨ state'.record? = state.record?
  repair : state'.isRepairing = false

variable {state state' : AnalysisWork} {task : AnalysisTask}

private theorem GoesOn.of_record (hdelivery : state'.delivery? = none)
    (hrecord : state'.record? = state.record?) (hrepair : state'.isRepairing = false) :
    state.GoesOn state' := ⟨.inl hdelivery, .inr hrecord, hrepair⟩

theorem GoesOn.ending {last : AnalysisEnding} : state.GoesOn (.ending last) :=
  ⟨.inl rfl, .inl rfl, rfl⟩

theorem GoesOn.leave {last : AnalysisEnding} : state.GoesOn (leave task last) := by
  unfold AnalysisWork.leave
  split
  · exact ⟨.inl rfl, .inl rfl, rfl⟩
  · exact .ending

theorem GoesOn.afterAnswer {invalid : RunOutcome → List AnalysisValidationIssue → AnalysisWork}
    {answer : AnalysisAnswer} (hrecord : state.record? = some (task.context, task.job.id))
    (h : ∀ outcome issues, state.GoesOn (invalid outcome issues)) :
    state.GoesOn (afterAnswer task invalid answer) := by
  cases answer with
  | responded outcome =>
    unfold AnalysisWork.afterAnswer
    dsimp only
    split
    · exact .of_record rfl hrecord.symm rfl
    · exact h _ _
  | _ => exact .leave

private theorem goesOn_of_callback {kind : CallbackKind} {resume : AnalysisWork}
    {rescue : Option JobError → AnalysisWork} (hnext : state.next = .callback kind resume rescue) :
    state.GoesOn resume ∧ ∀ error, state.GoesOn (rescue error) := by
  cases state with
  | started delivery analysisId =>
    cases hnext
    exact ⟨⟨.inr rfl, .inl rfl, rfl⟩, fun _ => .ending⟩
  | announcingUpload | announcingFile | announcingRequest | announcingRepair =>
    cases hnext
    exact ⟨.of_record rfl rfl rfl, fun _ => .leave⟩
  | announcingPublication =>
    cases hnext
    exact ⟨.leave, fun _ => .leave⟩
  | _ => cases hnext

/-- The work goes on after an answer. -/
theorem goesOn_of_request {request : AnalysisCall} {resume : AnalysisAnswer → AnalysisWork}
    (hnext : state.next = .request request resume) (answer : AnalysisAnswer) :
    state.GoesOn (resume answer) := by
  cases state with
  | readingObject task objectKey =>
    cases hnext
    cases answer with
    | object bytes =>
      cases bytes with
      | none => exact .leave
      | some bytes => exact .of_record rfl rfl rfl
    | _ => exact .leave
  | uploading task byteLength =>
    cases hnext
    cases answer with
    | uploaded name => exact .of_record rfl rfl rfl
    | _ => exact .leave
  | awaitingFile task name =>
    cases hnext
    cases answer with
    | active uri => exact .of_record rfl rfl rfl
    | _ => exact .leave
  | requesting task fileUri =>
    cases hnext
    apply GoesOn.afterAnswer rfl
    intro outcome issues
    split
    · exact .of_record rfl rfl rfl
    · exact .of_record rfl rfl rfl
  | repairing task fileUri notJson issues =>
    cases hnext
    apply GoesOn.afterAnswer rfl
    intro outcome issues
    exact .of_record rfl rfl rfl
  | releasing context analysisJobId name last =>
    cases hnext
    exact ⟨.inl rfl, .inl rfl, rfl⟩
  | _ =>
    cases hnext

private theorem goesOn_afterAsset {context : WorkspaceContext} {job : AnalysisJobRecord}
    {analysisId : String} {asset : Option VideoAsset}
    (hrecord : state.record? = some (context, job.id)) :
    state.GoesOn (afterAsset context job analysisId asset) := by
  unfold afterAsset
  split
  · exact .ending
  · split_ifs
    · exact .ending
    · split
      · exact .ending
      · exact .ending
      · dsimp only
        split
        · exact .of_record rfl hrecord.symm rfl
        · exact .of_record rfl hrecord.symm rfl

end AnalysisWork

/-- The analysis jobs after a repair has been taken. -/
def repairedJobs (context : WorkspaceContext) (analysisJobId : String) (rows : List AnalysisJob) :
    List AnalysisJob :=
  rows.map fun row =>
    if row.id == analysisJobId && row.workspaceId == context.workspaceId then
      stagedAnalysisJob (some true) row
    else row

/-- **What a statement of the work does** to the analysis jobs, and where it leads: it loads
the analysis job of the delivery, takes the repair of the one it is on, or leaves them alone. -/
inductive AnalysisStatement (state : AnalysisWork) (rows : List AnalysisJob) :
    List AnalysisJob → AnalysisWork → Prop
  | loads {delivery : Delivery} {analysisId : String} {row : AnalysisJob}
      {job : AnalysisJobRecord} (hstate : state.delivery? = some delivery) (hrow : row ∈ rows)
      (hjob : row.backgroundJobId = delivery.envelope.domainJobId)
      (hworkspace : row.workspaceId = delivery.context.workspaceId) (hid : row.id = job.id) :
      AnalysisStatement state rows rows (.loadingAsset delivery.context job analysisId)
  | repairs {task : AnalysisTask} {fileUri : String} {outcome : RunOutcome}
      {issues : List AnalysisValidationIssue}
      (hstate : state = .recordingRepair task fileUri outcome issues) :
      AnalysisStatement state rows (repairedJobs task.context task.job.id rows)
        (.repairing task fileUri outcome.notJson.isSome issues)
  | goesOn {state' : AnalysisWork} (h : state.GoesOn state') :
      AnalysisStatement state rows rows state'

variable {analysisJobId : String}

section Statements

variable {state : AnalysisWork} {db : Database WorkerTables} {task : AnalysisTask}
  {validationIssues : Option (List String)}

private theorem ensures_recordAnalysisStage {context : WorkspaceContext} {stage : AnalysisJobStage}
    {repairAttempted : Option Bool} :
    (recordAnalysisStage context analysisJobId stage repairAttempted validationIssues).Ensures
      (fun _ db' => db'.analysisJobs = db.analysisJobs.map fun row =>
        if row.id == analysisJobId && row.workspaceId == context.workspaceId then
          stagedAnalysisJob repairAttempted row
        else row) (fun _ => True) db := by
  unfold recordAnalysisStage
  rw [ensures_bind, ensures_analysisJob_updated, ensures_bind]
  apply WorkerTable.ensures_updateMany
  intro rows _
  rfl

private theorem statement_recordingStage {stage : AnalysisJobStage}
    {next : AnalysisWork} (hnext : state.GoesOn next) :
    AnalysisStatement state db.analysisJobs
      (asStatement (recordAnalysisStage task.context task.job.id stage none validationIssues)
        (fun _ => next) (throwing task .other) db).1.1
      (asStatement (recordAnalysisStage task.context task.job.id stage none validationIssues)
        (fun _ => next) (throwing task .other) db).2 := by
  refine asStatement_of_ensures (P := fun contents next =>
    AnalysisStatement state db.analysisJobs contents.1 next)
    (ensures_recordAnalysisStage.mono ?_ fun _ _ => trivial) (.goesOn .leave)
  intro _ db' hrows
  have hsame : db'.analysisJobs = db.analysisJobs := by
    rw [hrows]
    simp [stagedAnalysisJob]
  show AnalysisStatement state db.analysisJobs db'.analysisJobs next
  rw [hsame]
  exact .goesOn hnext

private theorem statement_of_keeps {α : Type} {body : WorkerTransaction α} {next : α → AnalysisWork}
    {rescue : AnalysisWork} (hkeeps : Keeps Database.analysisJobs body)
    (hnext : ∀ value, state.GoesOn (next value)) (hrescue : state.GoesOn rescue) :
    AnalysisStatement state db.analysisJobs (asStatement body next rescue db).1.1
      (asStatement body next rescue db).2 := by
  refine asStatement_of_ensures (P := fun contents next =>
    AnalysisStatement state db.analysisJobs contents.1 next)
    ((hkeeps db).mono ?_ fun _ _ => trivial) (.goesOn hrescue)
  intro value db' hsame
  have hsame' : db'.analysisJobs = db.analysisJobs := hsame
  show AnalysisStatement state db.analysisJobs db'.analysisJobs (next value)
  rw [hsame']
  exact .goesOn (hnext value)

private theorem keeps_recordAnalysisProviderFile {context : WorkspaceContext}
    {providerFileName : Option String} : Keeps Database.analysisJobs
      (recordAnalysisProviderFile context analysisJobId providerFileName) :=
  .bind (WorkerTable.keeps_updateMany fun _ _ => rfl) fun _ => keeps_pure

/-- Every statement of the work is one of these. -/
theorem analysisStatement (db : Database WorkerTables) {run : Database WorkerTables →
      (List AnalysisJob × WorkerTables) × AnalysisWork}
    (hnext : state.next = .statement run) :
    AnalysisStatement state db.analysisJobs (run db).1.1 (run db).2 := by
  cases state with
  | loadingJob delivery analysisId =>
    cases hnext
    refine asStatement_of_ensures (P := fun contents next =>
      AnalysisStatement (.loadingJob delivery analysisId) db.analysisJobs contents.1 next) ?_
      (.goesOn .ending)
    unfold findAnalysisJobForBackgroundJob analysisJob.findFirst WorkerTable.findFirst
    rw [ensures_bind, ensures_read, ensures_bind, ensures_read]
    split
    · next job inputs hjob hinputs =>
      have hselected := List.find?_some hjob
      simp only [Bool.and_eq_true, beq_iff_eq] at hselected
      exact .loads rfl (mem_of_find?_eq_some hjob) hselected.1 hselected.2 rfl
    · exact .goesOn ⟨.inl rfl, .inl rfl, rfl⟩
  | loadingAsset context job analysisId =>
    cases hnext
    exact statement_of_keeps keeps_read (fun _ => goesOn_afterAsset rfl) .ending
  | recordingUpload | recordingWait | recordingRequest =>
    cases hnext
    exact statement_recordingStage (.of_record rfl rfl rfl)
  | recordingRejection =>
    cases hnext
    exact statement_recordingStage .leave
  | recordingFile =>
    cases hnext
    exact statement_of_keeps keeps_recordAnalysisProviderFile (fun _ => .of_record rfl rfl rfl)
      .leave
  | clearing =>
    cases hnext
    exact statement_of_keeps keeps_recordAnalysisProviderFile (fun _ => .ending) .ending
  | recordingRepair task fileUri outcome issues =>
    cases hnext
    refine asStatement_of_ensures (P := fun contents next =>
      AnalysisStatement (.recordingRepair task fileUri outcome issues) db.analysisJobs
        contents.1 next)
      (ensures_recordAnalysisStage.mono ?_ fun _ _ => trivial) (.goesOn .leave)
    intro _ db' hrows
    have hrows' : db'.analysisJobs = repairedJobs task.context task.job.id db.analysisJobs := hrows
    show AnalysisStatement _ db.analysisJobs db'.analysisJobs _
    rw [hrows']
    exact .repairs rfl
  | _ => cases hnext

end Statements

/-! ### Runs -/

/-- The jobs of `analysis.run`, with the work on them. -/
abbrev AnalysisSystem := WorkSystem WorkerTables AnalysisCall AnalysisWork

/-- What the rest of the application does to the analysis jobs: it requests new ones. -/
def RequestsAnalyses (before after : List AnalysisJob × WorkerTables) : Prop :=
  ∃ requested : List AnalysisJob, after.1 = before.1 ++ requested ∧
    ∀ row ∈ requested, row.repairAttempted = false

/-- Analysis jobs keep what they are about. -/
def RecordsKept (rows rows' : List AnalysisJob) : Prop :=
  ∀ row ∈ rows, ∃ row' ∈ rows', row'.id = row.id ∧ row'.workspaceId = row.workspaceId ∧
    row'.backgroundJobId = row.backgroundJobId

/-- The stored bound of a job says that its repair has been spent. -/
def BoundSpent (rows : List AnalysisJob) (jobId : String) : Prop :=
  ∃ row ∈ rows, row.backgroundJobId = jobId ∧ row.repairAttempted = true

section Rows

variable {rows : List AnalysisJob} {jobId : String}

theorem RecordsKept.of_map {update : AnalysisJob → AnalysisJob}
    (h : ∀ row, (update row).id = row.id ∧ (update row).workspaceId = row.workspaceId ∧
      (update row).backgroundJobId = row.backgroundJobId) : RecordsKept rows (rows.map update) :=
  fun row hrow => ⟨update row, mem_map_of_mem hrow, h row⟩

theorem RecordsKept.append (requested : List AnalysisJob) : RecordsKept rows (rows ++ requested) :=
  fun row hrow => ⟨row, mem_append_left _ hrow, rfl, rfl, rfl⟩

variable {context : WorkspaceContext}

private theorem recordsKept_repairedJobs :
    RecordsKept rows (repairedJobs context analysisJobId rows) := by
  apply RecordsKept.of_map
  intro row
  split
  · exact ⟨rfl, rfl, rfl⟩
  · exact ⟨rfl, rfl, rfl⟩

private theorem recordsKept_resetRepairs {workspaceId : String} :
    RecordsKept rows (resetRepairs jobId workspaceId rows) := by
  apply RecordsKept.of_map
  intro row
  split
  · exact ⟨rfl, rfl, rfl⟩
  · exact ⟨rfl, rfl, rfl⟩

private theorem BoundSpent.repairedJobs
    (h : BoundSpent rows jobId) : BoundSpent (repairedJobs context analysisJobId rows) jobId := by
  obtain ⟨row, hrow, hjob, hflag⟩ := h
  refine ⟨_, mem_map_of_mem hrow, ?_, ?_⟩
  · split
    · exact hjob
    · exact hjob
  · split
    · rfl
    · exact hflag

theorem BoundSpent.resetRepairs {other workspaceId : String} (h : BoundSpent rows jobId)
    (hother : other ≠ jobId) : BoundSpent (resetRepairs other workspaceId rows) jobId := by
  obtain ⟨row, hrow, rfl, hflag⟩ := h
  refine ⟨row, mem_map.mpr ⟨row, hrow, if_neg ?_⟩, rfl, hflag⟩
  simp [Ne.symm hother]

private theorem boundSpent_of_repaired
    {row : AnalysisJob} (hrow : row ∈ rows) (hid : row.id = analysisJobId)
    (hworkspace : row.workspaceId = context.workspaceId) (hjob : row.backgroundJobId = jobId) :
    BoundSpent (repairedJobs context analysisJobId rows) jobId := by
  refine ⟨stagedAnalysisJob (some true) row, mem_map.mpr ⟨row, hrow, if_pos ?_⟩, hjob, rfl⟩
  simp [hid, hworkspace]

end Rows

namespace AnalysisSystem

variable {createId : JobClaim → String} {environment : Environment WorkerTables}
  {s : AnalysisSystem} {event : WorkEvent WorkerTables AnalysisAnswer}
  {allowed : AnalysisSystem → WorkEvent WorkerTables AnalysisAnswer → Prop}
  {v v' : WorkView WorkerTables AnalysisCall AnalysisWork} {jobId : String} {period : ℕ}

/-- A step of the system. -/
def Step (createId : JobClaim → String) (environment : Environment WorkerTables)
    (s : AnalysisSystem) (event : WorkEvent WorkerTables AnalysisAnswer) (t : AnalysisSystem) :
    Prop :=
  WorkSystem.Step environment (analysisRunScript createId) RequestsAnalyses s event t

/-- A state that the system can come to by steps which meet a condition, from a state
without analysis jobs. -/
def ReachableBy (allowed : AnalysisSystem → WorkEvent WorkerTables AnalysisAnswer → Prop)
    (createId : JobClaim → String) (environment : Environment WorkerTables) (s : AnalysisSystem) :
    Prop :=
  ∃ clock internalUsers app,
    Transition.Reachable (Transition.Restricted (Step createId environment) allowed)
      (WorkSystem.initial clock internalUsers app) s

/-- The job and the period of the attempt that takes a repair with the event. -/
def taking (s : AnalysisSystem) (event : WorkEvent WorkerTables AnalysisAnswer) :
    Option (String × ℕ) :=
  match event with
  | .statement pid =>
    match s.attempts pid with
    | some ⟨jobId, period, .running (.recordingRepair ..)⟩ => some (jobId, period)
    | _ => none
  | _ => none

/-- **The condition for repairs.** If the event takes the repair of an analysis job, the stored
bound is still open, and no operator has retried the job since the attempt claimed it. -/
def TakesOpenRepair (s : AnalysisSystem) (event : WorkEvent WorkerTables AnalysisAnswer) : Prop :=
  ∀ taken ∈ s.taking event, taken.2 = s.retried.count taken.1 ∧
    ∀ row ∈ s.system.db.analysisJobs, row.backgroundJobId = taken.1 → row.repairAttempted = false

instance : Decidable (TakesOpenRepair s event) :=
  inferInstanceAs (Decidable (∀ taken ∈ _, _))

private theorem taking_eq {pid : ℕ} {attempt : Attempt WorkerTables AnalysisWork}
    {task : AnalysisTask}
    {fileUri : String} {outcome : RunOutcome} {issues : List AnalysisValidationIssue}
    (hattempt : s.attempts pid = some attempt)
    (hwork : attempt.work = .running (.recordingRepair task fileUri outcome issues)) :
    s.taking (.statement pid) = some (attempt.jobId, attempt.period) := by
  obtain ⟨jobId, period, work⟩ := attempt
  cases hwork
  simp only [taking, hattempt]

/-- A request is a repair, sent by an attempt at a job in a period. -/
def isRepairOf (jobId : String) (period : ℕ) (entry : SentRequest AnalysisCall) : Bool :=
  entry.jobId == jobId && entry.period == period &&
    match entry.request with
    | .generateStructuredText prompt => prompt.previousIssues.isSome
    | _ => false

/-! ### What the attempts are on -/

/-- The work is on the analysis job of its attempt. -/
structure Concerns (rows : List AnalysisJob) (jobId : String) (state : AnalysisWork) : Prop where
  delivery : ∀ delivery, state.delivery? = some delivery → delivery.envelope.domainJobId = jobId
  record : ∀ context id, state.record? = some (context, id) →
    ∃ row ∈ rows, row.id = id ∧ row.workspaceId = context.workspaceId ∧ row.backgroundJobId = jobId

/-- Every work is on the analysis job of its attempt. -/
def AttemptsConcern (v : WorkView WorkerTables AnalysisCall AnalysisWork) : Prop :=
  ∀ pid attempt state, v.attempts pid = some attempt → attempt.work.state? = some state →
    Concerns v.analysisJobs attempt.jobId state

theorem Concerns.goesOn {rows : List AnalysisJob} {state state' : AnalysisWork}
    (h : Concerns rows jobId state) (hgoes : state.GoesOn state') :
    Concerns rows jobId state' := by
  constructor
  · intro delivery hdelivery
    rcases hgoes.delivery with hnone | hsame
    · rw [hnone] at hdelivery
      cases hdelivery
    · exact h.delivery delivery (hsame.symm.trans hdelivery)
  · intro context id hrecord
    rcases hgoes.record with hnone | hsame
    · rw [hnone] at hrecord
      cases hrecord
    · exact h.record context id (hsame.symm.trans hrecord)

theorem Concerns.mono {rows rows' : List AnalysisJob} {state : AnalysisWork}
    (h : Concerns rows jobId state) (hkept : RecordsKept rows rows') :
    Concerns rows' jobId state := by
  refine ⟨h.delivery, ?_⟩
  intro context id hrecord
  obtain ⟨row, hrow, rfl, hworkspace, rfl⟩ := h.record context id hrecord
  obtain ⟨row', hrow', hid, hsame, hjob⟩ := hkept row hrow
  exact ⟨row', hrow', hid, hsame.trans hworkspace, hjob⟩

theorem Concerns.statement {rows rows' : List AnalysisJob} {state state' : AnalysisWork}
    (h : Concerns rows jobId state) (hstatement : AnalysisStatement state rows rows' state') :
    RecordsKept rows rows' ∧ Concerns rows' jobId state' := by
  cases hstatement with
  | @loads delivery analysisId row job hstate hrow hjob hworkspace hid =>
    refine ⟨fun row hrow => ⟨row, hrow, rfl, rfl, rfl⟩, ?_⟩
    constructor
    · intro delivery' hdelivery
      cases hdelivery
    · rintro context id ⟨⟩
      exact ⟨row, hrow, hid, hworkspace, hjob.trans (h.delivery delivery hstate)⟩
  | repairs hstate =>
    subst hstate
    refine ⟨recordsKept_repairedJobs, ?_, (h.mono recordsKept_repairedJobs).record⟩
    rintro delivery ⟨⟩
  | goesOn hgoes => exact ⟨fun row hrow => ⟨row, hrow, rfl, rfl, rfl⟩, h.goesOn hgoes⟩

private theorem goesOn_of_move {work work' : Work WorkerTables AnalysisWork} {state' : AnalysisWork}
    (h : LocalMove (analysisRunScript createId) work work') (hstate : work'.state? = some state') :
    ∃ state, work.state? = some state ∧ (state' = state ∨ state.GoesOn state') := by
  cases h with
  | call hnext =>
    cases hstate
    exact ⟨_, rfl, .inl rfl⟩
  | returned hnext =>
    cases hstate
    exact ⟨_, rfl, .inr (goesOn_of_callback hnext).1⟩
  | thrown hnext =>
    cases hstate
    exact ⟨_, rfl, .inr ((goesOn_of_callback hnext).2 _)⟩
  | received hnext =>
    cases hstate
    exact ⟨_, rfl, .inr (goesOn_of_request hnext _)⟩
  | finished hnext => cases hstate

theorem start_eq (createId : JobClaim → String) (delivery : Delivery) (claim : JobClaim) :
    (analysisRunScript createId).start delivery claim = .started delivery (createId claim) ∨
      ∃ last, (analysisRunScript createId).start delivery claim = .ending last := by
  unfold analysisRunScript
  dsimp only
  split_ifs
  · exact .inl rfl
  · exact .inr ⟨_, rfl⟩

private theorem recordsKept_move (h : AttemptsConcern v)
    (hmove : WorkMove (analysisRunScript createId) RequestsAnalyses event v v') :
    RecordsKept v.analysisJobs v'.analysisJobs := by
  have hrefl : RecordsKept v.analysisJobs v.analysisJobs := fun row hrow =>
    ⟨row, hrow, rfl, rfl, rfl⟩
  cases hmove with
  | retry => exact recordsKept_resetRepairs
  | @statement _ pid attempt state run db hattempt hwork hnext hcontents =>
    have hrows : db.analysisJobs = v.analysisJobs := congrArg Prod.fst hcontents
    have hstatement := analysisStatement db hnext
    rw [hrows] at hstatement
    exact ((h pid attempt state hattempt (by rw [hwork]; rfl)).statement hstatement).1
  | @others _ analysisJobs app hothers =>
    obtain ⟨requested, hrows, -⟩ := hothers
    show RecordsKept _ analysisJobs
    rw [show analysisJobs = _ from hrows]
    exact RecordsKept.append requested
  | _ => exact hrefl

/-- **Step lemma.** Every move keeps the works on the analysis jobs of their attempts. -/
theorem attemptsConcern_move (h : AttemptsConcern v)
    (hmove : WorkMove (analysisRunScript createId) RequestsAnalyses event v v') :
    AttemptsConcern v' := by
  have hkept := recordsKept_move h hmove
  -- one attempt goes on, and the others stay
  have hupdate : ∀ {pid : ℕ} {attempt : Attempt WorkerTables AnalysisWork},
      v'.attempts = Function.update v.attempts pid (some attempt) →
      (∀ state, attempt.work.state? = some state →
        Concerns v'.analysisJobs attempt.jobId state) → AttemptsConcern v' := by
    intro pid attempt hattempts hconcerns other held state hheld hstate
    rw [hattempts] at hheld
    by_cases hother : other = pid
    · subst hother
      rw [Function.update_self] at hheld
      cases hheld
      exact hconcerns state hstate
    · rw [Function.update_of_ne hother] at hheld
      exact (h other held state hheld hstate).mono hkept
  cases hmove with
  | idle => exact h
  | retry | commit | others =>
    intro pid attempt state hattempt hstate
    exact (h pid attempt state hattempt hstate).mono hkept
  | @begin _ pid delivery claim period hnew hperiod =>
    apply hupdate rfl
    intro state hstate
    have hstart : state = (analysisRunScript createId).start delivery claim :=
      (Option.some.inj hstate).symm
    rcases start_eq createId delivery claim with heq | ⟨last, heq⟩
    · rw [hstart, heq]
      constructor
      · rintro delivery' ⟨⟩
        rfl
      · rintro context id ⟨⟩
    · rw [hstart, heq]
      constructor
      · rintro delivery' ⟨⟩
      · rintro context id ⟨⟩
  | @goOn _ _ pid attempt work hattempt hmove =>
    apply hupdate rfl
    intro state' hstate
    obtain ⟨state, hbefore, hsame | hgoes⟩ := goesOn_of_move hmove hstate
    · rw [hsame]
      exact h pid attempt state hattempt hbefore
    · exact (h pid attempt state hattempt hbefore).goesOn hgoes
  | @statement _ pid attempt state run db hattempt hwork hnext hcontents =>
    apply hupdate rfl
    rintro state' ⟨⟩
    have hrows : db.analysisJobs = v.analysisJobs := congrArg Prod.fst hcontents
    have hstatement := analysisStatement db hnext
    rw [hrows] at hstatement
    exact ((h pid attempt state hattempt (by rw [hwork]; rfl)).statement hstatement).2
  | @send _ pid attempt state request resume hattempt hwork hnext =>
    apply hupdate rfl
    rintro state' ⟨⟩
    exact h pid attempt state hattempt (by rw [hwork]; rfl)

/-! ### Repairs -/

/-- In this state a work has taken the repair of a job in a period, and has not sent it yet. -/
def takesRepair (jobId : String) (period : ℕ) (jobId' : String) (period' : ℕ)
    (state : AnalysisWork) : Prop :=
  jobId' = jobId ∧ period' = period ∧ state.isRepairing = true

/-- The repair of a job in a period has been spent: in the present period the stored bound
says so. -/
def RepairSpent (v : WorkView WorkerTables AnalysisCall AnalysisWork) (jobId : String)
    (period : ℕ) : Prop :=
  period = v.retried.count jobId → BoundSpent v.analysisJobs jobId

/-- The repair of each job in each period is an allowance that the works share. -/
def RepairsAllowed (v : WorkView WorkerTables AnalysisCall AnalysisWork) : Prop :=
  ∀ jobId period,
    v.Allowed (takesRepair jobId period) (isRepairOf jobId period) (RepairSpent v jobId period)

/-- The script takes the repair of a job before it sends it. -/
theorem obeys_repair :
    (analysisRunScript createId).Obeys (takesRepair jobId period) (isRepairOf jobId period) := by
  constructor
  · rintro delivery claim period ⟨-, -, hrepairing⟩
    rcases start_eq createId delivery claim with heq | ⟨last, heq⟩
    · rw [heq] at hrepairing
      cases hrepairing
    · rw [heq] at hrepairing
      cases hrepairing
  · rintro work state hmove jobId period ⟨-, -, hrepairing⟩
    generalize hwork : (Work.running state : Work WorkerTables AnalysisWork) = work' at hmove
    have hgoes : ∀ {before : AnalysisWork}, before.GoesOn state → False := by
      intro before hgoes
      rw [hgoes.repair] at hrepairing
      cases hrepairing
    cases hmove with
    | call | finished => cases hwork
    | returned hnext =>
      cases hwork
      exact hgoes (goesOn_of_callback hnext).1
    | thrown hnext =>
      cases hwork
      exact hgoes ((goesOn_of_callback hnext).2 _)
    | received hnext =>
      cases hwork
      exact hgoes (goesOn_of_request hnext _)
  · intro state request resume hnext jobId' period' hrepair
    simp only [isRepairOf, Bool.and_eq_true, beq_iff_eq] at hrepair
    refine ⟨hrepair.1.1, hrepair.1.2, ?_⟩
    cases state with
    | repairing task fileUri notJson issues => rfl
    | readingObject | uploading | awaitingFile | requesting | releasing =>
      cases hnext
      cases hrepair.2
    | _ => cases hnext

private theorem boundSpent_move
    (hmove : WorkMove (analysisRunScript createId) RequestsAnalyses event v v')
    (hsame : v'.retried.count jobId = v.retried.count jobId)
    (h : BoundSpent v.analysisJobs jobId) : BoundSpent v'.analysisJobs jobId := by
  cases hmove with
  | @retry _ _ other workspaceId =>
    apply h.resetRepairs
    rintro rfl
    have hcount : (other :: v.retried).count other = v.retried.count other := hsame
    rw [count_cons_self] at hcount
    omega
  | @statement _ pid attempt state run db hattempt hwork hnext hcontents =>
    have hrows : db.analysisJobs = v.analysisJobs := congrArg Prod.fst hcontents
    have hstatement := analysisStatement db hnext
    rw [hrows] at hstatement
    show BoundSpent (run db).1.1 jobId
    generalize (run db).1.1 = rows' at hstatement
    generalize (run db).2 = state' at hstatement
    cases hstatement with
    | loads | goesOn => exact h
    | repairs => exact h.repairedJobs
  | @others _ analysisJobs app hothers =>
    obtain ⟨requested, hrows, -⟩ := hothers
    obtain ⟨row, hrow, hjob, hflag⟩ := h
    refine ⟨row, ?_, hjob, hflag⟩
    show row ∈ analysisJobs
    rw [show analysisJobs = _ from hrows]
    exact mem_append_left _ hrow
  | _ => exact h

private theorem retried_move (jobId : String)
    (hmove : WorkMove (analysisRunScript createId) RequestsAnalyses event v v') :
    v'.retried.count jobId = v.retried.count jobId ∨
      v'.retried.count jobId = v.retried.count jobId + 1 ∧
        v'.attempts = v.attempts ∧ v'.sent = v.sent := by
  cases hmove with
  | @retry _ _ other workspaceId =>
    by_cases hother : other = jobId
    · subst hother
      exact .inr ⟨count_cons_self, rfl, rfl⟩
    · exact .inl (count_cons_of_ne hother)
  | _ => exact .inl rfl

/-- **Step lemma.** A step that takes no spent repair keeps the allowances: a retry opens a
period in which no attempt has begun. -/
theorem repairsAllowed_move (hallowed : TakesOpenRepair s event) (hconcern : AttemptsConcern s.view)
    (htimely : s.view.Timely) (h : RepairsAllowed s.view)
    (hmove : WorkMove (analysisRunScript createId) RequestsAnalyses event s.view v) :
    RepairsAllowed v := by
  intro jobId period
  rcases retried_move jobId hmove with hsame | ⟨hretried, hattempts, hsent⟩
  · apply (h jobId period).move obeys_repair ?_ ?_ hmove
    · intro hspent hperiod
      exact boundSpent_move hmove hsame (hspent (hperiod.trans hsame))
    · rintro pid attempt state run db rfl hattempt hwork hnext hcontents ⟨rfl, rfl, hrepairing⟩
      have hrows : db.analysisJobs = s.system.db.analysisJobs := congrArg Prod.fst hcontents
      have hstatement := analysisStatement db hnext
      have hstate := hconcern pid attempt state hattempt (by rw [hwork]; rfl)
      generalize hafter : (run db).1.1 = rows' at hstatement
      generalize (run db).2 = state' at hstatement hrepairing
      cases hstatement with
      | loads => cases hrepairing
      | goesOn hgoes =>
        rw [hgoes.repair] at hrepairing
        cases hrepairing
      | @repairs task fileUri outcome issues hstate' =>
        subst hstate'
        obtain ⟨hperiod, hopen⟩ := hallowed _ (taking_eq hattempt hwork)
        obtain ⟨row, hrow, hid, hworkspace, hjob⟩ := hstate.record _ _ rfl
        constructor
        · intro hspent
          obtain ⟨flagged, hflagged, hflaggedJob, hflag⟩ := hspent hperiod
          rw [hopen flagged hflagged hflaggedJob] at hflag
          cases hflag
        · intro hcontents' _
          have hview : v.analysisJobs = (run db).1.1 := congrArg Prod.fst hcontents'
          rw [hview, hafter, hrows]
          exact boundSpent_of_repaired hrow hid hworkspace hjob
  · by_cases hperiod : period = v.retried.count jobId
    · -- the new period: no attempt has begun, and nothing was sent
      have hfresh : s.view.Allowed (takesRepair jobId period) (isRepairOf jobId period)
          (RepairSpent v jobId period) := by
        apply htimely.allowed
        · rintro jobId' period' state ⟨rfl, rfl, -⟩
          omega
        · intro entry hentry
          simp only [isRepairOf, Bool.and_eq_true, beq_iff_eq] at hentry
          rw [hentry.1.1, hentry.1.2]
          omega
      unfold WorkView.Allowed WorkView.Holds at hfresh ⊢
      rw [hattempts, hsent]
      exact hfresh
    · have hbefore := h jobId period
      unfold WorkView.Allowed WorkView.Holds at hbefore ⊢
      rw [hattempts, hsent]
      exact hbefore.mono (fun _ hholds => hholds) fun _ hpresent => absurd hpresent hperiod

/-- **One repair for each period of an analysis job**, in every run in which the bound is
open, and the job has not been retried since the claim, whenever a repair is taken. -/
theorem repairs_le_one (hreach : ReachableBy TakesOpenRepair createId environment s)
    (jobId : String) (period : ℕ) : s.sent.countP (isRepairOf jobId period) ≤ 1 := by
  obtain ⟨clock, internalUsers, app, hrun⟩ := hreach
  have hall : s.Inv ∧ s.view.From (analysisRunScript createId) ∧
      AttemptsConcern s.view ∧ s.view.Timely ∧ RepairsAllowed s.view := by
    refine (WorkSystem.inv_initial clock internalUsers app).run (J := fun v =>
      AttemptsConcern v ∧ v.Timely ∧ RepairsAllowed v) ?_ ⟨?_, ⟨?_, ?_⟩, ?_⟩ ?_ hrun
    · rintro pid attempt ⟨⟩
    · rintro pid attempt state ⟨⟩
    · rintro pid attempt ⟨⟩
    · rintro entry ⟨⟩
    · intro jobId period
      apply Allowance.fresh
      rintro pid ⟨attempt, state, hattempt, -, -⟩
      cases hattempt
    · rintro s event v hallowed - ⟨hconcern, htimely, hbefore⟩ hmove
      exact ⟨attemptsConcern_move hconcern hmove, htimely.move hmove,
        repairsAllowed_move hallowed hconcern htimely hbefore hmove⟩
  exact (hall.2.2.2.2 jobId period).uses_le

/-! ### A small deployment -/

namespace Sample

open WorkSample

/-- The callbacks of `analysis.run`. -/
def callbacks : Environment WorkerTables where
  resultExists _ _ := some false
  inspectResult _ _ := some .absent
  retryCallbacks := ⟨fun _ _ => some false, fun _ _ => some ⟨true, none⟩⟩

def job : AnalysisJob := ⟨"analysis", WorkSample.jobId, "workspace", false⟩

def inputs : AnalysisRequest where
  id := "analysis"
  workspaceId := "workspace"
  backgroundJobId := WorkSample.jobId
  instagramPostId := "post"
  videoAssetId := "asset"
  requestSignature := "signature"
  stage := .queued
  providerFileName := some "file"

def asset : VideoAsset where
  id := "asset"
  workspaceId := "workspace"
  instagramPostId := "post"
  origin := .userUpload
  uploadIntentId := some "intent"
  importJobId := none
  objectKey := "uploads/intent"
  objectVersion := none
  etag := "etag"
  bytes := 1000
  contentType := some "video/mp4"
  state := .ready
  measurements := ⟨none, some "mp4", some 1000, some 1920, some "h264", some 1080⟩
  rejectionCode := none
  validatedAt := some 0
  purgeAfter := none
  purgedAt := none

theorem inputs_accepted : analysisRequestSchema.violation [inputs] = none := by
  decide +kernel

theorem asset_accepted : videoAssetSchema.violation [asset] = none := by
  decide +kernel

def requested : List (WorkEvent WorkerTables AnalysisAnswer) :=
  [enqueued "analysis.run",
    .others [job]
      { WorkerTables.empty with
        analysisRequests := ⟨[inputs], inputs_accepted⟩
        videoAssets := ⟨[asset], asset_accepted⟩ }]

def invalid : RunOutcome := ⟨.inr [⟨"SCHEMA_INVALID", "Too long (too_big)", "craft"⟩], {}, none⟩

/-- A handler works up to the point where it records its repair. -/
def loaded (pid : ℕ) (now : ℤ) (leaseId : String) : List (WorkEvent WorkerTables AnalysisAnswer) :=
  begun "analysis.run" pid now leaseId ++ announced pid (10 * pid + 10) now ++
    [.statement pid, .statement pid] ++ announced pid (10 * pid + 11) now ++
    [.statement pid, .send pid, .receive pid (.active "uri")] ++
    announced pid (10 * pid + 12) now ++
    [.statement pid, .send pid, .receive pid (.responded invalid)] ++
    announced pid (10 * pid + 13) now

/-- A handler is overtaken before it records its repair, which another one sends. -/
def repaired : List (WorkEvent WorkerTables AnalysisAnswer) :=
  requested ++ loaded 0 0 "lease-0" ++ recovered ++ loaded 1 200000 "lease-1" ++
    [.statement 1, .send 1]

/-- Which steps a run may take: a condition holds, and the rest of the application requests
the analysis. -/
def admits (allowed : AnalysisSystem → WorkEvent WorkerTables AnalysisAnswer → Bool)
    (s : AnalysisSystem) (event : WorkEvent WorkerTables AnalysisAnswer) : Bool :=
  allowed s event &&
    match event with
    | .others analysisJobs _ => analysisJobs == s.system.db.analysisJobs ++ [job]
    | _ => true

/-- The state that events lead to, if each step meets a condition. -/
def after (allowed : AnalysisSystem → WorkEvent WorkerTables AnalysisAnswer → Prop)
    [∀ s event, Decidable (allowed s event)]
    (events : List (WorkEvent WorkerTables AnalysisAnswer)) : Option AnalysisSystem :=
  WorkSystem.replay callbacks (analysisRunScript JobClaim.leaseId)
    (admits fun s event => decide (allowed s event))
    (WorkSystem.initial 0 [] WorkerTables.empty) events

theorem reachable_after {allowed : AnalysisSystem → WorkEvent WorkerTables AnalysisAnswer → Prop}
    [∀ s event, Decidable (allowed s event)] {events : List (WorkEvent WorkerTables AnalysisAnswer)}
    {s : AnalysisSystem} (hafter : after allowed events = some s) :
    ReachableBy allowed JobClaim.leaseId callbacks s := by
  refine ⟨0, [], WorkerTables.empty, WorkSystem.reachable_of_replay ?_ .refl hafter⟩
  intro s event hadmits
  unfold admits at hadmits
  obtain ⟨hallowed, hothers⟩ := Bool.and_eq_true_iff.mp hadmits
  refine ⟨of_decide_eq_true hallowed, ?_⟩
  rintro analysisJobs app rfl
  refine ⟨[job], beq_iff_eq.mp hothers, ?_⟩
  intro row hrow
  rw [mem_singleton.mp hrow]
  rfl

end Sample

end AnalysisSystem

/-! ### Paid repairs -/

variable {environment environment' : Environment WorkerTables} {createId : JobClaim → String}
  {s : StrategySystem} {t : AnalysisSystem}

/-- **At most one repair is paid for**, in every run of strategies and of analyses in which
the stored bound is still open whenever a repair is taken: one for each generation, and one
for each analysis job between two retries by operators. -/
theorem one_repair_is_paid
    (hs : StrategySystem.ReachableBy StrategySystem.TakesOpenRepair environment s)
    (ht : AnalysisSystem.ReachableBy AnalysisSystem.TakesOpenRepair createId environment' t) :
    (∀ id, s.sent.countP (StrategySystem.isRepairOf id) ≤ 1) ∧
      ∀ jobId period, t.sent.countP (AnalysisSystem.isRepairOf jobId period) ≤ 1 :=
  ⟨StrategySystem.repairs_le_one hs, AnalysisSystem.repairs_le_one ht⟩

/-- The handler that was not overtaken has sent the only repair. -/
theorem one_repair_is_paid_sample : ∃ (s : StrategySystem) (t : AnalysisSystem),
    s.sent.countP (StrategySystem.isRepairOf "generation") = 1 ∧
      t.sent.countP (AnalysisSystem.isRepairOf WorkSample.jobId 0) = 1 ∧
      (∀ id, s.sent.countP (StrategySystem.isRepairOf id) ≤ 1) ∧
      ∀ jobId period, t.sent.countP (AnalysisSystem.isRepairOf jobId period) ≤ 1 := by
  have hstrategies : (after StrategySystem.TakesOpenRepair
      repaired).map (fun s =>
        s.sent.countP (StrategySystem.isRepairOf "generation")) = some 1 := by
    decide +kernel
  have hanalyses : (AnalysisSystem.Sample.after AnalysisSystem.TakesOpenRepair
      AnalysisSystem.Sample.repaired).map (fun t =>
        t.sent.countP (AnalysisSystem.isRepairOf WorkSample.jobId 0)) = some 1 := by
    decide +kernel
  obtain ⟨s, hs, hcount⟩ := Option.map_eq_some_iff.mp hstrategies
  obtain ⟨t, ht, hcount'⟩ := Option.map_eq_some_iff.mp hanalyses
  exact ⟨s, t, hcount, hcount', one_repair_is_paid (reachable_after hs)
    (AnalysisSystem.Sample.reachable_after ht)⟩

/-- **Two repairs are paid for.** The handler that was overtaken records its repair after the
other has sent one, and sends one too. -/
theorem two_repairs_are_paid :
    (∃ s, StrategySystem.ReachableBy (fun _ _ => True) StrategySystem.Sample.callbacks s ∧
      s.sent.countP (StrategySystem.isRepairOf "generation") = 2) ∧
    ∃ t, AnalysisSystem.ReachableBy (fun _ _ => True) JobClaim.leaseId
        AnalysisSystem.Sample.callbacks t ∧
      t.sent.countP (AnalysisSystem.isRepairOf WorkSample.jobId 0) = 2 := by
  have hstrategies : (after (fun _ _ => True)
      (repaired ++ [.statement 0, .send 0])).map (fun s =>
        s.sent.countP (StrategySystem.isRepairOf "generation")) = some 2 := by
    decide +kernel
  have hanalyses : (AnalysisSystem.Sample.after (fun _ _ => True)
      (AnalysisSystem.Sample.repaired ++ [.statement 0, .send 0])).map (fun t =>
        t.sent.countP (AnalysisSystem.isRepairOf WorkSample.jobId 0)) = some 2 := by
    decide +kernel
  obtain ⟨s, hs, hcount⟩ := Option.map_eq_some_iff.mp hstrategies
  obtain ⟨t, ht, hcount'⟩ := Option.map_eq_some_iff.mp hanalyses
  exact ⟨⟨s, reachable_after hs, hcount⟩,
    ⟨t, AnalysisSystem.Sample.reachable_after ht, hcount'⟩⟩

end ContentAutomation
