import ContentAutomation.Worker.Repairs
import ContentAutomation.Worker.Writes

/-!
# Generating a strategy

The work of `strategy.generate`: it loads the frozen generation of its job, asks the
model, asks once more if the answer is not valid, and publishes. On the way it records
its stage on connections of its own, so that a worker which has lost its lease may write
after another has published. A published strategy stays as it is in every run in which no
stage is recorded on it, and a generation pays for one repair in every run in which the
stored bound is still open whenever it is taken.
-/

namespace ContentAutomation

open Relational Transaction List

/-! ### Writes -/

/-- `FrozenStrategyGeneration`, without the texts of its evidence. -/
structure FrozenStrategyGeneration where
  id : String
  instagramAccountId : Option String
  entryCount : ℕ
  repairAttempted : Bool

/-- `findStrategyGenerationForJob`. -/
def findStrategyGenerationForJob (context : WorkspaceContext) (backgroundJobId : String) :
    WorkerTransaction (Option FrozenStrategyGeneration) := do
  let generation ← strategyGeneration.findFirst fun row =>
    row.backgroundJobId == backgroundJobId && row.workspaceId == context.workspaceId
  pure (generation.map fun row =>
    { id := row.id
      instagramAccountId := row.instagramAccountId
      entryCount := row.evidenceCount
      repairAttempted := row.repairAttempted })

/-- `strategyResultExistsForJob`. -/
def strategyResultExistsForJob (context : WorkspaceContext) (backgroundJobId : String)
    (db : Database WorkerTables) : Bool :=
  db.app.strategyGenerations.rows.any fun row =>
    row.backgroundJobId == backgroundJobId && row.result.isSome &&
      row.workspaceId == context.workspaceId

/-- A generation after a stage has been recorded. -/
def stagedGeneration (stage : StrategyGenerationStage) (repairAttempted : Option Bool)
    (row : StrategyGeneration) : StrategyGeneration :=
  { row with
    repairAttempted := repairAttempted.getD row.repairAttempted
    stage
    state := .processing }

/-- `recordStrategyStage`. -/
def recordStrategyStage (context : WorkspaceContext) (strategyGenerationId : String)
    (stage : StrategyGenerationStage) (repairAttempted : Option Bool) : WorkerTransaction Unit := do
  let _ ← strategyGeneration.updateMany (stagedGeneration stage repairAttempted) fun row =>
    row.id == strategyGenerationId && row.workspaceId == context.workspaceId
  pure ()

/-- A generation after a failure. -/
def failedGeneration (failure : JobFailure) (now : ℤ) (row : StrategyGeneration) :
    StrategyGeneration :=
  { row with
    completedAt := some now
    failureClass := some failure.errorClass
    failureCode := some failure.errorCode
    state := .failed }

/-- `failStrategyGeneration`. -/
def failStrategyGeneration (context : WorkspaceContext) (failure : JobFailure) (now : ℤ)
    (strategyGenerationId : String) : WorkerTransaction Unit := do
  let _ ← strategyGeneration.updateMany (failedGeneration failure now) fun row =>
    row.id == strategyGenerationId && row.result.isNone && row.workspaceId == context.workspaceId
  pure ()

/-- The generations that `loadCurrentPooledStrategy` selects from. -/
def pooledStrategies (context : WorkspaceContext) (db : Database WorkerTables) :
    List StrategyGeneration :=
  db.app.strategyGenerations.rows.filter fun row =>
    row.instagramAccountId.isNone && row.state == .succeeded &&
      row.workspaceId == context.workspaceId

/-! ### The work -/

/-- `GeminiResponseClass`. -/
inductive GeminiResponseClass
  | rateLimit | timeout | transient | fileFailed | safetyBlocked | noCandidate | truncated
  | authorisation | invalidRequest

/-- `toJobFailure`. -/
def toJobFailure (responseClass : GeminiResponseClass) (retryAfterMs : Option ℚ) : JobFailure :=
  match responseClass with
  | .rateLimit => ⟨none, .rateLimit, "ANALYSIS_PROVIDER_RATE_LIMITED", retryAfterMs⟩
  | .timeout | .transient => ⟨none, .transient, "ANALYSIS_PROVIDER_UNAVAILABLE", none⟩
  | .fileFailed => ⟨none, .transient, "ANALYSIS_PROVIDER_FILE_FAILED", none⟩
  | .safetyBlocked => ⟨none, .semanticOutput, "ANALYSIS_RESPONSE_BLOCKED", none⟩
  | .noCandidate => ⟨none, .semanticOutput, "ANALYSIS_RESPONSE_EMPTY", none⟩
  | .truncated => ⟨none, .semanticOutput, "ANALYSIS_RESPONSE_TRUNCATED", none⟩
  | .authorisation => ⟨none, .unknown, "ANALYSIS_PROVIDER_UNAUTHORISED", none⟩
  | .invalidRequest => ⟨none, .invalidInput, "ANALYSIS_REQUEST_REJECTED", none⟩

/-- A strategy that has been validated, with what is stored beside it. -/
structure ValidStrategy where
  result : String
  recommendationFingerprints : List String
  telemetry : ModelTelemetry

/-- What comes back for a request to the model. -/
inductive StrategyAnswer
  | valid (strategy : ValidStrategy)
  | invalid
  | notJson
  | failed (responseClass : GeminiResponseClass) (retryAfterMs : Option ℚ)

/-- A request to the model for a strategy. -/
structure StrategyRequest where
  strategyGenerationId : String
  repair : Bool

/-- What the work has loaded. -/
structure StrategyTask where
  context : WorkspaceContext
  generation : FrozenStrategyGeneration

/-- Where `generate` stands, before what it does next. -/
inductive StrategyWork
  | started (delivery : Delivery)
  | loading (delivery : Delivery)
  | announcingRequest (task : StrategyTask)
  | recordingRequest (task : StrategyTask)
  | requesting (task : StrategyTask)
  | announcingRepair (task : StrategyTask)
  | recordingRepair (task : StrategyTask)
  | repairing (task : StrategyTask)
  | recordingFailure (task : StrategyTask) (failure : JobFailure)
  | announcingPublication (task : StrategyTask) (strategy : ValidStrategy)
  | returning (task : StrategyTask) (strategy : ValidStrategy)
  | throwing (exception : WorkException)

namespace StrategyWork

/-- A `JobHandlerFailure`. -/
def throwingFailure (errorClass : JobFailureClass) (errorCode : String) : StrategyWork :=
  .throwing (.failure ⟨none, errorClass, errorCode, none⟩)

/-- `generate` after it has loaded the generation. -/
def afterLoading (context : WorkspaceContext) : Option FrozenStrategyGeneration → StrategyWork
  | none => throwingFailure .invalidInput "STRATEGY_GENERATION_MISSING"
  | some generation =>
    if generation.entryCount = 0 then throwingFailure .invalidInput "STRATEGY_MANIFEST_EMPTY"
    else .announcingRequest ⟨context, generation⟩

/-- The failure of a generation without a valid strategy. -/
def responseInvalid : JobFailure := ⟨none, .semanticOutput, "STRATEGY_RESPONSE_INVALID", none⟩

/-- `generate` after an answer, of which the last invalid one is final. -/
def afterAnswer (task : StrategyTask) (invalid : StrategyWork) : StrategyAnswer → StrategyWork
  | .valid strategy => .announcingPublication task strategy
  | .invalid => invalid
  | .notJson => throwingFailure .semanticOutput "STRATEGY_RESPONSE_NOT_JSON"
  | .failed responseClass retryAfterMs =>
    .recordingFailure task (toJobFailure responseClass retryAfterMs)

/-- `generate` after an answer to its first request. -/
def afterRequest (task : StrategyTask) : StrategyAnswer → StrategyWork :=
  afterAnswer task
    (if task.generation.repairAttempted then .recordingFailure task responseInvalid
    else .announcingRepair task)

/-- `generate` after an answer to its repair. -/
def afterRepair (task : StrategyTask) : StrategyAnswer → StrategyWork :=
  afterAnswer task (.recordingFailure task responseInvalid)

/-- What a callback throws is thrown on. -/
def rethrow (error : Option JobError) : StrategyWork := .throwing (.ofCallback error)

/-- `result.commit`. -/
def commit (task : StrategyTask) (strategy : ValidStrategy) : WorkerTransaction Bool := do
  let now ← read Database.clock
  publishStrategyGeneration task.context
    { generatedAt := now
      instagramAccountId := task.generation.instagramAccountId
      recommendationFingerprints := strategy.recommendationFingerprints
      result := strategy.result
      strategyGenerationId := task.generation.id
      telemetry := strategy.telemetry }

/-- What `generate` does next. -/
def next : StrategyWork → Instruction WorkerTables StrategyRequest StrategyAnswer StrategyWork
  | .started delivery =>
    .callback (.recordStage "loading_manifest") (.loading delivery) rethrow
  | .loading delivery =>
    .statement (asStatement
      (findStrategyGenerationForJob delivery.context delivery.envelope.domainJobId)
      (afterLoading delivery.context) (.throwing .other))
  | .announcingRequest task =>
    .callback (.recordStage "requesting_strategy") (.recordingRequest task) rethrow
  | .recordingRequest task =>
    .statement (asStatement (recordStrategyStage task.context task.generation.id .requesting none)
      (fun _ => .requesting task) (.throwing .other))
  | .requesting task => .request ⟨task.generation.id, false⟩ (afterRequest task)
  | .announcingRepair task =>
    .callback (.recordStage "repairing") (.recordingRepair task) rethrow
  | .recordingRepair task =>
    .statement (asStatement
      (recordStrategyStage task.context task.generation.id .repairing (some true))
      (fun _ => .repairing task) (.throwing .other))
  | .repairing task => .request ⟨task.generation.id, true⟩ (afterRepair task)
  | .recordingFailure task failure =>
    .statement fun db => asStatement
      (failStrategyGeneration task.context failure db.clock task.generation.id)
      (fun _ => .throwing (.failure failure)) (.throwing .other) db
  | .announcingPublication task strategy =>
    .callback (.recordStage "publishing") (.returning task strategy) rethrow
  | .returning task strategy => .finish (.returned [asEffect (commit task strategy)])
  | .throwing exception => .finish exception.outcome

end StrategyWork

open StrategyWork

/-- The handler of `strategy.generate`. -/
def strategyGenerateScript : Script WorkerTables StrategyRequest StrategyAnswer StrategyWork where
  start delivery _ :=
    if (parseCorrelationId delivery.envelope.correlationId).isSome then .started delivery
    else throwingFailure .invalidInput "STRATEGY_CORRELATION_INVALID"
  next := next

/-! ### What the writes keep -/

section Writes

variable {context : WorkspaceContext} {db : Database WorkerTables}
  {rows rows' rows'' : List StrategyGeneration}

/-- A generation has succeeded exactly when its result is stored. -/
def StrategyGeneration.IsSettled (row : StrategyGeneration) : Prop :=
  row.result.isSome = true ↔ row.state = .succeeded

/-- Published generations stay as they are, and the state of a generation tells whether
it is published. -/
structure PublicationsKept (rows rows' : List StrategyGeneration) : Prop where
  published : ∀ row ∈ rows, row.result.isSome = true → row ∈ rows'
  settled : (∀ row ∈ rows, row.IsSettled) → ∀ row ∈ rows', row.IsSettled

/-- No generation gets its repair back. -/
def RepairsKept (rows rows' : List StrategyGeneration) : Prop :=
  ∀ row ∈ rows, row.repairAttempted = true →
    ∃ row' ∈ rows', row'.id = row.id ∧ row'.repairAttempted = true

theorem PublicationsKept.refl : PublicationsKept rows rows := ⟨fun _ h _ => h, fun h => h⟩

theorem PublicationsKept.trans (h : PublicationsKept rows rows')
    (h' : PublicationsKept rows' rows'') : PublicationsKept rows rows'' := by
  constructor
  · intro row hrow hpublished
    exact h'.published row (h.published row hrow hpublished) hpublished
  · intro hsettled
    exact h'.settled (h.settled hsettled)

theorem RepairsKept.refl : RepairsKept rows rows := fun row h hflag => ⟨row, h, rfl, hflag⟩

theorem RepairsKept.trans (h : RepairsKept rows rows') (h' : RepairsKept rows' rows'') :
    RepairsKept rows rows'' := by
  intro row hrow hflag
  obtain ⟨row', hrow', hid, hflag'⟩ := h row hrow hflag
  obtain ⟨row'', hrow'', hid', hflag''⟩ := h' row' hrow' hflag'
  exact ⟨row'', hrow'', hid'.trans hid, hflag''⟩

/-- The rows after an update. -/
def updatedRows (data : StrategyGeneration → StrategyGeneration)
    (selects : StrategyGeneration → Bool) (rows : List StrategyGeneration) :
    List StrategyGeneration := rows.map fun row => if selects row then data row else row

variable {data : StrategyGeneration → StrategyGeneration} {selects : StrategyGeneration → Bool}

/-- An update of unpublished generations that tells by their state whether it publishes them
keeps the publications. -/
theorem PublicationsKept.of_update
    (hunpublished : ∀ row ∈ rows, selects row → row.result = none)
    (hsettled : ∀ row, row.result = none → (data row).IsSettled) :
    PublicationsKept rows (updatedRows data selects rows) := by
  constructor
  · intro row hrow hpublished
    refine mem_map.mpr ⟨row, hrow, ?_⟩
    split
    · next hselected =>
      rw [hunpublished row hrow hselected] at hpublished
      cases hpublished
    · rfl
  · intro hbefore row' hrow'
    obtain ⟨row, hrow, rfl⟩ := mem_map.mp hrow'
    split
    · next hselected => exact hsettled row (hunpublished row hrow hselected)
    · exact hbefore row hrow

theorem RepairsKept.of_update (hid : ∀ row, (data row).id = row.id)
    (hflag : ∀ row, row.repairAttempted → (data row).repairAttempted) :
    RepairsKept rows (updatedRows data selects rows) := by
  intro row hrow hrepaired
  refine ⟨_, mem_map_of_mem hrow, ?_, ?_⟩
  · split
    · exact hid row
    · rfl
  · split
    · exact hflag row hrepaired
    · exact hrepaired

/-- The generations of a database. -/
def Database.generations (db : Database WorkerTables) : List StrategyGeneration :=
  db.app.strategyGenerations.rows

/-- The generation that a write is about. -/
def isGeneration (context : WorkspaceContext) (id : String) (row : StrategyGeneration) : Bool :=
  row.id == id && row.workspaceId == context.workspaceId

private theorem ensures_recordStrategyStage {id : String} {stage : StrategyGenerationStage}
    {repairAttempted : Option Bool} :
    (recordStrategyStage context id stage repairAttempted).Ensures
      (fun _ db' => db'.generations =
        updatedRows (stagedGeneration stage repairAttempted) (isGeneration context id)
          db.generations) (fun _ => True) db := by
  unfold recordStrategyStage
  rw [ensures_bind]
  apply WorkerTable.ensures_updateMany
  intro rows hrows
  exact hrows

private theorem ensures_failStrategyGeneration {failure : JobFailure} {now : ℤ} {id : String} :
    (failStrategyGeneration context failure now id).Ensures
      (fun _ db' => db'.generations = updatedRows (failedGeneration failure now)
        (fun row => row.id == id && row.result.isNone && row.workspaceId == context.workspaceId)
        db.generations) (fun _ => True) db := by
  unfold failStrategyGeneration
  rw [ensures_bind]
  apply WorkerTable.ensures_updateMany
  intro rows hrows
  exact hrows

theorem ensures_publishStrategyGeneration {input : PublishStrategyInput} :
    (publishStrategyGeneration context input).Ensures
      (fun _ db' => db'.generations = db.generations ∨
        (∀ row ∈ db.generations,
          isGeneration context input.strategyGenerationId row → row.result = none) ∧
        db'.generations = updatedRows (publishedGeneration input)
          (isGeneration context input.strategyGenerationId) db.generations)
      (fun _ => True) db := by
  unfold publishStrategyGeneration WorkerTable.findFirst
  rw [ensures_bind, ensures_read]
  split_ifs with hexisting
  · exact .inl rfl
  · have hunpublished : ∀ row ∈ db.generations,
        isGeneration context input.strategyGenerationId row = true → row.result = none := by
      intro row hrow hselected
      simp only [isGeneration, Bool.and_eq_true, beq_iff_eq] at hselected
      by_contra hresult
      apply hexisting
      rw [Table.findFirst, List.find?_isSome]
      refine ⟨row, hrow, ?_⟩
      simp [hselected.1, hselected.2, Option.isSome_iff_ne_none.mpr hresult]
    rw [ensures_bind]
    apply WorkerTable.ensures_updateMany
    intro rows hrows
    cases input.instagramAccountId with
    | none => exact .inr ⟨hunpublished, hrows⟩
    | some accountId =>
      apply Keeps.ensures_bind
        (WorkerTable.keeps_updateMany fun _ _ => rfl : Keeps Database.generations _)
      intro _ db' hsame
      exact .inr ⟨hunpublished, hsame.trans hrows⟩

private theorem ensures_commit_strategy {task : StrategyTask} {strategy : ValidStrategy} :
    (StrategyWork.commit task strategy).Ensures
      (fun _ db' => PublicationsKept db.generations db'.generations ∧
        RepairsKept db.generations db'.generations) (fun _ => True) db := by
  unfold StrategyWork.commit
  rw [ensures_bind]
  refine ensures_publishStrategyGeneration.mono ?_ fun _ _ => trivial
  rintro _ db' (hsame | ⟨hunpublished, hupdate⟩)
  · have hsame' : db'.generations = db.generations := hsame
    rw [hsame']
    exact ⟨PublicationsKept.refl, RepairsKept.refl⟩
  · have hupdate' : db'.generations = updatedRows _ _ db.generations := hupdate
    rw [hupdate']
    refine ⟨PublicationsKept.of_update hunpublished ?_, RepairsKept.of_update ?_ ?_⟩
    · intro row _
      simp [StrategyGeneration.IsSettled, publishedGeneration]
    · intro row
      rfl
    · intro row hrepaired
      exact hrepaired

end Writes

/-! ### Runs -/

/-- The jobs of `strategy.generate`, with the work on them. -/
abbrev StrategySystem := WorkSystem WorkerTables StrategyRequest StrategyWork

/-- What the rest of the application does to the generations: it requests new ones. -/
def RequestsStrategies (before after : List AnalysisJob × WorkerTables) : Prop :=
  ∃ requested : List StrategyGeneration,
    after.2.strategyGenerations.rows = before.2.strategyGenerations.rows ++ requested ∧
      ∀ row ∈ requested, row.state = .pending ∧ row.stage = .requesting ∧ row.result = none ∧
        row.repairAttempted = false

/-- The task on which a work is about to record a stage. -/
def StrategyWork.recordsStage : StrategyWork → Option StrategyTask
  | .recordingRequest task => some task
  | .recordingRepair task => some task
  | _ => none

/-- The task of which a work is about to take the repair. -/
def StrategyWork.takesRepair : StrategyWork → Option StrategyTask
  | .recordingRepair task => some task
  | _ => none

namespace StrategySystem

variable {environment : Environment WorkerTables} {s t : StrategySystem}
  {event : WorkEvent WorkerTables StrategyAnswer}
  {allowed : StrategySystem → WorkEvent WorkerTables StrategyAnswer → Prop} {state : StrategyWork}
  {v : WorkView WorkerTables StrategyRequest StrategyWork}

/-- A step of the system. -/
def Step (environment : Environment WorkerTables) (s : StrategySystem)
    (event : WorkEvent WorkerTables StrategyAnswer) (t : StrategySystem) : Prop :=
  WorkSystem.Step environment strategyGenerateScript RequestsStrategies s event t

/-- A state that the system can come to by steps which meet a condition, from a state
without generations. -/
def ReachableBy (allowed : StrategySystem → WorkEvent WorkerTables StrategyAnswer → Prop)
    (environment : Environment WorkerTables) (s : StrategySystem) : Prop :=
  ∃ clock internalUsers app, app.strategyGenerations.rows = [] ∧
    Transition.Reachable (Transition.Restricted (Step environment) allowed)
      (WorkSystem.initial clock internalUsers app) s

/-- The state of the work of a handler before its next statement. -/
def stating (s : StrategySystem) (event : WorkEvent WorkerTables StrategyAnswer) :
    Option StrategyWork :=
  match event with
  | .statement pid =>
    match s.attempts pid with
    | some ⟨_, _, .running state⟩ => some state
    | _ => none
  | _ => none

/-- **The condition for publications.** If the event records a stage, the generation is
not published. -/
def RecordsOnUnpublished (s : StrategySystem) (event : WorkEvent WorkerTables StrategyAnswer) :
    Prop :=
  ∀ task ∈ (s.stating event).bind recordsStage, ∀ row ∈ s.system.db.generations,
    isGeneration task.context task.generation.id row = true → row.result = none

instance : Decidable (RecordsOnUnpublished s event) :=
  inferInstanceAs (Decidable (∀ task ∈ _, _))

private theorem stating_eq {pid : ℕ} {attempt : Attempt WorkerTables StrategyWork}
    (hattempt : s.attempts pid = some attempt) (hwork : attempt.work = .running state) :
    s.stating (.statement pid) = some state := by
  obtain ⟨jobId, period, work⟩ := attempt
  cases hwork
  simp only [stating, hattempt]

private theorem returned_eq {result : List (CommitEffect WorkerTables)}
    (hnext : state.next = .finish (.returned result)) :
    ∃ task strategy, result = [asEffect (commit task strategy)] := by
  cases state with
  | returning task strategy =>
    cases hnext
    exact ⟨task, strategy, rfl⟩
  | throwing exception => cases exception <;> cases hnext
  | _ => cases hnext

/-- **What the generations see of a move.** A relation that the statements of the event, the
commits and the requests of new generations keep is kept by the move. -/
theorem generations_move {R : List StrategyGeneration → List StrategyGeneration → Prop}
    (hrefl : ∀ rows, R rows rows)
    (htrans : ∀ {rows rows' rows''}, R rows rows' → R rows' rows'' → R rows rows'')
    (hcommit : ∀ task strategy (db : Database WorkerTables),
      (StrategyWork.commit task strategy).Ensures
        (fun _ db' => R db.generations db'.generations) (fun _ => True) db)
    (hrequest : ∀ rows requested : List StrategyGeneration,
      (∀ row ∈ requested, row.state = .pending ∧ row.stage = .requesting ∧ row.result = none ∧
        row.repairAttempted = false) → R rows (rows ++ requested))
    (hstatement : ∀ state run (db : Database WorkerTables), s.stating event = some state →
      state.next = .statement run → db.contents = s.system.db.contents →
        R db.generations (run db).1.2.strategyGenerations.rows)
    (hfrom : s.view.From strategyGenerateScript)
    (hmove : WorkMove strategyGenerateScript RequestsStrategies event s.view v) :
    R s.system.db.generations v.app.strategyGenerations.rows := by
  cases hmove with
  | idle | retry | begin | goOn | send => exact hrefl _
  | @commit _ _ app pid attempt result hattempt hwork hwrites =>
    have hprovenance := hfrom pid attempt hattempt
    rw [hwork] at hprovenance
    obtain ⟨state, hnext⟩ := hprovenance
    obtain ⟨task, strategy, rfl⟩ := returned_eq hnext
    refine hwrites (fun app app' => R app.strategyGenerations.rows app'.strategyGenerations.rows)
      (fun _ => hrefl _) htrans ?_
    intro update hupdate db app happ
    exact asEffect_of_ensures
      (R := fun app app' => R app.strategyGenerations.rows app'.strategyGenerations.rows)
      (hcommit task strategy) hupdate happ
  | @statement _ pid attempt state run db hattempt hwork hnext hcontents =>
    have hstating : s.stating (.statement pid) = some state := stating_eq hattempt hwork
    have happ : db.generations = s.system.db.generations :=
      congrArg (fun contents => contents.2.strategyGenerations.rows) hcontents
    rw [← happ]
    exact hstatement state run db hstating hnext hcontents
  | @others _ analysisJobs app hothers =>
    obtain ⟨requested, hrows, hnew⟩ := hothers
    show R _ app.strategyGenerations.rows
    rw [show app.strategyGenerations.rows = _ from hrows]
    exact hrequest _ requested hnew

/-- A statement that records nothing on a published generation keeps the publications. -/
theorem publicationsKept_statement {db : Database WorkerTables}
    {run : Database WorkerTables → (List AnalysisJob × WorkerTables) × StrategyWork}
    (hnext : state.next = .statement run)
    (hunpublished : ∀ task, state.recordsStage = some task → ∀ row ∈ db.generations,
      isGeneration task.context task.generation.id row → row.result = none) :
    PublicationsKept db.generations (run db).1.2.strategyGenerations.rows := by
  have hstage : ∀ (task : StrategyTask) (stage : StrategyGenerationStage)
      (repairAttempted : Option Bool) (next : Unit → StrategyWork),
      (∀ row ∈ db.generations, isGeneration task.context task.generation.id row = true →
        row.result = none) →
      PublicationsKept db.generations (asStatement
        (recordStrategyStage task.context task.generation.id stage repairAttempted) next
        (.throwing .other) db).1.2.strategyGenerations.rows := by
    intro task stage repairAttempted next hnone
    refine asStatement_of_ensures (P := fun contents _ =>
      PublicationsKept db.generations contents.2.strategyGenerations.rows)
      (ensures_recordStrategyStage.mono ?_ fun _ _ => trivial) PublicationsKept.refl
    intro _ db' hrows
    show PublicationsKept _ db'.generations
    rw [hrows]
    apply PublicationsKept.of_update hnone
    intro row hresult
    simp [StrategyGeneration.IsSettled, stagedGeneration, hresult]
  cases state with
  | loading delivery =>
    cases hnext
    exact PublicationsKept.refl
  | recordingRequest task =>
    cases hnext
    exact hstage task _ _ _ (hunpublished task rfl)
  | recordingRepair task =>
    cases hnext
    exact hstage task _ _ _ (hunpublished task rfl)
  | recordingFailure task failure =>
    cases hnext
    refine asStatement_of_ensures (P := fun contents _ =>
      PublicationsKept db.generations contents.2.strategyGenerations.rows)
      (ensures_failStrategyGeneration.mono ?_ fun _ _ => trivial) PublicationsKept.refl
    intro _ db' hrows
    show PublicationsKept _ db'.generations
    rw [hrows]
    apply PublicationsKept.of_update
    · intro row hrow hselected
      simp only [Bool.and_eq_true, beq_iff_eq, Option.isNone_iff_eq_none] at hselected
      exact hselected.1.2
    · intro row hresult
      simp [StrategyGeneration.IsSettled, failedGeneration, hresult]
  | _ => cases hnext

/-- **Step lemma.** A step that meets the condition keeps the publications. -/
theorem publicationsKept_move (hallowed : s.RecordsOnUnpublished event)
    (hfrom : s.view.From strategyGenerateScript)
    (hmove : WorkMove strategyGenerateScript RequestsStrategies event s.view v) :
    PublicationsKept s.system.db.generations v.app.strategyGenerations.rows := by
  apply generations_move (fun _ => PublicationsKept.refl) PublicationsKept.trans ?_ ?_ ?_ hfrom
    hmove
  · intro task strategy db
    exact ensures_commit_strategy.mono (fun _ _ h => h.1) fun _ _ => trivial
  · intro rows requested hnew
    constructor
    · intro row hrow _
      exact mem_append_left _ hrow
    · intro hsettled row hrow
      rcases mem_append.mp hrow with hbefore | hafter
      · exact hsettled row hbefore
      · obtain ⟨hstate, -, hresult, -⟩ := hnew row hafter
        simp [StrategyGeneration.IsSettled, hstate, hresult]
  · intro state run db hstating hnext hcontents
    have happ : db.generations = s.system.db.generations :=
      congrArg (fun contents => contents.2.strategyGenerations.rows) hcontents
    apply publicationsKept_statement hnext
    intro task htask
    rw [happ]
    apply hallowed task
    rw [hstating]
    exact htask

/-- **The rule of runs.** What holds without generations and is kept by the moves that a
condition allows, holds in every state that steps which meet the condition lead to. -/
theorem ReachableBy.invariant {J : WorkView WorkerTables StrategyRequest StrategyWork → Prop}
    (hreach : ReachableBy allowed environment s)
    (hinit : ∀ app : WorkerTables, app.strategyGenerations.rows = [] →
      J ⟨[], app, fun _ => none, [], []⟩)
    (hmove : ∀ {s : StrategySystem} {event v}, allowed s event →
      s.view.From strategyGenerateScript → J s.view →
        WorkMove strategyGenerateScript RequestsStrategies event s.view v → J v) :
    s.Inv ∧ s.view.From strategyGenerateScript ∧ J s.view := by
  obtain ⟨clock, internalUsers, app, hempty, hrun⟩ := hreach
  refine (WorkSystem.inv_initial clock internalUsers app).run ?_ (hinit app hempty) hmove hrun
  intro pid attempt hattempt
  cases hattempt

theorem ReachableBy.settled (hreach : ReachableBy RecordsOnUnpublished environment s) :
    s.Inv ∧ s.view.From strategyGenerateScript ∧
      ∀ row ∈ s.system.db.generations, row.IsSettled := by
  apply hreach.invariant (J := fun v => ∀ row ∈ v.app.strategyGenerations.rows, row.IsSettled)
  · intro app hempty row hrow
    rw [hempty] at hrow
    cases hrow
  · intro s event v hallowed hfrom hsettled hmove
    exact (publicationsKept_move hallowed hfrom hmove).settled hsettled

/-- **Published strategies stay as long as no stage is recorded on them.** In every run in
which each recording of a stage finds its generation without a result, a generation whose
result is stored has succeeded and keeps every column in every later state; and a
reader of pooled strategies loses none that it has seen. -/
theorem published_strategies_stay (hreach : ReachableBy RecordsOnUnpublished environment s)
    (hrun : Transition.Reachable
      (Transition.Restricted (Step environment) RecordsOnUnpublished) s t) :
    (∀ row ∈ s.system.db.generations, row.result.isSome = true →
      row.state = .succeeded ∧ row ∈ t.system.db.generations) ∧
      ∀ context, pooledStrategies context s.system.db ⊆ pooledStrategies context t.system.db := by
  obtain ⟨hinv, hfrom, hsettled⟩ := hreach.settled
  have hkept : PublicationsKept s.system.db.generations t.system.db.generations :=
    (hinv.run (J := fun v =>
        PublicationsKept s.system.db.generations v.app.strategyGenerations.rows)
      hfrom PublicationsKept.refl
      (fun hallowed hfrom hbefore hmove =>
        hbefore.trans (publicationsKept_move hallowed hfrom hmove)) hrun).2.2
  constructor
  · intro row hrow hpublished
    exact ⟨(hsettled row hrow).mp hpublished, hkept.published row hrow hpublished⟩
  · intro context row hrow
    obtain ⟨hmem, hselected⟩ := mem_filter.mp hrow
    refine mem_filter.mpr ⟨?_, hselected⟩
    simp only [Bool.and_eq_true, beq_iff_eq] at hselected
    exact hkept.published row hmem ((hsettled row hmem).mpr hselected.1.2)

/-- The condition is exact: a stage that is recorded on a published generation retracts it. -/
theorem recording_retracts {db : Database WorkerTables} {context : WorkspaceContext}
    {stage : StrategyGenerationStage} {repairAttempted : Option Bool} {row : StrategyGeneration}
    (hrow : row ∈ db.generations) (hworkspace : row.workspaceId = context.workspaceId) :
    (recordStrategyStage context row.id stage repairAttempted).Ensures
      (fun _ db' => ∃ row' ∈ db'.generations, row'.id = row.id ∧ row'.result = row.result ∧
        row'.state = .processing) (fun _ => True) db := by
  refine ensures_recordStrategyStage.mono ?_ fun _ _ => trivial
  intro _ db' hrows
  refine ⟨stagedGeneration stage repairAttempted row, ?_, rfl, rfl, rfl⟩
  rw [hrows]
  refine List.mem_map.mpr ⟨row, hrow, if_pos ?_⟩
  simp [isGeneration, hworkspace]

/-! ### Repairs -/

section Repairs

variable {id : String} {pid : ℕ} {task : StrategyTask}

/-- In this state a work has taken the repair of a generation, and has not sent it yet. -/
def takesRepair (id : String) (_ : String) (_ : ℕ) (state : StrategyWork) : Prop :=
  ∃ task, state = .repairing task ∧ task.generation.id = id

/-- A request is a repair of a generation. -/
def isRepairOf (id : String) (entry : SentRequest StrategyRequest) : Bool :=
  entry.request.repair && entry.request.strategyGenerationId == id

/-- The stored bound says that the repair of a generation has been spent. -/
def RepairSpent (v : WorkView WorkerTables StrategyRequest StrategyWork) (id : String) : Prop :=
  ∃ row ∈ v.app.strategyGenerations.rows, row.id = id ∧ row.repairAttempted = true

/-- The repair of each generation is an allowance that the works share. -/
def RepairsAllowed (v : WorkView WorkerTables StrategyRequest StrategyWork) : Prop :=
  ∀ id, v.Allowed (takesRepair id) (isRepairOf id) (RepairSpent v id)

/-- **The condition for repairs.** If the event takes the repair of a generation, the stored
bound is still open. -/
def TakesOpenRepair (s : StrategySystem) (event : WorkEvent WorkerTables StrategyAnswer) : Prop :=
  ∀ task ∈ (s.stating event).bind StrategyWork.takesRepair, ∃ row ∈ s.system.db.generations,
    isGeneration task.context task.generation.id row = true ∧ row.repairAttempted = false

instance : Decidable (TakesOpenRepair s event) :=
  inferInstanceAs (Decidable (∀ task ∈ _, _))

private theorem not_repairing_of_move {work : Work WorkerTables StrategyWork}
    (h : LocalMove strategyGenerateScript work (.running (.repairing task))) : False := by
  generalize hwork : (Work.running (.repairing task) : Work WorkerTables StrategyWork) = work' at h
  cases h with
  | call | finished => cases hwork
  | @returned state resume kind rescue callback hnext =>
    cases hwork
    cases state <;> cases hnext
  | @thrown state resume kind rescue callback error hnext =>
    cases state <;> cases hnext <;> cases hwork
  | @received state request resume answer hnext =>
    cases state with
    | requesting own =>
      cases hnext
      simp only [StrategyWork.afterRequest, StrategyWork.afterAnswer] at hwork
      split at hwork <;> simp [StrategyWork.throwingFailure] at hwork
      split at hwork <;> cases hwork
    | repairing own =>
      cases hnext
      simp only [StrategyWork.afterRepair, StrategyWork.afterAnswer] at hwork
      split at hwork <;> simp [StrategyWork.throwingFailure] at hwork
    | _ =>
      cases hnext

private theorem start_ne_repairing {delivery : Delivery} {claim : JobClaim} :
    strategyGenerateScript.start delivery claim ≠ .repairing task := by
  unfold strategyGenerateScript
  dsimp only
  split_ifs
  · simp
  · simp [StrategyWork.throwingFailure]

theorem obeys_repair : strategyGenerateScript.Obeys (takesRepair id) (isRepairOf id) := by
  constructor
  · rintro delivery claim period ⟨task, hrepairing, -⟩
    exact start_ne_repairing hrepairing
  · rintro work state hmove jobId period ⟨task, rfl, -⟩
    exact not_repairing_of_move hmove
  · intro state request resume hnext jobId period hrepair
    simp only [isRepairOf, Bool.and_eq_true, beq_iff_eq] at hrepair
    cases state with
    | repairing task =>
      cases hnext
      exact ⟨task, rfl, hrepair.2⟩
    | requesting task =>
      cases hnext
      cases hrepair.1
    | _ =>
      cases hnext

/-- What a statement does to repairs: it takes none away, and leads to one only from the
state that takes it. -/
def LeadsToRepair (state : StrategyWork) (rows : List StrategyGeneration)
    (contents : List AnalysisJob × WorkerTables) (next : StrategyWork) : Prop :=
  RepairsKept rows contents.2.strategyGenerations.rows ∧
    ∀ task, next = .repairing task → state = .recordingRepair task ∧
      contents.2.strategyGenerations.rows =
        updatedRows (stagedGeneration .repairing (some true))
          (isGeneration task.context task.generation.id) rows

private theorem LeadsToRepair.of_ne {state next : StrategyWork} {rows : List StrategyGeneration}
    {contents : List AnalysisJob × WorkerTables}
    (hkept : RepairsKept rows contents.2.strategyGenerations.rows)
    (hne : ∀ task, next ≠ .repairing task) : LeadsToRepair state rows contents next := by
  refine ⟨hkept, ?_⟩
  intro task hnext
  exact absurd hnext (hne task)

private theorem afterLoading_ne_repairing {context : WorkspaceContext}
    {generation : Option FrozenStrategyGeneration} :
    afterLoading context generation ≠ .repairing task := by
  unfold afterLoading
  split
  · simp [throwingFailure]
  · split_ifs
    · simp [throwingFailure]
    · simp

/-- Every statement of the work obeys the rule of repairs. -/
theorem leadsToRepair_statement {state : StrategyWork} (db : Database WorkerTables)
    {run : Database WorkerTables → (List AnalysisJob × WorkerTables) × StrategyWork}
    (hnext : state.next = .statement run) :
    LeadsToRepair state db.generations (run db).1 (run db).2 := by
  have hrescue : LeadsToRepair state db.generations db.contents (.throwing .other) :=
    .of_ne RepairsKept.refl fun _ => by simp
  cases state with
  | loading delivery =>
    cases hnext
    apply asStatement_of_ensures ?_ hrescue
    unfold findStrategyGenerationForJob
    rw [ensures_bind]
    exact LeadsToRepair.of_ne RepairsKept.refl fun _ => afterLoading_ne_repairing
  | recordingRequest task =>
    cases hnext
    apply asStatement_of_ensures ?_ hrescue
    refine ensures_recordStrategyStage.mono ?_ fun _ _ => trivial
    intro _ db' hrows
    apply LeadsToRepair.of_ne ?_ fun _ => by simp
    show RepairsKept _ db'.generations
    rw [hrows]
    exact RepairsKept.of_update (fun _ => rfl) fun _ h => h
  | recordingRepair task =>
    cases hnext
    apply asStatement_of_ensures ?_ hrescue
    refine ensures_recordStrategyStage.mono ?_ fun _ _ => trivial
    intro _ db' hrows
    constructor
    · show RepairsKept _ db'.generations
      rw [hrows]
      exact RepairsKept.of_update (fun _ => rfl) fun _ _ => rfl
    · rintro own ⟨⟩
      exact ⟨rfl, hrows⟩
  | recordingFailure task failure =>
    cases hnext
    apply asStatement_of_ensures ?_ hrescue
    refine ensures_failStrategyGeneration.mono ?_ fun _ _ => trivial
    intro _ db' hrows
    apply LeadsToRepair.of_ne ?_ fun _ => by simp
    show RepairsKept _ db'.generations
    rw [hrows]
    exact RepairsKept.of_update (fun _ => rfl) fun _ h => h
  | _ => cases hnext

private theorem repairsKept_move (hfrom : s.view.From strategyGenerateScript)
    (hmove : WorkMove strategyGenerateScript RequestsStrategies event s.view v) :
    RepairsKept s.system.db.generations v.app.strategyGenerations.rows := by
  apply generations_move (fun _ => RepairsKept.refl) RepairsKept.trans ?_ ?_ ?_ hfrom hmove
  · intro task strategy db
    exact ensures_commit_strategy.mono (fun _ _ h => h.2) fun _ _ => trivial
  · intro rows requested _ row hrow hflag
    exact ⟨row, mem_append_left _ hrow, rfl, hflag⟩
  · intro state run db _ hnext _
    exact (leadsToRepair_statement db hnext).1

/-- **Step lemma.** A step that takes no spent repair keeps the allowances. -/
theorem repairsAllowed_move (hallowed : s.TakesOpenRepair event)
    (hfrom : s.view.From strategyGenerateScript) (h : RepairsAllowed s.view)
    (hmove : WorkMove strategyGenerateScript RequestsStrategies event s.view v) :
    RepairsAllowed v := by
  have hkept := repairsKept_move hfrom hmove
  intro id
  apply (h id).move obeys_repair ?_ ?_ hmove
  · rintro ⟨row, hrow, rfl, hflag⟩
    exact hkept row hrow hflag
  · -- the statement that takes the repair finds the bound open
    rintro pid attempt state run db rfl hattempt hwork hnext hcontents ⟨task, hrepairing, rfl⟩
    obtain ⟨-, hleads⟩ := leadsToRepair_statement db hnext
    obtain ⟨rfl, hrows⟩ := hleads task hrepairing
    have htaken : task ∈ (s.stating (.statement pid)).bind StrategyWork.takesRepair := by
      rw [stating_eq hattempt hwork]
      rfl
    obtain ⟨row, hrow, hselected, hopen⟩ := hallowed task htaken
    have hgenerations : db.generations = s.system.db.generations :=
      congrArg (fun contents => contents.2.strategyGenerations.rows) hcontents
    have hrowId : row.id = task.generation.id := by
      simp only [isGeneration, Bool.and_eq_true, beq_iff_eq] at hselected
      exact hselected.1
    constructor
    · rintro ⟨other, hother, hotherId, hflag⟩
      have hsame : other = row := Table.eq_of_key strategyGenerationSchema_keyedBy_id hother hrow
        (hotherId.trans hrowId.symm)
      rw [hsame, hopen] at hflag
      cases hflag
    · intro hafter
      refine ⟨stagedGeneration .repairing (some true) row, ?_, hrowId, rfl⟩
      have happ : v.app = (run db).1.2 := congrArg Prod.snd hafter
      rw [happ, hrows, hgenerations]
      exact mem_map.mpr ⟨row, hrow, if_pos hselected⟩

/-- **One repair for each generation**, in every run in which the bound is still open
whenever a repair is taken. -/
theorem repairs_le_one (hreach : ReachableBy TakesOpenRepair environment s) (id : String) :
    s.sent.countP (isRepairOf id) ≤ 1 := by
  have hallowances : s.Inv ∧ s.view.From strategyGenerateScript ∧ RepairsAllowed s.view := by
    apply hreach.invariant
    · intro app _ id
      apply Allowance.fresh
      rintro pid ⟨attempt, state, hattempt, -, -⟩
      cases hattempt
    · intro s event v hallowed hfrom hbefore hmove
      exact repairsAllowed_move hallowed hfrom hbefore hmove
  exact (hallowances.2.2 id).uses_le

end Repairs

/-! ### A small deployment -/

namespace Sample

open WorkSample

/-- The callbacks of `strategy.generate`. -/
def callbacks : Environment WorkerTables where
  resultExists jobId db := some (strategyResultExistsForJob context jobId db)
  inspectResult job db :=
    some (if strategyResultExistsForJob context job.id db then .present else .absent)
  retryCallbacks := ⟨fun db job => some (strategyResultExistsForJob context job.id db),
    fun _ _ => some ⟨true, none⟩⟩

def generation : StrategyGeneration where
  id := "generation"
  workspaceId := "workspace"
  instagramAccountId := none
  backgroundJobId := jobId
  evidenceCount := 1
  state := .pending
  result := none
  generatedAt := none
  failureCode := none

def strategy : ValidStrategy := ⟨"strategy", ["fingerprint"], {}⟩

def requested : List (WorkEvent WorkerTables StrategyAnswer) :=
  [enqueued "strategy.generate",
    .others [] { WorkerTables.empty with strategyGenerations := ⟨[generation], by decide +kernel⟩ }]

/-- A handler works up to the point where it records that it makes its request. -/
def loaded (pid : ℕ) (now : ℤ) (leaseId : String) : List (WorkEvent WorkerTables StrategyAnswer) :=
  begun "strategy.generate" pid now leaseId ++ announced pid (10 * pid + 10) now ++
    .statement pid :: announced pid (10 * pid + 11) now

/-- Its request is answered. -/
def answered (pid : ℕ) (now : ℤ) (answer : StrategyAnswer) :
    List (WorkEvent WorkerTables StrategyAnswer) :=
  [.statement pid, .send pid, .receive pid answer] ++ announced pid (10 * pid + 12) now

/-- A handler is overtaken before it records its stage, and another one publishes. -/
def overtaken : List (WorkEvent WorkerTables StrategyAnswer) :=
  requested ++ loaded 0 0 "lease-0" ++ recovered ++ loaded 1 200000 "lease-1" ++
    answered 1 200000 (.valid strategy) ++ committed 1 200000

/-- A handler is overtaken before it records its repair, which another one sends. -/
def repaired : List (WorkEvent WorkerTables StrategyAnswer) :=
  requested ++ loaded 0 0 "lease-0" ++ answered 0 0 .invalid ++ recovered ++
    loaded 1 200000 "lease-1" ++ answered 1 200000 .invalid ++ [.statement 1, .send 1]

/-- Which steps a run may take: a condition holds, and the rest of the application requests
the generation. -/
def admits (allowed : StrategySystem → WorkEvent WorkerTables StrategyAnswer → Bool)
    (s : StrategySystem) (event : WorkEvent WorkerTables StrategyAnswer) : Bool :=
  allowed s event &&
    match event with
    | .others _ app => app.strategyGenerations.rows == s.system.db.generations ++ [generation]
    | _ => true

/-- The job is delivered once more, to a handler that probes its result. -/
def redelivered : List (WorkEvent WorkerTables StrategyAnswer) :=
  (begun "strategy.generate" 2 200000 "lease-2").take 3

variable (allowed : StrategySystem → WorkEvent WorkerTables StrategyAnswer → Prop)
  [∀ s event, Decidable (allowed s event)]

/-- The state that events lead to from another, if each step meets a condition. -/
def proceed (s : StrategySystem) (events : List (WorkEvent WorkerTables StrategyAnswer)) :
    Option StrategySystem :=
  WorkSystem.replay callbacks strategyGenerateScript (admits fun s event =>
    decide (allowed s event)) s events

/-- The state that events lead to, if each step meets a condition. -/
def after (events : List (WorkEvent WorkerTables StrategyAnswer)) : Option StrategySystem :=
  proceed allowed (WorkSystem.initial 0 [] WorkerTables.empty) events

variable {allowed} {s t : StrategySystem} {events : List (WorkEvent WorkerTables StrategyAnswer)}

private theorem reachable_proceed (h : proceed allowed s events = some t) :
    Transition.Reachable (Transition.Restricted (Step callbacks) allowed) s t := by
  refine WorkSystem.reachable_of_replay ?_ .refl h
  intro s event hadmits
  unfold admits at hadmits
  obtain ⟨hallowed, hothers⟩ := Bool.and_eq_true_iff.mp hadmits
  refine ⟨of_decide_eq_true hallowed, ?_⟩
  rintro analysisJobs app rfl
  refine ⟨[generation], beq_iff_eq.mp hothers, ?_⟩
  intro row hrow
  rw [mem_singleton.mp hrow]
  exact ⟨rfl, rfl, rfl, rfl⟩

theorem reachable_after (hafter : after allowed events = some s) :
    ReachableBy allowed callbacks s :=
  ⟨0, [], WorkerTables.empty, rfl, reachable_proceed hafter⟩

/-- What is shown of the generations: their results, states and stages, and those that pooled
readers see. -/
structure Shown where
  generations : List (Option String × StrategyGenerationState × StrategyGenerationStage)
  pooled : List String
  deriving DecidableEq

/-- What a state shows. -/
def shown (s : StrategySystem) : Shown where
  generations := s.system.db.generations.map fun row => (row.result, row.state, row.stage)
  pooled := (pooledStrategies context s.system.db).map StrategyGeneration.id

/-- **A published strategy is retracted.** The handler that was overtaken records its stage on
the generation that the other has published. -/
theorem published_strategy_is_retracted :
    ∃ s t : StrategySystem, ReachableBy (fun _ _ => True) callbacks s ∧
      Step callbacks s (.statement 0) t ∧
      shown s = ⟨[(some "strategy", .succeeded, .publishing)], ["generation"]⟩ ∧
      shown t = ⟨[(some "strategy", .processing, .requesting)], []⟩ := by
  have hrun : ((after (fun _ _ => True) overtaken).bind fun s =>
      (s.step callbacks strategyGenerateScript (.statement 0)).map fun t => (shown s, shown t)) =
      some (⟨[(some "strategy", .succeeded, .publishing)], ["generation"]⟩,
        ⟨[(some "strategy", .processing, .requesting)], []⟩) := by
    decide +kernel
  obtain ⟨s, hs, hnext⟩ := Option.bind_eq_some_iff.mp hrun
  obtain ⟨t, ht, houtcome⟩ := Option.map_eq_some_iff.mp hnext
  obtain ⟨hbefore, hafter⟩ := Prod.mk.inj houtcome
  refine ⟨s, t, reachable_after hs, ⟨?_, ht⟩, hbefore, hafter⟩
  rintro analysisJobs app ⟨⟩

/-- The strategy that the other handler has published stays when its job is delivered again. -/
theorem published_strategy_stays :
    ∃ s t, ReachableBy RecordsOnUnpublished callbacks s ∧
      proceed RecordsOnUnpublished s redelivered = some t ∧
      s.system.db.generations.map StrategyGeneration.result = [some "strategy"] ∧
      ∀ row ∈ s.system.db.generations, row.result.isSome = true →
        row.state = .succeeded ∧ row ∈ t.system.db.generations := by
  have hrun : ((after RecordsOnUnpublished overtaken).bind fun s =>
      (proceed RecordsOnUnpublished s redelivered).map fun _ =>
        s.system.db.generations.map StrategyGeneration.result) = some [some "strategy"] := by
    decide +kernel
  obtain ⟨s, hs, hnext⟩ := Option.bind_eq_some_iff.mp hrun
  obtain ⟨t, ht, hresult⟩ := Option.map_eq_some_iff.mp hnext
  have hreach := reachable_after hs
  refine ⟨s, t, hreach, ht, hresult, ?_⟩
  exact (published_strategies_stay hreach (reachable_proceed ht)).1

end Sample

end StrategySystem

end ContentAutomation
