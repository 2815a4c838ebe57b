import ContentAutomation.Jobs.Enqueue
import ContentAutomation.Library.Columns
import ContentAutomation.Library.Json
import ContentAutomation.Strategy.Evidence

/-!
# Freezing a strategy request

The rows that a request for a strategy is frozen as, and the transaction that writes them:
the job, the generation and its evidence.
-/

namespace ContentAutomation

open Relational Transaction

variable {Analytics : Type}

/-! ### Columns -/

/-- The labels of `strategy_mode`. -/
def strategyModeLabels : List String := ["EVIDENCE_LED", "EXPLORATORY"]

/-- The labels of `strategy_evidence_type`. -/
def strategyEvidenceTypeLabels : List String :=
  ["FEATURE_STATISTIC", "POST_ANALYSIS", "METRIC_SNAPSHOT", "POST", "DATA_QUALITY",
    "RECENT_RECOMMENDATION"]

/-- The labels of `strategy_evidence_category`, in the order of their declaration. -/
def strategyEvidenceCategoryLabels : List String :=
  ["POSITIVE_STATISTIC", "NEGATIVE_STATISTIC", "COUNTEREXAMPLE", "TOP_POST", "WEAK_POST",
    "RECENT_POST", "COMPARATOR_POST", "DISTRIBUTION", "RECENT_STRATEGY", "DATA_QUALITY"]

/-- The labels of `feature_statistic_confidence`. -/
def featureStatisticConfidenceLabels : List String :=
  ["INSUFFICIENT_EVIDENCE", "SINGLE_POST_OUTLIER", "WEAK_DIRECTIONAL_SIGNAL",
    "MODERATE_ASSOCIATION", "STATISTICALLY_SUPPORTED_ASSOCIATION"]

/-! ### Rows -/

/-- The columns of `strategy_generations` that a request freezes. -/
structure StrategyGenerationRequest where
  id : String
  workspaceId : String
  instagramAccountId : Option String
  backgroundJobId : String
  analyticsRunId : String
  mode : EnumLabel strategyModeLabels
  primaryMetric : String
  ageWindow : String
  publishedFrom : ℤ
  publishedTo : ℤ
  pillarEmphasis : List String
  formatEmphasis : List String
  editorialConstraint : Option String
  analysedPostCount : ℕ
  comparablePostCount : ℕ
  publicationWeekCount : ℕ
  evidenceCount : ℕ
  postEvidenceCount : ℕ
  statisticEvidenceCount : ℕ
  estimatedInputTokens : ℕ
  manifestHash : String
  requestSignature : String
  regenerationOrdinal : ℕ
  regeneratedFromId : Option String
  correlationId : String
  requestedByUserId : Option String
  requestedAt : ℤ

/-- The constraints of `strategy_generations` on these columns. -/
def strategyGenerationRequestSchema : Schema StrategyGenerationRequest where
  checks :=
    [("strategy_generations_period_ordered", fun row => row.publishedFrom ≤ row.publishedTo),
      ("age_window", fun row => takesVarChar 16 row.ageWindow),
      ("pillar_emphasis", fun row => row.pillarEmphasis.all takesText),
      ("format_emphasis", fun row => row.formatEmphasis.all takesText),
      ("editorial_constraint", fun row => row.editorialConstraint.all (takesVarChar 1000))]
  indexes :=
    [("strategy_generations_pkey", fun row other => row.id == other.id),
      ("strategy_generations_workspace_id_background_job_id_key", fun row other =>
        row.workspaceId == other.workspaceId && row.backgroundJobId == other.backgroundJobId),
      ("strategy_generations_workspace_id_request_signature_key", fun row other =>
        row.workspaceId == other.workspaceId && row.requestSignature == other.requestSignature)]

/-- A row of `strategy_evidence`. -/
structure StrategyEvidence where
  id : String
  workspaceId : String
  strategyGenerationId : String
  evidenceKey : String
  evidenceType : EnumLabel strategyEvidenceTypeLabels
  category : EnumLabel strategyEvidenceCategoryLabels
  retrievalReason : String
  rank : ℕ
  rankScore : Option ℚ
  allowedRoles : List String
  classification : Option (EnumLabel featureStatisticConfidenceLabels)
  dimensions : List String
  sampleSize : Option ℤ
  allowedNumericClaims : List String
  requiredInLimitations : Bool
  summaryText : String
  featureStatisticId : Option String
  postAnalysisId : Option String
  metricSnapshotId : Option String
  instagramPostId : Option String
  sourceGenerationId : Option String

/-- The records that a row refers to. -/
def StrategyEvidence.references (row : StrategyEvidence) : List String :=
  [row.featureStatisticId, row.postAnalysisId, row.metricSnapshotId, row.instagramPostId,
    row.sourceGenerationId].reduceOption

/-- The constraints of `strategy_evidence`. -/
def strategyEvidenceSchema : Schema StrategyEvidence where
  checks :=
    [("strategy_evidence_reference_arity", fun row =>
        row.references.length == if row.evidenceType.text == "DATA_QUALITY" then 0 else 1),
      ("evidence_key", fun row => takesVarChar 80 row.evidenceKey),
      ("retrieval_reason", fun row => takesVarChar 64 row.retrievalReason),
      ("sample_size", fun row => row.sampleSize.all takesInteger),
      ("allowed_numeric_claims", fun row => row.allowedNumericClaims.all takesText),
      ("summary_text", fun row => takesText row.summaryText)]
  indexes :=
    [("strategy_evidence_pkey", fun row other => row.id == other.id),
      ("strategy_evidence_manifest_key", fun row other =>
        row.strategyGenerationId == other.strategyGenerationId &&
          row.evidenceKey == other.evidenceKey),
      ("strategy_evidence_manifest_reference", fun row other =>
        row.strategyGenerationId == other.strategyGenerationId &&
          row.evidenceType == other.evidenceType && row.references.head?.isSome &&
          row.references.head? == other.references.head?)]

/-- The tables of the strategies, and those of the analytics that they argue from. -/
structure StrategyTables (Analytics : Type) where
  analytics : Analytics
  strategyGenerations : Table strategyGenerationRequestSchema
  strategyEvidence : Table strategyEvidenceSchema

/-! ### The manifest of a request -/

/-- `StrategyRequestInput`. -/
structure StrategyRequestInput where
  acceptExploratory : Bool
  correlationId : String
  editorialConstraint : Option String
  formatEmphasis : List String
  /-- One account, or none for all linked accounts. -/
  instagramAccountId : Option String
  pillarEmphasis : List String
  primaryMetric : DerivedMetric
  regeneratedFromId : Option String
  requestedByUserId : Option String

/-- `StrategyEvidenceCounts`. -/
structure StrategyEvidenceCounts where
  analysedPostCount : ℕ
  comparablePostCount : ℕ
  publicationWeekCount : ℕ

/-- `StrategyEvidenceCandidates`. -/
structure StrategyEvidenceCandidates where
  ageWindow : String
  analyticsRunId : String
  candidates : List StrategyEvidenceCandidate
  counts : StrategyEvidenceCounts
  publishedFrom : ℤ
  publishedTo : ℤ

/-- `StrategyManifestIdentity`. -/
structure StrategyManifestIdentity extends StrategyManifestScope where
  analysisSchemaVersion : String
  analyticsRunId : String
  analyticsVersion : String
  cohortVersion : String
  editorialConstraint : Option String
  formatEmphasis : List String
  mode : StrategyMode
  pillarEmphasis : List String
  statisticsVersion : String

/-- The constants at the head of a manifest's canonical form: the versions and digests of the
contract that it is made for. -/
def strategyContract : List String :=
  ["account-strategy-retrieval-v1.0.0", "account-content-strategy-v1.0.0",
    "b3532582e27db3054869bcce90487ed7bafe7329a1ae292ed1dd5156c73cfb94",
    "account-content-strategy-prompt-v2.0.0",
    "8ca19243c15a8439876c3b3f25861d2cf5cd3d0cc9d851b0539029d886260fe3",
    "studio-parallel-business-profile-v1.0.0",
    "c0d37cfb1373b7f8db22296202c1f0d7eb89452687b0793f4fa1b9a15cc23bf0", "gemini-3.6-flash"]

section Canonical

open Utf16 (ofString)

/-- A text as JSON. -/
def jsonString (text : String) : Json := .string (ofString text)

/-- A text or `null` as JSON. -/
def jsonNullable (text : Option String) : Json := (text.map jsonString).getD .null

/-- A number as JSON. -/
def jsonNumber (value : ℤ) : Json := .number (.finite value)

/-- Texts in the order of their code units, as JSON. -/
def jsonSorted (texts : List String) : Json :=
  .array ((texts.insertionSort fun first second => ofString first ≤ ofString second).map jsonString)

/-- `JSON.stringify`; the numbers of a manifest are whole. -/
def stringifyWhole (value : Json) : Utf16 :=
  value.stringify fun number => ofString (toString number.num)

/-- An entry in the canonical form of its manifest. -/
def canonicalEntry (platform : EvidencePlatform) (entry : StrategyEvidenceEntry) : Json :=
  .array
    [jsonString (word entry.category), jsonNumber entry.rank, jsonString (word entry.evidenceType),
      jsonString entry.evidenceKey, jsonNullable entry.referenceId,
      jsonString entry.retrievalReason, jsonNullable (entry.classification.map word),
      (entry.sampleSize.map jsonNumber).getD .null, jsonSorted (entry.allowedRoles.map word),
      jsonSorted (entry.dimensions.map word), jsonSorted entry.allowedNumericClaims,
      jsonString (platform.sha256 (ofString entry.summaryText))]

/-- `createStrategyManifestHash`. -/
def createStrategyManifestHash (platform : EvidencePlatform) (identity : StrategyManifestIdentity)
    (entries : List StrategyEvidenceEntry) : String :=
  platform.sha256 (stringifyWhole (.array
    (strategyContract.map jsonString ++
      [jsonString identity.analyticsVersion, jsonString identity.statisticsVersion,
        jsonString identity.cohortVersion, jsonString identity.analysisSchemaVersion,
        jsonNullable identity.instagramAccountId, jsonString identity.analyticsRunId,
        jsonString (word identity.mode), jsonString identity.primaryMetric,
        jsonString identity.ageWindow, jsonString identity.publishedFrom,
        jsonString identity.publishedTo, jsonNullable identity.editorialConstraint,
        jsonSorted identity.pillarEmphasis, jsonSorted identity.formatEmphasis,
        jsonNumber strategyManifestPostCap, jsonNumber strategyManifestStatisticCap,
        .array (entries.map (canonicalEntry platform))])))

/-- `createStrategyRequestSignature`. -/
def createStrategyRequestSignature (platform : EvidencePlatform) (manifestHash : String)
    (regenerationOrdinal : ℕ) : String :=
  platform.sha256 (stringifyWhole
    (.array [jsonString manifestHash, jsonNumber regenerationOrdinal]))

end Canonical

/-- `strategyGenerateKey`. -/
def strategyGenerateKey (requestSignature : String) : String :=
  "strategy-generate-" ++ requestSignature

/-- `FrozenStrategyManifest`. -/
structure FrozenStrategyManifest where
  entries : List StrategyEvidenceEntry
  estimatedInputTokens : ℕ
  identity : StrategyManifestIdentity
  manifestHash : String
  rendered : String

/-- `buildStrategyManifest`. -/
def buildStrategyManifest (platform : EvidencePlatform) (loaded : StrategyEvidenceCandidates)
    (mode : StrategyMode) (input : StrategyRequestInput) : FrozenStrategyManifest :=
  let entries := (selectStrategyEvidence platform loaded.candidates none).entries
  let identity : StrategyManifestIdentity :=
    { ageWindow := loaded.ageWindow
      analysisSchemaVersion := "post-creative-analysis-v1.1.0"
      analyticsRunId := loaded.analyticsRunId
      analyticsVersion := "account-analytics-v1.0.0"
      cohortVersion := "account-cohort-v1.0.0"
      editorialConstraint := input.editorialConstraint
      formatEmphasis := input.formatEmphasis
      instagramAccountId := input.instagramAccountId
      mode
      pillarEmphasis := input.pillarEmphasis
      primaryMetric := word input.primaryMetric
      publishedFrom := Calendar.toISOString loaded.publishedFrom
      publishedTo := Calendar.toISOString loaded.publishedTo
      statisticsVersion := "account-statistics-v1.0.0" }
  let rendered := renderStrategyManifest identity.toStrategyManifestScope entries
  { entries
    estimatedInputTokens := estimateStrategyPromptTokens rendered
    identity
    manifestHash := createStrategyManifestHash platform identity entries
    rendered }

/-! ### Freezing -/

/-- A request whose transaction opens, with the identifiers that are generated for it; the
row of an entry has one for its key. -/
structure StrategyFreeze where
  context : WorkspaceContext
  input : StrategyRequestInput
  mode : StrategyMode
  withEmphasis : StrategyEvidenceCandidates
  regenerationOrdinal : ℕ
  jobId : String
  outboxId : String
  strategyGenerationId : String
  evidenceId : String → String
  now : ℤ

namespace StrategyFreeze

variable (platform : EvidencePlatform) (freeze : StrategyFreeze)

def manifest : FrozenStrategyManifest :=
  buildStrategyManifest platform freeze.withEmphasis freeze.mode freeze.input

def requestSignature : String :=
  createStrategyRequestSignature platform (freeze.manifest platform).manifestHash
    freeze.regenerationOrdinal

def job : EnqueueBackgroundJobInput where
  correlationId := freeze.input.correlationId
  handlerVersion := 1
  idempotencyKey := strategyGenerateKey (freeze.requestSignature platform)
  inputVersion := none
  maxAttempts := none
  priority := none
  queueName := "strategy.generate"
  resourceId := some (freeze.input.instagramAccountId.getD freeze.context.workspaceId)
  resourceType := some
    (if freeze.input.instagramAccountId.isNone then "workspace" else "instagram_account")

/-- The identifier that a `connect` writes, if there is one. -/
def connected (identifier : Option String) : Option (Option String) :=
  match identifier with
  | none => some none
  | some spelling => (platform.uuidColumn spelling).map some

/-- `toColumn`, of the words of the contract, which are ASCII. -/
def toColumn (value : String) : String := String.ofList (value.toList.map Char.toUpper)

/-- The label of a mode. -/
def modeColumn : StrategyMode → EnumLabel strategyModeLabels
  | .evidenceLed => ⟨"EVIDENCE_LED", by decide⟩
  | .exploratory => ⟨"EXPLORATORY", by decide⟩

/-- How many of the entries are of a type. -/
def entriesOfType (type : StrategyEvidenceType) : ℕ :=
  (freeze.manifest platform).entries.countP fun entry => entry.evidenceType == type

/-- The generation that is created for the request and a job. -/
def generation (backgroundJobId : String) : Option StrategyGenerationRequest := do
  let instagramAccountId ← connected platform freeze.input.instagramAccountId
  let requestedByUserId ← connected platform (freeze.input.requestedByUserId.filter (· ≠ ""))
  let regeneratedFromId ← connected platform (freeze.input.regeneratedFromId.filter (· ≠ ""))
  pure
    { id := freeze.strategyGenerationId
      workspaceId := freeze.context.workspaceId
      instagramAccountId
      backgroundJobId
      analyticsRunId := freeze.withEmphasis.analyticsRunId
      mode := modeColumn freeze.mode
      primaryMetric := word freeze.input.primaryMetric
      ageWindow := freeze.withEmphasis.ageWindow
      publishedFrom := freeze.withEmphasis.publishedFrom
      publishedTo := freeze.withEmphasis.publishedTo
      pillarEmphasis := freeze.input.pillarEmphasis
      formatEmphasis := freeze.input.formatEmphasis
      editorialConstraint := freeze.input.editorialConstraint
      analysedPostCount := freeze.withEmphasis.counts.analysedPostCount
      comparablePostCount := freeze.withEmphasis.counts.comparablePostCount
      publicationWeekCount := freeze.withEmphasis.counts.publicationWeekCount
      evidenceCount := (freeze.manifest platform).entries.length
      postEvidenceCount := freeze.entriesOfType platform .post
      statisticEvidenceCount := freeze.entriesOfType platform .featureStatistic
      estimatedInputTokens := (freeze.manifest platform).estimatedInputTokens
      manifestHash := (freeze.manifest platform).manifestHash
      requestSignature := freeze.requestSignature platform
      regenerationOrdinal := freeze.regenerationOrdinal
      regeneratedFromId
      correlationId := freeze.input.correlationId
      requestedByUserId
      requestedAt := freeze.now }

/-- `referenceColumns`, for the column of a type. -/
def reference (entry : StrategyEvidenceEntry) (type : StrategyEvidenceType) : Option String :=
  if entry.evidenceType = type then entry.referenceId else none

/-- The label of the classification of an entry, if it has one. -/
def classificationColumn (classification : Option StrategyEvidenceClass) :
    Option (Option (EnumLabel featureStatisticConfidenceLabels)) :=
  match classification with
  | none => some none
  | some value =>
    (EnumLabel.ofText? featureStatisticConfidenceLabels (toColumn (word value))).map some

/-- The score of an entry as it is stored, if it has one. -/
def scoreStored (score : Option ℚ) : Option (Option ℚ) :=
  match score with
  | none => some none
  | some value => (platform.scoreColumn value).map some

/-- The row that `writeStrategyEvidence` writes for an entry. -/
def evidenceRow (entry : StrategyEvidenceEntry) : Option StrategyEvidence := do
  let category ← EnumLabel.ofText? strategyEvidenceCategoryLabels (toColumn (word entry.category))
  let classification ← classificationColumn entry.classification
  let evidenceType ←
    EnumLabel.ofText? strategyEvidenceTypeLabels (toColumn (word entry.evidenceType))
  let rankScore ← scoreStored platform entry.rankScore
  pure
    { id := freeze.evidenceId entry.evidenceKey
      workspaceId := freeze.context.workspaceId
      strategyGenerationId := freeze.strategyGenerationId
      evidenceKey := entry.evidenceKey
      evidenceType
      category
      retrievalReason := entry.retrievalReason
      rank := entry.rank
      rankScore
      allowedRoles := entry.allowedRoles.map word
      classification
      dimensions := entry.dimensions.map word
      sampleSize := entry.sampleSize
      allowedNumericClaims := entry.allowedNumericClaims
      requiredInLimitations := entry.requiredInLimitations
      summaryText := entry.summaryText
      featureStatisticId := reference entry .featureStatistic
      postAnalysisId := reference entry .postAnalysis
      metricSnapshotId := reference entry .metricSnapshot
      instagramPostId := reference entry .post
      sourceGenerationId := reference entry .recentRecommendation }

/-- A value that its column does not take. -/
def refused {α : Type} (column : String) : JobTransaction (StrategyTables Analytics) α :=
  refuse (.check column)

/-- `strategyGeneration.create`. -/
def createGeneration (backgroundJobId : String) : JobTransaction (StrategyTables Analytics) Unit :=
  match freeze.generation platform backgroundJobId with
  | none => refused "strategy_generations"
  | some row => fun db =>
    match db.app.strategyGenerations.create row with
    | .ok strategyGenerations => .ok ((), { db with app := { db.app with strategyGenerations } })
    | .error violation => refuse violation db

/-- `writeStrategyEvidence`. -/
def writeStrategyEvidence : JobTransaction (StrategyTables Analytics) Unit :=
  match (freeze.manifest platform).entries.mapM (freeze.evidenceRow platform) with
  | none => refused "strategy_evidence"
  | some rows => fun db =>
    match db.app.strategyEvidence.createMany rows with
    | .ok strategyEvidence => .ok ((), { db with app := { db.app with strategyEvidence } })
    | .error violation => refuse violation db

/-- What a request returns that has been frozen. -/
structure Requested where
  backgroundJobId : String
  created : Bool
  manifestHash : String
  mode : StrategyMode
  strategyGenerationId : String

/-- The transaction of `requestStrategyGeneration`. -/
def transaction : JobTransaction (StrategyTables Analytics) Requested := do
  let enqueued ← enqueueBackgroundJobInTransaction freeze.context (freeze.job platform)
    freeze.jobId freeze.outboxId
  freeze.createGeneration platform enqueued.id
  freeze.writeStrategyEvidence platform
  pure
    { backgroundJobId := enqueued.id
      created := enqueued.created
      manifestHash := (freeze.manifest platform).manifestHash
      mode := freeze.mode
      strategyGenerationId := freeze.strategyGenerationId }

end StrategyFreeze

/-! ### What the transaction writes -/

namespace StrategyFreeze

variable {platform : EvidencePlatform} {freeze : StrategyFreeze}
  {db : Database (StrategyTables Analytics)}

private theorem ensures_createGeneration {backgroundJobId : String} :
    (freeze.createGeneration platform backgroundJobId).Ensures
      (fun _ db' => ∃ row strategyGenerations,
        freeze.generation platform backgroundJobId = some row ∧
        strategyGenerations.rows = db.app.strategyGenerations.rows ++ [row] ∧
        db' = { db with app := { db.app with strategyGenerations } }) (fun _ => True) db := by
  unfold createGeneration
  split
  · exact trivial
  · next row hrow =>
    unfold Ensures StateT.run
    dsimp only
    rcases hresult : db.app.strategyGenerations.create row with violation | strategyGenerations
    · trivial
    · exact ⟨row, strategyGenerations, hrow, Table.create_eq_ok.mp hresult, rfl⟩

private theorem ensures_writeStrategyEvidence :
    (freeze.writeStrategyEvidence platform).Ensures
      (fun _ db' => ∃ rows strategyEvidence,
        (freeze.manifest platform).entries.mapM (freeze.evidenceRow platform) = some rows ∧
        strategyEvidence.rows = db.app.strategyEvidence.rows ++ rows ∧
        db' = { db with app := { db.app with strategyEvidence } }) (fun _ => True) db := by
  unfold writeStrategyEvidence
  split
  · exact trivial
  · next rows hrows =>
    unfold Ensures StateT.run
    dsimp only
    rcases hresult : db.app.strategyEvidence.createMany rows with violation | strategyEvidence
    · trivial
    · exact ⟨rows, strategyEvidence, hrows, Table.createMany_eq_ok.mp hresult, rfl⟩

/-- What a request leaves that has been frozen: one generation, and a row for each entry of
its manifest. -/
structure Frozen (platform : EvidencePlatform) (freeze : StrategyFreeze)
    (before after : StrategyTables Analytics) (backgroundJobId : String)
    (row : StrategyGenerationRequest) (rows : List StrategyEvidence) : Prop where
  generation : freeze.generation platform backgroundJobId = some row
  evidence : (freeze.manifest platform).entries.mapM (freeze.evidenceRow platform) = some rows
  analytics : after.analytics = before.analytics
  strategyGenerations : after.strategyGenerations.rows = before.strategyGenerations.rows ++ [row]
  strategyEvidence : after.strategyEvidence.rows = before.strategyEvidence.rows ++ rows

seal enqueueBackgroundJobInTransaction createGeneration writeStrategyEvidence in
/-- **The rule of freezing.** A transaction that returns has written one generation, and a row
for each entry of its manifest. -/
theorem ensures_transaction :
    (freeze.transaction platform).Ensures
      (fun requested db' => ∃ row rows,
        Frozen platform freeze db.app db'.app requested.backgroundJobId row rows)
      (fun _ => True) db := by
  unfold transaction
  refine (keepsApp_enqueueBackgroundJobInTransaction _ _ _ _).ensures_bind ?_
  intro enqueued db' happ
  rw [ensures_bind]
  refine ensures_createGeneration.mono ?_ fun _ _ => trivial
  rintro _ _ ⟨row, strategyGenerations, hrow, hgenerations, rfl⟩
  rw [ensures_bind]
  refine ensures_writeStrategyEvidence.mono ?_ fun _ _ => trivial
  rintro _ _ ⟨rows, strategyEvidence, hrows, hevidence, rfl⟩
  rw [ensures_pure]
  have happ' : db'.app = db.app := happ
  rw [happ'] at hgenerations
  refine ⟨row, rows, hrow, hrows, ?_, hgenerations, ?_⟩
  · show db'.app.analytics = db.app.analytics
    rw [happ']
  · have hevidence' : strategyEvidence.rows = db'.app.strategyEvidence.rows ++ rows := hevidence
    rw [happ'] at hevidence'
    exact hevidence'

end StrategyFreeze

end ContentAutomation
