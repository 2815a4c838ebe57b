import ContentAutomation.Library.Transition
import ContentAutomation.Strategy.Request
import Mathlib.Data.String.Basic

/-!
# Reading a manifest back

A handler renders the manifest of its generation from the rows that were frozen with it.
Whatever is written in between, what it reads are the entries that were selected, in their
order. The text is that of the request as long as the request spells its account as the
database does.
-/

namespace ContentAutomation

open Relational Transaction List StrategyFreeze

variable {Analytics : Type}

/-! ### Reading -/

namespace StrategyManifest

/-- `fromColumn`, of labels, which are ASCII. -/
def fromColumn (value : String) : String := String.ofList (value.toList.map Char.toLower)

/-- The classification of a row, if it has one. -/
def classificationOfColumn (classification : Option (EnumLabel featureStatisticConfidenceLabels)) :
    Option (Option StrategyEvidenceClass) :=
  match classification with
  | none => some none
  | some label => (Vocabulary.ofWord? (fromColumn label.text)).map some

/-- The entry of a row; `none` if a column holds no word of the contract. -/
def entry (row : StrategyEvidence) : Option StrategyEvidenceEntry := do
  let allowedRoles ← row.allowedRoles.mapM fun role => Vocabulary.ofWord? (fromColumn role)
  let category ← Vocabulary.ofWord? (fromColumn row.category.text)
  let classification ← classificationOfColumn row.classification
  let dimensions ← row.dimensions.mapM Vocabulary.ofWord?
  let evidenceType ← Vocabulary.ofWord? (fromColumn row.evidenceType.text)
  pure
    { allowedNumericClaims := row.allowedNumericClaims
      allowedRoles
      category
      classification
      dimensions
      evidenceKey := row.evidenceKey
      evidenceType
      postIds := []
      rank := row.rank
      rankScore := row.rankScore
      referenceId := none
      requiredInLimitations := row.requiredInLimitations
      retrievalReason := row.retrievalReason
      sampleSize := row.sampleSize
      summaryText := row.summaryText }

/-- `orderBy: [{ category: "asc" }, { rank: "asc" }]`, where a category comes in the order of its
declaration. -/
def comesBefore (row other : StrategyEvidence) : Prop :=
  row.category.position < other.category.position ∨
    row.category.position = other.category.position ∧ row.rank ≤ other.rank

instance : DecidableRel comesBefore := fun _ _ =>
  inferInstanceAs (Decidable (_ ∨ _))

/-- `FrozenStrategyGeneration`, without what later generations propose and how far its own work
has come. -/
structure FrozenStrategyGeneration where
  ageWindow : String
  editorialConstraint : Option String
  entries : List StrategyEvidenceEntry
  id : String
  instagramAccountId : Option String
  manifest : List StrategyManifestEvidence
  manifestHash : String
  mode : StrategyMode
  primaryMetric : String
  publishedFrom : ℤ
  publishedTo : ℤ

/-- The rows of evidence of a generation. -/
def evidenceOf (generation : StrategyGenerationRequest) (app : StrategyTables Analytics) :
    List StrategyEvidence :=
  app.strategyEvidence.rows.filter fun row =>
    row.strategyGenerationId == generation.id && row.workspaceId == generation.workspaceId

/-- `findStrategyGenerationForJob`. -/
def findStrategyGenerationForJob (context : WorkspaceContext) (backgroundJobId : String)
    (app : StrategyTables Analytics) : Option FrozenStrategyGeneration := do
  let generation ← app.strategyGenerations.findFirst fun row =>
    row.backgroundJobId == backgroundJobId && row.workspaceId == context.workspaceId
  let entries ← ((evidenceOf generation app).insertionSort comesBefore).mapM entry
  let mode ← Vocabulary.ofWord? (fromColumn generation.mode.text)
  pure
    { ageWindow := generation.ageWindow
      editorialConstraint := generation.editorialConstraint
      entries
      id := generation.id
      instagramAccountId := generation.instagramAccountId
      manifest := entries.map toStrategyManifestEvidence
      manifestHash := generation.manifestHash
      mode
      primaryMetric := generation.primaryMetric
      publishedFrom := generation.publishedFrom
      publishedTo := generation.publishedTo }

/-- The text that `requestStrategy` renders for the model. -/
def FrozenStrategyGeneration.manifestText (generation : FrozenStrategyGeneration) : String :=
  renderStrategyManifest
    { ageWindow := generation.ageWindow
      instagramAccountId := generation.instagramAccountId
      primaryMetric := generation.primaryMetric
      publishedFrom := Calendar.toISOString generation.publishedFrom
      publishedTo := Calendar.toISOString generation.publishedTo }
    generation.entries

/-! ### What is read of what was written -/

section Columns

private theorem category_column (category : StrategyEvidenceCategory) :
    ∃ label, EnumLabel.ofText? strategyEvidenceCategoryLabels
        (StrategyFreeze.toColumn (word category)) = some label ∧
      label.position = categoryOrder category ∧
      Vocabulary.ofWord? (fromColumn label.text) = some category := by
  cases category <;> exact ⟨_, rfl, by decide, by decide⟩

private theorem evidenceType_column {type : StrategyEvidenceType}
    {label : EnumLabel strategyEvidenceTypeLabels}
    (h : EnumLabel.ofText? strategyEvidenceTypeLabels (StrategyFreeze.toColumn (word type)) =
      some label) :
    Vocabulary.ofWord? (fromColumn label.text) = some type := by
  rw [EnumLabel.text_of_ofText? h]
  cases type <;> decide

private theorem classification_column {classification : Option StrategyEvidenceClass}
    {label : Option (EnumLabel featureStatisticConfidenceLabels)}
    (h : classificationColumn classification = some label) :
    classificationOfColumn label = some classification := by
  cases classification with
  | none =>
    cases h
    rfl
  | some value =>
    obtain ⟨stored, hstored, rfl⟩ := Option.map_eq_some_iff.mp h
    unfold classificationOfColumn
    dsimp only
    rw [EnumLabel.text_of_ofText? hstored]
    cases value <;> decide

private theorem mode_column (mode : StrategyMode) :
    Vocabulary.ofWord? (fromColumn (modeColumn mode).text) = some mode := by
  cases mode <;> decide

private theorem mapM_roles (roles : List StrategyEvidenceRole) :
    (roles.map word).mapM (fun role => Vocabulary.ofWord? (fromColumn role)) = some roles := by
  have hlower : ∀ role : StrategyEvidenceRole, fromColumn (word role) = word role := by
    intro role
    cases role <;> decide
  induction roles with
  | nil => rfl
  | cons role roles ih => simp [hlower, ih]

end Columns

/-- An entry as it is read back: what it refers to is left in the database. -/
def readBack (platform : EvidencePlatform) (entry : StrategyEvidenceEntry) :
    StrategyEvidenceEntry :=
  { entry with
    postIds := []
    rankScore := entry.rankScore.bind platform.scoreColumn
    referenceId := none }

section Rows

variable {platform : EvidencePlatform} {freeze : StrategyFreeze}

/-- The row of an entry is of the generation, stands where the entry does, and is read back. -/
theorem of_evidenceRow {written : StrategyEvidenceEntry} {row : StrategyEvidence}
    (h : freeze.evidenceRow platform written = some row) :
    row.strategyGenerationId = freeze.strategyGenerationId ∧
      row.workspaceId = freeze.context.workspaceId ∧
      row.category.position = categoryOrder written.category ∧ row.rank = written.rank ∧
      entry row = some (readBack platform written) := by
  obtain ⟨label, hlabel, hposition, hcategory⟩ := category_column written.category
  unfold evidenceRow at h
  rw [hlabel] at h
  simp only [Option.bind_eq_bind, Option.bind_some, Option.bind_eq_some_iff, Option.pure_def,
    Option.some.injEq] at h
  obtain ⟨classification, hclassification, evidenceType, htype, rankScore, hscore, rfl⟩ := h
  have hscore' : rankScore = written.rankScore.bind platform.scoreColumn := by
    unfold scoreStored at hscore
    cases hwritten : written.rankScore with
    | none =>
      rw [hwritten] at hscore
      cases hscore
      rfl
    | some value =>
      rw [hwritten] at hscore
      obtain ⟨stored, hstored, rfl⟩ := Option.map_eq_some_iff.mp hscore
      exact hstored.symm
  refine ⟨rfl, rfl, hposition, rfl, ?_⟩
  unfold entry readBack
  rw [mapM_roles, hcategory, classification_column hclassification, Vocabulary.mapM_ofWord?,
    evidenceType_column htype, ← hscore']
  rfl

/-- **Rows are read back.** The rows of entries that stand in order are of the generation, come
in the order of the database, and are read back as the entries. -/
theorem of_evidenceRows {entries : List StrategyEvidenceEntry} {rows : List StrategyEvidence}
    (h : entries.mapM (freeze.evidenceRow platform) = some rows)
    (hordered : entries.Pairwise EntryBefore) :
    (∀ row ∈ rows, row.strategyGenerationId = freeze.strategyGenerationId ∧
        row.workspaceId = freeze.context.workspaceId ∧
        ∃ written ∈ entries, row.category.position = categoryOrder written.category ∧
          row.rank = written.rank) ∧
      rows.Pairwise comesBefore ∧
      rows.mapM entry = some (entries.map (readBack platform)) := by
  induction entries generalizing rows with
  | nil =>
    cases h
    exact ⟨fun _ h => (not_mem_nil h).elim, .nil, rfl⟩
  | cons written entries ih =>
    obtain ⟨hhead, htail⟩ := pairwise_cons.mp hordered
    simp only [mapM_cons, Option.bind_eq_bind, Option.bind_eq_some_iff, Option.pure_def,
      Option.some.injEq] at h
    obtain ⟨row, hrow, others, hothers, rfl⟩ := h
    obtain ⟨hgeneration, hworkspace, hposition, hrank, hentry⟩ := of_evidenceRow hrow
    obtain ⟨hof, hsorted, hread⟩ := ih hothers htail
    refine ⟨?_, List.Pairwise.cons ?_ hsorted, ?_⟩
    · intro other hother
      rcases mem_cons.mp hother with rfl | hother
      · exact ⟨hgeneration, hworkspace, written, mem_cons_self, hposition, hrank⟩
      · obtain ⟨hof, hof', source, hsource, hplace⟩ := hof other hother
        exact ⟨hof, hof', source, mem_cons_of_mem _ hsource, hplace⟩
    · intro other hother
      obtain ⟨-, -, source, hsource, hposition', hrank'⟩ := hof other hother
      unfold comesBefore
      rw [hposition, hposition', hrank, hrank']
      rcases hhead source hsource with hlt | ⟨heq, hlt⟩
      · exact Or.inl hlt
      · exact Or.inr ⟨heq, hlt.le⟩
    · simp [hentry, hread]

end Rows

/-! ### Texts -/

section Texts

variable {platform : EvidencePlatform} {entries : List StrategyEvidenceEntry}
  {scope scope' : StrategyManifestScope}

private theorem manifestBody_readBack :
    manifestBody scope (entries.map (readBack platform)) = manifestBody scope entries := by
  unfold manifestBody
  rw [map_map, map_map]
  rfl

private theorem map_toStrategyManifestEvidence_readBack :
    (entries.map (readBack platform)).map toStrategyManifestEvidence =
      entries.map toStrategyManifestEvidence := by
  rw [map_map]
  rfl

/-- Two texts that differ in the account at most are the same exactly if the account is. -/
theorem renderStrategyManifest_eq_iff
    (hscope : { scope with instagramAccountId := scope'.instagramAccountId } = scope') :
    renderStrategyManifest scope entries = renderStrategyManifest scope' entries ↔
      scope.instagramAccountId.getD "every linked account, pooled" =
        scope'.instagramAccountId.getD "every linked account, pooled" := by
  have hbody : manifestBody scope entries = manifestBody scope' entries := by
    rw [← hscope]
    rfl
  unfold renderStrategyManifest
  rw [hbody, String.append_left_inj, String.append_right_inj]

end Texts

/-! ### Runs -/

/-- What may happen. -/
inductive StrategyEvent (Analytics : Type)
  /-- A request is frozen, or its transaction is rolled back. -/
  | freeze (freeze : StrategyFreeze)
  /-- The rest of the application writes. -/
  | others (after : Database (StrategyTables Analytics))

/-- A step of the database. What others write leaves the frozen rows alone. -/
def Step (platform : EvidencePlatform) (db : Database (StrategyTables Analytics)) :
    StrategyEvent Analytics → Database (StrategyTables Analytics) → Prop
  | .freeze freeze, db' => db' = ((freeze.transaction platform).commit db).2
  | .others after, db' => db' = after ∧
      after.app.strategyGenerations = db.app.strategyGenerations ∧
        after.app.strategyEvidence = db.app.strategyEvidence

/-- A database without strategies. -/
def WithoutStrategies (app : StrategyTables Analytics) : Prop :=
  app.strategyGenerations.rows = [] ∧ app.strategyEvidence.rows = []

/-- Every row of evidence is of a generation. -/
def Owned (app : StrategyTables Analytics) : Prop :=
  ∀ row ∈ app.strategyEvidence.rows, ∃ generation ∈ app.strategyGenerations.rows,
    generation.id = row.strategyGenerationId

/-- A generation is there, with its rows of evidence. -/
def Kept (generation : StrategyGenerationRequest) (rows : List StrategyEvidence)
    (app : StrategyTables Analytics) : Prop :=
  generation ∈ app.strategyGenerations.rows ∧ evidenceOf generation app = rows

section Runs

variable {platform : EvidencePlatform} {freeze : StrategyFreeze}
  {app app' : StrategyTables Analytics} {db db' : Database (StrategyTables Analytics)}
  {event : StrategyEvent Analytics} {backgroundJobId : String}
  {generation created : StrategyGenerationRequest} {rows written : List StrategyEvidence}

private theorem keyedBy_id :
    strategyGenerationRequestSchema.KeyedBy StrategyGenerationRequest.id :=
  ⟨_, mem_cons_self, fun _ _ h => by simpa using h⟩

private theorem keyedBy_job : strategyGenerationRequestSchema.KeyedBy
    fun row : StrategyGenerationRequest => (row.workspaceId, row.backgroundJobId) :=
  ⟨_, mem_cons_of_mem _ mem_cons_self, fun _ _ h => by simpa using h⟩

/-- What is created has the identifiers of its request and its job, and the scope of its
manifest, but for the spelling of the account. -/
theorem of_generation (h : freeze.generation platform backgroundJobId = some created) :
    created.id = freeze.strategyGenerationId ∧
      created.workspaceId = freeze.context.workspaceId ∧
      created.backgroundJobId = backgroundJobId ∧
      created.mode = modeColumn freeze.mode ∧
      (⟨created.ageWindow, created.instagramAccountId, created.primaryMetric,
          Calendar.toISOString created.publishedFrom, Calendar.toISOString created.publishedTo⟩ :
            StrategyManifestScope) =
        { (freeze.manifest platform).identity.toStrategyManifestScope with
          instagramAccountId := created.instagramAccountId } ∧
      connected platform freeze.input.instagramAccountId =
        some created.instagramAccountId := by
  unfold generation at h
  simp only [Option.bind_eq_bind, Option.bind_eq_some_iff, Option.pure_def,
    Option.some.injEq] at h
  obtain ⟨account, haccount, user, -, source, -, rfl⟩ := h
  exact ⟨rfl, rfl, rfl, rfl, rfl, haccount⟩

private theorem id_ne_of_frozen
    (h : Frozen platform freeze app app' backgroundJobId created written)
    (hold : generation ∈ app.strategyGenerations.rows) :
    generation.id ≠ freeze.strategyGenerationId := by
  have hpairwise := app'.strategyGenerations.pairwise_key keyedBy_id
  rw [h.strategyGenerations, pairwise_append] at hpairwise
  rw [← (of_generation h.generation).1]
  exact hpairwise.2.2 generation hold created (mem_singleton_self _)

private theorem of_written
    (h : Frozen platform freeze app app' backgroundJobId created written) :
    (∀ row ∈ written, row.strategyGenerationId = freeze.strategyGenerationId ∧
        row.workspaceId = freeze.context.workspaceId) ∧
      written.Pairwise comesBefore ∧
      written.mapM entry =
        some ((freeze.manifest platform).entries.map (readBack platform)) := by
  obtain ⟨hof, hsorted, hread⟩ := of_evidenceRows h.evidence
    (pairwise_selectStrategyEvidence platform freeze.withEmphasis.candidates none)
  exact ⟨fun row hrow => ⟨(hof row hrow).1, (hof row hrow).2.1⟩, hsorted, hread⟩

theorem Owned.frozen
    (h : Frozen platform freeze app app' backgroundJobId created written)
    (howned : Owned app) : Owned app' := by
  intro row hrow
  rw [h.strategyEvidence] at hrow
  rw [h.strategyGenerations]
  rcases mem_append.mp hrow with hold | hnew
  · obtain ⟨generation, hgeneration, hid⟩ := howned row hold
    exact ⟨generation, mem_append_left _ hgeneration, hid⟩
  · refine ⟨created, mem_append_right _ (mem_singleton_self _), ?_⟩
    rw [((of_written h).1 row hnew).1]
    exact (of_generation h.generation).1

theorem Kept.frozen
    (h : Frozen platform freeze app app' backgroundJobId created written)
    (hkept : Kept generation rows app) : Kept generation rows app' := by
  obtain ⟨hmem, hrows⟩ := hkept
  refine ⟨?_, ?_⟩
  · rw [h.strategyGenerations]
    exact mem_append_left _ hmem
  · have hnone : (written.filter fun row => row.strategyGenerationId == generation.id &&
        row.workspaceId == generation.workspaceId) = [] := by
      apply filter_eq_nil_iff.mpr
      intro row hrow
      rw [((of_written h).1 row hrow).1]
      simp [(id_ne_of_frozen h hmem).symm]
    unfold evidenceOf at hrows ⊢
    rw [h.strategyEvidence, filter_append, hnone, append_nil]
    exact hrows

/-- Freezing leaves the generation with the rows that are written. -/
theorem keeps_of_frozen
    (h : Frozen platform freeze app app' backgroundJobId created written)
    (howned : Owned app) : Kept created written app' := by
  obtain ⟨hid, hworkspace, -⟩ := of_generation h.generation
  refine ⟨?_, ?_⟩
  · rw [h.strategyGenerations]
    exact mem_append_right _ (mem_singleton_self _)
  · -- the earlier rows are of other generations
    have hnone : (app.strategyEvidence.rows.filter fun row =>
        row.strategyGenerationId == created.id && row.workspaceId == created.workspaceId) = [] := by
      apply filter_eq_nil_iff.mpr
      intro row hrow
      obtain ⟨generation, hgeneration, howner⟩ := howned row hrow
      rw [← howner, hid]
      simp [id_ne_of_frozen h hgeneration]
    have hall : (written.filter fun row =>
        row.strategyGenerationId == created.id && row.workspaceId == created.workspaceId) =
          written := by
      apply filter_eq_self.mpr
      intro row hrow
      obtain ⟨hgeneration, hcontext⟩ := (of_written h).1 row hrow
      rw [hgeneration, hcontext, hid, hworkspace]
      simp
    unfold evidenceOf
    rw [h.strategyEvidence, filter_append, hnone, hall, nil_append]

private theorem frozen_of_commit (platform : EvidencePlatform) (freeze : StrategyFreeze)
    (db : Database (StrategyTables Analytics)) :
    ((freeze.transaction platform).commit db).2.app = db.app ∨
      ∃ backgroundJobId created written, Frozen platform freeze db.app
        ((freeze.transaction platform).commit db).2.app backgroundJobId created written := by
  rcases ensures_transaction.commit_cases (s := db) with
    ⟨requested, db', hcommit, created, written, hfrozen⟩ | ⟨exception, hcommit, -⟩
  · rw [hcommit]
    exact Or.inr ⟨_, created, written, hfrozen⟩
  · rw [hcommit]
    exact Or.inl rfl

/-- **Step lemma.** What every freezing keeps, every step keeps. -/
theorem Step.keeps {I : StrategyTables Analytics → Prop} (hstep : Step platform db event db')
    (hfrozen : ∀ {freeze : StrategyFreeze} {app' : StrategyTables Analytics}
      {backgroundJobId : String} {created written},
      Frozen platform freeze db.app app' backgroundJobId created written → I app')
    (hothers : ∀ app' : StrategyTables Analytics,
      app'.strategyGenerations = db.app.strategyGenerations →
        app'.strategyEvidence = db.app.strategyEvidence → I app') : I db'.app := by
  cases event with
  | freeze freeze =>
    rw [show db' = _ from hstep]
    rcases frozen_of_commit platform freeze db with hsame | ⟨_, _, _, h⟩
    · exact hothers _ (by rw [hsame]) (by rw [hsame])
    · exact hfrozen h
  | others after =>
    obtain ⟨rfl, hgenerations, hevidence⟩ := hstep
    exact hothers _ hgenerations hevidence

private theorem owned_of_reachable (hstart : WithoutStrategies db.app)
    (hreach : Transition.Reachable (Step platform) db db') : Owned db'.app := by
  refine hreach.invariant (I := fun db => Owned db.app) ?_ ?_
  · intro row hrow
    rw [hstart.2] at hrow
    cases hrow
  · intro db db' event howned hstep
    refine hstep.keeps (I := Owned) (fun h => howned.frozen h) ?_
    intro app' hgenerations hevidence row hrow
    rw [hevidence] at hrow
    rw [hgenerations]
    exact howned row hrow

/-- **Run lemma.** A generation and its evidence stay as they are. -/
theorem keeps_of_reachable (hkept : Kept generation rows db.app)
    (hreach : Transition.Reachable (Step platform) db db') :
    Kept generation rows db'.app := by
  refine hreach.invariant (I := fun db => Kept generation rows db.app) hkept ?_
  intro db db' event hbefore hstep
  refine hstep.keeps (I := Kept generation rows) (fun h => hbefore.frozen h) ?_
  intro app' hgenerations hevidence
  unfold Kept evidenceOf at hbefore ⊢
  rw [hgenerations, hevidence]
  exact hbefore

private theorem findStrategyGenerationForJob_of_keeps {context : WorkspaceContext}
    {entries : List StrategyEvidenceEntry} {mode : StrategyMode} (hkept : Kept generation rows app)
    (hsorted : rows.Pairwise comesBefore) (hread : rows.mapM entry = some entries)
    (hworkspace : generation.workspaceId = context.workspaceId)
    (hmode : Vocabulary.ofWord? (fromColumn generation.mode.text) = some mode) :
    findStrategyGenerationForJob context generation.backgroundJobId app = some
      { ageWindow := generation.ageWindow
        editorialConstraint := generation.editorialConstraint
        entries
        id := generation.id
        instagramAccountId := generation.instagramAccountId
        manifest := entries.map toStrategyManifestEvidence
        manifestHash := generation.manifestHash
        mode
        primaryMetric := generation.primaryMetric
        publishedFrom := generation.publishedFrom
        publishedTo := generation.publishedTo } := by
  have hfound : (app.strategyGenerations.findFirst fun row =>
      row.backgroundJobId == generation.backgroundJobId &&
        row.workspaceId == context.workspaceId) = some generation := by
    refine find?_eq_some_of_pairwise ?_ hkept.1 (by simp [hworkspace])
    refine (app.strategyGenerations.pairwise_key keyedBy_job).imp fun hne hboth => hne ?_
    simp only [Bool.and_eq_true, beq_iff_eq] at hboth
    rw [hboth.1.1, hboth.1.2, hboth.2.1, hboth.2.2]
  unfold findStrategyGenerationForJob
  rw [hfound]
  simp [hkept.2, hsorted.insertionSort_eq, hread, hmode]

end Runs

/-- **The condition for texts.** The request spells its account as the database does. -/
def SpellsAccount (platform : EvidencePlatform) (freeze : StrategyFreeze) : Prop :=
  ∀ spelling, freeze.input.instagramAccountId = some spelling →
    platform.uuidColumn spelling = some spelling

/-- What the handler reads of a request that was frozen as a generation. -/
def frozenOf (platform : EvidencePlatform) (freeze : StrategyFreeze)
    (created : StrategyGenerationRequest) : FrozenStrategyGeneration where
  ageWindow := created.ageWindow
  editorialConstraint := created.editorialConstraint
  entries := (freeze.manifest platform).entries.map (readBack platform)
  id := created.id
  instagramAccountId := created.instagramAccountId
  manifest := (freeze.manifest platform).entries.map toStrategyManifestEvidence
  manifestHash := created.manifestHash
  mode := freeze.mode
  primaryMetric := created.primaryMetric
  publishedFrom := created.publishedFrom
  publishedTo := created.publishedTo

section Reading

variable {platform : EvidencePlatform} {freeze : StrategyFreeze}
  {start db db' db'' : Database (StrategyTables Analytics)} {requested : Requested}

private theorem found_of_frozen (hstart : WithoutStrategies start.app)
    (hreach : Transition.Reachable (Step platform) start db)
    (hfrozen : (freeze.transaction platform).run db = .ok (requested, db'))
    (hlater : Transition.Reachable (Step platform) db' db'') :
    ∃ created, freeze.generation platform requested.backgroundJobId = some created ∧
      findStrategyGenerationForJob freeze.context requested.backgroundJobId db''.app =
        some (frozenOf platform freeze created) := by
  obtain ⟨created, written, h⟩ := ensures_transaction.of_run hfrozen
  obtain ⟨-, hsorted, hread⟩ := of_written h
  obtain ⟨-, hworkspace, hjob, hcolumn, -⟩ := of_generation h.generation
  have hkept := keeps_of_reachable (keeps_of_frozen h (owned_of_reachable hstart hreach)) hlater
  have hmode : Vocabulary.ofWord? (fromColumn created.mode.text) = some freeze.mode := by
    rw [hcolumn]
    exact mode_column freeze.mode
  have hfound := findStrategyGenerationForJob_of_keeps hkept hsorted hread hworkspace hmode
  rw [hjob, map_toStrategyManifestEvidence_readBack] at hfound
  exact ⟨created, h.generation, hfound⟩

/-- The text that the handler renders is that of the request exactly if the request spells its
account as the database does. -/
theorem manifestText_eq_iff {backgroundJobId : String} {created : StrategyGenerationRequest}
    (h : freeze.generation platform backgroundJobId = some created) :
    (frozenOf platform freeze created).manifestText = (freeze.manifest platform).rendered ↔
      SpellsAccount platform freeze := by
  obtain ⟨-, -, -, -, hscope, haccount⟩ := of_generation h
  have htext : (frozenOf platform freeze created).manifestText =
      renderStrategyManifest
        { (freeze.manifest platform).identity.toStrategyManifestScope with
          instagramAccountId := created.instagramAccountId }
        (freeze.manifest platform).entries := by
    unfold FrozenStrategyGeneration.manifestText renderStrategyManifest
    rw [← hscope]
    exact congrArg _ manifestBody_readBack
  rw [htext]
  refine (renderStrategyManifest_eq_iff rfl).trans ?_
  show created.instagramAccountId.getD _ = freeze.input.instagramAccountId.getD _ ↔ _
  unfold SpellsAccount
  unfold connected at haccount
  cases hinput : freeze.input.instagramAccountId with
  | none =>
    rw [hinput] at haccount
    rw [← Option.some.inj haccount]
    simp
  | some spelling =>
    rw [hinput] at haccount
    obtain ⟨stored, hstored, hcreated⟩ := Option.map_eq_some_iff.mp haccount
    rw [← hcreated]
    simp only [Option.getD_some, Option.some.injEq, forall_eq']
    rw [hstored]
    simp only [Option.some.injEq]

/-- **A manifest is read back.** Of a request that was frozen in a reachable state, the handler
finds the selected entries in every later state, whatever is written in between; the text that
it renders is that of the request exactly if the request spells its account as the database
does. -/
theorem manifest_is_read_back_iff (hstart : WithoutStrategies start.app)
    (hreach : Transition.Reachable (Step platform) start db)
    (hfrozen : (freeze.transaction platform).run db = .ok (requested, db'))
    (hlater : Transition.Reachable (Step platform) db' db'') :
    (∃ frozen, findStrategyGenerationForJob freeze.context requested.backgroundJobId db''.app =
        some frozen ∧
      frozen.manifest = (freeze.manifest platform).entries.map toStrategyManifestEvidence ∧
      frozen.manifestText = (freeze.manifest platform).rendered) ↔
    SpellsAccount platform freeze := by
  obtain ⟨created, hcreated, hfound⟩ := found_of_frozen hstart hreach hfrozen hlater
  rw [← manifestText_eq_iff hcreated]
  constructor
  · rintro ⟨frozen, hsome, -, htext⟩
    rw [hfound] at hsome
    rw [Option.some.inj hsome]
    exact htext
  · intro htext
    exact ⟨_, hfound, rfl, htext⟩

end Reading

/-! ### A request -/

namespace Sample

/-- The platform. The digests are those of the texts that are hashed here, which differ in their
beginnings. -/
def platform (manifestHash requestSignature : String) : EvidencePlatform where
  collates first second := decide (first ≤ second)
  collates_total first second := by simpa using le_total first second
  collates_trans first second third := by simpa using le_trans
  sha256 text :=
    match text.take 3 with
    | [0x68, 0x6F, 0x6F] => "f03dbfc2410648e3755ce1ae2c8864db2a3115943159a8ec32b0502355e5b1eb"
    | [0x31, 0x20, 0x6F] => "fd2babd3be5b56fa476bf3ef1d43f8c2b03c47a19af8ecb48c6ef8a7f473aa08"
    | [0x5B, 0x22, 0x61] => manifestHash
    | _ => requestSignature
  uuidColumn spelling :=
    if isUuidV7 spelling then some (String.ofList (spelling.toList.map Char.toLower)) else none
  scoreColumn value := if |value| < 10 ^ 12 then some value else none

def statistic : StrategyEvidenceCandidate where
  allowedNumericClaims := ["25.0%"]
  allowedRoles := [.supporting, .context]
  category := .positiveStatistic
  classification := some .moderateAssociation
  dimensions := [.hook]
  evidenceType := .featureStatistic
  postIds := ["post"]
  rankScore := some (1 / 4)
  referenceId := some "statistic"
  requiredInLimitations := false
  retrievalReason := "effect"
  sampleSize := some 6
  summaryText := "hook=question"

def coverage : StrategyEvidenceCandidate where
  allowedNumericClaims := ["12", "1"]
  allowedRoles := [.limitation]
  category := .dataQuality
  classification := none
  dimensions := []
  evidenceType := .dataQuality
  postIds := []
  rankScore := none
  referenceId := none
  requiredInLimitations := true
  retrievalReason := "coverage_summary"
  sampleSize := some 12
  summaryText := "1 of 12 posts"

/-- A request for one account, under a spelling of its identifier. -/
def request (account : String) : StrategyFreeze where
  context := ⟨"workspace"⟩
  input :=
    { acceptExploratory := true
      correlationId := "0192f2a0-0000-7000-8000-0000000000c0"
      editorialConstraint := none
      formatEmphasis := []
      instagramAccountId := some account
      pillarEmphasis := []
      primaryMetric := .engagementRateReach
      regeneratedFromId := none
      requestedByUserId := none }
  mode := .exploratory
  withEmphasis :=
    { ageWindow := "day_30"
      analyticsRunId := "run"
      candidates := [coverage, statistic]
      counts := ⟨12, 1, 4⟩
      publishedFrom := 0
      publishedTo := 86400000 }
  regenerationOrdinal := 0
  jobId := "job"
  outboxId := "outbox"
  strategyGenerationId := "generation"
  evidenceId key := key
  now := 90000000

/-- The platform, with the digests of the request under the spelling of the database. -/
def lowerCase : EvidencePlatform :=
  platform "dc48c60385aceafb84622991e6ad1fe821cb6fa9350dcabad0041bcf4659ea2e"
    "252d08b70dc0208849bbf35b2d0d1fb711c7f34435ea8aff2280c7a16de6a85c"

/-- The platform, with the digests of the request under the other spelling. -/
def upperCase : EvidencePlatform :=
  platform "2f03ce8a15dfb6abf0fcc2ec6eda4a04dbe5804e312e1a6c6dd25cb5a52a6af4"
    "2566dc8962bc1f1dddebb10cec406c17d6a1ef963d5d8a3d8a30e10fc11b5265"

/-- The identifier of the account, as the database spells it. -/
def account : String := "0192f2a0-0000-7000-8000-00000000af01"

def accountInUpperCase : String := "0192F2A0-0000-7000-8000-00000000AF01"

private theorem ok_of_toOption {ε α : Type} {result : Except ε α} {value : α}
    (h : result.toOption = some value) : result = .ok value := by
  cases result with
  | ok returned =>
    cases h
    rfl
  | error => cases h

def empty : Database (StrategyTables Unit) where
  clock := 0
  backgroundJobs := Table.empty _
  jobAttempts := Table.empty _
  jobOutbox := Table.empty _
  auditEvents := Table.empty _
  internalUsers := []
  analysisJobs := []
  app := ⟨(), Table.empty _, Table.empty _⟩

end Sample

open StrategyManifest.Sample in
/-- A request that spells its account as the database does is read back. -/
theorem read_back_sample : ∃ requested db,
    ((request account).transaction lowerCase).run empty = .ok (requested, db) ∧
      ∃ frozen, findStrategyGenerationForJob (request account).context requested.backgroundJobId
          db.app = some frozen ∧
        frozen.manifest =
          ((request account).manifest lowerCase).entries.map toStrategyManifestEvidence ∧
        frozen.manifestText = ((request account).manifest lowerCase).rendered := by
  have hrun : (((request account).transaction lowerCase).run empty).toOption.isSome = true := by
    decide +kernel
  obtain ⟨⟨requested, db⟩, hsome⟩ := Option.isSome_iff_exists.mp hrun
  have hfrozen := ok_of_toOption hsome
  have hwithout : WithoutStrategies empty.app := ⟨rfl, rfl⟩
  refine ⟨requested, db, hfrozen, ?_⟩
  refine (manifest_is_read_back_iff hwithout .refl hfrozen .refl).mpr ?_
  rintro spelling ⟨⟩
  decide

open StrategyManifest.Sample in
/-- **A request that spells its account in upper case is not read back as it was rendered.** -/
theorem other_text_is_read_back : ∃ requested db,
    ((request accountInUpperCase).transaction upperCase).run empty = .ok (requested, db) ∧
      ¬ ∃ frozen, findStrategyGenerationForJob (request accountInUpperCase).context
          requested.backgroundJobId db.app = some frozen ∧
        frozen.manifest =
          ((request accountInUpperCase).manifest upperCase).entries.map
            toStrategyManifestEvidence ∧
        frozen.manifestText = ((request accountInUpperCase).manifest upperCase).rendered := by
  have hrun : (((request accountInUpperCase).transaction upperCase).run empty).toOption.isSome =
      true := by
    decide +kernel
  obtain ⟨⟨requested, db⟩, hsome⟩ := Option.isSome_iff_exists.mp hrun
  have hfrozen := ok_of_toOption hsome
  have hwithout : WithoutStrategies empty.app := ⟨rfl, rfl⟩
  refine ⟨requested, db, hfrozen, ?_⟩
  obtain ⟨created, hcreated, hfound⟩ :=
    found_of_frozen hwithout .refl hfrozen .refl
  rintro ⟨frozen, hsome, -, htext⟩
  rw [hfound] at hsome
  rw [← Option.some.inj hsome] at htext
  have hspells := (manifestText_eq_iff hcreated).mp htext accountInUpperCase rfl
  revert hspells
  decide

end StrategyManifest

end ContentAutomation
