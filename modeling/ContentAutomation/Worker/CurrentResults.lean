import ContentAutomation.Library.Succession
import ContentAutomation.Worker.Analyses

/-!
# Current results

A post points at its current analysis, and an account at its current strategy. Each publication
moves the pointer of its own transaction, whatever it points at: of two requests the one that
publishes last is current, though it may have been frozen first. But no pointer moves to a result
that had been published before.
-/

namespace ContentAutomation

open Relational Transaction Transition List AnalysisSystem.Sample

/-! ### Pointers -/

/-- The current strategy of an account. -/
def currentStrategy (accounts : Table instagramAccountSchema) (accountId : String) :
    Option String :=
  (accounts.lookup InstagramAccount.id accountId).bind InstagramAccount.currentStrategyId

/-- The current analysis of a post. -/
def currentAnalysis (posts : Table instagramPostSchema) (postId : String) : Option String :=
  (posts.lookup InstagramPost.id postId).bind InstagramPost.currentAnalysisId

/-- Strategies: a generation is published when its result is stored. -/
def strategySuccession : Succession WorkerTables String String where
  current app := currentStrategy app.instagramAccounts
  published app id := ∃ row ∈ app.strategyGenerations.rows, row.id = id ∧ row.result.isSome = true

def analysisSuccession : Succession WorkerTables String String where
  current app := currentAnalysis app.instagramPosts
  published app id := ∃ row ∈ app.postAnalyses.rows, row.id = id

private theorem postAnalysisSchema_keyedBy_id : postAnalysisSchema.KeyedBy PostAnalysis.id :=
  ⟨_, mem_cons_self, fun _ _ h => by simpa using h⟩

section Publications

variable {context : WorkspaceContext} {db : Database WorkerTables}

private theorem currentStrategy_update {accounts accounts' : Table instagramAccountSchema}
    {strategyId : String} {selects : InstagramAccount → Bool}
    (hrows : accounts'.rows = accounts.rows.map fun row =>
      if selects row then { row with currentStrategyId := some strategyId } else row)
    (accountId : String) : currentStrategy accounts' accountId = currentStrategy accounts accountId ∨
      currentStrategy accounts' accountId = some strategyId := by
  have hlookup : accounts'.lookup InstagramAccount.id accountId =
      (accounts.lookup InstagramAccount.id accountId).map _ :=
    Table.lookup_map hrows fun row _ => rfl
  unfold currentStrategy
  rw [hlookup]
  cases accounts.lookup InstagramAccount.id accountId with
  | none => exact .inl rfl
  | some row =>
    by_cases hselected : selects row = true
    · right
      simp [hselected]
    · left
      simp [hselected]

private theorem currentAnalysis_update {posts posts' : Table instagramPostSchema}
    {analysisId : String} {selects : InstagramPost → Bool}
    (hrows : posts'.rows = posts.rows.map fun row =>
      if selects row then { row with currentAnalysisId := some analysisId } else row)
    (postId : String) : currentAnalysis posts' postId = currentAnalysis posts postId ∨
      currentAnalysis posts' postId = some analysisId := by
  have hlookup : posts'.lookup InstagramPost.id postId =
      (posts.lookup InstagramPost.id postId).map _ :=
    Table.lookup_map hrows fun row _ => rfl
  unfold currentAnalysis
  rw [hlookup]
  cases posts.lookup InstagramPost.id postId with
  | none => exact .inl rfl
  | some row =>
    by_cases hselected : selects row = true
    · right
      simp [hselected]
    · left
      simp [hselected]

/-- **A strategy that becomes current is published with it.** -/
theorem succeeds_publishStrategyGeneration {input : PublishStrategyInput}
    (hrow : ∃ row ∈ db.generations, isGeneration context input.strategyGenerationId row) :
    (publishStrategyGeneration context input).Ensures
      (fun _ db' => strategySuccession.Succeeds db.app db'.app) (fun _ => True) db := by
  unfold publishStrategyGeneration WorkerTable.findFirst
  rw [ensures_bind, ensures_read]
  split_ifs with hexisting
  · exact .refl
  · obtain ⟨row, hmem, hselected⟩ := hrow
    have hselected' := hselected
    simp only [isGeneration, Bool.and_eq_true, beq_iff_eq] at hselected'
    have hnew : ¬ strategySuccession.published db.app input.strategyGenerationId := by
      rintro ⟨other, hother, hid, hresult⟩
      have hsame : other = row := Table.eq_of_key strategyGenerationSchema_keyedBy_id hother hmem
        (hid.trans hselected'.1.symm)
      subst hsame
      apply hexisting
      rw [Table.findFirst, List.find?_isSome]
      exact ⟨other, hmem, by simp [hselected'.1, hselected'.2, hresult]⟩
    rw [ensures_bind]
    apply WorkerTable.ensures_updateMany
    intro rows hrows
    have hrows' : rows.rows = updatedRows (publishedGeneration input)
      (isGeneration context input.strategyGenerationId) db.generations := hrows
    have hkept : ∀ id, strategySuccession.published db.app id →
        ∃ row ∈ rows.rows, row.id = id ∧ row.result.isSome = true := by
      rintro id ⟨other, hother, rfl, hresult⟩
      rw [hrows']
      refine ⟨_, mem_map_of_mem hother, ?_, ?_⟩
      · split <;> rfl
      · split
        · rfl
        · exact hresult
    have hpublished : ∃ row ∈ rows.rows,
        row.id = input.strategyGenerationId ∧ row.result.isSome = true := by
      rw [hrows']
      refine ⟨_, mem_map_of_mem hmem, ?_⟩
      rw [if_pos hselected]
      exact ⟨hselected'.1, rfl⟩
    cases input.instagramAccountId with
    | none => exact .of_current_eq hkept fun _ => rfl
    | some accountId =>
      rw [ensures_bind]
      apply WorkerTable.ensures_updateMany
      intro accounts haccounts
      refine ⟨hkept, fun k => ?_⟩
      rcases currentStrategy_update haccounts k with hsame | hmoved
      · exact .inl hsame
      · exact .inr ⟨_, hmoved, hnew, hpublished⟩

/-- Posts and analyses. -/
def Database.analysed (db : Database WorkerTables) :
    Table instagramPostSchema × Table postAnalysisSchema :=
  (db.app.instagramPosts, db.app.postAnalyses)

private theorem succeeds_of_analysed {db' : Database WorkerTables}
    (h : db'.analysed = db.analysed) :
    analysisSuccession.Succeeds db.app db'.app := by
  obtain ⟨hposts, hanalyses⟩ := Prod.mk.inj h
  refine .of_current_eq ?_ fun postId => ?_
  · rintro id ⟨row, hrow, hid⟩
    exact ⟨row, hanalyses ▸ hrow, hid⟩
  · exact congrArg (currentAnalysis · postId) hposts

/-- **An analysis that becomes current is published with it.** -/
theorem succeeds_publishPostAnalysis {input : PublishAnalysisInput} {analysisId : String} :
    (publishPostAnalysis context input analysisId).Ensures
      (fun _ db' => analysisSuccession.Succeeds db.app db'.app) (fun _ => True) db := by
  unfold publishPostAnalysis
  rw [ensures_bind, WorkerTable.findFirst, ensures_read]
  split_ifs with hexisting
  · exact .refl
  · rw [ensures_bind]
    apply WorkerTable.ensures_create
    intro analyses hanalyses
    rw [ensures_bind]
    apply WorkerTable.ensures_updateMany
    intro posts hposts
    have hnew : ¬ analysisSuccession.published db.app analysisId := by
      rintro ⟨other, hother, hid⟩
      exact Table.lookup_eq_none.mp
        (Table.lookup_eq_none_of_append postAnalysisSchema_keyedBy_id hanalyses) other hother hid
    have hanalyses' : analyses.rows = db.app.postAnalyses.rows ++ [_] := hanalyses
    have hpublished : ∃ row ∈ analyses.rows, row.id = analysisId := by
      rw [hanalyses']
      exact ⟨_, mem_append_right _ (mem_singleton_self _), rfl⟩
    have hkept : ∀ id, analysisSuccession.published db.app id →
        ∃ row ∈ analyses.rows, row.id = id := by
      rintro id ⟨row, hrow, hid⟩
      exact ⟨row, hanalyses' ▸ mem_append_left _ hrow, hid⟩
    have hmoves : analysisSuccession.Succeeds db.app
        { db.app with postAnalyses := analyses, instagramPosts := posts } := by
      refine ⟨hkept, fun k => ?_⟩
      rcases currentAnalysis_update hposts k with hsame | hmoved
      · exact .inl hsame
      · exact .inr ⟨_, hmoved, hnew, hpublished⟩
    -- the rest of the transaction writes no posts and no analyses
    refine Ensures.mono ((Keeps.bind (WorkerTable.keeps_updateMany fun _ _ => rfl) fun _ =>
      Keeps.bind keeps_read fun post => ?_ : Keeps Database.analysed _) _) ?_ fun _ _ => trivial
    · cases post with
      | none => exact keeps_pure
      | some post =>
        exact .bind (.bind (WorkerTable.keeps_updateMany fun _ _ => rfl) fun _ => keeps_pure)
          fun _ => keeps_pure
    · intro _ db' hsame
      exact hmoves.trans (succeeds_of_analysed hsame)

end Publications

/-! ### Strategies -/

/-- What the rest of the application does: it requests new strategies, and leaves the pointers
of the accounts alone. -/
def LeavesStrategies (before after : List AnalysisJob × WorkerTables) : Prop :=
  RequestsStrategies before after ∧ ∀ accountId,
    currentStrategy after.2.instagramAccounts accountId =
      currentStrategy before.2.instagramAccounts accountId

/-- The generation that a work is about. -/
def StrategyWork.task? : StrategyWork → Option StrategyTask
  | .announcingRequest task | .recordingRequest task | .requesting task | .announcingRepair task
  | .recordingRepair task | .repairing task | .recordingFailure task _
  | .announcingPublication task _ | .returning task _ => some task
  | .started _ | .loading _ | .throwing _ => none

/-- The generation of a task is there. -/
def StrategyTask.IsStored (task : StrategyTask) (rows : List StrategyGeneration) : Prop :=
  ∃ row ∈ rows, isGeneration task.context task.generation.id row = true

/-- Generations stay, and keep their results. -/
def GenerationsKept (rows rows' : List StrategyGeneration) : Prop :=
  ∀ row ∈ rows, ∃ row' ∈ rows', row'.id = row.id ∧ row'.workspaceId = row.workspaceId ∧
    (row.result.isSome = true → row'.result.isSome = true)

section Generations

variable {rows rows' rows'' : List StrategyGeneration} {db : Database WorkerTables}
  {data : StrategyGeneration → StrategyGeneration} {selects : StrategyGeneration → Bool}
  {task : StrategyTask}

theorem GenerationsKept.refl : GenerationsKept rows rows :=
  fun row hrow => ⟨row, hrow, rfl, rfl, id⟩

theorem GenerationsKept.trans (h : GenerationsKept rows rows') (h' : GenerationsKept rows' rows'') :
    GenerationsKept rows rows'' := by
  intro row hrow
  obtain ⟨row', hrow', hid, hworkspace, hresult⟩ := h row hrow
  obtain ⟨row'', hrow'', hid', hworkspace', hresult'⟩ := h' row' hrow'
  exact ⟨row'', hrow'', hid'.trans hid, hworkspace'.trans hworkspace,
    fun hpublished => hresult' (hresult hpublished)⟩

theorem GenerationsKept.of_update
    (hdata : ∀ row, (data row).id = row.id ∧ (data row).workspaceId = row.workspaceId ∧
      (row.result.isSome → (data row).result.isSome)) :
    GenerationsKept rows (updatedRows data selects rows) := by
  intro row hrow
  refine ⟨_, mem_map_of_mem hrow, ?_⟩
  split
  · exact hdata row
  · exact ⟨rfl, rfl, id⟩

theorem StrategyTask.IsStored.kept (h : task.IsStored rows)
    (hkept : GenerationsKept rows rows') : task.IsStored rows' := by
  obtain ⟨row, hrow, hselected⟩ := h
  obtain ⟨row', hrow', hid, hworkspace, -⟩ := hkept row hrow
  refine ⟨row', hrow', ?_⟩
  simpa only [isGeneration, hid, hworkspace] using hselected

theorem GenerationsKept.succeeds {app app' : WorkerTables}
    (h : GenerationsKept app.strategyGenerations.rows app'.strategyGenerations.rows)
    (hcurrent : ∀ accountId, currentStrategy app'.instagramAccounts accountId =
      currentStrategy app.instagramAccounts accountId) : strategySuccession.Succeeds app app' := by
  refine .of_current_eq ?_ hcurrent
  rintro id ⟨row, hrow, rfl, hresult⟩
  obtain ⟨row', hrow', hid, -, hkept⟩ := h row hrow
  exact ⟨row', hrow', hid, hkept hresult⟩

private theorem generationsKept_commit {strategy : ValidStrategy} :
    (StrategyWork.commit task strategy).Ensures
      (fun _ db' => GenerationsKept db.generations db'.generations) (fun _ => True) db := by
  unfold StrategyWork.commit
  rw [ensures_bind]
  refine ensures_publishStrategyGeneration.mono ?_ fun _ _ => trivial
  rintro _ db' (hsame | ⟨-, hupdate⟩)
  · exact hsame ▸ .refl
  · have hupdate' : db'.generations = updatedRows _ _ db.generations := hupdate
    rw [hupdate']
    exact .of_update fun row => ⟨rfl, rfl, fun _ => rfl⟩

private theorem succeeds_commit {strategy : ValidStrategy}
    (hstored : task.IsStored db.generations) :
    (StrategyWork.commit task strategy).Ensures
      (fun _ db' => strategySuccession.Succeeds db.app db'.app) (fun _ => True) db := by
  unfold StrategyWork.commit
  rw [ensures_bind]
  exact succeeds_publishStrategyGeneration hstored

private theorem ensures_generations
    (hdata : ∀ row, (data row).id = row.id ∧ (data row).workspaceId = row.workspaceId ∧
      (row.result.isSome → (data row).result.isSome)) :
    (do let _ ← strategyGeneration.updateMany data selects; pure () : WorkerTransaction Unit).Ensures
      (fun _ db' => GenerationsKept db.generations db'.generations ∧
        db'.app.instagramAccounts = db.app.instagramAccounts) (fun _ => True) db := by
  rw [ensures_bind]
  apply WorkerTable.ensures_updateMany
  intro rows hrows
  have hrows' : rows.rows = updatedRows data selects db.generations := hrows
  refine ⟨?_, rfl⟩
  show GenerationsKept db.generations rows.rows
  rw [hrows']
  exact .of_update hdata

/-- **What a statement of the work does**: it keeps the generations and the accounts, and the
generation that it leads to is stored. -/
theorem strategyStatement {state : StrategyWork}
    {run : Database WorkerTables → (List AnalysisJob × WorkerTables) × StrategyWork}
    (hnext : state.next = .statement run) :
    GenerationsKept db.generations (run db).1.2.strategyGenerations.rows ∧
      (run db).1.2.instagramAccounts = db.app.instagramAccounts ∧
      ∀ task, (run db).2.task? = some task →
        state.task? = some task ∨ task.IsStored db.generations := by
  have hwrite : ∀ (body : WorkerTransaction Unit) (next : Unit → StrategyWork),
      body.Ensures (fun _ db' => GenerationsKept db.generations db'.generations ∧
        db'.app.instagramAccounts = db.app.instagramAccounts) (fun _ => True) db →
      (∀ task, (next ()).task? = some task → state.task? = some task) →
      GenerationsKept db.generations
          (asStatement body next (.throwing .other) db).1.2.strategyGenerations.rows ∧
        (asStatement body next (.throwing .other) db).1.2.instagramAccounts =
          db.app.instagramAccounts ∧
        ∀ task, (asStatement body next (.throwing .other) db).2.task? = some task →
          state.task? = some task ∨ task.IsStored db.generations := by
    intro body next hbody htask
    refine asStatement_of_ensures (P := fun contents next =>
      GenerationsKept db.generations contents.2.strategyGenerations.rows ∧
        contents.2.instagramAccounts = db.app.instagramAccounts ∧
        ∀ task, StrategyWork.task? next = some task →
          state.task? = some task ∨ task.IsStored db.generations)
      (hbody.mono ?_ fun _ _ => trivial) ?_
    · rintro ⟨⟩ db' ⟨hkept, haccounts⟩
      exact ⟨hkept, haccounts, fun task h => .inl (htask task h)⟩
    · refine ⟨.refl, rfl, ?_⟩
      rintro task ⟨⟩
  cases state with
  | loading delivery =>
    cases hnext
    refine ⟨.refl, rfl, fun task htask => .inr ?_⟩
    change (StrategyWork.afterLoading delivery.context (Option.map _
      (db.app.strategyGenerations.findFirst _))).task? = some task at htask
    cases hfound : db.app.strategyGenerations.findFirst fun row =>
        row.backgroundJobId == delivery.envelope.domainJobId &&
          row.workspaceId == delivery.context.workspaceId with
    | none =>
      rw [hfound] at htask
      cases htask
    | some row =>
      rw [hfound] at htask
      have hselected := List.find?_some hfound
      simp only [Bool.and_eq_true, beq_iff_eq] at hselected
      simp only [Option.map_some, StrategyWork.afterLoading] at htask
      split at htask
      · cases htask
      · cases htask
        exact ⟨row, mem_of_find?_eq_some hfound, by simp [isGeneration, hselected.2]⟩
  | recordingRequest task | recordingRepair task =>
    cases hnext
    exact hwrite _ _ (ensures_generations fun row => ⟨rfl, rfl, id⟩) fun task h => h
  | recordingFailure task failure =>
    cases hnext
    exact hwrite _ _ (ensures_generations fun row => ⟨rfl, rfl, id⟩) (by rintro task ⟨⟩)
  | _ => cases hnext

end Generations

/-- The generation that a work is about is stored, also when its result waits for the commit. -/
structure Work.IsAboutStored (rows : List StrategyGeneration)
    (work : Work WorkerTables StrategyWork) : Prop where
  state : ∀ state task, work.state? = some state → state.task? = some task → task.IsStored rows
  returned : ∀ result, work = .done (.returned result) → ∃ task strategy,
    result = [asEffect (StrategyWork.commit task strategy)] ∧ task.IsStored rows

/-- Every attempt is about a stored generation. -/
def AboutStored (v : WorkView WorkerTables StrategyRequest StrategyWork) : Prop :=
  ∀ pid attempt, v.attempts pid = some attempt →
    attempt.work.IsAboutStored v.app.strategyGenerations.rows

section StrategyMoves

variable {rows rows' : List StrategyGeneration} {work work' : Work WorkerTables StrategyWork}
  {s : StrategySystem} {event : WorkEvent WorkerTables StrategyAnswer}
  {v : WorkView WorkerTables StrategyRequest StrategyWork}

theorem Work.IsAboutStored.kept (h : work.IsAboutStored rows) (hkept : GenerationsKept rows rows') :
    work.IsAboutStored rows' where
  state state task hstate htask := (h.state state task hstate htask).kept hkept
  returned result hwork := by
    obtain ⟨task, strategy, hresult, hstored⟩ := h.returned result hwork
    exact ⟨task, strategy, hresult, hstored.kept hkept⟩

theorem Work.IsAboutStored.running {state : StrategyWork}
    (h : ∀ task, state.task? = some task → task.IsStored rows) :
    (Work.running state : Work WorkerTables StrategyWork).IsAboutStored rows where
  state := by
    rintro _ task ⟨⟩ htask
    exact h task htask
  returned := by rintro result ⟨⟩

theorem task?_afterAnswer {task task' : StrategyTask} {invalid : StrategyWork}
    {answer : StrategyAnswer} (hinvalid : ∀ task', invalid.task? = some task' → task' = task)
    (h : (StrategyWork.afterAnswer task invalid answer).task? = some task') : task' = task := by
  cases answer with
  | valid strategy => exact (Option.some.inj h).symm
  | invalid => exact hinvalid task' h
  | notJson => cases h
  | failed responseClass retryAfterMs => exact (Option.some.inj h).symm

/-- The work goes on with the generation that it is about. -/
theorem Work.IsAboutStored.goesOn (h : work.IsAboutStored rows)
    (hmove : LocalMove strategyGenerateScript work work') : work'.IsAboutStored rows := by
  cases hmove with
  | @call state resume kind rescue callback hnext =>
    exact ⟨fun _ task hstate => h.state _ task hstate, by rintro result ⟨⟩⟩
  | @returned state resume kind rescue callback hnext =>
    refine .running fun task htask => h.state state task rfl ?_
    cases state <;> cases hnext <;> exact htask
  | @thrown state resume kind rescue callback error hnext =>
    refine .running fun task htask => ?_
    cases state <;> cases hnext <;> cases htask
  | @received state request resume answer hnext =>
    refine .running fun task htask => h.state state task rfl ?_
    cases state with
    | requesting own =>
      cases hnext
      have hsame : task = own := by
        refine task?_afterAnswer (fun task' hinvalid => ?_) htask
        split at hinvalid <;> exact (Option.some.inj hinvalid).symm
      rw [hsame]
      rfl
    | repairing own =>
      cases hnext
      have hsame : task = own := by
        refine task?_afterAnswer (fun task' hinvalid => ?_) htask
        exact (Option.some.inj hinvalid).symm
      rw [hsame]
      rfl
    | _ =>
      cases hnext
  | @finished state outcome hnext =>
    refine ⟨by rintro _ _ ⟨⟩, ?_⟩
    rintro result ⟨⟩
    cases state with
    | returning task strategy =>
      cases hnext
      exact ⟨task, strategy, rfl, h.state _ task rfl rfl⟩
    | throwing exception => cases exception <;> cases hnext
    | _ => cases hnext

theorem task?_start {delivery : Delivery} {claim : JobClaim} :
    (strategyGenerateScript.start delivery claim).task? = none := by
  unfold strategyGenerateScript
  dsimp only
  split <;> rfl

theorem AboutStored.update {attempts : ℕ → Option (Attempt WorkerTables StrategyWork)}
    (h : ∀ pid attempt, attempts pid = some attempt → attempt.work.IsAboutStored rows) {pid : ℕ}
    {attempt : Attempt WorkerTables StrategyWork} (hattempt : attempt.work.IsAboutStored rows)
    (other : ℕ) (held : Attempt WorkerTables StrategyWork)
    (hheld : Function.update attempts pid (some attempt) other = some held) :
    held.work.IsAboutStored rows := by
  by_cases hother : other = pid
  · subst hother
    rw [Function.update_self] at hheld
    cases hheld
    exact hattempt
  · rw [Function.update_of_ne hother] at hheld
    exact h other held hheld

private theorem generationsKept_move (hfrom : s.view.From strategyGenerateScript)
    (hmove : WorkMove strategyGenerateScript LeavesStrategies event s.view v) :
    GenerationsKept s.view.app.strategyGenerations.rows v.app.strategyGenerations.rows := by
  refine StrategySystem.generations_move (fun _ => .refl) .trans ?_ ?_ ?_ hfrom
    (hmove.mono fun _ _ h => h.1)
  · intro task strategy db
    exact generationsKept_commit
  · intro rows requested _ row hrow
    exact ⟨row, mem_append_left _ hrow, rfl, rfl, id⟩
  · intro state run db _ hnext _
    exact (strategyStatement hnext).1

private theorem aboutStored_move (hfrom : s.view.From strategyGenerateScript)
    (h : AboutStored s.view)
    (hmove : WorkMove strategyGenerateScript LeavesStrategies event s.view v) : AboutStored v := by
  have hkept := generationsKept_move hfrom hmove
  have hstored : ∀ pid attempt, s.view.attempts pid = some attempt →
      attempt.work.IsAboutStored v.app.strategyGenerations.rows :=
    fun pid attempt hattempt => (h pid attempt hattempt).kept hkept
  cases hmove with
  | idle | retry | commit | others => exact hstored
  | begin hnew hperiod =>
    refine AboutStored.update hstored (.running fun task htask => ?_)
    rw [task?_start] at htask
    cases htask
  | goOn hattempt hmove => exact AboutStored.update hstored ((hstored _ _ hattempt).goesOn hmove)
  | @statement _ pid attempt state run db hattempt hwork hnext hcontents =>
    refine AboutStored.update hstored (.running fun task htask => ?_)
    rcases (strategyStatement hnext).2.2 task htask with hsame | hloaded
    · exact (hstored pid attempt hattempt).state state task (by rw [hwork]; rfl) hsame
    · exact hloaded.kept (strategyStatement hnext).1
  | @send _ pid attempt state request resume hattempt hwork hnext =>
    refine AboutStored.update hstored ⟨?_, by rintro result ⟨⟩⟩
    rintro _ task ⟨⟩ htask
    exact (hstored pid attempt hattempt).state state task (by rw [hwork]; rfl) htask

/-- **Step lemma.** Every move takes the pointers of the accounts forward. -/
theorem strategies_succeed_move (hfrom : s.view.From strategyGenerateScript)
    (h : AboutStored s.view)
    (hmove : WorkMove strategyGenerateScript LeavesStrategies event s.view v) :
    strategySuccession.Succeeds s.view.app v.app := by
  have hkept := generationsKept_move hfrom hmove
  cases hmove with
  | idle | retry | begin | goOn | send => exact .refl
  | @commit _ _ app pid attempt result hattempt hwork hwrites =>
    obtain ⟨task, strategy, rfl, hstored⟩ := (h pid attempt hattempt).returned result hwork
    refine (hwrites (fun app app' => task.IsStored app.strategyGenerations.rows →
      strategySuccession.Succeeds app app' ∧ task.IsStored app'.strategyGenerations.rows)
      (fun _ hstored => ⟨.refl, hstored⟩) (fun hfirst hsecond hstored => ?_) ?_ hstored).1
    · obtain ⟨hsucceeds, hafter⟩ := hfirst hstored
      exact ⟨hsucceeds.trans (hsecond hafter).1, (hsecond hafter).2⟩
    · intro update hupdate db app happ
      refine asEffect_of_ensures (R := fun app app' => task.IsStored app.strategyGenerations.rows →
        strategySuccession.Succeeds app app' ∧ task.IsStored app'.strategyGenerations.rows)
        ?_ hupdate happ
      intro db
      by_cases hstored : task.IsStored db.generations
      · refine ((succeeds_commit hstored).and generationsKept_commit).mono ?_ fun _ _ => trivial
        rintro _ db' ⟨hsucceeds, hkept⟩ _
        exact ⟨hsucceeds, hstored.kept hkept⟩
      · exact .of_forall (fun _ _ habsurd => absurd habsurd hstored) fun _ => trivial
  | @statement _ pid attempt state run db hattempt hwork hnext hcontents =>
    have happ : db.app = s.view.app := congrArg Prod.snd hcontents
    refine hkept.succeeds fun accountId => ?_
    show currentStrategy (run db).1.2.instagramAccounts accountId = _
    rw [(strategyStatement hnext).2.1, happ]
  | others hothers => exact hkept.succeeds hothers.2

end StrategyMoves

namespace StrategySystem

variable {environment : Environment WorkerTables} {s t : StrategySystem}

/-- A step of the system, in which nothing else writes the pointers of the accounts. -/
def PointedStep (environment : Environment WorkerTables) (s : StrategySystem)
    (event : WorkEvent WorkerTables StrategyAnswer) (t : StrategySystem) : Prop :=
  WorkSystem.Step environment strategyGenerateScript LeavesStrategies s event t

/-- The invariant of the system. -/
def PointedInv (s : StrategySystem) : Prop :=
  s.Inv ∧ s.view.From strategyGenerateScript ∧ AboutStored s.view

theorem PointedInv.step {event : WorkEvent WorkerTables StrategyAnswer} (h : s.PointedInv)
    (hstep : PointedStep environment s event t) :
    t.PointedInv ∧ strategySuccession.Succeeds s.system.db.app t.system.db.app := by
  obtain ⟨hinv, hfrom, hstored⟩ := h
  obtain ⟨hafter, hmove⟩ := hinv.step hstep
  exact ⟨⟨hafter, hfrom.move hmove, aboutStored_move hfrom hstored hmove⟩,
    strategies_succeed_move hfrom hstored hmove⟩

private theorem pointedInv_initial (clock : ℤ) (internalUsers : List InternalUser)
    (app : WorkerTables) :
    PointedInv (WorkSystem.initial clock internalUsers app) := by
  refine ⟨WorkSystem.inv_initial clock internalUsers app, ?_, ?_⟩
  · rintro pid attempt ⟨⟩
  · rintro pid attempt ⟨⟩

private theorem succeeds_of_reachable (h : s.PointedInv)
    (hrun : Reachable (PointedStep environment) s t) :
    t.PointedInv ∧ strategySuccession.Succeeds s.system.db.app t.system.db.app :=
  Succession.of_reachable (fun s => s.system.db.app) hrun h fun hbefore hstep => hbefore.step hstep

end StrategySystem

/-! ### Analyses -/

/-- What the rest of the application does: it requests new analyses, and leaves the pointers of
the posts and the analyses alone. -/
def LeavesAnalyses (before after : List AnalysisJob × WorkerTables) : Prop :=
  RequestsAnalyses before after ∧ before.2.postAnalyses.rows ⊆ after.2.postAnalyses.rows ∧
    ∀ postId, currentAnalysis after.2.instagramPosts postId =
      currentAnalysis before.2.instagramPosts postId

section AnalysisMoves

variable {db : Database WorkerTables} {s : AnalysisSystem}
  {event : WorkEvent WorkerTables AnalysisAnswer}
  {v : WorkView WorkerTables AnalysisCall AnalysisWork}

private theorem statement_keeps_analysed {state : AnalysisWork}
    {run : Database WorkerTables → (List AnalysisJob × WorkerTables) × AnalysisWork}
    (hnext : state.next = .statement run) :
    analysisSuccession.Succeeds db.app (run db).1.2 := by
  have hstatement : ∀ {α : Type} (body : WorkerTransaction α) (next : α → AnalysisWork)
      (rescue : AnalysisWork), Keeps Database.analysed body →
      analysisSuccession.Succeeds db.app (asStatement body next rescue db).1.2 := by
    intro α body next rescue hkeeps
    refine asStatement_of_ensures
      (P := fun contents _ => analysisSuccession.Succeeds db.app contents.2)
      ((hkeeps db).mono ?_ fun _ _ => trivial) .refl
    intro _ db' hsame
    exact succeeds_of_analysed hsame
  have hfile : ∀ context analysisJobId name, Keeps Database.analysed
      (recordAnalysisProviderFile context analysisJobId name) := fun _ _ _ =>
    .bind (WorkerTable.keeps_updateMany fun _ _ => rfl) fun _ => keeps_pure
  have hstage : ∀ context analysisJobId stage repairAttempted validationIssues,
      Keeps Database.analysed
        (recordAnalysisStage context analysisJobId stage repairAttempted validationIssues) :=
    fun _ _ _ _ _ => .bind (fun _ => rfl) fun _ =>
      .bind (WorkerTable.keeps_updateMany fun _ _ => rfl) fun _ => keeps_pure
  cases state with
  | loadingJob delivery analysisId =>
    cases hnext
    refine hstatement _ _ _ (.bind keeps_read fun job => .bind keeps_read fun inputs => ?_)
    split
    · exact keeps_pure
    · exact keeps_pure
  | loadingAsset =>
    cases hnext
    exact hstatement _ _ _ keeps_read
  | recordingFile | clearing =>
    cases hnext
    exact hstatement _ _ _ (hfile _ _ _)
  | recordingUpload | recordingWait | recordingRequest | recordingRejection | recordingRepair =>
    cases hnext
    exact hstatement _ _ _ (hstage _ _ _ _ _)
  | _ => cases hnext

private theorem AnalysisWork.returned_cases {state : AnalysisWork}
    {result : List (CommitEffect WorkerTables)} (hnext : state.next = .finish (.returned result)) :
    result = [] ∨ ∃ task analysis, result = [asEffect (AnalysisWork.commit task analysis)] := by
  cases state with
  | ending last =>
    cases last with
    | publishing task analysis =>
      cases hnext
      exact .inr ⟨task, analysis, rfl⟩
    | throwing exception => cases exception <;> cases hnext
  | ignoring =>
    cases hnext
    exact .inl rfl
  | _ => cases hnext

/-- **Step lemma.** Every move takes the pointers of the posts forward. -/
theorem analyses_succeed_move {createId : JobClaim → String}
    (hfrom : s.view.From (analysisRunScript createId))
    (hmove : WorkMove (analysisRunScript createId) LeavesAnalyses event s.view v) :
    analysisSuccession.Succeeds s.view.app v.app := by
  cases hmove with
  | idle | retry | begin | goOn | send => exact .refl
  | @commit _ _ app pid attempt result hattempt hwork hwrites =>
    have hprovenance := hfrom pid attempt hattempt
    rw [hwork] at hprovenance
    obtain ⟨state, hnext⟩ := hprovenance
    refine hwrites analysisSuccession.Succeeds (fun _ => .refl) (fun h h' => h.trans h') ?_
    intro update hupdate db app happ
    rcases AnalysisWork.returned_cases hnext with rfl | ⟨task, analysis, rfl⟩
    · exact absurd hupdate not_mem_nil
    · refine asEffect_of_ensures (fun db => ?_) hupdate happ
      unfold AnalysisWork.commit
      rw [ensures_bind]
      exact succeeds_publishPostAnalysis
  | @statement _ pid attempt state run db hattempt hwork hnext hcontents =>
    have happ : db.app = s.view.app := congrArg Prod.snd hcontents
    exact happ ▸ statement_keeps_analysed hnext
  | others hothers =>
    refine .of_current_eq ?_ hothers.2.2
    rintro id ⟨row, hrow, hid⟩
    exact ⟨row, hothers.2.1 hrow, hid⟩

end AnalysisMoves

namespace AnalysisSystem

variable {createId : JobClaim → String} {environment : Environment WorkerTables}
  {s t : AnalysisSystem}

/-- A step of the system, in which nothing else writes the pointers of the posts. -/
def PointedStep (createId : JobClaim → String) (environment : Environment WorkerTables)
    (s : AnalysisSystem) (event : WorkEvent WorkerTables AnalysisAnswer) (t : AnalysisSystem) :
    Prop :=
  WorkSystem.Step environment (analysisRunScript createId) LeavesAnalyses s event t

/-- The invariant of the system. -/
def PointedInv (createId : JobClaim → String) (s : AnalysisSystem) : Prop :=
  s.Inv ∧ s.view.From (analysisRunScript createId)

private theorem pointedInv_initial (clock : ℤ) (internalUsers : List InternalUser)
    (app : WorkerTables) :
    PointedInv createId (WorkSystem.initial clock internalUsers app) := by
  refine ⟨WorkSystem.inv_initial clock internalUsers app, ?_⟩
  rintro pid attempt ⟨⟩

private theorem succeeds_of_reachable (h : PointedInv createId s)
    (hrun : Reachable (PointedStep createId environment) s t) :
    PointedInv createId t ∧ analysisSuccession.Succeeds s.system.db.app t.system.db.app := by
  refine Succession.of_reachable (fun s => s.system.db.app) hrun h ?_
  rintro t u event ⟨hinv, hfrom⟩ hstep
  obtain ⟨hafter, hmove⟩ := hinv.step hstep
  exact ⟨⟨hafter, hfrom.move hmove⟩, analyses_succeed_move hfrom hmove⟩

end AnalysisSystem

/-- **Current results never go back.** In every run of the jobs of strategies and of analyses, what
is current for an account or a post at one time has been published, and what is current later is
the same, or a result that had not been published at that time. -/
theorem current_results_never_go_back {environment environment' : Environment WorkerTables}
    {createId : JobClaim → String} {clock clock' : ℤ} {users users' : List InternalUser}
    {app app' : WorkerTables} (hknown : strategySuccession.Known app)
    (hknown' : analysisSuccession.Known app') {s t : StrategySystem} {u w : AnalysisSystem}
    (hs : Reachable (StrategySystem.PointedStep environment)
      (WorkSystem.initial clock users app) s)
    (ht : Reachable (StrategySystem.PointedStep environment) s t)
    (hu : Reachable (AnalysisSystem.PointedStep createId environment')
      (WorkSystem.initial clock' users' app') u)
    (hw : Reachable (AnalysisSystem.PointedStep createId environment') u w) :
    strategySuccession.Forward s.system.db.app t.system.db.app ∧
      analysisSuccession.Forward u.system.db.app w.system.db.app := by
  obtain ⟨hinv, hbefore⟩ := StrategySystem.succeeds_of_reachable
    (StrategySystem.pointedInv_initial clock users app) hs
  obtain ⟨hinv', hbefore'⟩ := AnalysisSystem.succeeds_of_reachable
    (AnalysisSystem.pointedInv_initial clock' users' app') hu
  exact ⟨(StrategySystem.succeeds_of_reachable hinv ht).2.forward (hbefore.known hknown),
    (AnalysisSystem.succeeds_of_reachable hinv' hw).2.forward (hbefore'.known hknown')⟩

/-! ### A small deployment -/

namespace CurrentSample

open WorkSample

def account : InstagramAccount where
  id := "account"
  workspaceId := "workspace"
  connectionStatus := .active
  followerCount := none
  tokenExpiresAt := none
  lastSuccessfulSyncAt := none
  analyticsDirtySince := none
  analyticsDueAt := none
  currentStrategyId := none

def otherId : String := "01900000-0000-7000-8000-000000000002"

/-- A generation that has been requested for the account. -/
def generation (id jobId : String) : StrategyGeneration where
  id := id
  workspaceId := "workspace"
  instagramAccountId := some "account"
  backgroundJobId := jobId
  evidenceCount := 1
  state := .pending
  result := none
  generatedAt := none
  failureCode := none

def first : StrategyGeneration := generation "first" jobId

def second : StrategyGeneration := generation "second" otherId

/-- When the generations are frozen. -/
def requestedAt (id : String) : ℤ := if id = "second" then 1000 else 0

def tables : WorkerTables :=
  { WorkerTables.empty with instagramAccounts := ⟨[account], by decide +kernel⟩ }

/-- The job of a generation is enqueued. -/
def enqueuedFor (jobId idempotencyKey : String) : WorkEvent WorkerTables StrategyAnswer :=
  .framework (.command (.enqueue context
    { correlationId
      handlerVersion := 1
      idempotencyKey
      inputVersion := none
      maxAttempts := none
      priority := none
      queueName := "strategy.generate"
      resourceId := none
      resourceType := none } jobId idempotencyKey))

def requested : List (WorkEvent WorkerTables StrategyAnswer) :=
  [enqueuedFor jobId "first",
    .others [] { tables with strategyGenerations := ⟨[first], by decide +kernel⟩ },
    .framework (.tick 1000), enqueuedFor otherId "second",
    .others [] { tables with strategyGenerations := ⟨[first, second], by decide +kernel⟩ }]

/-- A handler begins its work on a job. -/
def begunOn (jobId leaseId : String) (pid : ℕ) : List (WorkEvent WorkerTables StrategyAnswer) :=
  .framework (.spawn pid (.deliver
    ⟨context, ⟨correlationId, jobId, 1, "strategy.generate", context.workspaceId⟩, none⟩)) ::
    (List.replicate 4 (handled pid 1000 leaseId) ++ [.begin pid])

/-- A handler works on a generation until it has published it. -/
def published (jobId : String) (pid : ℕ) (result : String) :
    List (WorkEvent WorkerTables StrategyAnswer) :=
  begunOn jobId result pid ++ announced pid (10 * pid + 10) 1000 ++
    .statement pid :: announced pid (10 * pid + 11) 1000 ++
    [.statement pid, .send pid, .receive pid (.valid ⟨result, ["fingerprint"], {}⟩)] ++
    announced pid (10 * pid + 12) 1000 ++ committed pid 1000

/-- Generations are frozen at given times. -/
def FreezesAt (requestedAt : String → ℤ) (s : StrategySystem)
    (event : WorkEvent WorkerTables StrategyAnswer) : Prop :=
  ∀ analysisJobs app, event = .others analysisJobs app →
    ∀ row ∈ app.strategyGenerations.rows, row ∈ s.system.db.generations ∨
      requestedAt row.id = s.system.db.clock

/-- The rest of the application freezes one of the generations, now. -/
def admits (s : StrategySystem) (event : WorkEvent WorkerTables StrategyAnswer) : Bool :=
  match event with
  | .others _ app =>
    app.instagramAccounts.rows == s.system.db.app.instagramAccounts.rows &&
      [first, second].any fun row =>
        app.strategyGenerations.rows == s.system.db.generations ++ [row] &&
          decide (requestedAt row.id = s.system.db.clock)
  | _ => true

/-- The state that events lead to. -/
def after (s : StrategySystem) (events : List (WorkEvent WorkerTables StrategyAnswer)) :
    Option StrategySystem :=
  WorkSystem.replay StrategySystem.Sample.callbacks strategyGenerateScript admits s events

def initial : StrategySystem := WorkSystem.initial 0 [] tables

/-- What is admitted is a request of a generation that is frozen then. -/
theorem of_admits {s : StrategySystem} {event : WorkEvent WorkerTables StrategyAnswer}
    (h : admits s event) : FreezesAt requestedAt s event ∧
      ∀ analysisJobs app, event = .others analysisJobs app →
        LeavesStrategies s.system.db.contents (analysisJobs, app) := by
  cases event with
  | others analysisJobs app =>
    simp only [admits, Bool.and_eq_true, any_eq_true, beq_iff_eq, decide_eq_true_eq] at h
    obtain ⟨haccounts, row, hrow, hrows, hclock⟩ := h
    constructor
    · rintro _ _ ⟨⟩ other hother
      rw [hrows] at hother
      rcases mem_append.mp hother with hbefore | hnew
      · exact .inl hbefore
      · rw [mem_singleton.mp hnew]
        exact .inr hclock
    · rintro _ _ ⟨⟩
      refine ⟨⟨[row], hrows, ?_⟩, fun accountId => ?_⟩
      · intro other hother
        rw [mem_singleton.mp hother]
        rcases mem_cons.mp hrow with rfl | hsecond
        · exact ⟨rfl, rfl, rfl, rfl⟩
        · rw [mem_singleton.mp hsecond]
          exact ⟨rfl, rfl, rfl, rfl⟩
      · unfold currentStrategy Table.lookup Table.findFirst
        rw [haccounts]
        rfl
  | _ =>
    exact ⟨by rintro _ _ ⟨⟩, by rintro _ _ ⟨⟩⟩

theorem reachable_after {s t u : StrategySystem}
    {events : List (WorkEvent WorkerTables StrategyAnswer)}
    (hs : Reachable (Restricted (StrategySystem.PointedStep StrategySystem.Sample.callbacks)
      (FreezesAt requestedAt)) s t) (hafter : after t events = some u) :
    Reachable (Restricted (StrategySystem.PointedStep StrategySystem.Sample.callbacks)
      (FreezesAt requestedAt)) s u :=
  WorkSystem.reachable_of_replay (fun _ _ h => of_admits h) hs hafter

def overtaken : Option (StrategySystem × StrategySystem) :=
  (after initial (requested ++ published otherId 0 "newer")).bind fun s =>
    (after s (published jobId 1 "older")).map fun t => (s, t)

/-- What is current for the account, before and after. -/
def shown (pair : StrategySystem × StrategySystem) : Option String × Option String :=
  (currentStrategy pair.1.system.db.app.instagramAccounts "account",
    currentStrategy pair.2.system.db.app.instagramAccounts "account")

private theorem exists_overtaken :
    ∃ s t, after initial (requested ++ published otherId 0 "newer") = some s ∧
    after s (published jobId 1 "older") = some t ∧ shown (s, t) = (some "second", some "first") := by
  have hrun : overtaken.map shown = some (some "second", some "first") := by decide +kernel
  obtain ⟨⟨s, t⟩, hpair, hshown⟩ := Option.map_eq_some_iff.mp hrun
  obtain ⟨s', hs, hpair'⟩ := Option.bind_eq_some_iff.mp hpair
  obtain ⟨t', ht, hsame⟩ := Option.map_eq_some_iff.mp hpair'
  cases hsame
  exact ⟨s, t, hs, ht, hshown⟩

/-- **A strategy that was frozen first becomes current last.** -/
theorem older_request_becomes_current : ¬ ∀ (requestedAt : String → ℤ) (s t : StrategySystem),
    Reachable (Restricted (StrategySystem.PointedStep StrategySystem.Sample.callbacks)
      (FreezesAt requestedAt)) initial s →
    Reachable (Restricted (StrategySystem.PointedStep StrategySystem.Sample.callbacks)
      (FreezesAt requestedAt)) s t →
    ∀ accountId earlier later,
      currentStrategy s.system.db.app.instagramAccounts accountId = some earlier →
      currentStrategy t.system.db.app.instagramAccounts accountId = some later →
      requestedAt earlier ≤ requestedAt later := by
  intro hall
  obtain ⟨s, t, hs, ht, hshown⟩ := exists_overtaken
  obtain ⟨hearlier, hlater⟩ := Prod.mk.inj hshown
  have hle := hall requestedAt s t (reachable_after .refl hs) (reachable_after .refl ht) "account"
    "second" "first" hearlier hlater
  exact absurd hle (by decide +kernel)

def post : InstagramPost where
  id := "post"
  workspaceId := "workspace"
  instagramAccountId := "account"
  mediaKind := .reel
  publishedAt := 0
  currentAnalysisId := none

/-- The tables with a post and the inputs of its analysis. -/
def analysisTables : WorkerTables :=
  { WorkerTables.empty with
    instagramPosts := ⟨[post], by decide +kernel⟩
    analysisRequests := ⟨[inputs], inputs_accepted⟩
    videoAssets := ⟨[asset], asset_accepted⟩ }

/-- The analysis is requested, and a handler works on it until it has published it. -/
def analysed : List (WorkEvent WorkerTables AnalysisAnswer) :=
  [enqueued "analysis.run", .others [job] analysisTables] ++
    begun "analysis.run" 0 0 "lease-0" ++ announced 0 10 0 ++ [.statement 0, .statement 0] ++
    announced 0 11 0 ++ [.statement 0, .send 0, .receive 0 (.active "uri")] ++
    announced 0 12 0 ++
    [.statement 0, .send 0, .receive 0 (.responded ⟨.inl ⟨"analysis", true⟩, {}, none⟩)] ++
    announced 0 13 0 ++ [.send 0, .receive 0 .deleted, .statement 0] ++ committed 0 0

/-- The rest of the application requests the analysis. -/
def admitsAnalysis (s : AnalysisSystem) (event : WorkEvent WorkerTables AnalysisAnswer) : Bool :=
  match event with
  | .others analysisJobs app =>
    analysisJobs == s.system.db.analysisJobs ++ [job] &&
      app.postAnalyses.rows == s.system.db.app.postAnalyses.rows &&
      app.instagramPosts.rows == s.system.db.app.instagramPosts.rows
  | _ => true

/-- The state that events lead to. -/
def afterAnalysis (events : List (WorkEvent WorkerTables AnalysisAnswer)) : Option AnalysisSystem :=
  WorkSystem.replay callbacks (analysisRunScript JobClaim.leaseId)
    admitsAnalysis (WorkSystem.initial 0 [] analysisTables) events

private theorem leavesAnalyses_of_admits {s : AnalysisSystem}
    {event : WorkEvent WorkerTables AnalysisAnswer} (h : admitsAnalysis s event)
    (analysisJobs : List AnalysisJob) (app : WorkerTables)
    (hevent : event = .others analysisJobs app) :
    LeavesAnalyses s.system.db.contents (analysisJobs, app) := by
  subst hevent
  simp only [admitsAnalysis, Bool.and_eq_true, beq_iff_eq] at h
  obtain ⟨⟨hjobs, hanalyses⟩, hposts⟩ := h
  refine ⟨⟨[job], hjobs, ?_⟩, hanalyses ▸ List.Subset.refl _, ?_⟩
  · intro row hrow
    rw [mem_singleton.mp hrow]
    rfl
  · intro postId
    unfold currentAnalysis Table.lookup Table.findFirst
    rw [hposts]
    rfl

private theorem reachable_afterAnalysis {events : List (WorkEvent WorkerTables AnalysisAnswer)}
    {u : AnalysisSystem} (hafter : afterAnalysis events = some u) :
    Reachable (AnalysisSystem.PointedStep JobClaim.leaseId callbacks)
      (WorkSystem.initial 0 [] analysisTables) u := by
  have hrun : Reachable (Restricted
      (AnalysisSystem.PointedStep JobClaim.leaseId callbacks)
      fun _ _ => True) (WorkSystem.initial 0 [] analysisTables) u := by
    refine WorkSystem.reachable_of_replay (fun s event hadmits => ⟨trivial, ?_⟩) .refl hafter
    exact leavesAnalyses_of_admits hadmits
  exact hrun.of_restricted

/-- The strategy that replaces another one had not been published before. -/
theorem overtaken_strategy_goes_forward : ∃ (s t : StrategySystem) (u : AnalysisSystem),
    shown (s, t) = (some "second", some "first") ∧
      currentAnalysis u.system.db.app.instagramPosts "post" = some "lease-0" ∧
      strategySuccession.Forward s.system.db.app t.system.db.app ∧
      analysisSuccession.Forward u.system.db.app u.system.db.app := by
  obtain ⟨s, t, hs, ht, hshown⟩ := exists_overtaken
  have hrun : (afterAnalysis analysed).map
      (fun u => currentAnalysis u.system.db.app.instagramPosts "post") =
        some (some "lease-0") := by
    decide +kernel
  obtain ⟨u, hu, hcurrent⟩ := Option.map_eq_some_iff.mp hrun
  have hknown : strategySuccession.Known tables := by
    intro accountId id h
    change currentStrategy tables.instagramAccounts accountId = some id at h
    unfold currentStrategy at h
    obtain ⟨row, hrow, hid⟩ := Option.bind_eq_some_iff.mp h
    obtain rfl := mem_singleton.mp (Table.lookup_spec hrow).1
    cases hid
  have hknown' : analysisSuccession.Known analysisTables := by
    intro postId id h
    change currentAnalysis analysisTables.instagramPosts postId = some id at h
    unfold currentAnalysis at h
    obtain ⟨row, hrow, hid⟩ := Option.bind_eq_some_iff.mp h
    obtain rfl := mem_singleton.mp (Table.lookup_spec hrow).1
    cases hid
  exact ⟨s, t, u, hshown, hcurrent, current_results_never_go_back hknown hknown'
    (Reachable.of_restricted (reachable_after .refl hs))
    (Reachable.of_restricted (reachable_after .refl ht)) (reachable_afterAnalysis hu) .refl⟩

end CurrentSample

end ContentAutomation
