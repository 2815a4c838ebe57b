import ContentAutomation.Instagram.SyncImports

/-!
# Checkpoints of a synchronisation

An attempt goes on from the cursor that its run has stored. If the provider answers from a feed
whose later pages hold nothing newer, no pattern of crashes, retries and attempts that overlap
loses an item: the cursor of a run is never behind a page with items that are not posts, and a
run that has succeeded has imported everything within its horizon.
-/

namespace ContentAutomation

open Relational Transaction List

/-- A page that is answered is the one that the feed of the account has for the cursor. -/
def AnswersFrom (bodies : String → Option String → Json) (request : MediaPageRequest)
    (answer : GraphAnswer) : Prop :=
  ∀ response, answer = .responded response → response.HasBody →
    response.body = bodies request.providerAccountId request.after

/-- The run is opened for the account that the pages are asked for. -/
def SyncOpening.Fits (opening : SyncOpening) (app : WorkerTables) : Prop :=
  IsAccount app opening.input.instagramAccountId opening.providerAccountId

/-- Every page before the cursor of the loop is imported. -/
def SyncTask.StandsAt (runtime : Runtime) (bodies : String → Option String → Json)
    (app : WorkerTables) (task : SyncTask) (paging : SyncPaging) : Prop :=
  ∃ instagramAccountId, task.Reads app instagramAccountId ∧
    ImportedBefore runtime bodies app instagramAccountId task.providerAccountId task.horizonStart
      paging.after

/-- The whole feed of the task is imported. -/
def SyncTask.Finished (runtime : Runtime) (bodies : String → Option String → Json)
    (app : WorkerTables) (task : SyncTask) : Prop :=
  ∃ instagramAccountId, task.Reads app instagramAccountId ∧
    AllImported runtime bodies app instagramAccountId task.providerAccountId task.horizonStart

/-- The page is that of the feed, and names the cursor behind it if it has a successor. -/
def SyncTask.HasRead (bodies : String → Option String → Json) (task : SyncTask)
    (paging : SyncPaging) (page : InstagramMediaPage) : Prop :=
  page = (mediaFeed (bodies task.providerAccountId)).page paging.after ∧
    (page.hasNextPage = true → page.after.isSome = true)

namespace SyncWork

variable {deployment : SyncDeployment} {bodies : String → Option String → Json}
  {app app' : WorkerTables}

/-- What the work knows of its account, of its run and of what is imported. -/
def Stands (runtime : Runtime) (bodies : String → Option String → Json) (app : WorkerTables) :
    SyncWork → Prop
  | .loadingCredential _ _ account | .startingRun _ _ account _ =>
    IsAccount app account.id account.providerAccountId
  | .findingRun opening | .creatingRun opening => opening.Fits app
  | .reopeningRun opening existing | .rereadingRun opening existing => opening.Fits app ∧
      ∃ run ∈ app.syncRuns.rows, run.id = existing.id ∧
        run.instagramAccountId = opening.input.instagramAccountId
  | .resuming task => ∃ instagramAccountId, task.Reads app instagramAccountId
  | .beating task paging | .announcingFetch task paging | .fetching task paging =>
    task.StandsAt runtime bodies app paging
  | .announcingPage task paging page | .persisting task paging page =>
    task.StandsAt runtime bodies app paging ∧ task.HasRead bodies paging page
  | .returning task => task.Finished runtime bodies app
  | .started _ | .loadingJob _ | .loadingAccount .. | .recordingFailure .. | .throwing _ => True

/-- What is known of an outcome. -/
def Ends (runtime : Runtime) (bodies : String → Option String → Json) (app : WorkerTables) :
    ExecutionOutcome WorkerTables → Prop
  | .returned result => ∃ task, result = [asEffect (commit task)] ∧ task.Finished runtime bodies app
  | _ => True

variable {task : SyncTask} {paging : SyncPaging} {runtime : Runtime}

private theorem standsAt_mono (hkept : ImportsKept runtime bodies app app')
    (h : task.StandsAt runtime bodies app paging) :
    task.StandsAt runtime bodies app' paging := by
  obtain ⟨instagramAccountId, hreads, hbefore⟩ := h
  exact ⟨instagramAccountId, hreads.mono hkept, hbefore.mono hkept⟩

private theorem finished_mono (hkept : ImportsKept runtime bodies app app')
    (h : task.Finished runtime bodies app) :
    task.Finished runtime bodies app' := by
  obtain ⟨instagramAccountId, hreads, hall⟩ := h
  exact ⟨instagramAccountId, hreads.mono hkept,
    fun n cursor hcontinues => (hall n cursor hcontinues).mono hkept _⟩

theorem Stands.mono {state : SyncWork}
    (hkept : ImportsKept runtime bodies app app') (h : state.Stands runtime bodies app) :
    state.Stands runtime bodies app' := by
  cases state with
  | loadingCredential | startingRun | findingRun | creatingRun => exact IsAccount.mono hkept h
  | reopeningRun opening existing | rereadingRun opening existing =>
    obtain ⟨hfits, run, hrun, hid, howner⟩ := h
    obtain ⟨run', hrun', hid', -, howner'⟩ := hkept.runs run hrun
    exact ⟨IsAccount.mono hkept hfits, run', hrun', hid'.trans hid, howner'.trans howner⟩
  | resuming task =>
    obtain ⟨instagramAccountId, hreads⟩ := h
    exact ⟨instagramAccountId, hreads.mono hkept⟩
  | beating | announcingFetch | fetching => exact standsAt_mono hkept h
  | announcingPage | persisting => exact ⟨standsAt_mono hkept h.1, h.2⟩
  | returning => exact finished_mono hkept h
  | _ => trivial

theorem Ends.mono {outcome : ExecutionOutcome WorkerTables}
    (hkept : ImportsKept runtime bodies app app') (h : Ends runtime bodies app outcome) :
    Ends runtime bodies app' outcome := by
  cases outcome with
  | returned result =>
    obtain ⟨task, hresult, hfinished⟩ := h
    exact ⟨task, hresult, finished_mono hkept hfinished⟩
  | threw | cancelled | abandoned => trivial

private theorem stands_caught {error : Option JobError} :
    (caught task error).Stands runtime bodies app := by
  cases error <;> trivial

private theorem stands_enterLoop (h : task.StandsAt runtime bodies app paging) :
    (enterLoop task paging).Stands runtime bodies app := by
  unfold enterLoop
  split_ifs
  · exact h
  · trivial

private theorem stands_fetch (h : task.StandsAt runtime bodies app paging) :
    (fetch task paging).Stands runtime bodies app := by
  unfold fetch
  split
  · trivial
  · exact h

private theorem stands_afterAnswer {answer : GraphAnswer}
    (h : task.StandsAt runtime bodies app paging)
    (hanswer : AnswersFrom bodies (task.request paging) answer) :
    (afterAnswer task paging answer).Stands runtime bodies app := by
  unfold afterAnswer
  split
  · trivial
  · next page hpage =>
    refine ⟨h, ?_, after_isSome_of_readMediaPageAnswer hpage⟩
    obtain ⟨response, rfl, hbody, rfl⟩ := readMediaPageAnswer_eq_ok hpage
    rw [hanswer response rfl hbody]
    rfl

/-- **The loop goes on behind a page that is imported**, or the page has left nothing behind. -/
theorem stands_afterPage {page : InstagramMediaPage}
    {instagramAccountId : String}
    (hnewest : NewestFirst deployment.runtime (bodies task.providerAccountId))
    (hreads : task.Reads app instagramAccountId)
    (hbefore : ImportedBefore deployment.runtime bodies app instagramAccountId
      task.providerAccountId task.horizonStart paging.after)
    (himported : PageImported deployment.runtime bodies app instagramAccountId task.horizonStart
      ((mediaFeed (bodies task.providerAccountId)).page paging.after))
    (hread : task.HasRead bodies paging page) :
    (afterPage deployment task paging page).Stands deployment.runtime bodies app := by
  obtain ⟨hpage, hcursor⟩ := hread
  unfold afterPage
  split_ifs with hlast
  · refine ⟨instagramAccountId, hreads, ?_⟩
    intro m later hcontinues
    refine CursorFeed.DoneBefore.all hbefore himported ?_ hcontinues
    intro n m later hat hless hcontinues media hholds
    rw [hpage] at hlast
    exact absurd hholds (not_holds_of_isLast hnewest hat hless hcontinues hlast)
  · apply stands_enterLoop
    refine ⟨instagramAccountId, hreads, ?_⟩
    have hnext : page.hasNextPage = true := by
      unfold InstagramMediaPage.isLast at hlast
      simp only [Bool.or_eq_true, Bool.not_eq_true', not_or, Bool.not_eq_false] at hlast
      exact hlast.1
    obtain ⟨successor, hafter⟩ := Option.isSome_iff_exists.mp (hcursor hnext)
    rw [hpage] at hafter
    have hmoved := CursorFeed.DoneBefore.next hbefore himported hafter
    rw [← hpage] at hafter
    show ImportedBefore _ _ _ _ _ _ page.after
    rw [hafter]
    exact hmoved

/-- What a statement leads to: no run has lost anything, what was imported is so, and the work
knows what it has to know. -/
def GoesOn (runtime : Runtime) (bodies : String → Option String → Json) (before : WorkerTables)
    (contents : List AnalysisJob × WorkerTables) (state : SyncWork) : Prop :=
  NothingLost runtime bodies contents.2 ∧ ImportsKept runtime bodies before contents.2 ∧
    state.Stands runtime bodies contents.2

/-- **What a statement does**: no run has lost anything after it, what was imported is so, and
its work knows what it has to know. -/
theorem goesOn_statement {state : SyncWork} (db : Database WorkerTables)
    {run : Database WorkerTables → (List AnalysisJob × WorkerTables) × SyncWork}
    (hnewest : ∀ providerAccountId, NewestFirst deployment.runtime (bodies providerAccountId))
    (hnext : state.next deployment = .statement run)
    (hlost : NothingLost deployment.runtime bodies db.app)
    (hstands : state.Stands deployment.runtime bodies db.app) :
    GoesOn deployment.runtime bodies db.app (run db).1 (run db).2 := by
  have hsame : ∀ {state : SyncWork}, state.Stands deployment.runtime bodies db.app →
      GoesOn deployment.runtime bodies db.app db.contents state :=
    fun hstate => ⟨hlost, .refl _, hstate⟩
  have hthrows : GoesOn deployment.runtime bodies db.app db.contents (.throwing .other) :=
    hsame trivial
  cases state with
  | loadingJob job =>
    cases hnext
    refine asStatement_of_ensures (P := GoesOn deployment.runtime bodies db.app) ?_ hthrows
    unfold backgroundJob.findFirst
    rw [ensures_read]
    apply hsame
    unfold afterJob
    split
    · trivial
    · split_ifs <;> trivial
  | loadingAccount job idempotencyKey resourceId =>
    cases hnext
    refine asStatement_of_ensures (P := GoesOn deployment.runtime bodies db.app) ?_ hthrows
    unfold WorkerTable.findFirst
    rw [ensures_read]
    apply hsame
    unfold afterAccount
    split
    · trivial
    · next account hfind =>
      split_ifs
      · trivial
      · exact ⟨account, mem_of_find?_eq_some hfind, rfl, rfl⟩
  | loadingCredential job idempotencyKey account =>
    cases hnext
    refine asStatement_of_ensures (P := GoesOn deployment.runtime bodies db.app) ?_ hthrows
    unfold WorkerTable.findFirst
    rw [ensures_read]
    apply hsame
    unfold afterCredential
    split
    · trivial
    · split_ifs
      · trivial
      · split
        · trivial
        · exact hstands
  | startingRun job idempotencyKey account accessToken =>
    cases hnext
    refine asStatement_of_ensures (P := GoesOn deployment.runtime bodies db.app) ?_ hthrows
    unfold findSyncAccount
    split_ifs
    · trivial
    · unfold WorkerTable.findFirst
      rw [ensures_bind, ensures_read]
      split
      · trivial
      · exact hsame hstands
  | findingRun opening =>
    cases hnext
    refine asStatement_of_ensures (P := GoesOn deployment.runtime bodies db.app) ?_ hthrows
    unfold findExistingRun WorkerTable.findFirst
    rw [ensures_read]
    apply hsame
    unfold afterExisting
    split
    · exact hstands
    · next existing hexisting =>
      have hmem := mem_of_find?_eq_some hexisting
      have hfound := List.find?_some hexisting
      simp only [Bool.and_eq_true, beq_iff_eq] at hfound
      split_ifs
      · exact ⟨opening.input.instagramAccountId,
          ⟨existing, hmem, rfl, rfl, hfound.1.1.2⟩, hstands⟩
      · exact ⟨hstands, existing, hmem, rfl, hfound.1.1.2⟩
  | reopeningRun opening existing =>
    cases hnext
    refine asStatement_of_ensures (P := GoesOn deployment.runtime bodies db.app) ?_ hthrows
    refine (nothingLost_reopenRun hlost).mono ?_ fun _ _ => trivial
    rintro _ db' ⟨hlost', hkept⟩
    have hstands' : (SyncWork.rereadingRun opening existing).Stands deployment.runtime bodies
        db'.app := Stands.mono hkept hstands
    exact ⟨hlost', hkept, hstands'⟩
  | rereadingRun opening existing =>
    cases hnext
    refine asStatement_of_ensures (P := GoesOn deployment.runtime bodies db.app) ?_ hthrows
    unfold findReopenedRun WorkerTable.findFirst
    rw [ensures_bind, ensures_read]
    split
    · trivial
    · next found hfind =>
      obtain ⟨hfits, row, hrow, hid, howner⟩ := hstands
      have hfound := List.find?_some hfind
      simp only [Bool.and_eq_true, beq_iff_eq] at hfound
      have hmem := mem_of_find?_eq_some hfind
      have hrow' : found = row :=
        Table.eq_of_key syncRunSchema_keyedBy_id hmem hrow (hfound.1.trans hid.symm)
      exact hsame ⟨opening.input.instagramAccountId, ⟨found, hmem, rfl, rfl, hrow' ▸ howner⟩, hfits⟩
  | creatingRun opening =>
    cases hnext
    refine asStatement_of_ensures (P := GoesOn deployment.runtime bodies db.app) ?_ hthrows
    refine (nothingLost_createRun hlost hstands).mono ?_ fun _ _ => trivial
    rintro created db' ⟨hlost', hkept, hcreated, howner⟩
    exact ⟨hlost', hkept, opening.input.instagramAccountId, ⟨created, hcreated, rfl, rfl, howner⟩,
      hstands.mono hkept⟩
  | resuming task =>
    cases hnext
    refine asCaughtStatement_of_ensures (P := GoesOn deployment.runtime bodies db.app) ?_
      fun _ => hsame stands_caught
    unfold findRunCursor WorkerTable.findFirst
    rw [ensures_bind, ensures_read]
    apply hsame
    apply stands_enterLoop
    obtain ⟨instagramAccountId, hreads⟩ := hstands
    refine ⟨instagramAccountId, hreads, ?_⟩
    show ImportedBefore _ _ _ _ _ _ (Option.bind _ SyncRun.cursor)
    cases hfind : (syncRun.get db.app).findFirst fun row => row.id == task.syncRunId &&
        row.workspaceId == task.job.context.workspaceId with
    | none => exact CursorFeed.doneBefore_none
    | some found =>
      have hfound := List.find?_some hfind
      rw [Bool.and_eq_true, beq_iff_eq] at hfound
      have hmem := mem_of_find?_eq_some hfind
      obtain ⟨hhorizon, howner⟩ := hreads.of_id hmem hfound.1
      obtain ⟨-, providerAccountId, haccount, hbefore, -⟩ := hlost found hmem
      have hprovider := hreads.account.unique (howner ▸ haccount)
      rw [hhorizon, howner, hprovider] at hbefore
      exact hbefore
  | persisting task paging page =>
    cases hnext
    refine asCaughtStatement_of_ensures (P := GoesOn deployment.runtime bodies db.app) ?_
      fun _ => hsame stands_caught
    obtain ⟨⟨instagramAccountId, hreads, hbefore⟩, hread⟩ := hstands
    have hpage := hread.1
    subst hpage
    refine (nothingLost_commitInstagramMediaPage hlost hreads hbefore).mono ?_ fun _ _ => trivial
    rintro _ db' ⟨hlost', hkept, himported⟩
    exact ⟨hlost', hkept, stands_afterPage (hnewest _) (hreads.mono hkept) (hbefore.mono hkept)
      himported hread⟩
  | recordingFailure task failure =>
    cases hnext
    refine asStatement_of_ensures (P := GoesOn deployment.runtime bodies db.app) ?_ hthrows
    refine (nothingLost_failInstagramSyncRun hlost).mono ?_ fun _ _ => trivial
    exact fun _ db' hboth => ⟨hboth.1, hboth.2, trivial⟩
  | throwing exception => cases exception <;> cases hnext
  | _ => cases hnext

/-- **The script loses nothing**, if each page that is answered is that of a feed whose later
pages hold nothing newer. -/
theorem upholds
    (hnewest : ∀ providerAccountId, NewestFirst deployment.runtime (bodies providerAccountId)) :
    (syncAccountScript deployment).Upholds (AnswersFrom bodies)
      (NothingLost deployment.runtime bodies) (ImportsKept deployment.runtime bodies)
      (fun app _ state => state.Stands deployment.runtime bodies app)
      (fun app _ outcome => Ends deployment.runtime bodies app outcome) := by
  constructor
  case refl => exact ImportsKept.refl
  case trans => exact ImportsKept.trans
  case mono => exact Stands.mono
  case monoDone => exact Ends.mono
  case start =>
    intro app delivery claim
    rcases start_eq deployment delivery claim with hstart | ⟨exception, hstart⟩
    · rw [hstart]
      trivial
    · rw [hstart]
      trivial
  case callback =>
    intro app _ state kind resume rescue hnext hstands
    cases state with
    | started job =>
      cases hnext
      exact ⟨trivial, fun _ => trivial⟩
    | beating task paging =>
      cases hnext
      exact ⟨hstands, fun _ => stands_caught⟩
    | announcingFetch task paging =>
      cases hnext
      exact ⟨stands_fetch hstands, fun _ => stands_caught⟩
    | announcingPage task paging page =>
      cases hnext
      exact ⟨hstands, fun _ => stands_caught⟩
    | throwing exception => cases exception <;> cases hnext
    | _ => cases hnext
  case statement => exact fun db hnext hlost => goesOn_statement db hnewest hnext hlost
  case request =>
    intro app _ state request resume hnext hstands answer hanswer
    cases state with
    | fetching task paging =>
      cases hnext
      exact stands_afterAnswer hstands hanswer
    | throwing exception => cases exception <;> cases hnext
    | _ => cases hnext
  case finish =>
    intro app _ state outcome hnext hstands
    cases state with
    | returning task =>
      cases hnext
      exact ⟨task, rfl, hstands⟩
    | throwing exception =>
      cases exception <;> cases hnext <;> trivial
    | _ => cases hnext
  case commit =>
    intro _ result update db written hupdate hwritten hlost hends
    obtain ⟨task, rfl, hfinished⟩ := hends
    have hcompletes := asEffect_of_ensures (R := fun before after =>
      NothingLost deployment.runtime bodies before → task.Finished deployment.runtime bodies before →
        NothingLost deployment.runtime bodies after ∧
          ImportsKept deployment.runtime bodies before after) ?_ hupdate hwritten
    · exact hcompletes hlost hfinished
    · intro db
      unfold commit
      rw [ensures_bind, ensures_read]
      by_cases hholds : NothingLost deployment.runtime bodies db.app ∧
          task.Finished deployment.runtime bodies db.app
      · obtain ⟨hlost, instagramAccountId, hreads, hall⟩ := hholds
        exact (nothingLost_completeInstagramSyncRun hlost hreads hall).mono
          (fun _ _ hboth _ _ => hboth) fun _ _ => trivial
      · exact Ensures.of_forall (fun _ _ hlost hfinished => absurd ⟨hlost, hfinished⟩ hholds)
          fun _ => trivial

end SyncWork

/-! ### Runs -/

namespace SyncSystem

/-- A step of the system, in which each page that is answered is that of the feeds. -/
def FeedStep (deployment : SyncDeployment) (environment : Environment WorkerTables)
    (bodies : String → Option String → Json) :
    SyncSystem → WorkEvent WorkerTables GraphAnswer → SyncSystem → Prop :=
  Transition.Restricted
    (WorkSystem.Step environment (syncAccountScript deployment)
      fun before after => OthersKeep before.2 after.2)
    (WorkSystem.Suits (syncAccountScript deployment) (AnswersFrom bodies))

/-- How many posts an account has of the media. -/
def postCount (app : WorkerTables) (instagramAccountId : String)
    (media : NormalisedInstagramMedia) : ℕ :=
  app.instagramPosts.rows.countP fun post =>
    post.instagramAccountId == instagramAccountId && post.providerMediaId == media.providerMediaId

private theorem postCount_eq_one {runtime : Runtime} {bodies : String → Option String → Json}
    {app : WorkerTables} {instagramAccountId : String} {media : NormalisedInstagramMedia}
    (h : IsImported runtime bodies app instagramAccountId media) :
    postCount app instagramAccountId media = 1 := by
  obtain ⟨post, hpost, howner, hmedia, -⟩ := h
  refine countP_eq_one_of_pairwise ?_ hpost (by simp [howner, hmedia])
  have hkey : instagramPostSchema.KeyedBy fun post : InstagramPost =>
      (post.instagramAccountId, post.providerMediaId) :=
    ⟨_, mem_cons_of_mem _ mem_cons_self, fun _ _ h => by simpa using h⟩
  refine (Table.pairwise_key hkey app.instagramPosts).imp fun hne hboth => hne ?_
  simp only [Bool.and_eq_true, beq_iff_eq] at hboth
  rw [hboth.1.1, hboth.1.2, hboth.2.1, hboth.2.2]

/-- **A synchronisation loses nothing.** The pages are answered from feeds that stay as they are,
and whose later pages hold nothing newer. In every run, however attempts crash, go on and overlap,
the counters of each run agree, every page before its cursor is imported, and once it has
succeeded, all that its feed holds within its horizon is imported: each item is exactly one post,
which shows what the feed offers under its identifier. -/
theorem sync_loses_nothing {deployment : SyncDeployment} {environment : Environment WorkerTables}
    {bodies : String → Option String → Json} {clock : ℤ} {internalUsers : List InternalUser}
    {app : WorkerTables} {s : SyncSystem}
    (hnewest : ∀ providerAccountId, NewestFirst deployment.runtime (bodies providerAccountId))
    (hnone : app.syncRuns.rows = [])
    (hrun : Transition.Reachable (FeedStep deployment environment bodies)
      (WorkSystem.initial clock internalUsers app) s) :
    ∀ run ∈ s.system.db.app.syncRuns.rows,
      run.itemsSeen = run.itemsImported + run.itemsUpdated + run.itemsSkipped + run.itemsInvalid ∧
      ∃ account ∈ s.system.db.app.instagramAccounts.rows, account.id = run.instagramAccountId ∧
        ImportedBefore deployment.runtime bodies s.system.db.app run.instagramAccountId
          account.providerAccountId run.horizonStart run.cursor ∧
        (run.state = .succeeded → ∀ n cursor,
          (mediaFeed (bodies account.providerAccountId)).Continues n cursor → ∀ media,
            ((mediaFeed (bodies account.providerAccountId)).page cursor).Holds deployment.runtime
              run.horizonStart media →
              IsImported deployment.runtime bodies s.system.db.app run.instagramAccountId media ∧
                postCount s.system.db.app run.instagramAccountId media = 1) := by
  have hinit : NothingLost deployment.runtime bodies app := by
    intro run hmem
    rw [hnone] at hmem
    cases hmem
  obtain ⟨history, hrun⟩ := hrun
  obtain ⟨-, hlost, -⟩ := WorkSystem.Tracks.run (SyncWork.upholds hnewest)
    (fun hothers hlost => ⟨hlost.mono hothers.importsKept hothers.runs, hothers.importsKept⟩)
    (WorkSystem.inv_initial clock internalUsers app) hinit (fun _ => rfl) hrun
  intro run hmem
  obtain ⟨hcounted, providerAccountId, ⟨account, haccount, hid, rfl⟩, hbefore, hall⟩ := hlost run hmem
  refine ⟨hcounted, account, haccount, hid, hbefore, ?_⟩
  intro hsucceeded n cursor hcontinues media hholds
  have himported := hall hsucceeded n cursor hcontinues media hholds
  exact ⟨himported, postCount_eq_one himported⟩

namespace Sample

open WorkSample Utf16

/-- A deployment in which everything is published at one instant. -/
def feedDeployment : SyncDeployment :=
  { deployment with runtime := { deployment.runtime with dateParse := fun _ => some 1735689600000 } }

/-- An item of a page. -/
def mediaItem (id : String) : Json :=
  .object [(ofString "id", .string (ofString id)),
    (ofString "media_type", .string (ofString "IMAGE")),
    (ofString "timestamp", .string (ofString "2025-01-01T00:00:00+0000"))]

/-- A feed of two pages with one item each. -/
def twoPages : String → Option String → Json
  | _, none =>
    .object [(ofString "data", .array [mediaItem "17900000000000002"]),
      (ofString "paging", .object
        [(ofString "cursors", .object [(ofString "after", .string (ofString "A"))]),
          (ofString "next", .string (ofString "next"))])]
  | _, some _ => .object [(ofString "data", .array [mediaItem "17900000000000001"])]

/-- A handler reads a page and commits it. -/
def pageRead (pid callback : ℕ) (now : ℤ) : List (WorkEvent WorkerTables GraphAnswer) :=
  announced pid callback now ++ announced pid (callback + 1) now ++
    [.send pid, .receive pid .unreachable] ++ announced pid (callback + 2) now ++ [.statement pid]

/-- A handler commits the first page and is lost; another one goes on from the cursor of the run,
and succeeds. -/
def resumed : List (WorkEvent WorkerTables GraphAnswer) :=
  requested :: begun "instagram.sync.account" 0 0 "lease" ++ announced 0 10 0 ++
    List.replicate 7 (.statement 0) ++ pageRead 0 11 0 ++ recovered ++
    begun "instagram.sync.account" 1 200000 "lease-1" ++ announced 1 20 200000 ++
    List.replicate 6 (.statement 1) ++ pageRead 1 21 200000 ++ committed 1 200000

/-- The answer of the feed of two pages. -/
def feedAnswer (request : MediaPageRequest) : GraphAnswer :=
  .responded ⟨200, twoPages request.providerAccountId request.after, none⟩

private theorem publishedAt_eq {item : Json} {media : NormalisedInstagramMedia}
    (h : normaliseInstagramMediaItem feedDeployment.runtime item = .ok media) :
    media.publishedAt = 1735689600000 := by
  unfold normaliseInstagramMediaItem at h
  repeat' split at h
  all_goals cases h
  next htime =>
  unfold parseInstagramTimestamp at htime
  repeat' split at htime
  all_goals cases htime
  next hparsed _ =>
  cases hparsed
  rfl

private theorem newestFirst_twoPages (providerAccountId : String) :
    NewestFirst feedDeployment.runtime (twoPages providerAccountId) := by
  rintro n m cursor later - - - media media' ⟨item, -, hmedia, -⟩ ⟨item', -, hmedia', -⟩
  rw [publishedAt_eq hmedia, publishedAt_eq hmedia']

/-- A run has succeeded with two items, a page each. -/
def hasBoth (s : SyncSystem) : Bool :=
  s.system.db.app.syncRuns.rows.any fun run =>
    run.state == .succeeded && run.pagesCompleted == 2 && run.itemsImported == 2

/-- **A synchronisation that is taken up again loses nothing.** -/
theorem resumed_sync_loses_nothing :
    ∃ (s : SyncSystem) (run : SyncRun),
      Transition.Reachable (FeedStep feedDeployment callbacks twoPages) start s ∧
        run ∈ s.system.db.app.syncRuns.rows ∧ run.state = .succeeded ∧ run.itemsImported = 2 ∧
        run.itemsSeen = run.itemsImported + run.itemsUpdated + run.itemsSkipped + run.itemsInvalid ∧
        ∃ providerAccountId, ∀ n cursor, (mediaFeed (twoPages providerAccountId)).Continues n cursor →
          ∀ media, ((mediaFeed (twoPages providerAccountId)).page cursor).Holds
            feedDeployment.runtime run.horizonStart media →
              postCount s.system.db.app run.instagramAccountId media = 1 := by
  have hreplay : ((WorkSystem.replayAnswering callbacks (syncAccountScript feedDeployment) feedAnswer
      start resumed).map hasBoth) = some true := by
    decide +kernel
  obtain ⟨s, hs, hboth⟩ := Option.map_eq_some_iff.mp hreplay
  have hsuits : ∀ request, AnswersFrom twoPages request (feedAnswer request) := by
    intro request response hresponse _
    cases hresponse
    rfl
  have hrun : Transition.Reachable (FeedStep feedDeployment callbacks twoPages) start s :=
    WorkSystem.reachable_of_replayAnswering hsuits .refl hs
  obtain ⟨run, hmem, hrow⟩ := any_eq_true.mp hboth
  simp only [Bool.and_eq_true, beq_iff_eq] at hrow
  obtain ⟨hcounted, account, -, -, -, hall⟩ :=
    sync_loses_nothing newestFirst_twoPages rfl hrun run hmem
  exact ⟨s, run, hrun, hmem, hrow.1.1, hrow.2, hcounted, account.providerAccountId,
    fun n cursor hcontinues media hholds => (hall hrow.1.1 n cursor hcontinues media hholds).2⟩

end Sample

end SyncSystem

end ContentAutomation
