import ContentAutomation.Instagram.SyncAccount
import ContentAutomation.Library.CursorFeed

/-!
# What a synchronisation imports

A feed answers each cursor always alike. Its items become posts, one page after the other, and
each page commits with the cursor behind it. Every write of a synchronisation leaves imported what
has been imported: the cursor of a run is behind no page with items that are not posts, and its
counters agree.
-/

namespace ContentAutomation

open Relational Transaction List

/-! ### Feeds -/

/-- The feed of an account, given the body that answers each cursor. -/
def mediaFeed (bodies : Option String → Json) : CursorFeed String InstagramMediaPage where
  page after := readInstagramMediaPage (bodies after)
  after page := page.after
  hasNext page := page.hasNextPage = true

section Pages

variable (runtime : Runtime)

/-- The page holds the media as a valid item, within a horizon if there is one. -/
def InstagramMediaPage.Holds (horizonStart : Option ℤ) (page : InstagramMediaPage)
    (media : NormalisedInstagramMedia) : Prop :=
  ∃ item ∈ page.items, normaliseInstagramMediaItem runtime item = .ok media ∧
    ∀ horizon, horizonStart = some horizon → horizon ≤ media.publishedAt

/-- No page of the feed holds anything newer than a page before it. -/
def NewestFirst (bodies : Option String → Json) : Prop :=
  ∀ n m cursor later, (mediaFeed bodies).At n cursor → n < m →
    (mediaFeed bodies).Continues m later → ∀ media media',
      ((mediaFeed bodies).page cursor).Holds runtime none media →
        ((mediaFeed bodies).page later).Holds runtime none media' →
          media'.publishedAt ≤ media.publishedAt

variable {runtime} {horizonStart : Option ℤ} {media : NormalisedInstagramMedia}
  {page : InstagramMediaPage}

theorem InstagramMediaPage.Holds.valid (h : page.Holds runtime horizonStart media) :
    page.Holds runtime none media := by
  obtain ⟨item, hitem, hmedia, -⟩ := h
  exact ⟨item, hitem, hmedia, fun horizon hnone => by cases hnone⟩

private theorem mem_media_add {tally : MediaPageTally} {item : Json} :
    media ∈ (tally.add runtime horizonStart item).media ↔ media ∈ tally.media ∨
      normaliseInstagramMediaItem runtime item = .ok media ∧
        ∀ horizon, horizonStart = some horizon → horizon ≤ media.publishedAt := by
  unfold MediaPageTally.add
  cases hitem : normaliseInstagramMediaItem runtime item with
  | error reason => simp
  | ok found =>
    dsimp only
    split_ifs with holder
    · simp only [Option.any_eq_true, decide_eq_true_eq] at holder
      obtain ⟨horizon, hhorizon, hless⟩ := holder
      constructor
      · exact .inl
      · rintro (hmem | ⟨hfound, hwithin⟩)
        · exact hmem
        · cases hfound
          have := hwithin horizon hhorizon
          omega
    · rw [mem_append, mem_singleton]
      refine or_congr_right ?_
      constructor
      · rintro rfl
        refine ⟨rfl, ?_⟩
        rintro horizon rfl
        simpa using holder
      · rintro ⟨hfound, -⟩
        cases hfound
        rfl

/-- **The tally of a page has collected the media that the page holds.** -/
theorem mem_media_tallyItems :
    media ∈ (tallyItems runtime horizonStart page.items).media ↔
      page.Holds runtime horizonStart media := by
  have hloop : ∀ (items : List Json) (tally : MediaPageTally),
      media ∈ (items.foldl (MediaPageTally.add runtime horizonStart) tally).media ↔
        media ∈ tally.media ∨ ∃ item ∈ items, normaliseInstagramMediaItem runtime item = .ok media ∧
          ∀ horizon, horizonStart = some horizon → horizon ≤ media.publishedAt := by
    intro items
    induction items with
    | nil => simp
    | cons item items ih =>
      intro tally
      rw [foldl_cons, ih, mem_media_add]
      simp only [mem_cons, exists_eq_or_imp, or_assoc]
  unfold tallyItems InstagramMediaPage.Holds
  simpa using hloop page.items {}

theorem after_isSome_of_readMediaPageAnswer {answer : GraphAnswer}
    (h : readMediaPageAnswer answer = .ok page) (hnext : page.hasNextPage) :
    page.after.isSome := by
  unfold readMediaPageAnswer at h
  split at h
  · cases h
  · split_ifs at h
    split at h
    · cases h
    · dsimp only at h
      split_ifs at h with hcursor
      cases h
      rw [Option.isSome_iff_ne_none]
      exact fun hnone => hcursor ⟨hnext, hnone⟩

/-- **A last page leaves nothing behind.** The pages behind a page at which the loop is left hold
nothing within the horizon. -/
theorem not_holds_of_isLast {bodies : Option String → Json} (hnewest : NewestFirst runtime bodies)
    {n m : ℕ} {cursor later : Option String} (hat : (mediaFeed bodies).At n cursor) (hless : n < m)
    (hlater : (mediaFeed bodies).Continues m later)
    (hlast : ((mediaFeed bodies).page cursor).isLast runtime horizonStart) :
    ¬ ((mediaFeed bodies).page later).Holds runtime horizonStart media := by
  intro hholds
  have hnext : ((mediaFeed bodies).page cursor).hasNextPage = true := hlater.2 n hless cursor hat
  unfold InstagramMediaPage.isLast at hlast
  rw [hnext, Bool.not_true, Bool.false_or, reachedHorizon_tallyItems] at hlast
  obtain ⟨item, hitem, older, horizon, holder, hhorizon, hbefore⟩ := hlast
  have hnotNewer := hnewest n m cursor later hat hless hlater older media
    ⟨item, hitem, holder, fun _ hnone => by cases hnone⟩ hholds.valid
  obtain ⟨-, -, -, hwithin⟩ := hholds
  have := hwithin horizon hhorizon
  omega

end Pages

/-! ### What a run has imported -/

/-- The post shows the media: importing it would leave the post as it is. -/
def InstagramPost.Shows (post : InstagramPost) (media : NormalisedInstagramMedia) : Prop :=
  post.providerMediaId = media.providerMediaId ∧
    ∃ importedAt syncRunId, importedPost media importedAt syncRunId post = post

section Imports

variable (runtime : Runtime) (bodies : String → Option String → Json)

/-- Some page of the account at the provider holds the media. -/
def IsOffered (providerAccountId : String) (media : NormalisedInstagramMedia) : Prop :=
  ∃ cursor, ((mediaFeed (bodies providerAccountId)).page cursor).Holds runtime none media

/-- The post shows what its account at the provider offers. -/
def IsFaithful (app : WorkerTables) (post : InstagramPost) : Prop :=
  ∃ account ∈ app.instagramAccounts.rows, account.id = post.instagramAccountId ∧
    ∃ media, IsOffered runtime bodies account.providerAccountId media ∧ post.Shows media

/-- The media is a post of the account, which shows what the provider offers. -/
def IsImported (app : WorkerTables) (instagramAccountId : String)
    (media : NormalisedInstagramMedia) : Prop :=
  ∃ post ∈ app.instagramPosts.rows, post.instagramAccountId = instagramAccountId ∧
    post.providerMediaId = media.providerMediaId ∧ IsFaithful runtime bodies app post

/-- All that the page holds within the horizon is imported. -/
def PageImported (app : WorkerTables) (instagramAccountId : String) (horizonStart : Option ℤ)
    (page : InstagramMediaPage) : Prop :=
  ∀ media, page.Holds runtime horizonStart media →
    IsImported runtime bodies app instagramAccountId media

/-- Every page before the cursor is imported. -/
def ImportedBefore (app : WorkerTables) (instagramAccountId providerAccountId : String)
    (horizonStart : Option ℤ) (cursor : Option String) : Prop :=
  (mediaFeed (bodies providerAccountId)).DoneBefore
    (PageImported runtime bodies app instagramAccountId horizonStart) cursor

/-- Every page of the feed is imported. -/
def AllImported (app : WorkerTables) (instagramAccountId providerAccountId : String)
    (horizonStart : Option ℤ) : Prop :=
  ∀ n cursor, (mediaFeed (bodies providerAccountId)).Continues n cursor →
    PageImported runtime bodies app instagramAccountId horizonStart
      ((mediaFeed (bodies providerAccountId)).page cursor)

/-- The account is identified at the provider so. -/
def IsAccount (app : WorkerTables) (instagramAccountId providerAccountId : String) : Prop :=
  ∃ account ∈ app.instagramAccounts.rows, account.id = instagramAccountId ∧
    account.providerAccountId = providerAccountId

/-- A run has lost nothing: its counters agree, its cursor is behind no page that is not
imported, and if it has succeeded, its feed is imported. -/
structure SyncRun.LosesNothing (app : WorkerTables) (run : SyncRun) : Prop where
  counted : run.itemsSeen =
    run.itemsImported + run.itemsUpdated + run.itemsSkipped + run.itemsInvalid
  imported : ∃ providerAccountId, IsAccount app run.instagramAccountId providerAccountId ∧
    ImportedBefore runtime bodies app run.instagramAccountId providerAccountId run.horizonStart
      run.cursor ∧
    (run.state = .succeeded → AllImported runtime bodies app run.instagramAccountId
      providerAccountId run.horizonStart)

/-- The invariant of the tables: no run has lost anything. -/
def NothingLost (app : WorkerTables) : Prop :=
  ∀ run ∈ app.syncRuns.rows, run.LosesNothing runtime bodies app

/-- Accounts, runs and posts stay, and no post gets out of step with its account. -/
structure ImportsKept (before after : WorkerTables) : Prop where
  accounts : ∀ account ∈ before.instagramAccounts.rows, ∃ account' ∈ after.instagramAccounts.rows,
    account'.id = account.id ∧ account'.providerAccountId = account.providerAccountId
  runs : ∀ run ∈ before.syncRuns.rows, ∃ run' ∈ after.syncRuns.rows, run'.id = run.id ∧
    run'.horizonStart = run.horizonStart ∧ run'.instagramAccountId = run.instagramAccountId
  posts : ∀ post ∈ before.instagramPosts.rows, ∃ post' ∈ after.instagramPosts.rows,
    post'.id = post.id ∧ post'.instagramAccountId = post.instagramAccountId ∧
      post'.providerMediaId = post.providerMediaId ∧
        (IsFaithful runtime bodies before post → IsFaithful runtime bodies after post')

end Imports

/-- What the rest of the application leaves as it is: accounts stay at the provider who they
are, it writes no runs, and of posts only which analysis is current. -/
structure OthersKeep (before after : WorkerTables) : Prop where
  accounts : ∀ account ∈ before.instagramAccounts.rows, ∃ account' ∈ after.instagramAccounts.rows,
    account'.id = account.id ∧ account'.providerAccountId = account.providerAccountId
  runs : after.syncRuns = before.syncRuns
  posts : ∀ post ∈ before.instagramPosts.rows, ∃ currentAnalysisId,
    { post with currentAnalysisId } ∈ after.instagramPosts.rows

section Kept

variable {runtime : Runtime} {bodies : String → Option String → Json}
  {before after app app' app'' : WorkerTables} {instagramAccountId providerAccountId : String}
  {horizonStart : Option ℤ} {media : NormalisedInstagramMedia} {cursor : Option String}

theorem ImportsKept.refl (app : WorkerTables) : ImportsKept runtime bodies app app where
  accounts account haccount := ⟨account, haccount, rfl, rfl⟩
  runs run hrun := ⟨run, hrun, rfl, rfl, rfl⟩
  posts post hpost := ⟨post, hpost, rfl, rfl, rfl, id⟩

theorem ImportsKept.trans (h : ImportsKept runtime bodies app app')
    (h' : ImportsKept runtime bodies app' app'') : ImportsKept runtime bodies app app'' := by
  constructor
  case accounts =>
    intro account haccount
    obtain ⟨account', haccount', hid, hprovider⟩ := h.accounts account haccount
    obtain ⟨account'', haccount'', hid', hprovider'⟩ := h'.accounts account' haccount'
    exact ⟨account'', haccount'', hid'.trans hid, hprovider'.trans hprovider⟩
  case runs =>
    intro run hrun
    obtain ⟨run', hrun', hid, hhorizon, howner⟩ := h.runs run hrun
    obtain ⟨run'', hrun'', hid', hhorizon', howner'⟩ := h'.runs run' hrun'
    exact ⟨run'', hrun'', hid'.trans hid, hhorizon'.trans hhorizon, howner'.trans howner⟩
  case posts =>
    intro post hpost
    obtain ⟨post', hpost', hid, howner, hmedia, hfaithful⟩ := h.posts post hpost
    obtain ⟨post'', hpost'', hid', howner', hmedia', hfaithful'⟩ := h'.posts post' hpost'
    exact ⟨post'', hpost'', hid'.trans hid, howner'.trans howner, hmedia'.trans hmedia,
      fun hpost => hfaithful' (hfaithful hpost)⟩

theorem IsAccount.mono (hkept : ImportsKept runtime bodies before after)
    (h : IsAccount before instagramAccountId providerAccountId) :
    IsAccount after instagramAccountId providerAccountId := by
  obtain ⟨account, haccount, hid, hprovider⟩ := h
  obtain ⟨account', haccount', hid', hprovider'⟩ := hkept.accounts account haccount
  exact ⟨account', haccount', hid'.trans hid, hprovider'.trans hprovider⟩

theorem IsImported.mono (hkept : ImportsKept runtime bodies before after)
    (h : IsImported runtime bodies before instagramAccountId media) :
    IsImported runtime bodies after instagramAccountId media := by
  obtain ⟨post, hpost, howner, hmedia, hfaithful⟩ := h
  obtain ⟨post', hpost', -, howner', hmedia', hfaithful'⟩ := hkept.posts post hpost
  exact ⟨post', hpost', howner'.trans howner, hmedia'.trans hmedia, hfaithful' hfaithful⟩

theorem PageImported.mono (hkept : ImportsKept runtime bodies before after)
    (page : InstagramMediaPage)
    (h : PageImported runtime bodies before instagramAccountId horizonStart page) :
    PageImported runtime bodies after instagramAccountId horizonStart page :=
  fun media hholds => (h media hholds).mono hkept

theorem ImportedBefore.mono (hkept : ImportsKept runtime bodies before after)
    (h : ImportedBefore runtime bodies before instagramAccountId providerAccountId horizonStart
      cursor) :
    ImportedBefore runtime bodies after instagramAccountId providerAccountId horizonStart cursor :=
  CursorFeed.DoneBefore.mono (PageImported.mono hkept) h

theorem SyncRun.LosesNothing.mono {run : SyncRun} (hkept : ImportsKept runtime bodies before after)
    (h : run.LosesNothing runtime bodies before) : run.LosesNothing runtime bodies after := by
  obtain ⟨hcounted, providerAccountId, haccount, hbefore, hall⟩ := h
  refine ⟨hcounted, providerAccountId, haccount.mono hkept, hbefore.mono hkept, ?_⟩
  exact fun hsucceeded n cursor hcontinues =>
    (hall hsucceeded n cursor hcontinues).mono hkept

theorem ImportsKept.of_same (haccounts : after.instagramAccounts = before.instagramAccounts)
    (hruns : ∀ run ∈ before.syncRuns.rows, ∃ run' ∈ after.syncRuns.rows, run'.id = run.id ∧
      run'.horizonStart = run.horizonStart ∧ run'.instagramAccountId = run.instagramAccountId)
    (hposts : after.instagramPosts = before.instagramPosts) :
    ImportsKept runtime bodies before after := by
  refine ⟨?_, hruns, ?_⟩
  · rw [haccounts]
    exact fun account haccount => ⟨account, haccount, rfl, rfl⟩
  · rw [hposts]
    intro post hpost
    refine ⟨post, hpost, rfl, rfl, rfl, ?_⟩
    unfold IsFaithful
    rw [haccounts]
    exact id

theorem OthersKeep.importsKept (h : OthersKeep before after) :
    ImportsKept runtime bodies before after := by
  refine ⟨h.accounts, ?_, ?_⟩
  · rw [h.runs]
    exact fun run hrun => ⟨run, hrun, rfl, rfl, rfl⟩
  · intro post hpost
    obtain ⟨currentAnalysisId, hpost'⟩ := h.posts post hpost
    refine ⟨_, hpost', rfl, rfl, rfl, ?_⟩
    rintro ⟨account, haccount, hid, media, hoffered, hsame, importedAt, syncRunId, hshows⟩
    obtain ⟨account', haccount', hid', hprovider'⟩ := h.accounts account haccount
    refine ⟨account', haccount', hid'.trans hid, media, hprovider' ▸ hoffered, hsame, importedAt,
      syncRunId, ?_⟩
    exact congrArg (fun post : InstagramPost => { post with currentAnalysisId }) hshows

theorem NothingLost.mono (hkept : ImportsKept runtime bodies before after)
    (hruns : after.syncRuns = before.syncRuns) (h : NothingLost runtime bodies before) :
    NothingLost runtime bodies after := by
  intro run hrun
  rw [hruns] at hrun
  exact (h run hrun).mono hkept

theorem IsAccount.unique (h : IsAccount app instagramAccountId providerAccountId)
    {other : String} (hother : IsAccount app instagramAccountId other) :
    other = providerAccountId := by
  obtain ⟨account, haccount, hid, rfl⟩ := h
  obtain ⟨account', haccount', hid', rfl⟩ := hother
  have hkey : instagramAccountSchema.KeyedBy InstagramAccount.id :=
    ⟨_, mem_cons_self, fun _ _ h => by simpa using h⟩
  rw [Table.eq_of_key hkey haccount' haccount (hid'.trans hid.symm)]

end Kept

/-! ### What the writes keep -/

section Writes

variable {runtime : Runtime} {bodies : String → Option String → Json}
  {db : Database WorkerTables} {context : WorkspaceContext} {instagramAccountId : String}
  {input : StartInstagramSyncRunInput} {task : SyncTask}

section Posts

variable {run : SyncRun} {importedAt : ℤ} {item : NormalisedInstagramMedia}
  {providerAccountId : String} {rows : Table instagramPostSchema}

private theorem importsKept_of_rewrite {post : InstagramPost}
    (haccount : IsAccount db.app run.instagramAccountId providerAccountId)
    (hoffered : IsOffered runtime bodies providerAccountId item)
    (hpost : ∃ row ∈ db.app.instagramPosts.rows, row.id = post.id ∧
      row.instagramAccountId = run.instagramAccountId ∧
        row.providerMediaId = item.providerMediaId)
    (hrows : rows.rows = db.app.instagramPosts.rows.map fun row =>
      if row.id == post.id then importedPost item importedAt run.id row else row) :
    ImportsKept runtime bodies db.app { db.app with instagramPosts := rows } ∧
      IsImported runtime bodies { db.app with instagramPosts := rows } run.instagramAccountId
        item := by
  obtain ⟨target, htarget, hid, howner, hmedia⟩ := hpost
  obtain ⟨account, haccountRow, haccountId, hprovider⟩ := haccount
  have hfaithful : IsFaithful runtime bodies { db.app with instagramPosts := rows }
      (importedPost item importedAt run.id target) :=
    ⟨account, haccountRow, haccountId.trans howner.symm, item, hprovider ▸ hoffered, hmedia,
      importedAt, run.id, rfl⟩
  have hmem : ∀ row ∈ db.app.instagramPosts.rows,
      (if row.id == post.id then importedPost item importedAt run.id row else row) ∈ rows.rows := by
    intro row hrow
    rw [hrows]
    exact mem_map_of_mem hrow
  constructor
  · refine ⟨fun account haccount => ⟨account, haccount, rfl, rfl⟩,
      fun run hrun => ⟨run, hrun, rfl, rfl, rfl⟩, ?_⟩
    intro row hrow
    refine ⟨_, hmem row hrow, ?_⟩
    split
    · next hselected =>
      have hsame : row = target := Table.eq_of_key instagramPostSchema_keyedBy_id hrow htarget
        ((beq_iff_eq.mp hselected).trans hid.symm)
      exact ⟨rfl, rfl, rfl, fun _ => hsame ▸ hfaithful⟩
    · exact ⟨rfl, rfl, rfl, id⟩
  · have hrewritten := hmem target htarget
    rw [if_pos (beq_iff_eq.mpr hid)] at hrewritten
    exact ⟨_, hrewritten, howner, hmedia, hfaithful⟩

private theorem importsKept_of_create {id : String}
    (haccount : IsAccount db.app run.instagramAccountId providerAccountId)
    (hoffered : IsOffered runtime bodies providerAccountId item)
    (hrows : rows.rows = db.app.instagramPosts.rows ++
      [createdPost context run.instagramAccountId item importedAt run.id id]) :
    ImportsKept runtime bodies db.app { db.app with instagramPosts := rows } ∧
      IsImported runtime bodies { db.app with instagramPosts := rows } run.instagramAccountId
        item := by
  obtain ⟨account, haccountRow, haccountId, hprovider⟩ := haccount
  constructor
  · refine ⟨fun account haccount => ⟨account, haccount, rfl, rfl⟩,
      fun run hrun => ⟨run, hrun, rfl, rfl, rfl⟩, ?_⟩
    intro row hrow
    have hstays : row ∈ rows.rows := by
      rw [hrows]
      exact mem_append_left _ hrow
    exact ⟨row, hstays, rfl, rfl, rfl, fun hfaithful => hfaithful⟩
  · have hcreated : createdPost context run.instagramAccountId item importedAt run.id id ∈
        rows.rows := by
      rw [hrows]
      exact mem_append_right _ (mem_singleton_self _)
    exact ⟨_, hcreated, rfl, rfl, account, haccountRow, haccountId, item, hprovider ▸ hoffered,
      rfl, importedAt, run.id, rfl⟩

/-- **The items of a page are imported.** Each is counted once, and the runs stay. -/
theorem ensures_importMedia {existing : List InstagramPost}
    {media : List (NormalisedInstagramMedia × String)} {counts : InstagramMediaPageCommit}
    (haccount : IsAccount db.app run.instagramAccountId providerAccountId)
    (hoffered : ∀ entry ∈ media, IsOffered runtime bodies providerAccountId entry.1)
    (hexisting : ∀ post ∈ existing, ∃ row ∈ db.app.instagramPosts.rows, row.id = post.id ∧
      row.instagramAccountId = run.instagramAccountId ∧
        row.providerMediaId = post.providerMediaId) :
    (importMedia context run importedAt existing media counts).Ensures
      (fun counts' db' => ImportsKept runtime bodies db.app db'.app ∧
        db'.app.syncRuns = db.app.syncRuns ∧
        (∀ entry ∈ media,
          IsImported runtime bodies db'.app run.instagramAccountId entry.1) ∧
        counts'.imported + counts'.updated = counts.imported + counts.updated + media.length)
      (fun _ => True) db := by
  induction media generalizing counts db with
  | nil => exact ⟨.refl _, rfl, fun _ hentry => (not_mem_nil hentry).elim, rfl⟩
  | cons entry media ih =>
    obtain ⟨item, id⟩ := entry
    have hitem := hoffered _ mem_cons_self
    have hrest := fun entry hentry => hoffered entry (mem_cons_of_mem _ hentry)
    -- once the first item is a post, the rest of the page goes on from there
    have hgoOn : ∀ (rows : Table instagramPostSchema) (counts' : InstagramMediaPageCommit),
        ImportsKept runtime bodies db.app { db.app with instagramPosts := rows } →
        IsImported runtime bodies { db.app with instagramPosts := rows } run.instagramAccountId
          item →
        counts'.imported + counts'.updated = counts.imported + counts.updated + 1 →
        (importMedia context run importedAt existing media counts').Ensures
          (fun counts' db' => ImportsKept runtime bodies db.app db'.app ∧
            db'.app.syncRuns = db.app.syncRuns ∧
            (∀ entry ∈ (item, id) :: media,
              IsImported runtime bodies db'.app run.instagramAccountId entry.1) ∧
            counts'.imported + counts'.updated =
              counts.imported + counts.updated + ((item, id) :: media).length)
          (fun _ => True) { db with app := { db.app with instagramPosts := rows } } := by
      intro rows counts' hkept himported hcounted
      have hthere : ∀ post ∈ existing, ∃ row ∈ rows.rows, row.id = post.id ∧
          row.instagramAccountId = run.instagramAccountId ∧
            row.providerMediaId = post.providerMediaId := by
        intro post hpost
        obtain ⟨row, hrow, hid, howner, hmedia⟩ := hexisting post hpost
        obtain ⟨row', hrow', hid', howner', hmedia', -⟩ := hkept.posts row hrow
        exact ⟨row', hrow', hid'.trans hid, howner'.trans howner, hmedia'.trans hmedia⟩
      refine (ih (haccount.mono hkept) hrest hthere).mono ?_ fun _ _ => trivial
      rintro counts'' db' ⟨hkept', hruns, hall, hcounted'⟩
      refine ⟨hkept.trans hkept', hruns, ?_, ?_⟩
      · intro entry hentry
        rcases mem_cons.mp hentry with rfl | hlater
        · exact himported.mono hkept'
        · exact hall entry hlater
      · rw [hcounted', hcounted, length_cons]
        omega
    unfold importMedia
    split
    · next post hfind =>
      have hmedia := List.find?_some hfind
      rw [beq_iff_eq] at hmedia
      obtain ⟨row, hrow, hid, howner, hsame⟩ := hexisting post (mem_of_find?_eq_some hfind)
      rw [ensures_bind]
      apply WorkerTable.ensures_updateMany
      intro rows hrows
      obtain ⟨hkept, himported⟩ := importsKept_of_rewrite haccount hitem
        ⟨row, hrow, hid, howner, hsame.trans hmedia⟩ hrows
      exact hgoOn rows _ hkept himported (by dsimp only; omega)
    · rw [ensures_bind]
      apply WorkerTable.ensures_create
      intro rows hrows
      obtain ⟨hkept, himported⟩ := importsKept_of_create haccount hitem hrows
      exact hgoOn rows _ hkept himported (by dsimp only; omega)

end Posts

section Runs

variable {data : SyncRun → SyncRun} {selects : SyncRun → Bool} {rows : Table syncRunSchema}
  {app : WorkerTables}

private theorem importsKept_of_runs
    (hrows : rows.rows = app.syncRuns.rows.map fun row => if selects row then data row else row)
    (hdata : ∀ row, (data row).id = row.id ∧ (data row).horizonStart = row.horizonStart ∧
      (data row).instagramAccountId = row.instagramAccountId) :
    ImportsKept runtime bodies app { app with syncRuns := rows } := by
  refine .of_same rfl ?_ rfl
  intro run hrun
  refine ⟨if selects run then data run else run, ?_, ?_⟩
  · show _ ∈ rows.rows
    rw [hrows]
    exact mem_map_of_mem hrun
  · split
    · exact hdata run
    · exact ⟨rfl, rfl, rfl⟩

private theorem importsKept_of_accounts {accounts : Table instagramAccountSchema}
    {data : InstagramAccount → InstagramAccount} {selects : InstagramAccount → Bool}
    (haccounts : accounts.rows = app.instagramAccounts.rows.map fun row =>
      if selects row then data row else row)
    (hdata : ∀ row, (data row).id = row.id ∧
      (data row).providerAccountId = row.providerAccountId) :
    ImportsKept runtime bodies app { app with instagramAccounts := accounts } := by
  have hstays : ∀ account ∈ app.instagramAccounts.rows, ∃ account' ∈ accounts.rows,
      account'.id = account.id ∧ account'.providerAccountId = account.providerAccountId := by
    intro account haccount
    refine ⟨if selects account then data account else account, ?_, ?_⟩
    · rw [haccounts]
      exact mem_map_of_mem haccount
    · split
      · exact hdata account
      · exact ⟨rfl, rfl⟩
  refine ⟨hstays, fun run hrun => ⟨run, hrun, rfl, rfl, rfl⟩, ?_⟩
  intro post hpost
  refine ⟨post, hpost, rfl, rfl, rfl, ?_⟩
  rintro ⟨account, haccount, hid, media, hoffered, hshows⟩
  obtain ⟨account', haccount', hid', hprovider'⟩ := hstays account haccount
  exact ⟨account', haccount', hid'.trans hid, media, hprovider' ▸ hoffered, hshows⟩

theorem NothingLost.of_update {before after : WorkerTables}
    (hlost : NothingLost runtime bodies before) (hkept : ImportsKept runtime bodies before after)
    (hrows : after.syncRuns.rows = before.syncRuns.rows.map fun row =>
      if selects row then data row else row)
    (hdata : ∀ row ∈ before.syncRuns.rows, selects row →
      (data row).LosesNothing runtime bodies after) : NothingLost runtime bodies after := by
  intro run hrun
  rw [hrows] at hrun
  obtain ⟨row, hrow, rfl⟩ := mem_map.mp hrun
  split
  · next hselected => exact hdata row hrow hselected
  · exact (hlost row hrow).mono hkept

private theorem SyncRun.LosesNothing.withState {run : SyncRun} {state : SyncRunState}
    (h : run.LosesNothing runtime bodies app) (hstate : state ≠ .succeeded) :
    ({ run with state } : SyncRun).LosesNothing runtime bodies app := by
  obtain ⟨hcounted, providerAccountId, haccount, hbefore, -⟩ := h
  exact ⟨hcounted, providerAccountId, haccount, hbefore, fun hsucceeded => absurd hsucceeded hstate⟩

end Runs

theorem nothingLost_reopenRun {existing : SyncRun}
    (hlost : NothingLost runtime bodies db.app) :
    (reopenRun context input existing).Ensures
      (fun _ db' => NothingLost runtime bodies db'.app ∧
        ImportsKept runtime bodies db.app db'.app) (fun _ => True) db := by
  unfold reopenRun
  rw [ensures_bind]
  apply WorkerTable.ensures_updateMany
  intro rows hrows
  split
  · trivial
  · have hkept : ImportsKept runtime bodies db.app { db.app with syncRuns := rows } :=
      importsKept_of_runs hrows fun _ => ⟨rfl, rfl, rfl⟩
    refine ⟨hlost.of_update hkept hrows ?_, hkept⟩
    intro row hrow _
    have hne : SyncRunState.running ≠ .succeeded := by decide
    have hrun := ((hlost row hrow).mono hkept).withState hne
    exact ⟨hrun.counted, hrun.imported⟩

theorem nothingLost_failInstagramSyncRun {failure : JobFailure} {failedAt : ℤ}
    {syncRunId : String} (hlost : NothingLost runtime bodies db.app) :
    (failInstagramSyncRun context failure failedAt syncRunId).Ensures
      (fun _ db' => NothingLost runtime bodies db'.app ∧
        ImportsKept runtime bodies db.app db'.app) (fun _ => True) db := by
  unfold failInstagramSyncRun
  split_ifs
  · trivial
  · trivial
  · rw [ensures_bind]
    apply WorkerTable.ensures_updateMany
    intro rows hrows
    have hkept : ImportsKept runtime bodies db.app { db.app with syncRuns := rows } :=
      importsKept_of_runs hrows fun _ => ⟨rfl, rfl, rfl⟩
    refine ⟨hlost.of_update hkept hrows ?_, hkept⟩
    intro row hrow _
    have hne : SyncRunState.failed ≠ .succeeded := by decide
    have hrun := ((hlost row hrow).mono hkept).withState hne
    exact ⟨hrun.counted, hrun.imported⟩

theorem nothingLost_createRun {id providerAccountId : String}
    (hlost : NothingLost runtime bodies db.app)
    (haccount : IsAccount db.app input.instagramAccountId providerAccountId) :
    (createRun context input id).Ensures
      (fun run db' => NothingLost runtime bodies db'.app ∧
        ImportsKept runtime bodies db.app db'.app ∧ run ∈ db'.app.syncRuns.rows ∧
        run.instagramAccountId = input.instagramAccountId) (fun _ => True) db := by
  unfold createRun
  rw [ensures_rethrow, ensures_bind]
  apply WorkerTable.ensures_create
  intro rows hrows
  have hrows' : rows.rows = db.app.syncRuns.rows ++ [startedRun context input id] := hrows
  have hkept : ImportsKept runtime bodies db.app { db.app with syncRuns := rows } := by
    refine .of_same rfl ?_ rfl
    intro run hrun
    exact ⟨run, by show run ∈ rows.rows; rw [hrows']; exact mem_append_left _ hrun,
      rfl, rfl, rfl⟩
  refine ⟨?_, hkept, ?_, rfl⟩
  · intro run hrun
    have hmem : run ∈ rows.rows := hrun
    rw [hrows', mem_append, mem_singleton] at hmem
    rcases hmem with hearlier | rfl
    · exact (hlost run hearlier).mono hkept
    · exact ⟨rfl, providerAccountId, haccount.mono hkept, CursorFeed.doneBefore_none,
        fun hsucceeded => nomatch hsucceeded⟩
  · show startedRun context input id ∈ rows.rows
    rw [hrows']
    exact mem_append_right _ (mem_singleton_self _)

/-- The run of the task is there, with its horizon and its account. -/
structure SyncTask.Reads (task : SyncTask) (app : WorkerTables) (instagramAccountId : String) :
    Prop where
  run : ∃ run ∈ app.syncRuns.rows, run.id = task.syncRunId ∧
    run.horizonStart = task.horizonStart ∧ run.instagramAccountId = instagramAccountId
  account : IsAccount app instagramAccountId task.providerAccountId

theorem SyncTask.Reads.mono {app app' : WorkerTables}
    (hkept : ImportsKept runtime bodies app app') (h : task.Reads app instagramAccountId) :
    task.Reads app' instagramAccountId := by
  obtain ⟨⟨run, hrun, hid, hhorizon, howner⟩, haccount⟩ := h
  obtain ⟨run', hrun', hid', hhorizon', howner'⟩ := hkept.runs run hrun
  exact ⟨⟨run', hrun', hid'.trans hid, hhorizon'.trans hhorizon, howner'.trans howner⟩,
    haccount.mono hkept⟩

theorem SyncTask.Reads.of_id {app : WorkerTables}
    (h : task.Reads app instagramAccountId) {run : SyncRun} (hrun : run ∈ app.syncRuns.rows)
    (hid : run.id = task.syncRunId) :
    run.horizonStart = task.horizonStart ∧ run.instagramAccountId = instagramAccountId := by
  obtain ⟨row, hrow, hrowId, hhorizon, howner⟩ := h.run
  rw [Table.eq_of_key syncRunSchema_keyedBy_id hrun hrow (hid.trans hrowId.symm)]
  exact ⟨hhorizon, howner⟩

/-- **A page commits with its cursor.** What the page holds is imported, and the run moves its
cursor behind the page. -/
theorem nothingLost_commitInstagramMediaPage {deployment : SyncDeployment} {paging : SyncPaging}
    {now : ℤ} (hlost : NothingLost deployment.runtime bodies db.app)
    (hreads : task.Reads db.app instagramAccountId)
    (hbefore : ImportedBefore deployment.runtime bodies db.app instagramAccountId
      task.providerAccountId task.horizonStart paging.after) :
    (commitInstagramMediaPage context (SyncWork.pageInput deployment task paging
      ((mediaFeed (bodies task.providerAccountId)).page paging.after) now)).Ensures
      (fun _ db' => NothingLost deployment.runtime bodies db'.app ∧
        ImportsKept deployment.runtime bodies db.app db'.app ∧
        PageImported deployment.runtime bodies db'.app instagramAccountId task.horizonStart
          ((mediaFeed (bodies task.providerAccountId)).page paging.after)) (fun _ => True) db := by
  set page := (mediaFeed (bodies task.providerAccountId)).page paging.after with hpage
  have hentry : ∀ {media}, media ∈ (tallyItems deployment.runtime task.horizonStart page.items).media →
      page.Holds deployment.runtime task.horizonStart media := mem_media_tallyItems.mp
  unfold commitInstagramMediaPage
  split_ifs
  · trivial
  · trivial
  · trivial
  · unfold WorkerTable.findFirst
    rw [ensures_bind, ensures_read]
    split
    · trivial
    · next run hfind =>
      have hrun : run ∈ db.app.syncRuns.rows := mem_of_find?_eq_some hfind
      have hfound := List.find?_some hfind
      simp only [Bool.and_eq_true, beq_iff_eq] at hfound
      obtain ⟨hhorizon, howner⟩ := hreads.of_id hrun hfound.1.1
      rw [ensures_bind, ensures_read, ensures_bind]
      have hoffered : ∀ entry ∈ (SyncWork.pageInput deployment task paging page now).media,
          IsOffered deployment.runtime bodies task.providerAccountId entry.1 := by
        intro entry hmem
        obtain ⟨position, hposition, rfl⟩ := mem_mapIdx.mp hmem
        exact ⟨paging.after, (hentry (getElem_mem hposition)).valid⟩
      refine (ensures_importMedia (howner ▸ hreads.account) hoffered ?_).mono ?_ fun _ _ => trivial
      · intro post hpost
        obtain ⟨hmem, hselected⟩ := mem_filter.mp hpost
        rw [Bool.and_eq_true, beq_iff_eq] at hselected
        exact ⟨post, hmem, rfl, hselected.1, rfl⟩
      · rintro counts db' ⟨hkept, hruns, himported, hcounted⟩
        have hpageImported : PageImported deployment.runtime bodies db'.app instagramAccountId
            task.horizonStart page := by
          intro media hholds
          obtain ⟨position, hposition, rfl⟩ := getElem_of_mem (mem_media_tallyItems.mpr hholds)
          rw [← howner]
          exact himported _ (mem_mapIdx.mpr ⟨position, hposition, rfl⟩)
        rw [ensures_bind]
        apply WorkerTable.ensures_updateMany
        intro rows hrows
        have hkept' : ImportsKept deployment.runtime bodies db'.app
            { db'.app with syncRuns := rows } :=
          importsKept_of_runs hrows fun _ => ⟨rfl, rfl, rfl⟩
        split
        · trivial
        · refine ⟨(hlost.mono hkept hruns).of_update hkept' hrows ?_, hkept.trans hkept',
            hpageImported.mono hkept' page⟩
          intro row hrow hselected
          simp only [Bool.and_eq_true, beq_iff_eq] at hselected
          obtain ⟨hrowHorizon, hrowOwner⟩ := (hreads.mono hkept).of_id hrow
            (hselected.1.1.trans hfound.1.1)
          refine ⟨?_, task.providerAccountId, ?_, ?_, ?_⟩
          · have hbeforeCounted := ((hlost.mono hkept hruns) row hrow).counted
            dsimp only at hcounted ⊢
            omega
          · exact hrowOwner ▸ (hreads.account.mono hkept).mono hkept'
          · have hadvanced : ImportedBefore deployment.runtime bodies { db'.app with syncRuns := rows }
                instagramAccountId task.providerAccountId task.horizonStart
                (page.after.or paging.after) :=
              CursorFeed.DoneBefore.advance ((hbefore.mono hkept).mono hkept')
                (hpageImported.mono hkept' page)
            rw [← hrowHorizon, ← hrowOwner] at hadvanced
            exact hadvanced
          · intro hsucceeded
            have hstate : row.state = .succeeded := hsucceeded
            rw [hselected.1.2] at hstate
            cases hstate

/-- **A completion loses nothing**, if the feed of the run is imported. -/
theorem nothingLost_completeInstagramSyncRun {completedAt : ℤ}
    (hlost : NothingLost runtime bodies db.app) (hreads : task.Reads db.app instagramAccountId)
    (hall : AllImported runtime bodies db.app instagramAccountId task.providerAccountId
      task.horizonStart) :
    (completeInstagramSyncRun context task.syncRunId completedAt).Ensures
      (fun _ db' => NothingLost runtime bodies db'.app ∧
        ImportsKept runtime bodies db.app db'.app) (fun _ => True) db := by
  unfold completeInstagramSyncRun
  rw [ensures_bind]
  apply WorkerTable.ensures_updateMany
  intro rows hrows
  have hkept : ImportsKept runtime bodies db.app { db.app with syncRuns := rows } :=
    importsKept_of_runs hrows fun _ => ⟨rfl, rfl, rfl⟩
  split
  · trivial
  · unfold WorkerTable.findFirst
    rw [ensures_bind, ensures_read]
    split
    · trivial
    · rw [ensures_bind]
      apply WorkerTable.ensures_updateMany
      intro accounts haccounts
      have hlost' : NothingLost runtime bodies { db.app with syncRuns := rows } := by
        refine hlost.of_update hkept hrows ?_
        intro row hrow hselected
        simp only [Bool.and_eq_true, beq_iff_eq] at hselected
        obtain ⟨hhorizon, howner⟩ := hreads.of_id hrow hselected.1.1
        obtain ⟨hcounted, providerAccountId, haccount, hbefore, -⟩ := (hlost row hrow).mono hkept
        refine ⟨hcounted, providerAccountId, haccount, hbefore, ?_⟩
        intro _ n cursor hcontinues
        have hprovider : providerAccountId = task.providerAccountId :=
          (hreads.account.mono hkept).unique (howner ▸ haccount)
        subst hprovider
        show PageImported runtime bodies _ row.instagramAccountId row.horizonStart _
        rw [hhorizon, howner]
        exact (hall n cursor hcontinues).mono hkept _
      have hkept' : ImportsKept runtime bodies { db.app with syncRuns := rows }
          { db.app with syncRuns := rows, instagramAccounts := accounts } :=
        importsKept_of_accounts haccounts fun _ => ⟨rfl, rfl⟩
      exact ⟨hlost'.mono hkept' rfl, hkept.trans hkept'⟩

end Writes

end ContentAutomation
