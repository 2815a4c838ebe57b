import ContentAutomation.Instagram.SnapshotPost

/-!
# Stored snapshots

Every snapshot that a run of `instagram.snapshot.post` has stored has each canonical metric
once, with a value exactly if it is available. It is free of errors of the provider, and made of
answers that speak of the metrics, exactly when no answer refused the request as such and none
had a body without a data array.
-/

namespace ContentAutomation

open Relational Transaction List Function

/-! ### What the work knows -/

/-- The results of the groups are what was answered for them, or refusals of all of them where
the media identifier is none. -/
def Heard (providerMediaId : Utf16) (answers : List GraphAnswer)
    (results : List InsightGroupAnswer) : Prop :=
  if isProviderId 32 providerMediaId = true then answers.reverse.map GraphAnswer.reading = results
  else answers = [] ∧ ∀ result ∈ results, result = .failure .invalidRequest

/-- The observations are those of the groups that have been taken, and the answers are theirs;
the other groups are still to come. -/
def Gathered (post : InstagramPost) (answers : List GraphAnswer)
    (groups : List InstagramInsightGroup) (observations : List InstagramMetricObservation) :
    Prop :=
  ∃ answer taken, taken ++ groups = instagramInsightGroups post.mediaKind ∧
    requestedObservations answer taken = some observations ∧
      Heard post.providerMediaId answers (taken.map answer)

/-- A post is there, under its provider identifier. -/
def PostHeld (app : WorkerTables) (post : InstagramPost) : Prop :=
  ∃ row ∈ app.instagramPosts.rows,
    row.id = post.id ∧ row.providerMediaId = post.providerMediaId

/-- No post is lost, and each keeps its provider identifier. -/
def PostsKept (before after : WorkerTables) : Prop :=
  ∀ row ∈ before.instagramPosts.rows, PostHeld after row

private theorem gathered_nil (post : InstagramPost) :
    Gathered post [] (instagramInsightGroups post.mediaKind) [] := by
  refine ⟨fun _ => .failure .transient, [], rfl, rfl, ?_⟩
  unfold Heard
  split
  · rfl
  · exact ⟨rfl, fun _ h => nomatch h⟩

variable {answers : List GraphAnswer} {observations : List InstagramMetricObservation}
  {capture : SnapshotCapture}

/-- **Step lemma.** A group is taken whose result does not fail the job. -/
theorem Gathered.take {post : InstagramPost} {answers' : List GraphAnswer}
    {group : InstagramInsightGroup} {groups : List InstagramInsightGroup}
    {more : List InstagramMetricObservation} {result : InsightGroupAnswer}
    (h : Gathered post answers (group :: groups) observations)
    (hmore : groupObservations group result = some more)
    (hheard : ∀ results, Heard post.providerMediaId answers results →
      Heard post.providerMediaId answers' (results ++ [result])) :
    Gathered post answers' groups (observations ++ more) := by
  obtain ⟨answer, taken, hgroups, hobservations, hresults⟩ := h
  have hnodup := (instagramInsightGroups_spec post.mediaKind).2
  rw [← hgroups] at hnodup
  have hnew : group ∉ taken := fun hmem =>
    disjoint_of_nodup_append hnodup hmem mem_cons_self
  have hsame : ∀ other ∈ taken, update answer group result other = answer other := by
    intro other hother
    refine update_of_ne ?_ _ _
    rintro rfl
    exact hnew hother
  refine ⟨update answer group result, taken ++ [group], by simpa using hgroups, ?_, ?_⟩
  · rw [← requestedObservations_congr hsame] at hobservations
    exact requestedObservations_append hobservations (by rwa [update_self])
  · rw [map_append, map_congr_left hsame]
    simpa using hheard _ hresults

/-- How far a capture has come: its post is there, and these groups are still to come. -/
structure SnapshotCapture.Stands (capture : SnapshotCapture) (app : WorkerTables)
    (answers : List GraphAnswer) (groups : List InstagramInsightGroup)
    (observations : List InstagramMetricObservation) : Prop where
  post : PostHeld app capture.post
  requested : instagramInsightGroups capture.post.mediaKind ≠ []
  gathered : Gathered capture.post answers groups observations

theorem PostHeld.mono {app app' : WorkerTables} {post : InstagramPost} (h : PostsKept app app')
    (hpost : PostHeld app post) : PostHeld app' post := by
  obtain ⟨row, hrow, hid, hprovider⟩ := hpost
  obtain ⟨row', hrow', hid', hprovider'⟩ := h row hrow
  exact ⟨row', hrow', hid'.trans hid, hprovider'.trans hprovider⟩

theorem PostsKept.of_same {app app' : WorkerTables}
    (h : app'.instagramPosts = app.instagramPosts) : PostsKept app app' :=
  fun row hrow => ⟨row, by rw [h]; exact hrow, rfl, rfl⟩

namespace SnapshotWork

variable {deployment : SnapshotDeployment} {app app' : WorkerTables} {group : InstagramInsightGroup}
  {groups : List InstagramInsightGroup} {state : SnapshotWork}
  {outcome : ExecutionOutcome WorkerTables}
  {run : Database WorkerTables → (List AnalysisJob × WorkerTables) × SnapshotWork}

/-- What the work knows of its post, and of the answers that it has received. -/
def Knows (app : WorkerTables) (answers : List GraphAnswer) : SnapshotWork → Prop
  | .started _ | .loadingJob _ | .loadingPost _ _ => answers = []
  | .loadingAccount _ post | .loadingCredential _ post _ =>
    answers = [] ∧ PostHeld app post ∧ instagramInsightGroups post.mediaKind ≠ []
  | .beating capture | .announcing capture =>
    capture.Stands app answers (instagramInsightGroups capture.post.mediaKind) []
  | .checking capture group groups observations =>
    capture.Stands app answers (group :: groups) observations
  | .fetching capture group groups observations =>
    isProviderId 32 capture.post.providerMediaId = true ∧
      capture.Stands app answers (group :: groups) observations
  | .assembling capture observations | .returning capture observations _ =>
    capture.Stands app answers [] observations
  | .skipping | .throwing _ => True

/-- What is known of an outcome. -/
def KnowsOutcome (deployment : SnapshotDeployment) (app : WorkerTables)
    (answers : List GraphAnswer) : ExecutionOutcome WorkerTables → Prop
  | .returned result => result = [] ∨ ∃ capture observations capturedAt,
      result = [asEffect (commit deployment capture observations capturedAt)] ∧
        capture.Stands app answers [] observations
  | _ => True

theorem Stands.mono (h : PostsKept app app') (hstands : capture.Stands app answers groups observations) :
    capture.Stands app' answers groups observations :=
  { hstands with post := hstands.post.mono h }

theorem Knows.mono (h : PostsKept app app') (hknows : state.Knows app answers) :
    state.Knows app' answers := by
  cases state with
  | started | loadingJob | loadingPost => exact hknows
  | loadingAccount | loadingCredential => exact ⟨hknows.1, hknows.2.1.mono h, hknows.2.2⟩
  | fetching => exact ⟨hknows.1, Stands.mono h hknows.2⟩
  | skipping | throwing => trivial
  | _ => exact Stands.mono h hknows

theorem KnowsOutcome.mono (h : PostsKept app app')
    (hknows : KnowsOutcome deployment app answers outcome) :
    KnowsOutcome deployment app' answers outcome := by
  cases outcome with
  | returned result =>
    rcases hknows with hnothing | ⟨capture, observations, capturedAt, hresult, hstands⟩
    · exact .inl hnothing
    · exact .inr ⟨capture, observations, capturedAt, hresult, Stands.mono h hstands⟩
  | threw | cancelled | abandoned => trivial

theorem knows_enterLoop (h : capture.Stands app answers groups observations) :
    (enterLoop capture groups observations).Knows app answers := by
  cases groups with
  | nil => exact h
  | cons group groups => exact h

/-- **Step lemma.** The loop after a result either throws, or has taken the group. -/
theorem knows_afterResult {answers' : List GraphAnswer}
    {result : Except InstagramInsightsError Json}
    (h : capture.Stands app answers (group :: groups) observations)
    (hheard : ∀ results, Heard capture.post.providerMediaId answers results →
      Heard capture.post.providerMediaId answers' (results ++ [.ofResult result])) :
    (afterResult capture group groups observations result).Knows app answers' := by
  have htaken {more : List InstagramMetricObservation}
      (hmore : groupObservations group (.ofResult result) = some more) :
      (enterLoop capture groups (observations ++ more)).Knows app answers' :=
    knows_enterLoop ⟨h.post, h.requested, h.gathered.take hmore hheard⟩
  cases result with
  | ok body => exact htaken rfl
  | error error =>
    unfold afterResult
    dsimp only
    split
    · trivial
    · next hlasting => exact htaken (if_neg hlasting)

theorem knows_fetch (h : capture.Stands app answers (group :: groups) observations) :
    (fetch capture group groups observations).Knows app answers := by
  have hmetrics : group.metrics ≠ [] := by
    obtain ⟨answer, taken, hgroups, -⟩ := h.gathered
    apply (instagramInsightGroups_spec capture.post.mediaKind).1
    rw [← hgroups]
    exact mem_append_right _ mem_cons_self
  unfold fetch insightGroupRefusal
  by_cases hid : isProviderId 32 capture.post.providerMediaId = true
  · rw [if_neg (by simp [hid]), if_neg hmetrics]
    exact ⟨hid, h⟩
  · rw [if_pos (by simpa using hid)]
    refine knows_afterResult h ?_
    intro results hresults
    unfold Heard at hresults ⊢
    rw [if_neg hid] at hresults ⊢
    refine ⟨hresults.1, ?_⟩
    intro result hresult
    rcases mem_append.mp hresult with hearlier | hlast
    · exact hresults.2 result hearlier
    · exact mem_singleton.mp hlast

theorem knows_afterAnswer {answer : GraphAnswer}
    (hid : isProviderId 32 capture.post.providerMediaId)
    (h : capture.Stands app answers (group :: groups) observations) :
    (afterResult capture group groups observations (readInsightGroupAnswer group answer)).Knows app
      (answer :: answers) := by
  refine knows_afterResult h ?_
  intro results hresults
  unfold Heard at hresults ⊢
  rw [if_pos hid] at hresults ⊢
  rw [ofResult_readInsightGroupAnswer, reverse_cons, map_append, hresults]
  rfl

private theorem app_of_statement (db : Database WorkerTables)
    (hnext : state.next deployment = .statement run) : (run db).1.2 = db.app := by
  cases state with
  | loadingJob | loadingPost | loadingAccount | loadingCredential | assembling =>
    cases hnext
    rfl
  | throwing exception => cases exception <;> cases hnext
  | _ => cases hnext

/-- **What a statement leads to**: its work knows what it has to know. -/
theorem statement_spec (db : Database WorkerTables)
    (hnext : state.next deployment = .statement run) (hknows : state.Knows db.app answers) :
    (run db).2.Knows db.app answers := by
  cases state with
  | loadingJob job =>
    cases hnext
    show (afterJob job _).Knows db.app answers
    unfold afterJob
    split
    · trivial
    · split
      · trivial
      · split
        · trivial
        · exact hknows
  | loadingPost job resourceId =>
    cases hnext
    show (afterPost job (db.app.instagramPosts.findFirst _)).Knows db.app answers
    unfold afterPost
    split
    · trivial
    · next post hpost =>
      split
      · trivial
      · next hgroups =>
        exact ⟨hknows, ⟨post, mem_of_find?_eq_some hpost, rfl, rfl⟩, hgroups⟩
  | loadingAccount job post =>
    cases hnext
    show (afterAccount job post _).Knows db.app answers
    unfold afterAccount
    split
    · trivial
    · split
      · trivial
      · exact hknows
  | loadingCredential job post account =>
    cases hnext
    obtain ⟨hanswers, hpost, hgroups⟩ := hknows
    show (afterCredential deployment job post account _).Knows db.app answers
    unfold afterCredential
    split
    · trivial
    · split
      · trivial
      · rw [hanswers]
        exact ⟨hpost, hgroups, gathered_nil post⟩
  | assembling capture observations =>
    cases hnext
    exact hknows
  | throwing exception => cases exception <;> cases hnext
  | _ => cases hnext

theorem start_eq (deployment : SnapshotDeployment) (delivery : Delivery) (claim : JobClaim) :
    (snapshotPostScript deployment).start delivery claim = .started ⟨delivery, claim⟩ ∨
      ∃ exception,
        (snapshotPostScript deployment).start delivery claim = .throwing exception := by
  unfold snapshotPostScript
  dsimp only
  split_ifs
  · exact .inl rfl
  · exact .inr ⟨_, rfl⟩

theorem callback_spec {resume : SnapshotWork} {kind : CallbackKind}
    {rescue : Option JobError → SnapshotWork}
    (hnext : state.next deployment = .callback kind resume rescue)
    (hknows : state.Knows app answers) :
    resume.Knows app answers ∧ ∀ error, (rescue error).Knows app answers := by
  cases state with
  | started job =>
    cases hnext
    exact ⟨hknows, fun _ => trivial⟩
  | beating capture =>
    cases hnext
    exact ⟨hknows, fun _ => trivial⟩
  | announcing capture =>
    cases hnext
    exact ⟨knows_enterLoop hknows, fun _ => trivial⟩
  | checking capture group groups observations =>
    cases hnext
    exact ⟨knows_fetch hknows, fun _ => trivial⟩
  | throwing exception => cases exception <;> cases hnext
  | _ => cases hnext

theorem finish_spec (hnext : state.next deployment = .finish outcome)
    (hknows : state.Knows app answers) :
    KnowsOutcome deployment app answers outcome := by
  cases state with
  | returning capture observations capturedAt =>
    cases hnext
    exact .inr ⟨capture, observations, capturedAt, rfl, hknows⟩
  | skipping =>
    cases hnext
    exact .inl rfl
  | throwing exception => cases exception <;> cases hnext <;> trivial
  | _ => cases hnext

/-- The tables differ at most by a snapshot, which is the one that is asked for. -/
structure Records (requested : Except String InstagramMetricSnapshot)
    (before after : WorkerTables) : Prop where
  posts : after.instagramPosts = before.instagramPosts
  snapshots : ∀ row ∈ after.instagramMetricSnapshots.rows,
    row ∈ before.instagramMetricSnapshots.rows ∨ requested = .ok row

/-- **What a commit does**: it stores the row that is asked for, or no row. -/
theorem ensures_commit {capturedAt : ℤ} {db : Database WorkerTables} :
    (commit deployment capture observations capturedAt).Ensures
      (fun _ db' => Records (requestedSnapshot deployment.hash capture.job.context.workspaceId
        (deployment.createId capture.job.claim) (capture.input observations capturedAt))
          db.app db'.app) (fun _ => True) db := by
  unfold commit recordInstagramMetricSnapshot
  split
  · trivial
  · next row hrequested =>
    rw [hrequested, ensures_bind]
    apply WorkerTable.ensures_createMany
    intro rows hrows
    have hrecords {accounts : Table instagramAccountSchema} :
        Records (.ok row) db.app { db.app with
          instagramMetricSnapshots := rows, instagramAccounts := accounts } := by
      refine ⟨rfl, ?_⟩
      intro other hother
      rcases hrows with rfl | hrows
      · exact .inl hother
      · have hmem : other ∈ rows.rows := hother
        rw [hrows] at hmem
        rcases mem_append.mp hmem with hold | hnew
        · exact .inl hold
        · rw [mem_singleton.mp hnew]
          exact .inr rfl
    unfold WorkerTable.findFirst
    rw [ensures_bind, ensures_read]
    split
    · trivial
    · split_ifs
      · rw [ensures_bind, ensures_read]
        split
        · exact hrecords
        · unfold markAnalyticsDirty
          rw [ensures_bind, ensures_bind]
          apply WorkerTable.ensures_updateMany
          intro accounts _
          exact hrecords
      · exact hrecords

theorem tracks : (snapshotPostScript deployment).Tracks PostsKept Knows
    (KnowsOutcome deployment) := by
  constructor
  case refl => exact fun _ => .of_same rfl
  case trans => exact fun h h' row hrow => (h row hrow).mono h'
  case mono => exact Knows.mono
  case monoDone => exact KnowsOutcome.mono
  case start =>
    intro app delivery claim
    have hstart := start_eq deployment delivery claim
    generalize (snapshotPostScript deployment).start delivery claim = state at hstart ⊢
    rcases hstart with rfl | ⟨exception, rfl⟩
    · rfl
    · trivial
  case callback => exact callback_spec
  case statement =>
    intro answers state run db hnext _ hknows
    rw [app_of_statement db hnext]
    exact ⟨trivial, .of_same rfl, statement_spec db hnext hknows⟩
  case request =>
    intro app answers state request resume hnext hknows answer _
    cases state with
    | fetching capture group groups observations =>
      cases hnext
      exact knows_afterAnswer hknows.1 hknows.2
    | throwing exception => cases exception <;> cases hnext
    | _ => cases hnext
  case finish => exact finish_spec
  case commit =>
    intro answers result update db written hupdate hwritten _ hdone
    rcases hdone with rfl | ⟨capture, observations, capturedAt, rfl, -⟩
    · cases hupdate
    · exact ⟨trivial,
        .of_same (asEffect_of_ensures (fun _ => ensures_commit) hupdate hwritten).posts⟩

end SnapshotWork

/-! ### What is stored -/

/-- **A snapshot accounts for every metric**: each is there once, and has a value exactly if it
is available. -/
structure InstagramMetricSnapshot.AccountsForMetrics (row : InstagramMetricSnapshot) : Prop where
  once : (row.availability.map Prod.fst).Perm instagramCanonicalMetrics
  valuesOnce : (row.values.map Prod.fst).Nodup
  values : ∀ entry ∈ row.availability,
    (∃ value ∈ row.values, value.1 = entry.1) ↔ entry.2.availability = .available

/-- No metric of a snapshot has gone wrong for the provider. -/
def InstagramMetricSnapshot.HasNoProviderError (row : InstagramMetricSnapshot) : Prop :=
  ∀ entry ∈ row.availability, entry.2.availability ≠ .providerError

section Stored

variable {hash : List InstagramMetricObservation → String} {workspaceId snapshotId : String}
  {input : InstagramSnapshotInput} {row : InstagramMetricSnapshot}

private theorem columns_of_requestedSnapshot (hassembled : Assembled input.observations)
    (h : requestedSnapshot hash workspaceId snapshotId input = .ok row) :
    row = metricSnapshotRow hash workspaceId snapshotId input
      (input.observations.filterMap storedColumn) := by
  unfold requestedSnapshot at h
  split_ifs at h
  rw [toColumns_of_accepted hassembled.spec.1] at h
  exact (Except.ok.inj h).symm

/-- The row that an assembled set asks for accounts for every metric. -/
theorem accountsForMetrics_of_requestedSnapshot (hassembled : Assembled input.observations)
    (h : requestedSnapshot hash workspaceId snapshotId input = .ok row) :
    row.AccountsForMetrics := by
  obtain ⟨haccepted, hperm⟩ := hassembled.spec
  have hnodup : (input.observations.map InstagramMetricObservation.canonical).Nodup :=
    hperm.nodup_iff.mpr (by decide)
  have hkeys : (input.observations.filterMap storedColumn).map Prod.fst =
      (input.observations.filter fun entry => entry.value.isSome).map
        InstagramMetricObservation.canonical := by
    rw [map_filterMap, ← filterMap_eq_map, ← filterMap_eq_filter,
      filterMap_filterMap]
    refine filterMap_congr fun entry _ => ?_
    cases hvalue : entry.value <;> simp [storedColumn, hvalue, Option.guard]
  rw [columns_of_requestedSnapshot hassembled h]
  constructor
  case once =>
    show ((input.observations.map fun entry =>
      (entry.canonical, entry.availabilityEntry)).map Prod.fst).Perm _
    rw [map_map]
    exact hperm.trans (by decide)
  case valuesOnce =>
    show ((input.observations.filterMap storedColumn).map Prod.fst).Nodup
    rw [hkeys]
    exact (filter_sublist.map _).nodup hnodup
  case values =>
    intro column hcolumn
    obtain ⟨entry, hentry, rfl⟩ := mem_map.mp hcolumn
    show (∃ value ∈ input.observations.filterMap storedColumn, value.1 = entry.canonical) ↔
      entry.availability = .available
    have hmem : (∃ value ∈ input.observations.filterMap storedColumn,
        value.1 = entry.canonical) ↔ entry.canonical ∈
          (input.observations.filterMap storedColumn).map Prod.fst := mem_map.symm
    rw [hmem, hkeys, mem_map]
    rcases haccepted entry hentry with ⟨hother, hnone⟩ | ⟨havailable, value, hsome, -⟩
    · refine iff_of_false ?_ hother
      rintro ⟨other, hfiltered, hsame⟩
      obtain ⟨hotherMem, hvalue⟩ := mem_filter.mp hfiltered
      rw [inj_on_of_nodup_map hnodup hotherMem hentry hsame, hnone] at hvalue
      cases hvalue
    · refine iff_of_true ⟨entry, mem_filter.mpr ⟨hentry, ?_⟩, rfl⟩ havailable
      rw [hsome]
      rfl

end Stored

theorem SnapshotCapture.Stands.assembled {app : WorkerTables}
    (h : capture.Stands app answers [] observations) (capturedAt : ℤ) :
    Assembled (capture.input observations capturedAt).observations := by
  obtain ⟨answer, taken, hgroups, hobservations, -⟩ := h.gathered
  rw [append_nil] at hgroups
  rw [hgroups] at hobservations
  refine ⟨capture.post.mediaKind, answer, ?_⟩
  unfold assembleObservations
  rw [if_neg h.requested, hobservations]
  rfl

/-- **What the answers say of the snapshot.** It has no error of the provider and every answer
speaks of its metrics, exactly when the media identifier is one and every answer is proper. -/
theorem SnapshotCapture.Stands.proper_iff {app : WorkerTables}
    (h : capture.Stands app answers [] observations) :
    ((∀ entry ∈ observations, entry.availability ≠ .providerError) ∧
        ∀ answer ∈ answers, answer.SpeaksOfMetrics) ↔
      isProviderId 32 capture.post.providerMediaId ∧
        ∀ answer ∈ answers, answer.IsProper := by
  obtain ⟨answer, groups, hgroups, hobservations, hheard⟩ := h.gathered
  rw [append_nil] at hgroups
  have hmetrics : ∀ group ∈ groups, group.metrics ≠ [] := by
    rw [hgroups]
    exact (instagramInsightGroups_spec capture.post.mediaKind).1
  have herror := providerError_requestedObservations hmetrics hobservations
  unfold Heard at hheard
  split at hheard
  · next hid =>
    have hspeaks : ∀ received ∈ answers, (received.SpeaksOfMetrics ↔ received.IsProper) := by
      intro received hreceived
      have hmem : received.reading ∈ answers.reverse.map GraphAnswer.reading :=
        mem_map_of_mem (mem_reverse.mpr hreceived)
      rw [hheard] at hmem
      obtain ⟨group, hgroup, hsame⟩ := mem_map.mp hmem
      obtain ⟨hrate, htransient⟩ := answer_ne_of_requestedObservations hobservations hgroup
      rw [hsame] at hrate htransient
      exact speaksOfMetrics_iff hrate htransient
    constructor
    · rintro ⟨-, hall⟩
      exact ⟨hid, fun received hreceived => (hspeaks received hreceived).mp (hall _ hreceived)⟩
    · rintro ⟨-, hall⟩
      refine ⟨?_, fun received hreceived => (hspeaks received hreceived).mpr (hall _ hreceived)⟩
      intro entry hentry hwrong
      obtain ⟨group, hgroup, hrefused⟩ := herror.mp ⟨entry, hentry, hwrong⟩
      have hmem : answer group ∈ groups.map answer := mem_map_of_mem hgroup
      rw [← hheard] at hmem
      obtain ⟨received, hreceived, hsame⟩ := mem_map.mp hmem
      exact reading_eq_invalidRequest (hall received (mem_reverse.mp hreceived))
        (hsame.trans hrefused)
  · next hid =>
    refine iff_of_false ?_ fun hproper => hid hproper.1
    rintro ⟨hnone, -⟩
    obtain ⟨group, hgroup⟩ := exists_mem_of_ne_nil groups (hgroups ▸ h.requested)
    obtain ⟨entry, hentry, hwrong⟩ :=
      herror.mpr ⟨group, hgroup, hheard.2 _ (mem_map_of_mem hgroup)⟩
    exact hnone entry hentry hwrong

private theorem hasNoProviderError_metricSnapshotRow
    {hash : List InstagramMetricObservation → String}
    {workspaceId snapshotId : String} {capturedAt : ℤ}
    {values : List (InstagramCanonicalMetric × ℚ)} :
    (∀ entry ∈ observations, entry.availability ≠ .providerError) ↔
      (metricSnapshotRow hash workspaceId snapshotId (capture.input observations capturedAt)
        values).HasNoProviderError := by
  constructor
  · intro h column hcolumn
    obtain ⟨entry, hentry, rfl⟩ := mem_map.mp hcolumn
    rcases mem_append.mp hentry with hrequested | hunrequested
    · exact h entry hrequested
    · obtain ⟨canonical, -, rfl⟩ := mem_map.mp hunrequested
      exact fun hwrong => nomatch hwrong
  · intro h entry hentry
    exact h _ (mem_map_of_mem (mem_append_left _ hentry))

/-! ### Runs -/

/-- The jobs of `instagram.snapshot.post`, with the work on them. -/
abbrev SnapshotSystem := WorkSystem WorkerTables InsightGroupRequest SnapshotWork

namespace SnapshotSystem

/-- The stored snapshots. -/
def snapshots (app : WorkerTables) : List InstagramMetricSnapshot :=
  app.instagramMetricSnapshots.rows

/-- No snapshot is brought, and posts are kept. -/
structure SnapshotsKept (before after : WorkerTables) : Prop where
  posts : PostsKept before after
  snapshots : snapshots after ⊆ snapshots before

/-- A step of the system; the rest of the application brings no snapshots. -/
def Step (deployment : SnapshotDeployment) (environment : Environment WorkerTables) :
    SnapshotSystem → WorkEvent WorkerTables GraphAnswer → SnapshotSystem → Prop :=
  WorkSystem.Step environment (snapshotPostScript deployment)
    fun before after => SnapshotsKept before.2 after.2

instance {row : InstagramMetricSnapshot} : Decidable row.HasNoProviderError :=
  inferInstanceAs (Decidable (∀ entry ∈ row.availability, _))

namespace Sample

open WorkSample

/-- The callbacks of `instagram.snapshot.post`. -/
def callbacks : Environment WorkerTables where
  resultExists _ _ := some false
  inspectResult _ _ := some .absent
  retryCallbacks := ⟨fun _ _ => some false, fun _ _ => some ⟨true, none⟩⟩

def deployment : SnapshotDeployment where
  hash _ := "hash"
  createId claim := claim.leaseId ++ "-snapshot"
  decryptCredential _ _ ciphertext := some ciphertext

def postId : String := "01900000-0000-7000-8000-0000000000b1"

def post : InstagramPost where
  id := postId
  workspaceId := "workspace"
  instagramAccountId := SyncSystem.Sample.accountId
  mediaKind := .reel
  publishedAt := 0
  currentAnalysisId := none
  providerMediaId := Utf16.ofString "17900000000000001"

def start : SnapshotSystem :=
  WorkSystem.initial 0 []
    { WorkerTables.empty with
      instagramAccounts := ⟨[SyncSystem.Sample.account], SyncSystem.Sample.account_accepted⟩
      integrationCredentials :=
        ⟨[SyncSystem.Sample.credential], SyncSystem.Sample.credential_accepted⟩
      instagramPosts := ⟨[post], by decide +kernel⟩ }

def requested : WorkEvent WorkerTables GraphAnswer :=
  .framework (.command (.enqueue context
    { correlationId
      handlerVersion := 1
      idempotencyKey := "instagram-snapshot-post"
      inputVersion := none
      maxAttempts := none
      priority := none
      queueName := "instagram.snapshot.post"
      resourceId := some postId
      resourceType := some "instagram_post" } jobId "outbox"))

/-- No cancellation is requested; one group is requested, and answered. -/
def answered (callback : ℕ) (response : InstagramResponse) :
    List (WorkEvent WorkerTables GraphAnswer) :=
  [.call 0 callback 0, .framework (.advance callback .callback), .resume 0, .send 0,
    .receive 0 (.responded response)]

/-- A handler asks for the four groups, of which the first is answered like this and the others
have no data, and its result is committed. -/
def captured (first : InstagramResponse) (others : Json) :
    List (WorkEvent WorkerTables GraphAnswer) :=
  requested :: begun "instagram.snapshot.post" 0 0 "lease" ++ announced 0 10 0 ++
    List.replicate 4 (.statement 0) ++ announced 0 11 0 ++ announced 0 12 0 ++
    answered 13 first ++ answered 14 ⟨200, others, none⟩ ++ answered 15 ⟨200, others, none⟩ ++
    answered 16 ⟨200, others, none⟩ ++ [.statement 0] ++ committed 0 0

/-- What is shown of a state: it has a snapshot that passes a test, every post has a media
identifier, and every answer that was received is such as it may be. -/
def shows (test : InstagramMetricSnapshot → Bool) (may : GraphAnswer → Bool)
    (history : List (SnapshotSystem × WorkEvent WorkerTables GraphAnswer)) (s : SnapshotSystem) :
    Bool :=
  (snapshots s.system.db.app).any test &&
    s.system.db.app.instagramPosts.rows.all (fun post => isProviderId 32 post.providerMediaId) &&
    history.all fun visited =>
      match visited.2 with
      | .receive _ answer => may answer
      | _ => true

/-- What a capture shows in the end. -/
def outcome (first : InstagramResponse) (others : Json) (test : InstagramMetricSnapshot → Bool)
    (may : GraphAnswer → Bool) : Option Bool :=
  (Transition.replay (WorkSystem.quietStep callbacks (snapshotPostScript deployment)) [] start
    (captured first others)).map fun reached => shows test may reached.1 reached.2

theorem run_of_outcome {first : InstagramResponse} {others : Json}
    {test : InstagramMetricSnapshot → Bool} {may : GraphAnswer → Bool}
    (h : outcome first others test may = some true) :
    ∃ (history : List (SnapshotSystem × WorkEvent WorkerTables GraphAnswer)) (s : SnapshotSystem),
      Transition.Run (Step deployment callbacks) start history s ∧
        (∃ row ∈ snapshots s.system.db.app, row ∉ snapshots start.system.db.app ∧
          test row) ∧
        (∀ post ∈ s.system.db.app.instagramPosts.rows,
          isProviderId 32 post.providerMediaId) ∧
        ∀ pid, ∀ answer ∈ WorkSystem.received pid history, may answer := by
  obtain ⟨⟨history, s⟩, hreplay, hshows⟩ := Option.map_eq_some_iff.mp h
  simp only [shows, Bool.and_eq_true, any_eq_true, all_eq_true] at hshows
  obtain ⟨⟨⟨row, hrow, htest⟩, hposts⟩, hmay⟩ := hshows
  refine ⟨history, s, WorkSystem.run_of_replay hreplay,
    ⟨row, hrow, not_mem_nil, htest⟩, hposts, ?_⟩
  intro pid answer hanswer
  obtain ⟨visited, hvisited, hevent⟩ := WorkSystem.mem_of_received hanswer
  have hbrought := hmay visited hvisited
  rw [hevent] at hbrought
  exact hbrought

def noItems : Json := .object [(Utf16.ofString "data", .array [])]

/-- An answer that says that a request is wrong, or has no items. -/
def refuses : GraphAnswer → Bool
  | .unreachable => true
  | .responded response =>
    if response.isOk = true then (dataItems? response.body).isNone
    else classifyInstagramResponse response.body response.status == .invalidRequest

/-- An answer with items. -/
def carriesItems : GraphAnswer → Bool
  | .unreachable => true
  | .responded response => response.isOk && (dataItems? response.body).isSome

end Sample

end SnapshotSystem

end ContentAutomation
