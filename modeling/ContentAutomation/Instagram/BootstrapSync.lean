import ContentAutomation.Instagram.ConnectionState

/-!
# The first synchronisation of a connected account

A connection is made in one transaction and its synchronisation is enqueued in the next, under
a key that the account keeps for good. So a callback that stops between the two leaves the
account without a synchronisation, and so does one whose key already stands for a job that
has ended.
-/

namespace ContentAutomation

open Relational Transaction Utf16 ConnectionDeployment Transition

/-- `terminalBackgroundJobStates`. -/
def terminalBackgroundJobStates : List BackgroundJobState := [.succeeded, .failedAttention, .cancelled]

/-- `isTerminalJobState`. -/
def isTerminalJobState (state : BackgroundJobState) : Bool :=
  terminalBackgroundJobStates.contains state

/-- What a synchronisation of an account is enqueued as, its account as a uuid column holds it. -/
def JobIdentity.SyncsAccount (workspaceId accountId : String) (identity : JobIdentity) : Prop :=
  identity.workspaceId = workspaceId ∧ identity.queueName = "instagram.sync.account" ∧
    identity.resourceType = some "instagram_account" ∧
    identity.resourceId = some (uuidText accountId)

instance {workspaceId accountId : String} {identity : JobIdentity} :
    Decidable (identity.SyncsAccount workspaceId accountId) :=
  inferInstanceAs (Decidable (_ ∧ _ ∧ _ ∧ _))

section Enqueue

variable {App : Type} {db db' : Database App} {context : WorkspaceContext}
  {input : EnqueueBackgroundJobInput} {jobId outboxId : String}

-- what an enqueue does is known by its rules only
seal enqueueBackgroundJobInTransaction

private theorem of_commit_enqueue {post : Database App → Prop} {exceptional : JobError → Prop}
    (h : (commitResult [.enqueue context input jobId outboxId]).commit db = (.ok (), db'))
    (hensures : (enqueueBackgroundJobInTransaction context input jobId outboxId).Ensures
      (fun _ => post) exceptional db) : post db' := by
  have hwhole : (commitResult [.enqueue context input jobId outboxId]).Ensures (fun _ => post)
      exceptional db := by
    unfold commitResult CommitEffect.run
    rw [ensures_bind, ensures_bind]
    exact hensures.mono (fun _ _ hpost => hpost) fun _ hraised => hraised
  rcases hwhole.commit_cases with ⟨value, s', hcommit, hpost⟩ | ⟨exception, hcommit, -⟩
  · cases hcommit.symm.trans h
    exact hpost
  · cases hcommit.symm.trans h

private theorem jobs_of_commit_enqueue (hfresh : ∀ job ∈ db.backgroundJobs.rows, job.id ≠ jobId)
    (h : (commitResult [.enqueue context input jobId outboxId]).commit db = (.ok (), db')) :
    db.HoldsKey (input.idempotency context) ∧ db'.backgroundJobs = db.backgroundJobs ∨
      ¬ db.HoldsKey (input.idempotency context) ∧
        db'.backgroundJobs.rows = db.backgroundJobs.rows ++ [enqueuedJob context input jobId db.clock] := by
  by_cases hkey : db.HoldsKey (input.idempotency context)
  · have hrule := @ensures_enqueueBackgroundJob_old App context input db jobId outboxId (.inr hkey)
    unfold enqueueBackgroundJob at hrule
    rw [ensures_rethrow] at hrule
    exact .inl ⟨hkey, of_commit_enqueue h hrule⟩
  · right
    refine ⟨hkey, ?_⟩
    cases hrefusal : input.refusal with
    | none =>
      have hrule := @ensures_enqueueBackgroundJob_new App context input db jobId outboxId hrefusal hkey
        hfresh
      unfold enqueueBackgroundJob at hrule
      rw [ensures_rethrow] at hrule
      exact of_commit_enqueue h hrule
    | some code =>
      -- an input that is refused commits nothing
      have hraised : (enqueueBackgroundJobInTransaction context input jobId outboxId :
          JobTransaction App _).Ensures (fun _ _ => False) (fun _ => True) db := by
        unfold enqueueBackgroundJobInTransaction
        rw [hrefusal]
        exact trivial
      exact (of_commit_enqueue h hraised).elim

end Enqueue

namespace ConnectionSystem

variable {deployment : ConnectionDeployment} {s t u v w : ConnectionSystem} {event : ConnectionEvent}
  {cid : ℕ} {callback : ConnectionCallback} {workspaceId accountId : String}

/-! ### What is claimed of a connection -/

/-- A synchronisation of the account has not ended. -/
def OpenSync (s : ConnectionSystem) (workspaceId accountId : String) : Prop :=
  ∃ job ∈ s.system.db.backgroundJobs.rows, job.identity.SyncsAccount workspaceId accountId ∧
    isTerminalJobState job.state = false

/-- After a connection at `s` a synchronisation is coming: one that had not ended then. -/
def SyncComing (s u : ConnectionSystem) (workspaceId accountId : String) : Prop :=
  ∃ job ∈ u.system.db.backgroundJobs.rows, job.identity.SyncsAccount workspaceId accountId ∧
    ∀ earlier ∈ s.system.db.backgroundJobs.rows, earlier.id = job.id →
      isTerminalJobState earlier.state = false

instance : Decidable (OpenSync s workspaceId accountId) :=
  inferInstanceAs (Decidable (∃ job ∈ _, _ ∧ _))

instance : Decidable (SyncComing s u workspaceId accountId) :=
  inferInstanceAs (Decidable (∃ job ∈ _, _ ∧ ∀ earlier ∈ _, _ → _))

/-- The account has an active row and an active credential. -/
def Connected (s : ConnectionSystem) (accountId : String) : Prop :=
  (∃ row ∈ s.system.db.app.instagramAccounts.rows,
    row.id = accountId ∧ row.connectionStatus = .active) ∧
    ∃ row ∈ s.system.db.app.integrationCredentials.rows,
      row.accountId = accountId ∧ row.status = .active

variable (deployment) in
/-- The step in which a callback connects an account. -/
structure Activates (s t : ConnectionSystem) (cid : ℕ) (callback : ConnectionCallback)
    (accountId : String) : Prop where
  found : s.callbacks cid = some callback
  inactive : callback.phase.hasActivated = false
  step : ∃ ids, Step deployment s (.advance cid ids) t
  after : t.callbacks cid = some { callback with phase := .enqueueing accountId }

/-- The key of an account's first synchronisation. -/
def bootstrapKey (callback : ConnectionCallback) (accountId : String) :
    String × String × ℤ × String :=
  (bootstrapSync callback.input accountId).idempotency
    ⟨callback.input.actor.workspaceId⟩

/-! ### Jobs stay -/

theorem Step.hasJob (hstep : Step deployment s event t) {identity : JobIdentity}
    (h : s.system.db.HasJob identity) : t.system.db.HasJob identity := by
  cases hstep.move with
  | framework hsystem => exact hsystem.hasJob h
  | commits _ _ hsystem _ | fails _ _ hsystem _ => exact hsystem.hasJob h
  | _ => exact h

private theorem hasJob_of_reachable (hrun : Reachable (Step deployment) s t)
    {identity : JobIdentity} (h : s.system.db.HasJob identity) : t.system.db.HasJob identity :=
  hrun.invariant (I := fun t => t.system.db.HasJob identity) h fun h hstep => hstep.hasJob h

theorem SyncComing.of_reachable (h : SyncComing s t workspaceId accountId)
    (hrun : Reachable (Step deployment) t u) : SyncComing s u workspaceId accountId := by
  obtain ⟨job, hjob, hsyncs, hopen⟩ := h
  obtain ⟨job', hjob', hidentity⟩ := hasJob_of_reachable hrun ⟨job, hjob, rfl⟩
  have hid : job'.id = job.id := congrArg JobIdentity.id hidentity
  exact ⟨job', hjob', hidentity ▸ hsyncs, fun earlier hearlier hsame =>
    hopen earlier hearlier (hsame.trans hid)⟩

private theorem syncComing_self :
    SyncComing s s workspaceId accountId ↔ OpenSync s workspaceId accountId := by
  constructor
  · rintro ⟨job, hjob, hsyncs, hopen⟩
    exact ⟨job, hjob, hsyncs, hopen job hjob rfl⟩
  · rintro ⟨job, hjob, hsyncs, hopen⟩
    refine ⟨job, hjob, hsyncs, fun earlier hearlier hid => ?_⟩
    rw [Table.eq_of_key backgroundJobSchema_keyedBy_id hearlier hjob hid]
    exact hopen

private theorem syncComing_congr (h : t.system.db.backgroundJobs = u.system.db.backgroundJobs) :
    SyncComing s t workspaceId accountId ↔ SyncComing s u workspaceId accountId := by
  unfold SyncComing
  rw [h]

/-! ### The two transactions -/

theorem Activates.backgroundJobs (h : Activates deployment s t cid callback accountId) :
    t.system.db.backgroundJobs = s.system.db.backgroundJobs := by
  obtain ⟨ids, hstep⟩ := h.step
  obtain ⟨grant, -, -, hdb⟩ := connect_of_step h.found h.inactive hstep h.after
  rw [hdb]

theorem Activates.connected (h : Activates deployment s t cid callback accountId) :
    t.Connected accountId := by
  obtain ⟨ids, hstep⟩ := h.step
  obtain ⟨grant, -, hconnect, -⟩ := connect_of_step h.found h.inactive hstep h.after
  unfold connect at hconnect
  obtain ⟨⟨account, upserted⟩, hupsert, hconnect⟩ := Option.bind_eq_some_iff.mp hconnect
  obtain ⟨activated, hactivate, hconnect⟩ := Option.bind_eq_some_iff.mp hconnect
  obtain ⟨recorded, hrecord, hconnect⟩ := Option.bind_eq_some_iff.mp hconnect
  obtain ⟨rfl, hrecorded⟩ := Prod.mk.inj (Option.some.inj hconnect)
  obtain ⟨hmem, -, hstatus, -⟩ := upsertConnected_spec hupsert
  obtain ⟨⟨tokenType, hcredential⟩, -, haccounts⟩ := activate_spec hactivate
  obtain ⟨hsameAccounts, hsameCredentials⟩ := recordAudit_spec hrecord
  rw [← hsameCredentials, hrecorded] at hcredential
  refine ⟨⟨account, ?_, rfl, hstatus⟩, ⟨_, hcredential, rfl, rfl⟩⟩
  rw [← hrecorded, hsameAccounts, haccounts]
  exact hmem

private theorem enqueue_of_step {ids : CreatedIds}
    (hstep : Step deployment v (.advance cid ids) w)
    (hafter : w.callbacks cid = some { callback with phase := .connected accountId }) :
    (∀ job ∈ v.system.db.backgroundJobs.rows, job.id ≠ ids.jobId) ∧
      (commitResult [.enqueue ⟨callback.input.actor.workspaceId⟩
        (bootstrapSync callback.input accountId) ids.jobId
          ids.outboxId]).commit v.system.db = (.ok (), w.system.db) := by
  have hentered : ∀ {system : ConnectionSystem} {found : ConnectionCallback}
      {phase : ConnectionPhase}, (system.enter cid found phase).callbacks cid =
        some { callback with phase := .connected accountId } →
      found.input = callback.input ∧ phase = .connected accountId := by
    intro system found phase h
    have hself : (system.enter cid found phase).callbacks cid = some { found with phase } :=
      Function.update_self _ _ _
    obtain ⟨hinput, hphase⟩ := ConnectionCallback.mk.inj (Option.some.inj (hself.symm.trans h))
    exact ⟨hinput, hphase⟩
  cases hstep.move with
  | searches => cases (hentered hafter).2
  | fails => cases (hentered hafter).2
  | stops hevent =>
    rcases hevent with hstop | ⟨others, hadvance⟩
    · cases hstop
    · cases hadvance
      cases (hentered hafter).2
  | commits hfound htask hsystem hcommit =>
    obtain ⟨hinput, hphase⟩ := hentered hafter
    cases htask with
    | audits | activates => cases hphase
    | enqueues =>
      cases hphase
      rw [hinput] at hcommit hsystem
      refine ⟨?_, hcommit⟩
      exact Call.freshJob_of_isEnabled hsystem.of_command.1 List.mem_cons_self

private theorem syncsAccount_enqueuedJob {input : ConnectionInput} {jobId : String} {clock : ℤ} :
    (enqueuedJob ⟨input.actor.workspaceId⟩ (bootstrapSync input accountId) jobId
      clock).identity.SyncsAccount input.actor.workspaceId accountId := by
  have hresource : (some "instagram_account").map Text.trim = some "instagram_account" := by decide
  exact ⟨rfl, rfl, hresource, rfl⟩

/-- **When a synchronisation is coming.** After an account and its credential have been committed
as active, a synchronisation that had not ended is there in every state if and only if there was
one before; and once the callback has enqueued its own, if and only if there was one until then
or the account's key stood for no job. -/
theorem sync_is_coming_iff (h : Activates deployment s t cid callback accountId) :
    t.Connected accountId ∧
    ((∀ u, Transition.Reachable (Step deployment) t u →
        SyncComing s u callback.input.actor.workspaceId accountId) ↔
      OpenSync s callback.input.actor.workspaceId accountId) ∧
    ∀ v w ids, Transition.Reachable (Step deployment) t v → Step deployment v (.advance cid ids) w →
      w.callbacks cid = some { callback with phase := .connected accountId } →
      ((∀ u, Reachable (Step deployment) w u →
          SyncComing s u callback.input.actor.workspaceId accountId) ↔
        SyncComing s v callback.input.actor.workspaceId accountId ∨
          ¬ v.system.db.HoldsKey (bootstrapKey callback accountId)) := by
  have hthere : SyncComing s t callback.input.actor.workspaceId accountId ↔
      OpenSync s callback.input.actor.workspaceId accountId :=
    (syncComing_congr h.backgroundJobs).trans syncComing_self
  refine ⟨h.connected, ⟨fun hall => hthere.mp (hall t .refl), fun hopen u hrun =>
    (hthere.mpr hopen).of_reachable hrun⟩, fun v w ids hrun hstep hafter => ?_⟩
  obtain ⟨hfresh, hcommit⟩ := enqueue_of_step hstep hafter
  have hjobs := jobs_of_commit_enqueue hfresh hcommit
  constructor
  · intro hall
    rcases hjobs with ⟨-, hsame⟩ | ⟨hnew, -⟩
    · exact .inl ((syncComing_congr hsame).mp (hall w .refl))
    · exact .inr hnew
  · rintro hcoming u hlater
    refine SyncComing.of_reachable ?_ hlater
    rcases hcoming with hcoming | hnew
    · exact hcoming.of_reachable (Transition.Reachable.refl.tail hstep)
    · rcases hjobs with ⟨hheld, -⟩ | ⟨-, hrows⟩
      · exact absurd hheld hnew
      · refine ⟨_, hrows ▸ List.mem_append_right _ (List.mem_singleton_self _),
          syncsAccount_enqueuedJob, fun earlier hearlier hid => ?_⟩
        -- no job of the time of the connection has the identifier of the new one
        obtain ⟨job', hjob', hidentity⟩ := hasJob_of_reachable hrun
          ⟨earlier, h.backgroundJobs ▸ hearlier, rfl⟩
        exact absurd ((congrArg JobIdentity.id hidentity).trans hid) (hfresh job' hjob')

end ConnectionSystem

open ConnectionSystem

/-! ### An account that is connected twice -/

namespace ConnectionSample

def shortLived : InstagramTokenGrant := ⟨ofString "short", none, [], ofString "bearer"⟩

def longLived : InstagramTokenGrant :=
  ⟨ofString "long", some 1790985660000, [], ofString "bearer"⟩

def identity : InstagramIdentity :=
  ⟨ofString "BUSINESS", none, ofString "17841400000000001", some (ofString "studio")⟩

def grant : InstagramGrant where
  accessToken := ofString "long"
  expiresAt := some 1790985660000
  tokenType := ofString "bearer"
  accountType := .business
  providerAccountId := ofString "17841400000000001"
  username := some (ofString "studio")
  mediaCount := none
  grantedScopes := instagramRequiredScopes

def accountId : String := "0192f2a0-0000-7000-8000-0000000000a1"

/-- The identifiers of a callback's transactions. -/
def ids (jobId : String) : CreatedIds where
  accountId := accountId
  credentialId := "credential-" ++ jobId
  auditId := "audit-" ++ jobId
  jobId := jobId
  outboxId := "outbox-" ++ jobId

def activating : ConnectionCallback := ⟨returned, .activating grant⟩

def ready : ConnectionSystem := (sealedSystem.setCallback 0 activating).setCallback 1 activating

private theorem judge_identity :
    deployment.judge returned shortLived longLived identity = .activating grant := by
  have hopened : deployment.opened returned = some started.sealInput.toInstagramSealedState.opened :=
    opened_of_sealed (rfl : started.sealInput.secret = _) isInstant_started rfl
  unfold judge binding
  rw [hopened]
  decide

private theorem receive_identity {deployment : ConnectionDeployment} {input : ConnectionInput}
    {shortLived longLived : InstagramTokenGrant} {identity : InstagramIdentity} :
    deployment.receive input (.identifying shortLived longLived) (.identity (.returned identity)) =
      some (deployment.judge input shortLived longLived identity) := rfl

variable {s : ConnectionSystem}

/-- A callback comes back from the provider. -/
theorem reachable_activating {cid : ℕ} (hnone : s.callbacks cid = none) :
    Reachable (Step deployment) s (s.setCallback cid activating) := by
  have hbegins : Step deployment s (.begin cid returned)
      (s.setCallback cid ⟨returned, .exchanging (ofString "AQB-example-code")⟩) := by
    unfold Step step
    dsimp only
    rw [hnone, begins_returned]
  have hanswers : ∀ {phase phase' reply}, deployment.receive returned phase reply = some phase' →
      Step deployment (s.setCallback cid ⟨returned, phase⟩) (.answer cid reply)
        (s.setCallback cid ⟨returned, phase'⟩) := by
    intro phase phase' reply hreceive
    have hself : (s.setCallback cid ⟨returned, phase⟩).callbacks cid = some ⟨returned, phase⟩ :=
      Function.update_self _ _ _
    unfold Step step
    dsimp only
    rw [hself]
    dsimp only
    rw [hreceive, Option.map_some, enter, setCallback,
      setCallback, Function.update_idem]
    rfl
  have hexchanges : deployment.receive returned (.exchanging (ofString "AQB-example-code"))
      (.token (.returned shortLived)) = some (.upgrading shortLived) := rfl
  have hupgrades : deployment.receive returned (.upgrading shortLived)
      (.token (.returned longLived)) = some (.identifying shortLived longLived) := rfl
  have hidentifies : deployment.receive returned (.identifying shortLived longLived)
      (.identity (.returned identity)) = some (.activating grant) := by
    rw [receive_identity, judge_identity]
  exact (((Transition.Reachable.refl.tail hbegins).tail (hanswers hexchanges)).tail
    (hanswers hupgrades)).tail (hanswers hidentifies)

private theorem reachable_ready :
    Reachable (Step deployment) initial ready := by
  have hstarts : Step deployment initial (.start started) sealedSystem :=
    step_start isInstant_started
  have hfirst : sealedSystem.callbacks 0 = none := rfl
  have hsecond : (sealedSystem.setCallback 0 activating).callbacks 1 = none := rfl
  exact ((Transition.Reachable.refl.tail hstarts).trans (reachable_activating hfirst)).trans
    (reachable_activating hsecond)

/-- The system after events. -/
def after (s : ConnectionSystem) (events : List ConnectionEvent) : ConnectionSystem :=
  ((replay (step deployment) [] s events).map Prod.snd).getD s

theorem reachable_after {events : List ConnectionEvent}
    (h : (replay (step deployment) [] s events).isSome) :
    Reachable (Step deployment) s (after s events) := by
  obtain ⟨⟨history, t⟩, ht⟩ := Option.isSome_iff_exists.mp h
  have hafter : after s events = t := by
    unfold after
    rw [ht]
    rfl
  rw [hafter]
  exact ⟨history, .replay .refl ht⟩

private theorem step_after {event : ConnectionEvent}
    (h : (s.step deployment event).isSome) :
    Step deployment s event (after s [event]) := by
  obtain ⟨t, ht⟩ := Option.isSome_iff_exists.mp h
  unfold after replay
  rw [ht]
  exact ht

def firstJob : String := "0192f2a0-0000-7000-8000-0000000000b0"

def secondJob : String := "0192f2a0-0000-7000-8000-0000000000b1"

/-- The first callback has connected the account and enqueued its synchronisation. -/
def connectedOnce : ConnectionSystem :=
  after ready [.advance 0 (ids firstJob), .advance 0 (ids firstJob)]

def cancel : ConnectionEvent :=
  .framework (.command (.cancel returned.correlationId actor firstJob "OPERATOR_CANCELLED"
    1785801700000 "audit-cancel"))

def cancelled : ConnectionSystem := after connectedOnce [cancel]

def second : ConnectionEvent := .advance 1 (ids secondJob)

/-- The second callback connects the account in a state. -/
def ConnectsIn (s : ConnectionSystem) : Prop :=
  s.callbacks 1 = some activating ∧ (s.step deployment second).isSome = true ∧
    (after s [second]).callbacks 1 = some { activating with phase := .enqueueing accountId }

instance (s : ConnectionSystem) : Decidable (ConnectsIn s) :=
  inferInstanceAs (Decidable (_ ∧ _ ∧ _))

private theorem activates_of_connectsIn (h : ConnectsIn s) :
    Activates deployment s (after s [second]) 1 activating accountId :=
  ⟨h.1, rfl, ⟨_, step_after h.2.1⟩, h.2.2⟩

/-- **The runs of the example.** The account is connected again while its synchronisation waits,
or after it has been cancelled; in the latter case the second enqueue changes nothing. -/
theorem connects_again :
    (replay (step deployment) [] ready
      [.advance 0 (ids firstJob), .advance 0 (ids firstJob)]).isSome ∧
    (ConnectsIn connectedOnce ∧ connectedOnce.OpenSync "workspace" accountId) ∧
    (connectedOnce.step deployment cancel).isSome ∧ ConnectsIn cancelled ∧
    ((after cancelled [second]).step deployment second).isSome ∧
    ((after (after cancelled [second]) [second]).callbacks 1 =
      some { activating with phase := .connected accountId }) ∧
    ¬ SyncComing cancelled (after (after cancelled [second]) [second]) "workspace"
      accountId := by
  decide +kernel

/-- Where a synchronisation waits, one is coming after the account has been connected again. -/
theorem coming_while_one_waits : (after connectedOnce [second]).Connected accountId ∧
    ConnectionSystem.SyncComing connectedOnce (after connectedOnce [second]) "workspace"
      accountId := by
  have hagain := connects_again.2.1
  have hcoming := sync_is_coming_iff (activates_of_connectsIn hagain.1)
  exact ⟨hcoming.1, hcoming.2.1.mpr hagain.2 _ .refl⟩

/-- **Not every connection has a synchronisation coming.** The one that the account's key stands
for has been cancelled, and the second callback enqueues no other. -/
theorem not_every_connection_has_a_sync :
    ¬ ∀ s t cid callback accountId,
      Transition.Reachable (ConnectionSystem.Step deployment) initial s →
      ConnectionSystem.Activates deployment s t cid callback accountId →
      ∀ u, Transition.Reachable (ConnectionSystem.Step deployment) t u →
        ConnectionSystem.SyncComing s u callback.input.actor.workspaceId accountId := by
  intro hall
  obtain ⟨hfirst, -, hcancels, hconnects, henqueues, -, hnone⟩ := connects_again
  have hcancelled : Reachable (Step deployment) initial cancelled :=
    (reachable_ready.trans (reachable_after hfirst)).tail (step_after hcancels)
  exact hnone (hall _ _ _ _ _ hcancelled (activates_of_connectsIn hconnects) _
    (Transition.Reachable.refl.tail (step_after henqueues)))

end ConnectionSample

end ContentAutomation
