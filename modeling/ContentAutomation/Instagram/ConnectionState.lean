import ContentAutomation.Instagram.Connection

/-!
# A callback acts on its own state

Where no signature is forged and no digests collide, a code is exchanged only for a state that
was sealed for the same user and is returned in time, a bound attempt is completed for its
account only, and a refusal leaves the accounts and credentials as they are.
-/

namespace ContentAutomation

open Relational Transaction Utf16 List ConnectionDeployment

/-- The code has been sent to the provider, and the callback has not been refused. -/
def ConnectionPhase.hasExchanged : ConnectionPhase → Bool
  | .auditing _ | .refused _ | .stopped => false
  | _ => true

/-- The account has been connected. -/
def ConnectionPhase.hasActivated : ConnectionPhase → Bool
  | .enqueueing _ | .connected _ => true
  | _ => false

namespace ConnectionSystem

variable {deployment : ConnectionDeployment} {s t u : ConnectionSystem} {event : ConnectionEvent}
  {cid : ℕ} {input : ConnectionInput} {ids : CreatedIds} {accountId : String}
  {callback : ConnectionCallback} {made : InstagramSealInput}

/-- The accounts and the credentials of a database. -/
def rowsOf (db : Database ConnectionTables) :
    Table connectedAccountSchema × Table connectedCredentialSchema :=
  (db.app.instagramAccounts, db.app.integrationCredentials)

/-- The accounts and the credentials. -/
def rows (s : ConnectionSystem) : Table connectedAccountSchema × Table connectedCredentialSchema :=
  rowsOf s.system.db

variable (deployment) in
/-- **The ideal digests**: the strings that are compared by their digests have the bytes in
common, and a signature that is accepted under a secret was made under it for a state that was
sealed. -/
structure Ideal (s : ConnectionSystem) (input : ConnectionInput) : Prop where
  signatures : ∀ encoded signature, input.sealedState = some (encoded ++ 0x2E :: signature) →
    deployment.platform.digestsMatch signature
      (deployment.platform.signature input.authSecret encoded) = true →
    Utf8.encode signature =
      Utf8.encode (deployment.platform.signature input.authSecret encoded)
  unforged : ∀ encoded signature, input.sealedState = some (encoded ++ 0x2E :: signature) →
    Utf8.encode signature =
      Utf8.encode (deployment.platform.signature input.authSecret encoded) →
    ∃ made ∈ s.seals, made.secret = input.authSecret ∧
      Utf8.encode (deployment.platform.payload made.toInstagramSealedState) = Utf8.encode encoded
  states : ∀ opened received, deployment.opened input = some opened →
    input.receivedState = some received →
    deployment.platform.digestsMatch opened.state received = true →
    Utf8.encode opened.state = Utf8.encode received

variable (deployment) in
/-- The condition on the events of a run. -/
def IdealEvent (s : ConnectionSystem) : ConnectionEvent → Prop
  | .begin _ input => s.Ideal deployment input
  | _ => True

variable (deployment) in
/-- **What a callback was given**: a state that was sealed under its secret for its user, which
has not expired and is the state that was received. -/
structure Authorises (made : InstagramSealInput) (input : ConnectionInput) : Prop where
  secret : made.secret = input.authSecret
  sealedState : input.sealedState = deployment.platform.sealInstagramState made
  user : made.internalUserId = ofString input.actor.internalUserId
  unexpired : input.now < made.expiresAt
  receivedState : input.receivedState = some made.state
  binding : deployment.binding input = truthy? made.expectedProviderAccountId

/-- What is kept of the seals: each could be made, of random bytes as its state. -/
def SealsStarted (s : ConnectionSystem) : Prop :=
  ∀ made ∈ s.seals, Calendar.IsInstant made.expiresAt ∧
    ∃ randomBytes, made.state = Base64.encode randomBytes

/-! ### The digits of an encoding -/

private theorem eq_of_encode_base64 {text : Utf16} {bytes : List UInt8}
    (h : Utf8.encode text = Utf8.encode (Base64.encode bytes)) : text = Base64.encode bytes := by
  have hdigit : ∀ unit ∈ Base64.encode bytes, unit < 0x80 := by
    intro unit hmem
    obtain ⟨value, hvalue, rfl⟩ := Base64.isDigit_of_mem_encode hmem
    exact (Base64.digit_spec hvalue).2
  refine Utf8.eq_of_encode_eq h (Utf8.wellFormed_of_lt fun unit hmem => ?_) fun hmem => ?_
  · exact Nat.lt_trans (UInt16.lt_iff_toNat_lt.mp (hdigit unit hmem)) (by decide)
  · exact absurd (hdigit _ hmem) (by decide)

/-- **What begins an exchange.** A callback that goes on to exchange its code presents a state
that was sealed for it. -/
theorem authorised_of_begins {code : Utf16} (hseals : s.SealsStarted)
    (hideal : s.Ideal deployment input) (h : deployment.begins input = .exchanging code) :
    ∃ made ∈ s.seals, Authorises deployment made input := by
  unfold ConnectionDeployment.begins at h
  dsimp only at h
  split at h
  · cases h
  · next huser =>
    split at h
    · cases h
    · next found hdecision =>
      obtain ⟨stored, received, hstored, hreceived, hmatch, hexpires, -⟩ :=
        Platform.of_evaluateInstagramCallback hdecision
      obtain ⟨opened, hopened, rfl⟩ := Option.map_eq_some_iff.mp hstored
      obtain ⟨encoded, signature, hsealed, hverified⟩ := Platform.of_openInstagramState hopened
      have hsignature := hideal.signatures encoded signature hsealed hverified
      obtain ⟨made, hmem, hsecret, hpayload⟩ := hideal.unforged encoded signature hsealed hsignature
      obtain ⟨hinstant, randomBytes, hrandom⟩ := hseals made hmem
      have hencoded := eq_of_encode_base64 hpayload.symm
      have hwhole : input.sealedState = deployment.platform.sealInstagramState made := by
        rw [hsealed, eq_of_encode_base64 hsignature, Platform.sealInstagramState, if_pos hinstant,
          hencoded, hsecret]
        rfl
      have hround : deployment.opened input = some made.toInstagramSealedState.opened := by
        unfold ConnectionDeployment.opened
        rw [← hsecret, hwhole]
        obtain ⟨sealed, hsome⟩ : ∃ sealed, deployment.platform.sealInstagramState made =
            some sealed := ⟨_, if_pos hinstant⟩
        rw [hsome]
        exact Platform.openInstagramState_seal hsome
      obtain rfl : opened = made.toInstagramSealedState.opened :=
        Option.some.inj (hopened.symm.trans hround)
      refine ⟨made, hmem, hsecret, hwhole, ?_, hexpires, ?_, ?_⟩
      · rw [hround] at huser
        have hsame : made.toInstagramSealedState.opened.internalUserId =
            ofString input.actor.internalUserId := by simpa using huser
        exact hsame
      · have hstate := hideal.states _ _ hround hreceived hmatch
        have hopen : (made.toInstagramSealedState.opened).state = Base64.encode randomBytes := hrandom
        rw [hopen] at hstate
        rw [eq_of_encode_base64 hstate.symm] at hreceived
        rw [hrandom]
        exact hreceived
      · unfold ConnectionDeployment.binding
        rw [hround]
        rfl

/-! ### What the steps keep -/

/-- What is kept of the callbacks: those that have exchanged their code were authorised to, and
what is about to be connected is the account that they are bound to. -/
structure Authorised (deployment : ConnectionDeployment) (s : ConnectionSystem) : Prop where
  seals : s.SealsStarted
  exchanged : ∀ cid callback, s.callbacks cid = some callback →
    callback.phase.hasExchanged = true →
    ∃ made ∈ s.seals, Authorises deployment made callback.input
  bound : ∀ cid callback grant, s.callbacks cid = some callback →
    callback.phase = .activating grant →
    instagramReconnectSatisfied (deployment.binding callback.input) grant.providerAccountId = true

private theorem begins_cases (input : ConnectionInput) :
    (∃ refusal, deployment.begins input = .auditing refusal) ∨
      ∃ code, deployment.begins input = .exchanging code := by
  unfold begins
  dsimp only
  split
  · exact .inl ⟨_, rfl⟩
  · split
    · exact .inl ⟨_, rfl⟩
    · exact .inr ⟨_, rfl⟩

/-- Only a judgement leads to an activation. -/
theorem bound_of_receive {phase : ConnectionPhase} {reply : ProviderReply}
    {grant : InstagramGrant} (h : deployment.receive input phase reply = some (.activating grant)) :
    instagramReconnectSatisfied (deployment.binding input) grant.providerAccountId := by
  cases phase with
  | exchanging code =>
    cases reply with
    | token answer => cases answer <;> cases h
    | identity answer => cases h
  | upgrading shortLived =>
    cases reply with
    | token answer => cases answer <;> cases h
    | identity answer => cases h
  | identifying shortLived longLived =>
    cases reply with
    | token answer => cases h
    | identity answer =>
      cases answer with
      | returned identity =>
        have hjudge : deployment.judge input shortLived longLived identity = .activating grant :=
          Option.some.inj h
        unfold judge at hjudge
        split at hjudge
        · cases hjudge
        · next hsatisfied =>
          split at hjudge
          · cases hjudge
          · split at hjudge
            · cases hjudge
            · cases hjudge
              exact eq_true_of_ne_false hsatisfied
      | refused | threw => cases h
  | _ => cases reply <;> cases h

private theorem Next.hasExchanged {phase phase' : ConnectionPhase}
    (h : Next deployment input phase phase') (hafter : phase'.hasExchanged) :
    phase.hasExchanged := by
  cases h with
  | @receives phase phase' reply hreceive =>
    cases phase <;> cases reply <;> first | rfl | cases hreceive
  | searches | activates | enqueues => rfl
  | audits | stops => cases hafter

theorem Authorised.step (h : Authorised deployment s) (hideal : IdealEvent deployment s event)
    (hstep : Step deployment s event t) : Authorised deployment t := by
  have hmove := hstep.move
  have hseals : t.SealsStarted ∧ ∀ made ∈ s.seals, made ∈ t.seals := by
    cases hmove with
    | @starts started hinstant =>
      refine ⟨fun made hmem => ?_, fun made hmem => mem_cons_of_mem _ hmem⟩
      rcases mem_cons.mp hmem with rfl | hold
      · exact ⟨hinstant, started.randomBytes, rfl⟩
      · exact h.seals made hold
    | _ => exact ⟨h.seals, fun made hmem => hmem⟩
  refine ⟨hseals.1, fun cid callback' hafter hexchanged => ?_,
    fun cid callback' grant hafter hphase => ?_⟩
  · rcases hmove.callback hafter with hsame | ⟨input, rfl, -, rfl⟩ |
        ⟨callback, -, hbefore, hinput, hnext⟩
    · obtain ⟨made, hmem, hauthorises⟩ := h.exchanged cid callback' hsame hexchanged
      exact ⟨made, hseals.2 made hmem, hauthorises⟩
    · rcases @begins_cases deployment input with ⟨refusal, hbegins⟩ | ⟨code, hbegins⟩
      · dsimp only at hexchanged
        rw [hbegins] at hexchanged
        cases hexchanged
      · obtain ⟨made, hmem, hauthorises⟩ := authorised_of_begins h.seals hideal hbegins
        exact ⟨made, hseals.2 made hmem, hauthorises⟩
    · obtain ⟨made, hmem, hauthorises⟩ :=
        h.exchanged cid callback hbefore (hnext.hasExchanged hexchanged)
      exact ⟨made, hseals.2 made hmem, hinput ▸ hauthorises⟩
  · rcases hmove.callback hafter with hsame | ⟨input, rfl, -, rfl⟩ |
        ⟨callback, -, hbefore, hinput, hnext⟩
    · exact h.bound cid callback' grant hsame hphase
    · rcases @begins_cases deployment input with ⟨refusal, hbegins⟩ | ⟨code, hbegins⟩ <;>
        cases hbegins.symm.trans hphase
    · rw [hinput]
      rw [hphase] at hnext
      generalize callback.phase = phase at hnext
      cases hnext with
      | receives hreceive => exact bound_of_receive hreceive

/-! ### What the transactions write -/

private theorem commit_write {update : Database ConnectionTables → Option ConnectionTables}
    {db db' : Database ConnectionTables}
    (h : (commitResult [.write update]).commit db = (.ok (), db')) :
    update db = some db'.app ∧ db' = { db with app := db'.app } := by
  have hrun : (commitResult [.write update]).commit db =
      match update db with
      | some app => (.ok (), { db with app })
      | none => (.error (.fault .callback), db) := by
    unfold commitResult CommitEffect.run Transaction.commit
    cases hupdate : update db with
    | none => simp [StateT.run, bind, StateT.bind, hupdate, Except.bind]
    | some app =>
      simp only [StateT.run, bind, StateT.bind, hupdate, Except.bind, commitResult]
      rfl
  rw [hrun] at h
  cases hupdate : update db with
  | none =>
    rw [hupdate] at h
    cases h
  | some app =>
    rw [hupdate] at h
    cases h
    exact ⟨rfl, rfl⟩

private theorem commit_enqueue {context : WorkspaceContext} {input : EnqueueBackgroundJobInput}
    {jobId outboxId : String} (db : Database ConnectionTables) :
    ((commitResult [.enqueue context input jobId outboxId]).commit db).2.app = db.app := by
  have henqueue : Keeps Database.app (enqueueBackgroundJobInTransaction context input jobId outboxId :
      JobTransaction ConnectionTables EnqueueBackgroundJobResult) :=
    keeps_of_preserves fun _ => preserves_enqueueBackgroundJobInTransaction
  have hkeeps : Keeps Database.app (commitResult [.enqueue context input jobId outboxId] :
      JobTransaction ConnectionTables Unit) :=
    .bind (.bind henqueue fun _ => keeps_pure) fun _ => keeps_pure
  exact hkeeps.commit db

private theorem storedText_eq {limit : ℕ} {text stored : Utf16}
    (h : storedText limit text = some stored) :
    stored = Utf8.toWellFormed text := by
  unfold storedText at h
  split at h <;> cases h
  rfl

private theorem row_spec {input : ConnectedAccountInput} {id workspaceId : String}
    {row : ConnectedAccount} (h : input.row id workspaceId = some row) :
    row.id = id ∧ row.workspaceId = workspaceId ∧ row.connectionStatus = .active ∧
      row.providerAccountId = Utf8.toWellFormed input.providerAccountId := by
  unfold ConnectedAccountInput.row at h
  obtain ⟨providerAccountId, hprovider, h⟩ := Option.bind_eq_some_iff.mp h
  obtain ⟨grantedScopes, -, h⟩ := Option.bind_eq_some_iff.mp h
  obtain ⟨mediaCount, -, h⟩ := Option.bind_eq_some_iff.mp h
  obtain ⟨tokenExpiresAt, -, h⟩ := Option.bind_eq_some_iff.mp h
  obtain ⟨username, -, h⟩ := Option.bind_eq_some_iff.mp h
  cases h
  exact ⟨rfl, rfl, rfl, storedText_eq hprovider⟩

/-- **What an upsert writes**: the row of the account, active and of the given identity. -/
theorem upsertConnected_spec {tables tables' : ConnectionTables} {workspaceId newId : String}
    {input : ConnectedAccountInput} {account : ConnectedAccount}
    (h : tables.upsertConnected workspaceId newId input = some (account, tables')) :
    account ∈ tables'.instagramAccounts.rows ∧ account.workspaceId = workspaceId ∧
      account.connectionStatus = .active ∧
      account.providerAccountId = Utf8.toWellFormed input.providerAccountId ∧
      (∀ row ∈ tables'.instagramAccounts.rows, row.id ≠ account.id →
        row ∈ tables.instagramAccounts.rows) ∧
      tables'.integrationCredentials = tables.integrationCredentials := by
  unfold ConnectionTables.upsertConnected at h
  split at h
  · split at h
    · cases h
    · next row hrow =>
      split at h <;> cases h
      next created hcreated =>
      obtain ⟨-, hworkspace, hstatus, hprovider⟩ := row_spec hrow
      have hrows := Table.create_eq_ok.mp hcreated
      refine ⟨hrows ▸ mem_append_right _ (mem_singleton_self _), hworkspace, hstatus,
        hprovider, fun other hother hne => ?_, rfl⟩
      rcases mem_append.mp (hrows ▸ hother) with hold | hnew
      · exact hold
      · exact absurd (congrArg ConnectedAccount.id (mem_singleton.mp hnew)) hne
  · next found hfound =>
    split at h
    · cases h
    · next row hrow =>
      split at h <;> cases h
      next updated _ hupdated =>
      obtain ⟨hid, hworkspace, hstatus, hprovider⟩ := row_spec hrow
      have hrows := (Table.updateMany_eq_ok.mp hupdated).1
      have hmem := mem_of_find?_eq_some hfound
      refine ⟨?_, hworkspace, hstatus, hprovider, fun other hother hne => ?_, rfl⟩
      · rw [hrows]
        exact mem_map.mpr ⟨found, hmem, if_pos (beq_self_eq_true _)⟩
      · obtain ⟨old, hold, rfl⟩ := mem_map.mp (hrows ▸ hother)
        split at hne
        · exact absurd rfl hne
        · next hkept => rwa [if_neg hkept]

/-- **What an activation writes**: the credential, and others of its account. -/
theorem activate_spec {tables tables' : ConnectionTables} {credential : ConnectedCredential}
    (h : tables.activate credential = some tables') :
    (∃ tokenType, { credential with tokenType } ∈ tables'.integrationCredentials.rows) ∧
    (∀ row ∈ tables'.integrationCredentials.rows, row.accountId ≠ credential.accountId →
        row ∈ tables.integrationCredentials.rows) ∧
      tables'.instagramAccounts = tables.instagramAccounts := by
  unfold ConnectionTables.activate at h
  split at h
  · cases h
  · next superseded _ hsuperseded =>
    split at h
    · cases h
    split at h <;> cases h
    next created hcreated =>
    have hrows := Table.create_eq_ok.mp hcreated
    have hbefore := (Table.updateMany_eq_ok.mp hsuperseded).1
    refine ⟨⟨_, hrows ▸ mem_append_right _ (mem_singleton_self _)⟩,
      fun other hother hne => ?_, rfl⟩
    rcases mem_append.mp (hrows ▸ hother) with hmem | hnew
    · obtain ⟨old, hold, rfl⟩ := mem_map.mp (hbefore ▸ hmem)
      split at hne
      · next hselected =>
        simp only [Bool.and_eq_true, beq_iff_eq] at hselected
        exact absurd hselected.1.2 hne
      · next hkept => rwa [if_neg hkept]
    · exact absurd (congrArg ConnectedCredential.accountId (mem_singleton.mp hnew)) hne

theorem recordAudit_spec {tables tables' : ConnectionTables} {event : AuditEvent}
    (h : tables.recordAudit event = some tables') :
    tables'.instagramAccounts = tables.instagramAccounts ∧
      tables'.integrationCredentials = tables.integrationCredentials := by
  unfold ConnectionTables.recordAudit at h
  split at h <;> cases h
  exact ⟨rfl, rfl⟩

/-- **What completing a connection writes**: the account that the provider named, and credentials
of it. -/
structure CompletesFor (s t : ConnectionSystem) (workspaceId accountId : String)
    (providerAccountId : Utf16) : Prop where
  account : ∃ row ∈ t.system.db.app.instagramAccounts.rows, row.id = accountId ∧
    row.workspaceId = workspaceId ∧ row.providerAccountId = Utf8.toWellFormed providerAccountId
  accounts : ∀ row ∈ t.system.db.app.instagramAccounts.rows, row.id ≠ accountId →
    row ∈ s.system.db.app.instagramAccounts.rows
  credentials : ∀ row ∈ t.system.db.app.integrationCredentials.rows, row.accountId ≠ accountId →
    row ∈ s.system.db.app.integrationCredentials.rows

/-- The transaction that connects an account writes nothing else. -/
theorem completesFor_of_connect {grant : InstagramGrant}
    {clock : ℤ} (h : deployment.connect input grant ids clock s.system.db.app =
      some (accountId, t.system.db.app)) :
    CompletesFor s t input.actor.workspaceId accountId grant.providerAccountId := by
  unfold connect at h
  obtain ⟨⟨account, upserted⟩, hupsert, h⟩ := Option.bind_eq_some_iff.mp h
  obtain ⟨activated, hactivate, h⟩ := Option.bind_eq_some_iff.mp h
  obtain ⟨recorded, hrecord, h⟩ := Option.bind_eq_some_iff.mp h
  obtain ⟨rfl, hrecorded⟩ := Prod.mk.inj (Option.some.inj h)
  obtain ⟨hmem, hworkspace, -, hprovider, hothers, hcredentials⟩ := upsertConnected_spec hupsert
  obtain ⟨-, hactive, haccounts⟩ := activate_spec hactivate
  obtain ⟨hrecordAccounts, hrecordCredentials⟩ := recordAudit_spec hrecord
  have hfinal : t.system.db.app.instagramAccounts = upserted.instagramAccounts := by
    rw [← hrecorded, hrecordAccounts, haccounts]
  refine ⟨⟨account, hfinal ▸ hmem, rfl, hworkspace, hprovider⟩, fun row hrow hne => ?_,
    fun row hrow hne => ?_⟩
  · exact hothers row (hfinal ▸ hrow) hne
  · rw [← hrecorded, hrecordCredentials] at hrow
    exact hcredentials ▸ hactive row hrow hne

/-! ### Refusals -/

/-- A step of a callback that does not connect its account leaves the rows as they are. -/
theorem Move.rows_eq (h : Move deployment s event t) {cid : ℕ} (hevent : event.callback? = some cid) :
    t.rows = s.rows ∨
      ∃ callback', t.callbacks cid = some callback' ∧ callback'.phase.hasActivated := by
  cases h with
  | framework | starts => cases hevent
  | fails _ _ _ hdb => exact .inl (congrArg rowsOf hdb)
  | @commits other ids callback effects phase system hcallback htask _ hcommit =>
    cases htask with
    | audits hphase =>
      obtain ⟨haccounts, hcredentials⟩ := recordAudit_spec (commit_write hcommit).1
      exact .inl (Prod.ext haccounts hcredentials)
    | enqueues hphase =>
      have happ : system.db.app = s.system.db.app :=
        (congrArg (fun result => result.2.app) hcommit).symm.trans (commit_enqueue _)
      exact .inl (congrArg (fun app : ConnectionTables =>
        (app.instagramAccounts, app.integrationCredentials)) happ)
    | activates hphase hconnect =>
      cases hevent
      exact .inr ⟨_, Function.update_self _ _ _, rfl⟩
  | _ => exact .inl rfl

theorem Next.hasActivated {phase phase' : ConnectionPhase}
    (h : Next deployment input phase phase')
    (hbefore : phase.hasActivated ∨ phase = .stopped) :
    phase'.hasActivated ∨ phase' = .stopped := by
  rcases hbefore with hactivated | rfl
  · cases h with
    | @receives phase phase' reply hreceive =>
      cases phase with
      | enqueueing | connected => cases reply <;> cases hreceive
      | _ => cases hactivated
    | searches | audits | activates => cases hactivated
    | enqueues => exact .inl rfl
    | stops => exact .inr rfl
  · cases h with
    | @receives _ _ reply hreceive => cases reply <;> cases hreceive
    | stops hover => cases hover

/-- It stays so along a run. -/
theorem not_refused_of_activated {cid : ℕ} (hcallback : s.callbacks cid = some callback)
    (hactivated : callback.phase.hasActivated)
    (hrun : Transition.Reachable (Step deployment) s t) {callback' : ConnectionCallback}
    (hafter : t.callbacks cid = some callback') {refusal : ConnectionRefusal} :
    callback'.phase ≠ .refused refusal := by
  have hkept : (t.callbacks cid).isSome = true ∧ ∀ callback, t.callbacks cid = some callback →
      callback.phase.hasActivated = true ∨ callback.phase = .stopped := by
    refine hrun.invariant (I := fun t => (t.callbacks cid).isSome = true ∧
      ∀ callback, t.callbacks cid = some callback →
        callback.phase.hasActivated = true ∨ callback.phase = .stopped) ⟨?_, ?_⟩ ?_
    · rw [hcallback]
      rfl
    · intro found hfound
      obtain rfl := Option.mem_unique hcallback hfound
      exact .inl hactivated
    · rintro t u event ⟨hsome, hphase⟩ hstep
      refine ⟨hstep.move.isSome hsome, fun later hlater => ?_⟩
      rcases hstep.move.callback hlater with
        hsame | ⟨input, -, hnone, -⟩ | ⟨earlier, -, hearlier, -, hnext⟩
      · exact hphase later hsame
      · rw [hnone] at hsome
        cases hsome
      · exact hnext.hasActivated (hphase earlier hearlier)
  rintro hrefused
  rcases hkept.2 callback' hafter with h | h <;> cases hrefused ▸ h

variable {clock : ℤ} {internalUsers : List InternalUser} {app : ConnectionTables}

private theorem authorised_initial : Authorised deployment (initial clock internalUsers app) where
  seals _ h := by cases h
  exchanged _ _ h := by cases h
  bound _ _ _ h := by cases h

private theorem authorised_of_reachable (hrun : Transition.Reachable
    (Transition.Restricted (Step deployment) (IdealEvent deployment))
    (initial clock internalUsers app) s) : Authorised deployment s :=
  hrun.invariant authorised_initial fun h hstep => h.step hstep.1 hstep.2

/-- The step in which a callback connects an account commits its transaction, and nothing else. -/
theorem connect_of_step (hcallback : s.callbacks cid = some callback)
    (hbefore : callback.phase.hasActivated = false) (hstep : Step deployment s (.advance cid ids) t)
    (hafter : t.callbacks cid = some { callback with phase := .enqueueing accountId }) :
    ∃ grant, callback.phase = .activating grant ∧
      deployment.connect callback.input grant ids s.system.db.clock s.system.db.app =
        some (accountId, t.system.db.app) ∧
      t.system.db = { s.system.db with app := t.system.db.app } := by
  have hentered : ∀ {system : ConnectionSystem} {found : ConnectionCallback}
      {phase : ConnectionPhase}, (system.enter cid found phase).callbacks cid =
        some { callback with phase := .enqueueing accountId } →
      phase = .enqueueing accountId := by
    intro system found phase h
    have hself : (system.enter cid found phase).callbacks cid = some { found with phase } :=
      Function.update_self _ _ _
    exact congrArg ConnectionCallback.phase (Option.some.inj (hself.symm.trans h))
  cases hstep.move with
  | searches => cases hentered hafter
  | fails => cases hentered hafter
  | stops hevent =>
    rcases hevent with hstop | ⟨others, hadvance⟩
    · cases hstop
    · cases hadvance
      cases hentered hafter
  | commits hfound htask _ hcommit =>
    obtain rfl := Option.mem_unique hcallback hfound
    have hphase' := hentered hafter
    cases htask with
    | audits => cases hphase'
    | enqueues hphase =>
      rw [hphase] at hbefore
      cases hbefore
    | @activates grant _ app hphase hconnect =>
      cases hphase'
      obtain ⟨happ, hdb⟩ := commit_write hcommit
      cases happ
      exact ⟨grant, hphase, hconnect, hdb⟩

private theorem completesFor_of_step (hauthorised : Authorised deployment s)
    {expected : Utf16} (hcallback : s.callbacks cid = some callback)
    (hbefore : callback.phase.hasActivated = false) (hstep : Step deployment s (.advance cid ids) t)
    (hafter : t.callbacks cid = some { callback with phase := .enqueueing accountId })
    (hbinding : deployment.binding callback.input = some expected) :
    CompletesFor s t callback.input.actor.workspaceId accountId expected := by
  obtain ⟨grant, hphase, hconnect, -⟩ := connect_of_step hcallback hbefore hstep hafter
  obtain ⟨made, -, hauthorises⟩ :=
    hauthorised.exchanged cid callback hcallback (by rw [hphase]; rfl)
  have hne := (truthy?_eq_some.mp (hauthorises.binding.symm.trans hbinding)).2
  have hbound := hauthorised.bound cid callback grant hcallback hphase
  rw [hbinding] at hbound
  rw [of_instagramReconnectSatisfied hne hbound]
  exact completesFor_of_connect hconnect

/-- **A callback acts on its own state.** In every run in which no signature is forged and no
digests collide: a callback that has exchanged its code presented a state that was sealed for it;
one that is bound to an account is completed for that account only; no step of a callback that
comes to be refused writes an account or a credential; and what is sealed is opened again. -/
theorem callbacks_act_on_their_own_state (hrun : Transition.Reachable
    (Transition.Restricted (Step deployment) (IdealEvent deployment))
    (initial clock internalUsers app) s) :
    (∀ cid callback, s.callbacks cid = some callback → callback.phase.hasExchanged = true →
      ∃ made ∈ s.seals, Authorises deployment made callback.input) ∧
    (∀ cid ids t callback accountId expected, s.callbacks cid = some callback →
      callback.phase.hasActivated = false → Step deployment s (.advance cid ids) t →
      t.callbacks cid = some { callback with phase := .enqueueing accountId } →
      deployment.binding callback.input = some expected →
      CompletesFor s t callback.input.actor.workspaceId accountId expected) ∧
    (∀ cid event t u callback refusal, event.callback? = some cid → Step deployment s event t →
      Transition.Reachable (Step deployment) t u → u.callbacks cid = some callback →
      callback.phase = .refused refusal → t.rows = s.rows) ∧
    ∀ made : InstagramSealInput, Calendar.IsInstant made.expiresAt →
      ∃ sealed, deployment.platform.sealInstagramState made = some sealed ∧
        deployment.platform.openInstagramState (some sealed) made.secret =
          some { made with expectedProviderAccountId := truthy? made.expectedProviderAccountId } := by
  have hauthorised := authorised_of_reachable hrun
  refine ⟨hauthorised.exchanged, ?_, ?_, ?_⟩
  · intro cid ids t callback accountId expected hcallback hbefore hstep hafter hbinding
    exact completesFor_of_step hauthorised hcallback hbefore hstep hafter hbinding
  · intro cid event t u callback refusal hevent hstep hlater hcallback hrefused
    rcases hstep.move.rows_eq hevent with hsame | ⟨callback', hthere, hactivated⟩
    · exact hsame
    · exact absurd hrefused (not_refused_of_activated hthere hactivated hlater hcallback)
  · intro made hinstant
    have hsealed : deployment.platform.sealInstagramState made = some _ := if_pos hinstant
    exact ⟨_, hsealed, Platform.openInstagramState_seal hsealed⟩

/-! ### A callback with its own state -/

theorem step_start {started : StartedConnection}
    (h : Calendar.IsInstant started.sealInput.expiresAt) :
    Step deployment s (.start started) { s with seals := started.sealInput :: s.seals } := by
  have hsealed : deployment.platform.sealInstagramState started.sealInput = some _ := if_pos h
  exact Option.map_eq_some_iff.mpr ⟨_, hsealed, rfl⟩

theorem opened_of_sealed (hsecret : made.secret = input.authSecret)
    (hinstant : Calendar.IsInstant made.expiresAt)
    (hsealed : input.sealedState = deployment.platform.sealInstagramState made) :
    deployment.opened input = some made.toInstagramSealedState.opened := by
  have hsome : deployment.platform.sealInstagramState made = some _ := if_pos hinstant
  unfold opened
  rw [← hsecret, hsealed, hsome]
  exact Platform.openInstagramState_seal hsome

/-- A callback that presents its own state in time, with a code and no error, exchanges the
code. -/
theorem begins_of_sealed {code : Utf16}
    (hsecret : made.secret = input.authSecret) (hinstant : Calendar.IsInstant made.expiresAt)
    (hsealed : input.sealedState = deployment.platform.sealInstagramState made)
    (huser : made.internalUserId = ofString input.actor.internalUserId)
    (hreceived : truthy? input.receivedState = some made.state)
    (hunexpired : input.now < made.expiresAt) (herror : truthy? input.providerError = none)
    (hcode : truthy? input.code = some code) : deployment.begins input = .exchanging code := by
  have hdecision : deployment.platform.evaluateInstagramCallback
      { code := input.code
        now := input.now
        providerError := input.providerError
        receivedState := input.receivedState
        storedState := some ⟨made.expiresAt, false, made.state⟩ } = .ok code := by
    unfold Platform.evaluateInstagramCallback
    dsimp only
    rw [hreceived]
    dsimp only
    rw [if_neg (by simp [Platform.digestsMatch]), if_neg Bool.false_ne_true,
      if_neg (not_le.mpr hunexpired), herror, hcode]
  unfold begins
  rw [opened_of_sealed hsecret hinstant hsealed]
  dsimp only
  rw [Option.any_some, if_neg, Option.map_some]
  · dsimp only [InstagramSealedState.opened]
    rw [hdecision]
  · rw [bne_iff_ne, not_not]
    exact huser

/-- A callback that presents what was sealed, and receives its state, has ideal digests. -/
theorem ideal_of_sealed (hmem : made ∈ s.seals) (hsecret : made.secret = input.authSecret)
    (hinstant : Calendar.IsInstant made.expiresAt)
    (hsealed : input.sealedState = deployment.platform.sealInstagramState made)
    (hreceived : input.receivedState = some made.state) : s.Ideal deployment input := by
  have hwhole : input.sealedState = some (deployment.platform.payload made.toInstagramSealedState ++
      0x2E :: deployment.platform.signature made.secret
        (deployment.platform.payload made.toInstagramSealedState)) :=
    hsealed.trans (if_pos hinstant)
  have hsplit : ∀ encoded signature, input.sealedState = some (encoded ++ 0x2E :: signature) →
      encoded = deployment.platform.payload made.toInstagramSealedState ∧
        signature = deployment.platform.signature made.secret encoded := by
    intro encoded signature hpresented
    have heq := Option.mem_unique hwhole hpresented
    obtain ⟨hpayload, -, hsignature⟩ := (append_cons_inj_of_notMem
      (Platform.mark_notMem_encode _) (Platform.mark_notMem_encode _)).mp heq
    have hencoded : encoded = deployment.platform.payload made.toInstagramSealedState :=
      hpayload.symm
    exact ⟨hencoded, by rw [hencoded]; exact hsignature.symm⟩
  have hopened := opened_of_sealed hsecret hinstant hsealed
  refine ⟨?_, ?_, ?_⟩
  · intro encoded signature hpresented _
    rw [← hsecret, (hsplit encoded signature hpresented).2]
  · intro encoded signature hpresented _
    exact ⟨made, hmem, hsecret, congrArg Utf8.encode (hsplit encoded signature hpresented).1.symm⟩
  · intro opened received hthere hsome _
    obtain rfl := Option.mem_unique hopened hthere
    obtain rfl := Option.mem_unique hreceived hsome
    rfl

end ConnectionSystem

/-! ### An example -/

namespace ConnectionSample

def authSecret : Utf16 := ofString "test-only-auth-secret-not-for-deployment-000000"

def encoded : Utf16 :=
  ofString "eyJleHBlY3RlZFByb3ZpZGVyQWNjb3VudElkIjoiMTc4" ++
    ofString "NDE0MDAwMDAwMDAwMDEiLCJleHBpcmVzQXQiOiIyMDI2" ++
    ofString "LTA4LTA0VDAwOjEwOjAwLjAwMFoiLCJpbnRlcm5hbFVz" ++
    ofString "ZXJJZCI6IjAxOTJmMmEwLTAwMDAtNzAwMC04MDAwLTAw" ++
    ofString "MDAwMDAwMDAwMSIsInN0YXRlIjoiQUFFQ0F3UUZCZ2NJ" ++
    ofString "Q1FvTERBME9EeEFSRWhNVUZSWVhHQmthR3h3ZEhoOCJ9"

def signature : Utf16 := ofString "4JQsBnH0Xp7terwNNe5jeoVfRMqC_P4_OAGsn_j6QsQ"

/-- The digests, of what is signed and compared here. -/
def platform : Platform where
  hmacSha256 secret message :=
    if secret = authSecret ∧ message = Utf8.encode encoded then
      [224, 148, 44, 6, 113, 244, 94, 158, 237, 122, 188, 13, 53, 238, 99, 122, 133, 95, 68, 202,
        130, 252, 254, 63, 56, 1, 172, 159, 248, 250, 66, 196]
    else []
  sha256 bytes :=
    if bytes = Utf8.encode signature then
      [228, 104, 185, 255, 49, 230, 159, 66, 203, 222, 209, 69, 241, 144, 52, 109, 55, 103, 109,
        200, 192, 16, 14, 117, 231, 127, 180, 183, 60, 9, 46, 16]
    else if bytes = Utf8.encode (ofString "AAECAwQFBgcICQoLDA0ODxAREhMUFRYXGBkaGxwdHh8") then
      [234, 134, 106, 117, 126, 76, 56, 186, 191, 168, 18, 124, 190, 154, 64, 157, 62, 31, 147,
        160, 15, 241, 72, 143, 247, 53, 252, 249, 23, 175, 255, 208]
    else []
  numeral _ := []
  number _ := .notANumber
  otherDate _ := none

def actor : SessionPrincipal := ⟨"0192f2a0-0000-7000-8000-000000000001", 1, "workspace"⟩

def started : StartedConnection where
  actor := actor
  authSecret := authSecret
  now := 1785801600000
  randomBytes := (List.range 32).map UInt8.ofNat
  expectedProviderAccountId := some (ofString "17841400000000001")

/-- The deployment: texts are enciphered as themselves here. -/
def deployment : ConnectionDeployment where
  platform := platform
  environment :=
    { resultExists := fun _ _ => some true
      inspectResult := fun _ _ => some .absent
      retryCallbacks := ⟨fun _ _ => none, fun _ _ => none⟩ }
  encryptCredential accountId workspaceId _ := "v1." ++ workspaceId ++ "." ++ accountId
  keyVersion := 1
  hashGrantedScopes _ := "c0ffee"

def returned : ConnectionInput where
  actor := actor
  authSecret := authSecret
  code := some (ofString "AQB-example-code")
  correlationId := "0192f2a0-0000-7000-8000-0000000000c0"
  now := 1785801660000
  providerError := none
  receivedState := some started.sealInput.state
  sealedState := platform.sealInstagramState started.sealInput

def initial : ConnectionSystem := ConnectionSystem.initial 1785801600000
  [⟨actor.internalUserId, "workspace", .active, .admin, 1, .active⟩] .empty

def sealedSystem : ConnectionSystem := { initial with seals := [started.sealInput] }

def begun : ConnectionSystem := sealedSystem.setCallback 0 ⟨returned, deployment.begins returned⟩

example : platform.sealInstagramState started.sealInput = some (encoded ++ 0x2E :: signature) := by
  decide +kernel

theorem isInstant_started : Calendar.IsInstant started.sealInput.expiresAt := by decide

theorem begins_returned :
    deployment.begins returned = .exchanging (ofString "AQB-example-code") :=
  ConnectionSystem.begins_of_sealed (rfl : started.sealInput.secret = _) isInstant_started rfl rfl
    (by decide) (by decide) rfl (by decide)

private theorem reachable_begun : Transition.Reachable
    (Transition.Restricted (ConnectionSystem.Step deployment)
      (ConnectionSystem.IdealEvent deployment)) initial begun := by
  have hstarts : Transition.Restricted (ConnectionSystem.Step deployment)
      (ConnectionSystem.IdealEvent deployment) initial (.start started) sealedSystem :=
    ⟨trivial, ConnectionSystem.step_start isInstant_started⟩
  have hideal : sealedSystem.Ideal deployment returned :=
    ConnectionSystem.ideal_of_sealed (mem_singleton_self _) rfl isInstant_started rfl rfl
  have hbegins : Transition.Restricted (ConnectionSystem.Step deployment)
      (ConnectionSystem.IdealEvent deployment) sealedSystem (.begin 0 returned) begun :=
    ⟨hideal, rfl⟩
  exact (Transition.Reachable.refl.tail hstarts).tail hbegins

/-- In the example the code is exchanged for what was sealed. -/
theorem exchanges_own_state : (∃ code, deployment.begins returned = .exchanging code) ∧
    ∃ made ∈ begun.seals, ConnectionSystem.Authorises deployment made returned := by
  have hcallback : begun.callbacks 0 = some ⟨returned, deployment.begins returned⟩ := rfl
  refine ⟨⟨_, begins_returned⟩, ?_⟩
  exact (ConnectionSystem.callbacks_act_on_their_own_state reachable_begun).1 0 _ hcallback
    (by rw [begins_returned]; rfl)

end ConnectionSample

end ContentAutomation
