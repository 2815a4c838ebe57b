import ContentAutomation.Instagram.Oauth
import ContentAutomation.Instagram.Schema
import ContentAutomation.Jobs.Frames

/-!
# Connecting an account

`completeInstagramConnection` as a process: after its checks it waits for three answers of the
provider, and then takes one transaction for the account and its credential and another for the
first synchronisation. Any number of callbacks run beside the job framework and the rest of the
application, and each may stop between any two of its steps.
-/

namespace ContentAutomation

open Relational Transaction Utf16 Function

/-! ### The tables -/

/-- The columns of `instagram_accounts` that a connection reads and writes. -/
structure ConnectedAccount where
  id : String
  workspaceId : String
  providerAccountId : Utf16
  accountType : InstagramAccountType
  apiVersion : String
  connectionStatus : InstagramConnectionStatus
  grantedScopes : List Utf16
  mediaCount : Option ℤ
  tokenExpiresAt : Option ℤ
  username : Option Utf16

/-- The constraints of `instagram_accounts`. -/
def connectedAccountSchema : Schema ConnectedAccount where
  checks := []
  indexes :=
    [("instagram_accounts_pkey", fun row other => row.id == other.id),
      ("instagram_accounts_workspace_id_provider_account_id_key", fun row other =>
        row.workspaceId == other.workspaceId && row.providerAccountId == other.providerAccountId)]

/-- `IntegrationCredentialStatus`. -/
inductive ConnectedCredentialStatus
  | active | reauthorisationRequired | revoked
  deriving DecidableEq

/-- The columns of `integration_credentials` that a connection reads and writes; the only
integration type is Instagram. -/
structure ConnectedCredential where
  id : String
  workspaceId : String
  accountId : String
  ciphertext : String
  expiresAt : Option ℤ
  issuedAt : ℤ
  keyVersion : ℤ
  scopeHash : String
  status : ConnectedCredentialStatus
  tokenType : Utf16

/-- The constraints of `integration_credentials`. -/
def connectedCredentialSchema : Schema ConnectedCredential where
  checks :=
    [("integration_credentials_material_only_when_active", fun row =>
      (row.status == .active) == (row.ciphertext != ""))]
  indexes :=
    [("integration_credentials_pkey", fun row other => row.id == other.id),
      ("integration_credentials_one_active_per_account", fun row other =>
        row.status == .active && other.status == .active && row.accountId == other.accountId)]

/-- The tables that a connection writes, beside those of the jobs. -/
structure ConnectionTables where
  instagramAccounts : Table connectedAccountSchema
  integrationCredentials : Table connectedCredentialSchema
  /-- The rows of `audit_events` that connections write. -/
  auditTrail : Table auditEventSchema

def ConnectionTables.empty : ConnectionTables := ⟨Table.empty _, Table.empty _, Table.empty _⟩

/-! ### What the database stores -/

/-- A text of the runtime in a column of so many characters; a lone surrogate is replaced on the
way, and a zero is refused. -/
def storedText (limit : ℕ) (text : Utf16) : Option Utf16 :=
  if 0 ∈ text ∨ limit < (Utf8.scalars text).length then none else some (Utf8.toWellFormed text)

/-- A number of the runtime in a column of integers. -/
def storedInteger : JsNumber → Option ℤ
  | .finite value =>
    if value.den = 1 ∧ -2147483648 ≤ value.num ∧ value.num < 2147483648 then some value.num else none
  | _ => none

/-- A value that may be null. -/
def storedOption {α β : Type} (store : α → Option β) : Option α → Option (Option β)
  | none => some none
  | some value => (store value).map some

/-- A date. -/
def storedDate (instant : ℤ) : Option ℤ := if Calendar.IsInstant instant then some instant else none

/-! ### The statements -/

/-- The input of `upsertConnected`. -/
structure ConnectedAccountInput where
  accountType : InstagramAccountType
  apiVersion : String
  grantedScopes : List Utf16
  mediaCount : Option JsNumber
  providerAccountId : Utf16
  tokenExpiresAt : Option ℤ
  username : Option Utf16

/-- The columns of an account as the database takes them. -/
def ConnectedAccountInput.row (input : ConnectedAccountInput) (id workspaceId : String) :
    Option ConnectedAccount := do
  let providerAccountId ← storedText 64 input.providerAccountId
  let grantedScopes ← input.grantedScopes.mapM fun scope => storedText scope.length scope
  let mediaCount ← storedOption storedInteger input.mediaCount
  let tokenExpiresAt ← storedOption storedDate input.tokenExpiresAt
  let username ← storedOption (storedText 120) input.username
  pure { id, workspaceId, providerAccountId, accountType := input.accountType,
         apiVersion := input.apiVersion, connectionStatus := .active, grantedScopes, mediaCount,
         tokenExpiresAt, username }

namespace ConnectionTables

/-- `instagramAccounts.findByProviderAccountId`. -/
def findByProviderAccountId (tables : ConnectionTables) (workspaceId : String)
    (providerAccountId : Utf16) : Option ConnectedAccount :=
  tables.instagramAccounts.findFirst fun row => row.workspaceId == workspaceId &&
    row.providerAccountId == Utf8.toWellFormed providerAccountId

/-- `instagramAccounts.upsertConnected`, with the account and the new tables. -/
def upsertConnected (tables : ConnectionTables) (workspaceId newId : String)
    (input : ConnectedAccountInput) : Option (ConnectedAccount × ConnectionTables) :=
  match tables.findByProviderAccountId workspaceId input.providerAccountId with
  | none =>
    match input.row newId workspaceId with
    | none => none
    | some row =>
      match tables.instagramAccounts.create row with
      | .error _ => none
      | .ok instagramAccounts => some (row, { tables with instagramAccounts })
  | some account =>
    match input.row account.id workspaceId with
    | none => none
    | some row =>
      match tables.instagramAccounts.updateMany (fun _ => row) fun other => other.id == account.id with
      | .error _ => none
      | .ok (instagramAccounts, _) => some (row, { tables with instagramAccounts })

/-- `credentials.activate`. -/
def activate (tables : ConnectionTables) (row : ConnectedCredential) : Option ConnectionTables :=
  match tables.integrationCredentials.updateMany
      (fun other => { other with ciphertext := "", status := .revoked })
      (fun other => other.workspaceId == row.workspaceId && other.accountId == row.accountId &&
        other.status == .active) with
  | .error _ => none
  | .ok (superseded, _) =>
    match storedText 32 row.tokenType with
    | none => none
    | some tokenType =>
      match superseded.create { row with tokenType } with
      | .error _ => none
      | .ok integrationCredentials => some { tables with integrationCredentials }

/-- `audit.record`. -/
def recordAudit (tables : ConnectionTables) (event : AuditEvent) : Option ConnectionTables :=
  match tables.auditTrail.create event with
  | .error _ => none
  | .ok auditTrail => some { tables with auditTrail }

end ConnectionTables

/-! ### The provider -/

/-- `InstagramProviderErrorClass`. -/
inductive InstagramProviderErrorClass
  | authorisation | provider | rateLimit | transport

/-- How a call of the provider ends: with a value, with an `InstagramProviderError`, or with
another exception. -/
inductive ProviderAnswer (α : Type)
  | returned (value : α)
  | refused (errorClass : InstagramProviderErrorClass)
  | threw

/-- `InstagramTokenGrant`. -/
structure InstagramTokenGrant where
  accessToken : Utf16
  expiresAt : Option ℤ
  permissions : List Utf16
  tokenType : Utf16
  deriving DecidableEq

/-- `InstagramIdentity`. -/
structure InstagramIdentity where
  accountType : Utf16
  mediaCount : Option JsNumber
  providerAccountId : Utf16
  username : Option Utf16

/-- `providerErrorToReason`. -/
def providerErrorToReason : InstagramProviderErrorClass → InstagramConnectionDenialReason
  | .authorisation => .consentCancelled
  | _ => .providerError

/-- The name of a reason. -/
def InstagramConnectionDenialReason.name : InstagramConnectionDenialReason → String
  | .stateMissing => "STATE_MISSING"
  | .stateMismatch => "STATE_MISMATCH"
  | .stateExpired => "STATE_EXPIRED"
  | .stateAlreadyUsed => "STATE_ALREADY_USED"
  | .consentCancelled => "CONSENT_CANCELLED"
  | .providerError => "PROVIDER_ERROR"
  | .codeMissing => "CODE_MISSING"
  | .accountTypeIneligible => "ACCOUNT_TYPE_INELIGIBLE"
  | .scopeDowngraded => "SCOPE_DOWNGRADED"
  | .redirectUriInvalid => "REDIRECT_URI_INVALID"
  | .accountMismatch => "ACCOUNT_MISMATCH"

/-! ### One callback -/

/-- The input of `completeInstagramConnection`, with the secret that it is configured with. -/
structure ConnectionInput where
  actor : SessionPrincipal
  authSecret : Utf16
  code : Option Utf16
  correlationId : String
  now : ℤ
  providerError : Option Utf16
  receivedState : Option Utf16
  sealedState : Option Utf16
  deriving DecidableEq

/-- What is known of an account that may be connected. -/
structure InstagramGrant where
  accessToken : Utf16
  expiresAt : Option ℤ
  tokenType : Utf16
  accountType : InstagramAccountType
  providerAccountId : Utf16
  username : Option Utf16
  mediaCount : Option JsNumber
  grantedScopes : List Utf16
  deriving DecidableEq

/-- A refusal: the reason, and what is told with some of the reasons. -/
structure ConnectionRefusal where
  reason : InstagramConnectionDenialReason
  expectedAccountId : Option String := none
  providerAccountType : Option Utf16 := none
  deriving DecidableEq

/-- Where a callback stands. -/
inductive ConnectionPhase
  /-- The code is being exchanged. -/
  | exchanging (code : Utf16)
  | upgrading (shortLived : InstagramTokenGrant)
  | identifying (shortLived longLived : InstagramTokenGrant)
  /-- Another account came back; the one it was started from is being looked up. -/
  | mismatched
  | auditing (refusal : ConnectionRefusal)
  | activating (grant : InstagramGrant)
  | enqueueing (accountId : String)
  | refused (refusal : ConnectionRefusal)
  | connected (accountId : String)
  /-- It threw, or the process died. -/
  | stopped
  deriving DecidableEq

/-- The callback has returned, or will not. -/
def ConnectionPhase.isOver : ConnectionPhase → Bool
  | .refused _ | .connected _ | .stopped => true
  | _ => false

/-- A callback under way. -/
structure ConnectionCallback where
  input : ConnectionInput
  phase : ConnectionPhase
  deriving DecidableEq

/-- An answer to a call of the provider. -/
inductive ProviderReply
  | token (answer : ProviderAnswer InstagramTokenGrant)
  | identity (answer : ProviderAnswer InstagramIdentity)

/-- The scopes that were granted; a grant that does not list them is one of those requested. -/
def InstagramTokenGrant.grantedScopes (shortLived : InstagramTokenGrant) : List Utf16 :=
  if shortLived.permissions ≠ [] then shortLived.permissions else instagramRequiredScopes

/-- What a deployment is configured with. -/
structure ConnectionDeployment where
  platform : Platform
  environment : Environment ConnectionTables
  /-- `encryptCredential`, for an account of a workspace. -/
  encryptCredential : String → String → Utf16 → String
  keyVersion : ℤ
  hashGrantedScopes : List Utf16 → String

namespace ConnectionDeployment

variable (deployment : ConnectionDeployment)

/-- The pending state that the callback presents. -/
def opened (input : ConnectionInput) : Option InstagramSealedState :=
  deployment.platform.openInstagramState input.sealedState input.authSecret

/-- The account that the attempt is bound to. -/
def binding (input : ConnectionInput) : Option Utf16 :=
  (deployment.opened input).bind InstagramSealedState.expectedProviderAccountId

/-- The callback up to its first call of the provider. -/
def begins (input : ConnectionInput) : ConnectionPhase :=
  let opened := deployment.opened input
  if opened.any fun opened => opened.internalUserId != ofString input.actor.internalUserId then
    .auditing { reason := .stateMismatch }
  else
    match deployment.platform.evaluateInstagramCallback
      { code := input.code
        now := input.now
        providerError := input.providerError
        receivedState := input.receivedState
        storedState := opened.map fun opened => ⟨opened.expiresAt, false, opened.state⟩ } with
    | .error reason => .auditing { reason }
    | .ok code => .exchanging code

/-- The callback after it knows the account that came back. -/
def judge (input : ConnectionInput) (shortLived longLived : InstagramTokenGrant)
    (identity : InstagramIdentity) : ConnectionPhase :=
  if instagramReconnectSatisfied (deployment.binding input) identity.providerAccountId = false then
    .mismatched
  else
    match resolveInstagramAccountType identity.accountType with
    | none =>
      .auditing
        { reason := .accountTypeIneligible
          providerAccountType := some (loggableInstagramAccountType identity.accountType) }
    | some accountType =>
      if (evaluateInstagramGrantedScopes shortLived.grantedScopes).satisfied = false then
        .auditing { reason := .scopeDowngraded }
      else
        .activating
          { accessToken := longLived.accessToken
            expiresAt := longLived.expiresAt.or (resolveTokenExpiry none input.now)
            tokenType := longLived.tokenType
            accountType
            providerAccountId := identity.providerAccountId
            username := identity.username
            mediaCount := identity.mediaCount
            grantedScopes := shortLived.grantedScopes }

/-- The callback after an answer of the provider, if it waits for it. -/
def receive (input : ConnectionInput) : ConnectionPhase → ProviderReply → Option ConnectionPhase
  | .exchanging _, .token answer => some (next answer .upgrading)
  | .upgrading shortLived, .token answer => some (next answer (.identifying shortLived))
  | .identifying shortLived longLived, .identity answer =>
    some (next answer (deployment.judge input shortLived longLived))
  | _, _ => none
where
  next {α : Type} (answer : ProviderAnswer α) (returned : α → ConnectionPhase) : ConnectionPhase :=
    match answer with
    | .returned value => returned value
    | .refused errorClass => .auditing { reason := providerErrorToReason errorClass }
    | .threw => .stopped

/-- The identifiers that `createId` supplies for a step. -/
structure CreatedIds where
  accountId : String
  credentialId : String
  auditId : String
  jobId : String
  outboxId : String

/-- An audit event of a connection. -/
def audit (input : ConnectionInput) (auditId action : String)
    (reasonCode resourceId : Option String) (occurredAt : ℤ) : AuditEvent where
  id := auditId
  workspaceId := input.actor.workspaceId
  actorType := .user
  actorUserId := some input.actor.internalUserId
  actorService := none
  action := action
  resourceType := "instagram_account"
  resourceId := resourceId
  outcome := none
  reasonCode := reasonCode
  correlationId := input.correlationId
  occurredAt := occurredAt

/-- The transaction that connects an account, with the account's identifier. -/
def connect (input : ConnectionInput) (grant : InstagramGrant) (ids : CreatedIds) (clock : ℤ)
    (tables : ConnectionTables) : Option (String × ConnectionTables) := do
  let (account, tables) ← tables.upsertConnected input.actor.workspaceId ids.accountId
    { accountType := grant.accountType
      apiVersion := instagramApiVersion
      grantedScopes := grant.grantedScopes
      mediaCount := grant.mediaCount
      providerAccountId := grant.providerAccountId
      tokenExpiresAt := grant.expiresAt
      username := grant.username }
  let tables ← tables.activate
    { id := ids.credentialId
      workspaceId := input.actor.workspaceId
      accountId := account.id
      ciphertext := deployment.encryptCredential account.id input.actor.workspaceId grant.accessToken
      expiresAt := grant.expiresAt
      issuedAt := input.now
      keyVersion := deployment.keyVersion
      scopeHash := deployment.hashGrantedScopes grant.grantedScopes
      status := .active
      tokenType := grant.tokenType }
  let tables ← tables.recordAudit
    (audit input ids.auditId "instagram.connection.activated" none (some account.id) clock)
  pure (account.id, tables)

/-- The input of the first synchronisation of an account. -/
def bootstrapSync (input : ConnectionInput) (accountId : String) : EnqueueBackgroundJobInput where
  correlationId := input.correlationId
  handlerVersion := 1
  idempotencyKey := "instagram-bootstrap-sync-" ++ accountId
  inputVersion := none
  maxAttempts := none
  priority := none
  queueName := "instagram.sync.account"
  resourceId := some accountId
  resourceType := some "instagram_account"

end ConnectionDeployment

open ConnectionDeployment

/-! ### The system -/

/-- The callbacks beside the job framework, with the states that were sealed. -/
structure ConnectionSystem where
  system : System ConnectionTables
  seals : List InstagramSealInput
  callbacks : ℕ → Option ConnectionCallback

/-- What is sealed when a connection is started: for whom, under which secret, when, with which
random bytes, and from which account if from one. -/
structure StartedConnection where
  actor : SessionPrincipal
  authSecret : Utf16
  now : ℤ
  randomBytes : List UInt8
  expectedProviderAccountId : Option Utf16

/-- The input that `startInstagramConnection` gives to `sealInstagramState`. -/
def StartedConnection.sealInput (started : StartedConnection) : InstagramSealInput where
  expectedProviderAccountId := started.expectedProviderAccountId
  expiresAt := started.now + instagramStateLifetimeSeconds * 1000
  internalUserId := ofString started.actor.internalUserId
  secret := started.authSecret
  state := Base64.encode started.randomBytes

/-- What may happen to the system. -/
inductive ConnectionEvent
  /-- The job framework or the rest of the application takes a step. -/
  | framework (event : Event ConnectionTables)
  /-- `startInstagramConnection` seals a state. -/
  | start (started : StartedConnection)
  | begin (cid : ℕ) (input : ConnectionInput)
  | answer (cid : ℕ) (reply : ProviderReply)
  /-- The callback takes its next transaction. -/
  | advance (cid : ℕ) (ids : CreatedIds)
  /-- The callback throws, or its process dies. -/
  | stop (cid : ℕ)

/-- The callback that an event is a step of. -/
def ConnectionEvent.callback? : ConnectionEvent → Option ℕ
  | .begin cid _ | .answer cid _ | .advance cid _ | .stop cid => some cid
  | .framework _ | .start _ => none

namespace ConnectionSystem

variable (deployment : ConnectionDeployment)

/-- The system with a callback. -/
def setCallback (s : ConnectionSystem) (cid : ℕ) (callback : ConnectionCallback) :
    ConnectionSystem := { s with callbacks := update s.callbacks cid (some callback) }

/-- A callback enters its next phase. -/
def enter (s : ConnectionSystem) (cid : ℕ) (callback : ConnectionCallback)
    (phase : ConnectionPhase) : ConnectionSystem := s.setCallback cid { callback with phase }

/-- A callback takes a transaction; it stops if the transaction fails. -/
def transact (s : ConnectionSystem) (cid : ℕ) (callback : ConnectionCallback)
    (effects : List (CommitEffect ConnectionTables)) (phase : ConnectionPhase) :
    Option ConnectionSystem :=
  let call := Call.application effects
  if call.isEnabled s.system.db then
    match s.system.perform call with
    | (.ok _, system) => some ({ s with system }.enter cid callback phase)
    | (.error _, system) => some ({ s with system }.enter cid callback .stopped)
  else none

/-- The next transaction of a callback. -/
def advance (s : ConnectionSystem) (cid : ℕ) (ids : CreatedIds)
    (callback : ConnectionCallback) : Option ConnectionSystem :=
  let input := callback.input
  let db := s.system.db
  match callback.phase with
  | .mismatched =>
    let expected := db.app.findByProviderAccountId input.actor.workspaceId
      ((deployment.binding input).getD [])
    some (s.enter cid callback (.auditing
      { reason := .accountMismatch, expectedAccountId := expected.map ConnectedAccount.id }))
  | .auditing refusal =>
    s.transact cid callback [.write fun db => db.app.recordAudit
      (audit input ids.auditId "instagram.connection.failed"
        (some refusal.reason.name) refusal.expectedAccountId db.clock)] (.refused refusal)
  | .activating grant =>
    match deployment.connect input grant ids db.clock db.app with
    | none => some (s.enter cid callback .stopped)
    | some (accountId, app) =>
      s.transact cid callback [.write fun _ => some app] (.enqueueing accountId)
  | .enqueueing accountId =>
    s.transact cid callback [.enqueue ⟨input.actor.workspaceId⟩
      (bootstrapSync input accountId) ids.jobId ids.outboxId]
      (.connected accountId)
  | _ => none

/-- One step of the system, if the event can happen. -/
def step (s : ConnectionSystem) : ConnectionEvent → Option ConnectionSystem
  | .framework event =>
    (s.system.step deployment.environment event).map fun system => { s with system }
  | .start started =>
    (deployment.platform.sealInstagramState started.sealInput).map fun _ =>
      { s with seals := started.sealInput :: s.seals }
  | .begin cid input =>
    match s.callbacks cid with
    | none => some (s.setCallback cid ⟨input, deployment.begins input⟩)
    | some _ => none
  | .answer cid reply =>
    match s.callbacks cid with
    | none => none
    | some callback =>
      (deployment.receive callback.input callback.phase reply).map (s.enter cid callback)
  | .advance cid ids =>
    match s.callbacks cid with
    | none => none
    | some callback => s.advance deployment cid ids callback
  | .stop cid =>
    match s.callbacks cid with
    | none => none
    | some callback =>
      if callback.phase.isOver then none else some (s.enter cid callback .stopped)

/-- The system takes a step. -/
def Step (s : ConnectionSystem) (event : ConnectionEvent) (t : ConnectionSystem) : Prop :=
  s.step deployment event = some t

/-- A system without callbacks. -/
def initial (clock : ℤ) (internalUsers : List InternalUser) (app : ConnectionTables) :
    ConnectionSystem where
  system := System.initial clock internalUsers app
  seals := []
  callbacks _ := none

/-! ### What a step can be -/

variable {deployment} {s t : ConnectionSystem} {event : ConnectionEvent}
  {ids : CreatedIds} {effects : List (CommitEffect ConnectionTables)}
  {phase : ConnectionPhase} {db : Database ConnectionTables}

/-- The transaction that a callback takes in its phase, and the phase after it. -/
inductive Task (deployment : ConnectionDeployment) (db : Database ConnectionTables)
    (ids : CreatedIds) (callback : ConnectionCallback) :
    List (CommitEffect ConnectionTables) → ConnectionPhase → Prop
  | audits {refusal : ConnectionRefusal} (h : callback.phase = .auditing refusal) :
    Task deployment db ids callback [.write fun db => db.app.recordAudit
      (audit callback.input ids.auditId "instagram.connection.failed"
        (some refusal.reason.name) refusal.expectedAccountId db.clock)] (.refused refusal)
  | activates {grant : InstagramGrant} {accountId : String} {app : ConnectionTables}
    (h : callback.phase = .activating grant)
    (hconnect : deployment.connect callback.input grant ids db.clock db.app =
      some (accountId, app)) :
    Task deployment db ids callback [.write fun _ => some app] (.enqueueing accountId)
  | enqueues {accountId : String} (h : callback.phase = .enqueueing accountId) :
    Task deployment db ids callback [.enqueue ⟨callback.input.actor.workspaceId⟩
      (bootstrapSync callback.input accountId) ids.jobId ids.outboxId]
      (.connected accountId)

/-- **What a step can be.** -/
inductive Move (deployment : ConnectionDeployment) (s : ConnectionSystem) :
    ConnectionEvent → ConnectionSystem → Prop
  | framework {event : Event ConnectionTables} {system : System ConnectionTables}
    (h : System.Step deployment.environment s.system event system) :
    Move deployment s (.framework event) { s with system }
  | starts {started : StartedConnection} (h : Calendar.IsInstant started.sealInput.expiresAt) :
    Move deployment s (.start started) { s with seals := started.sealInput :: s.seals }
  | begins {cid : ℕ} {input : ConnectionInput} (h : s.callbacks cid = none) :
    Move deployment s (.begin cid input) (s.setCallback cid ⟨input, deployment.begins input⟩)
  | receives {cid : ℕ} {reply : ProviderReply} {callback : ConnectionCallback}
    {phase : ConnectionPhase} (h : s.callbacks cid = some callback)
    (hreceive : deployment.receive callback.input callback.phase reply = some phase) :
    Move deployment s (.answer cid reply) (s.enter cid callback phase)
  | searches {cid : ℕ} {ids : CreatedIds} {callback : ConnectionCallback}
    {refusal : ConnectionRefusal} (h : s.callbacks cid = some callback)
    (hphase : callback.phase = .mismatched) :
    Move deployment s (.advance cid ids) (s.enter cid callback (.auditing refusal))
  | commits {cid : ℕ} {ids : CreatedIds} {callback : ConnectionCallback}
    {effects : List (CommitEffect ConnectionTables)} {phase : ConnectionPhase}
    {system : System ConnectionTables} (h : s.callbacks cid = some callback)
    (htask : Task deployment s.system.db ids callback effects phase)
    (hsystem : System.Step deployment.environment s.system (.command (.application effects)) system)
    (hcommit : (commitResult effects).commit s.system.db = (.ok (), system.db)) :
    Move deployment s (.advance cid ids) ({ s with system }.enter cid callback phase)
  | fails {cid : ℕ} {ids : CreatedIds} {callback : ConnectionCallback}
    {effects : List (CommitEffect ConnectionTables)} {phase : ConnectionPhase}
    {system : System ConnectionTables} (h : s.callbacks cid = some callback)
    (htask : Task deployment s.system.db ids callback effects phase)
    (hsystem : System.Step deployment.environment s.system (.command (.application effects)) system)
    (hdb : system.db = s.system.db) :
    Move deployment s (.advance cid ids) ({ s with system }.enter cid callback .stopped)
  | stops {cid : ℕ} {callback : ConnectionCallback} {event : ConnectionEvent}
    (hevent : event = .stop cid ∨ ∃ ids, event = .advance cid ids)
    (h : s.callbacks cid = some callback) (hover : callback.phase.isOver = false) :
    Move deployment s event (s.enter cid callback .stopped)

/-- A transaction of a callback commits or fails. -/
theorem move_of_transact {cid : ℕ} {callback : ConnectionCallback}
    (h : s.callbacks cid = some callback)
    (htask : Task deployment s.system.db ids callback effects phase)
    (htransact : s.transact cid callback effects phase = some t) :
    Move deployment s (.advance cid ids) t := by
  unfold transact at htransact
  dsimp only at htransact
  split at htransact
  · next henabled =>
    have hsystem : System.Step deployment.environment s.system (.command (.application effects))
        (s.system.perform (.application effects)).2 := if_pos henabled
    unfold System.perform at htransact hsystem
    cases hcommit : (Call.application effects).body.commit s.system.db with
    | mk answer db =>
      rw [hcommit] at htransact hsystem
      cases answer with
      | ok value =>
        cases htransact
        exact .commits h htask hsystem hcommit
      | error error =>
        cases htransact
        exact .fails h htask hsystem (Transaction.commit_eq_error hcommit)
  · cases htransact

/-- Every step is a move. -/
theorem Step.move (hstep : Step deployment s event t) : Move deployment s event t := by
  cases event with
  | framework event =>
    obtain ⟨system, hsystem, rfl⟩ := Option.map_eq_some_iff.mp hstep
    exact .framework hsystem
  | start started =>
    obtain ⟨sealed, hsealed, rfl⟩ := Option.map_eq_some_iff.mp hstep
    unfold Platform.sealInstagramState at hsealed
    split at hsealed
    · next hinstant => exact .starts hinstant
    · cases hsealed
  | begin cid input =>
    simp only [Step, step] at hstep
    split at hstep
    · next hnone =>
      cases hstep
      exact .begins hnone
    · cases hstep
  | answer cid reply =>
    simp only [Step, step] at hstep
    split at hstep
    · cases hstep
    · next callback hcallback =>
      obtain ⟨phase, hreceive, rfl⟩ := Option.map_eq_some_iff.mp hstep
      exact .receives hcallback hreceive
  | advance cid ids =>
    simp only [Step, step] at hstep
    split at hstep
    · cases hstep
    · next callback hcallback =>
      unfold advance at hstep
      dsimp only at hstep
      split at hstep
      · next hphase =>
        cases hstep
        exact .searches hcallback hphase
      · next refusal hphase => exact move_of_transact hcallback (.audits hphase) hstep
      · next grant hphase =>
        split at hstep
        · cases hstep
          exact .stops (.inr ⟨ids, rfl⟩) hcallback (by rw [hphase]; rfl)
        · next accountId app hconnect =>
          exact move_of_transact hcallback (.activates hphase hconnect) hstep
      · next accountId hphase => exact move_of_transact hcallback (.enqueues hphase) hstep
      · cases hstep
  | stop cid =>
    simp only [Step, step] at hstep
    split at hstep
    · cases hstep
    · next callback hcallback =>
      split at hstep
      · cases hstep
      · next hover =>
        cases hstep
        exact .stops (.inl rfl) hcallback (Bool.not_eq_true _ ▸ hover)

/-- How a callback goes on. -/
inductive Next (deployment : ConnectionDeployment) (input : ConnectionInput) :
    ConnectionPhase → ConnectionPhase → Prop
  | receives {phase phase' : ConnectionPhase} {reply : ProviderReply}
    (h : deployment.receive input phase reply = some phase') : Next deployment input phase phase'
  | searches {refusal : ConnectionRefusal} : Next deployment input .mismatched (.auditing refusal)
  | audits {refusal : ConnectionRefusal} :
    Next deployment input (.auditing refusal) (.refused refusal)
  | activates {grant : InstagramGrant} {accountId : String} :
    Next deployment input (.activating grant) (.enqueueing accountId)
  | enqueues {accountId : String} :
    Next deployment input (.enqueueing accountId) (.connected accountId)
  | stops {phase : ConnectionPhase} (h : phase.isOver = false) :
    Next deployment input phase .stopped

theorem Task.next {callback : ConnectionCallback}
    (h : Task deployment db ids callback effects phase) :
    Next deployment callback.input callback.phase phase := by
  cases h with
  | audits hphase => exact hphase ▸ .audits
  | activates hphase _ => exact hphase ▸ .activates
  | enqueues hphase => exact hphase ▸ .enqueues

private theorem Task.isOver {callback : ConnectionCallback}
    (h : Task deployment db ids callback effects phase) :
    callback.phase.isOver = false := by
  cases h with
  | audits hphase | activates hphase _ | enqueues hphase => rw [hphase]; rfl

private theorem callbacks_enter {cid other : ℕ} {callback callback' : ConnectionCallback}
    (h : (s.enter cid callback phase).callbacks other = some callback') :
    s.callbacks other = some callback' ∨ other = cid ∧ callback' = { callback with phase } := by
  by_cases heq : other = cid
  · subst heq
    right
    refine ⟨rfl, ?_⟩
    have hself : (s.enter other callback phase).callbacks other =
        some { callback with phase } := update_self _ _ _
    exact Option.some.inj (h.symm.trans hself)
  · exact .inl ((update_of_ne heq _ _).symm.trans h)

private theorem isSome_enter {cid other : ℕ} {callback : ConnectionCallback}
    (h : (s.callbacks other).isSome) :
    ((s.enter cid callback phase).callbacks other).isSome := by
  unfold enter setCallback
  dsimp only
  by_cases heq : other = cid
  · rw [heq, update_self]
    rfl
  · rwa [update_of_ne heq]

theorem Move.isSome (h : Move deployment s event t) {cid : ℕ}
    (hbefore : (s.callbacks cid).isSome) : (t.callbacks cid).isSome := by
  cases h with
  | framework | starts => exact hbefore
  | @begins other input hnone =>
    have hne : cid ≠ other := by
      rintro rfl
      rw [hnone] at hbefore
      cases hbefore
    exact (congrArg Option.isSome (update_of_ne hne _ _)).trans hbefore
  | _ => exact isSome_enter hbefore

/-- **Where a callback comes from**: it was there, it begins, or it goes on. -/
theorem Move.callback (h : Move deployment s event t) {cid : ℕ} {callback' : ConnectionCallback}
    (hafter : t.callbacks cid = some callback') :
    s.callbacks cid = some callback' ∨
      (∃ input, event = .begin cid input ∧ s.callbacks cid = none ∧
        callback' = ⟨input, deployment.begins input⟩) ∨
      ∃ callback, event.callback? = some cid ∧ s.callbacks cid = some callback ∧
        callback'.input = callback.input ∧
        Next deployment callback.input callback.phase callback'.phase := by
  cases h with
  | framework | starts => exact .inl hafter
  | @begins other input hnone =>
    by_cases heq : cid = other
    · subst heq
      right; left
      have hself : (s.setCallback cid ⟨input, deployment.begins input⟩).callbacks cid =
          some ⟨input, deployment.begins input⟩ := update_self _ _ _
      exact ⟨input, rfl, hnone, Option.some.inj (hafter.symm.trans hself)⟩
    · exact .inl ((update_of_ne heq _ _).symm.trans hafter)
  | receives hcallback hreceive =>
    rcases callbacks_enter hafter with hsame | ⟨rfl, rfl⟩
    · exact .inl hsame
    · exact .inr (.inr ⟨_, rfl, hcallback, rfl, .receives hreceive⟩)
  | searches hcallback hphase =>
    rcases callbacks_enter hafter with hsame | ⟨rfl, rfl⟩
    · exact .inl hsame
    · exact .inr (.inr ⟨_, rfl, hcallback, rfl, hphase ▸ .searches⟩)
  | commits hcallback htask _ _ =>
    rcases callbacks_enter hafter with hsame | ⟨rfl, rfl⟩
    · exact .inl hsame
    · exact .inr (.inr ⟨_, rfl, hcallback, rfl, htask.next⟩)
  | fails hcallback htask _ _ =>
    rcases callbacks_enter hafter with hsame | ⟨rfl, rfl⟩
    · exact .inl hsame
    · exact .inr (.inr ⟨_, rfl, hcallback, rfl, .stops htask.isOver⟩)
  | @stops other callback event hevent hcallback hover =>
    rcases callbacks_enter hafter with hsame | ⟨rfl, rfl⟩
    · exact .inl hsame
    · refine .inr (.inr ⟨_, ?_, hcallback, rfl, .stops hover⟩)
      rcases hevent with rfl | ⟨ids, rfl⟩ <;> rfl

end ConnectionSystem

end ContentAutomation
