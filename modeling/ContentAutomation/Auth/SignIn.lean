import ContentAutomation.Jobs.Database
import ContentAutomation.Library.RowLocks
import ContentAutomation.Library.Transition

/-!
# Signing in

Any number of `authoriseOidcIdentity` and `setInternalUserStatus` calls run at once, each in
a transaction of its own under READ COMMITTED. A call reads the rows that it judges, updates
one row of `internal_users` by its identifier, writes its audit event and commits. The update
waits for the transaction that holds the row, and then applies to the version it finds.
-/

namespace ContentAutomation.Auth

open Relational List Function

/-- A row of `internal_users`. -/
structure InternalUser where
  id : String
  workspaceId : String
  oidcSubject : Option String
  email : String
  displayName : Option String
  status : AccountStatus
  role : InternalUserRole
  sessionVersion : ℤ
  lastLoginAt : Option ℤ
  deriving DecidableEq

/-- A row of `workspaces`. -/
structure Workspace where
  id : String
  status : AccountStatus

/-- What the calls find around them. -/
structure Environment where
  workspaces : List Workspace
  /-- How `CITEXT` folds an email. -/
  lower : String → String
  hashEmail : String → String

/-- The constraints of `internal_users`. -/
def internalUserSchema (lower : String → String) : Schema InternalUser where
  checks := [
    ("internal_users_session_version_positive_check", fun row => decide (0 < row.sessionVersion)),
    ("session_version", fun row => decide (row.sessionVersion ≤ 2147483647)),
    ("oidc_subject", fun row => decide ((row.oidcSubject.getD "").length ≤ 255)),
    ("display_name", fun row => decide ((row.displayName.getD "").length ≤ 160))]
  indexes := [
    ("internal_users_pkey", fun row other => row.id == other.id),
    ("internal_users_workspace_id_oidc_subject_key", fun row other =>
      row.workspaceId == other.workspaceId && row.oidcSubject.isSome &&
        row.oidcSubject == other.oidcSubject),
    ("internal_users_workspace_id_email_key", fun row other =>
      row.workspaceId == other.workspaceId && lower row.email == lower other.email)]

theorem internalUserSchema_keyedBy_id (lower : String → String) :
    (internalUserSchema lower).KeyedBy InternalUser.id :=
  ⟨_, mem_cons_self, fun _ _ heq => beq_iff_eq.mpr heq⟩

/-! ### Sign-ins -/

/-- `SignInDenialReason`. -/
inductive SignInDenialReason
  | ambiguousIdentity | inactiveUser | inactiveWorkspace | subjectMismatch | unlistedIdentity
  deriving DecidableEq

/-- The reason in lower case. -/
def SignInDenialReason.text : SignInDenialReason → String
  | .ambiguousIdentity => "ambiguous_identity"
  | .inactiveUser => "inactive_user"
  | .inactiveWorkspace => "inactive_workspace"
  | .subjectMismatch => "subject_mismatch"
  | .unlistedIdentity => "unlisted_identity"

/-- `VerifiedOidcIdentity`. -/
structure VerifiedOidcIdentity where
  displayName : Option String
  email : String
  subject : String

/-- `SessionPrincipal`. -/
structure SessionPrincipal where
  internalUserId : String
  sessionVersion : ℤ
  workspaceId : String
  deriving DecidableEq

/-- `SignInDecision`. -/
inductive SignInDecision
  | allowed (principal : SessionPrincipal)
  | denied (reason : SignInDenialReason)
  deriving DecidableEq

/-- The principal of a row. -/
def InternalUser.principal (user : InternalUser) : SessionPrincipal :=
  ⟨user.id, user.sessionVersion, user.workspaceId⟩

/-- The workspace with an identifier is `ACTIVE`. -/
def Environment.isActive (environment : Environment) (workspaceId : String) : Bool :=
  environment.workspaces.any fun workspace =>
    workspace.id == workspaceId && workspace.status == .active

/-- `candidate.oidcSubject && candidate.oidcSubject !== identity.subject`: an empty subject
counts as none. -/
def InternalUser.isMismatch (candidate : InternalUser) (subject : String) : Bool :=
  match candidate.oidcSubject with
  | none => false
  | some bound => bound != "" && bound != subject

/-- How `authoriseOidcIdentity` judges the candidates that it has read: it denies them, with
the candidate if there is exactly one, or goes on with it. -/
def judgeCandidates (environment : Environment) (subject : String) :
    List InternalUser → Except (SignInDenialReason × Option InternalUser) InternalUser
  | [] => .error (.unlistedIdentity, none)
  | [candidate] =>
    if environment.isActive candidate.workspaceId = false then
      .error (.inactiveWorkspace, some candidate)
    else if candidate.status ≠ .active then .error (.inactiveUser, some candidate)
    else if candidate.isMismatch subject then .error (.subjectMismatch, some candidate)
    else .ok candidate
  | _ => .error (.ambiguousIdentity, none)

/-- One call of `authoriseOidcIdentity`, with the identifier of its audit event. -/
structure SignInCall where
  identity : VerifiedOidcIdentity
  correlationId : String
  now : ℤ
  auditId : String

/-- The row after the sign-in of a candidate. -/
def SignInCall.signedIn (call : SignInCall) (candidate row : InternalUser) : InternalUser :=
  { row with
    displayName := call.identity.displayName.or candidate.displayName
    lastLoginAt := some call.now
    oidcSubject := candidate.oidcSubject.or (some call.identity.subject) }

/-- The audit event of an allowed sign-in. -/
def SignInCall.succeeded (call : SignInCall) (user : InternalUser) : AuditEvent where
  id := call.auditId
  workspaceId := user.workspaceId
  actorType := .user
  actorUserId := some user.id
  actorService := none
  action := "auth.sign_in.succeeded"
  resourceType := "internal_user"
  resourceId := some user.id
  outcome := none
  reasonCode := none
  correlationId := call.correlationId
  occurredAt := call.now

/-- The audit event of a denied sign-in. -/
def SignInCall.refused (call : SignInCall) (reason : SignInDenialReason)
    (workspaceId resourceId : String) : AuditEvent where
  id := call.auditId
  workspaceId
  actorType := .service
  actorUserId := none
  actorService := some "web"
  action := "auth.sign_in.denied"
  resourceType := reason.text
  resourceId := some resourceId
  outcome := none
  reasonCode := none
  correlationId := call.correlationId
  occurredAt := call.now

/-! ### Statuses -/

/-- One call of `setInternalUserStatus`, with the identifier of its audit event. -/
structure StatusCall where
  actorUserId : String
  correlationId : String
  status : AccountStatus
  targetUserId : String
  workspaceId : String
  now : ℤ
  auditId : String

/-- The row after its status has been set. -/
def StatusCall.updated (call : StatusCall) (row : InternalUser) : InternalUser :=
  { row with sessionVersion := row.sessionVersion + 1, status := call.status }

/-- The audit event of a changed status. -/
def StatusCall.changed (call : StatusCall) (actorUserId targetUserId : String) : AuditEvent where
  id := call.auditId
  workspaceId := call.workspaceId
  actorType := .user
  actorUserId := some actorUserId
  actorService := none
  action := "auth.user_status.changed"
  resourceType := "internal_user"
  resourceId := some targetUserId
  outcome := none
  reasonCode := none
  correlationId := call.correlationId
  occurredAt := call.now

/-! ### Calls that race -/

/-- A call. -/
inductive AuthCall
  | authoriseOidcIdentity (call : SignInCall)
  | setInternalUserStatus (call : StatusCall)

/-- What a call returns. -/
inductive AuthResult
  | decision (decision : SignInDecision)
  | status (principal : Option SessionPrincipal)
  deriving DecidableEq

/-- The principal in a result. -/
def AuthResult.principal? : AuthResult → Option SessionPrincipal
  | .decision (.allowed principal) => some principal
  | .decision (.denied _) => none
  | .status principal => principal

/-- How far a call has come. -/
inductive AuthPhase
  /-- Before its first query. -/
  | reading
  /-- A sign-in without a candidate, before it looks for the workspace to audit it in. -/
  | readingWorkspaces (reason : SignInDenialReason)
  /-- Before the query for the target of a status. -/
  | readingTarget (actor : Option InternalUser)
  /-- The row that was read is accepted, and is about to be updated on behalf of a user. -/
  | updating (user : InternalUser) (actorUserId : String)
  /-- Before the insert of the audit event. -/
  | auditing (event : AuditEvent) (result : AuthResult)
  /-- Its transaction is about to commit. -/
  | committing (event : Option AuditEvent) (result : AuthResult)
  | committed (result : AuthResult)
  /-- The call has thrown, or its process has stopped. -/
  | rolledBack
  deriving DecidableEq

/-- The call and its transaction are over. -/
def AuthPhase.ended : AuthPhase → Bool
  | .committed _ | .rolledBack => true
  | _ => false

/-- What a call does next: its next statement, or nothing ever more. -/
inductive AuthMove
  | advance
  | rollBack

/-- The users under open transactions, the committed audit events, and the phase of each
call. -/
structure AuthSystem (lower : String → String) (ι : Type*) [DecidableEq ι] where
  users : LockedTable (internalUserSchema lower) InternalUser.id ι
  auditEvents : List AuditEvent
  phase : ι → AuthPhase

namespace AuthSystem

variable {ι : Type*} [DecidableEq ι] {lower : String → String}

/-- The users before any call has begun. -/
def start (users : Table (internalUserSchema lower)) (ι : Type*) [DecidableEq ι] :
    AuthSystem lower ι where
  users := LockedTable.start users InternalUser.id ι
  auditEvents := []
  phase := fun _ => .reading

/-- The row of a user, as everyone sees it. -/
def user? (s : AuthSystem lower ι) (id : String) : Option InternalUser :=
  s.users.committed.lookup InternalUser.id id

/-- A call enters its next phase. -/
def enter (s : AuthSystem lower ι) (i : ι) (phase : AuthPhase) : AuthSystem lower ι :=
  { s with phase := update s.phase i phase }

/-- A call ends without effect. -/
def giveUp (s : AuthSystem lower ι) (i : ι) : AuthSystem lower ι :=
  { s with
    users := s.users.rollBack i
    phase := update s.phase i .rolledBack }

/-- The transaction of a call commits. -/
def commit (s : AuthSystem lower ι) (i : ι) (event : Option AuditEvent) (result : AuthResult) :
    AuthSystem lower ι where
  users := s.users.commit i
  auditEvents := s.auditEvents ++ event.toList
  phase := update s.phase i (.committed result)

/-- The update of a user is over, or waits, or has thrown. -/
def afterUpdate (s : AuthSystem lower ι) (i : ι) (next : InternalUser → AuthPhase) :
    RowUpdate (internalUserSchema lower) InternalUser.id ι → Option (AuthSystem lower ι)
  | .done user users => some ({ s with users }.enter i (next user))
  | .waits => none
  | .notFound | .refused _ => some (s.giveUp i)

end AuthSystem

section Step

variable {ι : Type*} [DecidableEq ι] (environment : Environment) (calls : ι → AuthCall)

/-- The next statement of `authoriseOidcIdentity`. -/
def authoriseOidcIdentity (s : AuthSystem environment.lower ι) (i : ι) (call : SignInCall) :
    Option (AuthSystem environment.lower ι) :=
  match s.phase i with
  | .reading =>
    let candidates := ((s.users.visible i).rows.filter fun row =>
      environment.lower row.email == environment.lower call.identity.email).take 2
    match judgeCandidates environment call.identity.subject candidates with
    | .error (reason, none) => some (s.enter i (.readingWorkspaces reason))
    | .error (reason, some candidate) =>
      some (s.enter i (.auditing (call.refused reason candidate.workspaceId candidate.id)
        (.decision (.denied reason))))
    | .ok candidate => some (s.enter i (.updating candidate candidate.id))
  | .readingWorkspaces reason =>
    match environment.workspaces.take 2 with
    | [workspace] =>
      some (s.enter i (.auditing
        (call.refused reason workspace.id (environment.hashEmail call.identity.email))
        (.decision (.denied reason))))
    | _ => some (s.enter i (.committing none (.decision (.denied reason))))
  | .updating candidate _ =>
    s.afterUpdate i
      (fun user => .auditing (call.succeeded user) (.decision (.allowed user.principal)))
      (s.users.update i candidate.id (call.signedIn candidate))
  | .auditing event result => some (s.enter i (.committing (some event) result))
  | .committing event result => some (s.commit i event result)
  | .readingTarget _ | .committed _ | .rolledBack => none

/-- The next statement of `setInternalUserStatus`. -/
def setInternalUserStatus (s : AuthSystem environment.lower ι) (i : ι) (call : StatusCall) :
    Option (AuthSystem environment.lower ι) :=
  match s.phase i with
  | .reading =>
    some (s.enter i (.readingTarget ((s.users.visible i).findFirst fun row =>
      row.id == call.actorUserId && row.status == .active &&
        environment.isActive row.workspaceId && row.workspaceId == call.workspaceId)))
  | .readingTarget actor =>
    let target := (s.users.visible i).findFirst fun row =>
      row.id == call.targetUserId && row.workspaceId == call.workspaceId
    match actor, target with
    | some actor, some target => some (s.enter i (.updating target actor.id))
    | _, _ => some (s.enter i (.committing none (.status none)))
  | .updating target actorUserId =>
    s.afterUpdate i
      (fun user => .auditing (call.changed actorUserId target.id) (.status (some user.principal)))
      (s.users.update i target.id call.updated)
  | .auditing event result => some (s.enter i (.committing (some event) result))
  | .committing event result => some (s.commit i event result)
  | .readingWorkspaces _ | .committed _ | .rolledBack => none

/-- One move of one call. -/
def next (s : AuthSystem environment.lower ι) : ι × AuthMove → Option (AuthSystem environment.lower ι)
  | (i, .advance) =>
    match calls i with
    | .authoriseOidcIdentity call => authoriseOidcIdentity environment s i call
    | .setInternalUserStatus call => setInternalUserStatus environment s i call
  | (i, .rollBack) => if (s.phase i).ended then none else some (s.giveUp i)

/-- The steps of the calls. -/
def Step (s : AuthSystem environment.lower ι) (event : ι × AuthMove)
    (t : AuthSystem environment.lower ι) : Prop := next environment calls s event = some t

end Step

/-! ### Sessions -/

section Sessions

variable (environment : Environment) (users : Table (internalUserSchema environment.lower))
  (principal : SessionPrincipal)

/-- `findActiveSessionPrincipal`. -/
def findActiveSessionPrincipal : Option SessionPrincipal :=
  (users.findFirst fun row => row.id == principal.internalUserId &&
    row.sessionVersion == principal.sessionVersion && row.status == .active &&
    environment.isActive row.workspaceId && row.workspaceId == principal.workspaceId).map
    InternalUser.principal

/-- `findActiveAdminPrincipal`. -/
def findActiveAdminPrincipal : Option SessionPrincipal :=
  (users.findFirst fun row => row.id == principal.internalUserId && row.role == .admin &&
    row.sessionVersion == principal.sessionVersion && row.status == .active &&
    environment.isActive row.workspaceId && row.workspaceId == principal.workspaceId).map
    InternalUser.principal

end Sessions

/-! ### What a call does -/

/-- A sign-in with a subject goes on with a candidate. -/
structure Environment.Accepts (environment : Environment) (subject : String)
    (candidate : InternalUser) : Prop where
  workspace : environment.isActive candidate.workspaceId = true
  status : candidate.status = .active
  subject : candidate.isMismatch subject = false

theorem judgeCandidates_eq_ok {environment : Environment} {subject : String}
    {candidates : List InternalUser} {candidate : InternalUser}
    (h : judgeCandidates environment subject candidates = .ok candidate) :
    candidates = [candidate] ∧ environment.Accepts subject candidate := by
  unfold judgeCandidates at h
  split at h
  · cases h
  · split at h
    · cases h
    · next hworkspace =>
      split at h
      · cases h
      · next hstatus =>
        split at h
        · cases h
        · next hsubject =>
          cases h
          exact ⟨rfl, by simpa using hworkspace, not_not.mp hstatus, by simpa using hsubject⟩
  · cases h

/-- What the update of a call makes of a row, given the row that the call has read, and what
the call returns for it. -/
inductive Writes : AuthCall → InternalUser → InternalUser → InternalUser → AuthResult → Prop
  | signsIn {call : SignInCall} {candidate row : InternalUser} :
      Writes (.authoriseOidcIdentity call) candidate row (call.signedIn candidate row)
        (.decision (.allowed (call.signedIn candidate row).principal))
  | setsStatus {call : StatusCall} {target row : InternalUser} :
      Writes (.setInternalUserStatus call) target row (call.updated row)
        (.status (some (call.updated row).principal))

/-- An update keeps the identifier, and its result is the principal of the new version. -/
theorem Writes.spec {call : AuthCall} {user row row' : InternalUser} {result : AuthResult}
    (h : Writes call user row row' result) :
    row'.id = row.id ∧ result.principal? = some row'.principal := by
  cases h <;> exact ⟨rfl, rfl⟩

/-- The result of a call whose transaction has nothing to do but end. -/
def AuthPhase.open? : AuthPhase → Option AuthResult
  | .auditing _ result | .committing _ result => some result
  | _ => none

/-- The call has not read all the rows that it judges. -/
def AuthPhase.isReading : AuthPhase → Bool
  | .reading | .readingWorkspaces _ | .readingTarget _ => true
  | _ => false

theorem AuthPhase.open?_of_isReading {phase : AuthPhase} (h : phase.isReading) :
    phase.open? = none := by
  cases phase <;> first | rfl | cases h

namespace AuthSystem

variable {ι : Type*} [DecidableEq ι] {environment : Environment} {calls : ι → AuthCall}
  {s t : AuthSystem environment.lower ι} {i j : ι}

/-- What a step of a call does. -/
inductive Move (calls : ι → AuthCall) (s : AuthSystem environment.lower ι) (i : ι) :
    AuthMove → AuthSystem environment.lower ι → Prop
  /-- It has read rows, and goes on with one that it accepts, or returns no principal. -/
  | reads {phase : AuthPhase} (hphase : (s.phase i).isReading = true) (hended : phase.ended = false)
      (hread : ∀ user actorUserId, phase = .updating user actorUserId →
        s.user? user.id = some user ∧ ∀ call, calls i = .authoriseOidcIdentity call →
          s.phase i = .reading ∧ environment.Accepts call.identity.subject user)
      (hrefused : ∀ result, phase.open? = some result → result.principal? = none) :
      Move calls s i .advance (s.enter i phase)
  | updates {user row row' : InternalUser} {actorUserId : String} {event : AuditEvent}
      {result : AuthResult} {users : LockedTable (internalUserSchema environment.lower) _ ι}
      (hphase : s.phase i = .updating user actorUserId) (hrow : s.user? user.id = some row)
      (hwrites : Writes (calls i) user row row' result)
      (hcommitted : users.committed = s.users.committed) (hown : users.own i = [row'])
      (hothers : ∀ j, j ≠ i → users.own j = s.users.own j)
      (hfree : ∀ j, j ≠ i → ∀ version ∈ s.users.own j, version.id ≠ row'.id) :
      Move calls s i .advance ({ s with users }.enter i (.auditing event result))
  | audits {event : AuditEvent} {result : AuthResult} (hphase : s.phase i = .auditing event result) :
      Move calls s i .advance (s.enter i (.committing (some event) result))
  | commits {event : Option AuditEvent} {result : AuthResult}
      (hphase : s.phase i = .committing event result) :
      Move calls s i .advance (s.commit i event result)
  | stops {move : AuthMove} (hphase : (s.phase i).ended = false) : Move calls s i move (s.giveUp i)

/-- Where a call stands: what it has written and not yet committed, with the version that
everyone sees. -/
inductive Standing (committed : Table (internalUserSchema environment.lower)) (call : AuthCall) :
    AuthPhase → List InternalUser → Prop
  | idle {phase : AuthPhase} (hopen : phase.open? = none) : Standing committed call phase []
  | refused {phase : AuthPhase} {result : AuthResult} (hopen : phase.open? = some result)
      (hnone : result.principal? = none) : Standing committed call phase []
  | written {phase : AuthPhase} {user row row' : InternalUser} {result : AuthResult}
      (hopen : phase.open? = some result)
      (hrow : committed.lookup InternalUser.id row'.id = some row)
      (hwrites : Writes call user row row' result) : Standing committed call phase [row']

/-- The invariant: every call stands where its statements have brought it. -/
def Inv (calls : ι → AuthCall) (s : AuthSystem environment.lower ι) : Prop :=
  ∀ i, Standing s.users.committed (calls i) (s.phase i) (s.users.own i)

theorem Inv.own_of_not_open (hinv : Inv calls s) (hopen : (s.phase i).open? = none) :
    s.users.own i = [] := by
  have hstanding := hinv i
  generalize s.users.own i = own at hstanding
  cases hstanding with
  | idle => rfl
  | refused hother => exact absurd (hopen.symm.trans hother) (by simp)
  | written hother => exact absurd (hopen.symm.trans hother) (by simp)

private theorem visible_of_own (hown : s.users.own i = []) :
    s.users.visible i = s.users.committed := by
  apply Table.ext
  simp [LockedTable.visible, hown]

private theorem move_of_afterUpdate {user : InternalUser} {actorUserId : String}
    {data : InternalUser → InternalUser} {event : InternalUser → AuditEvent}
    {result : InternalUser → AuthResult} (hinv : Inv calls s)
    (hphase : s.phase i = .updating user actorUserId)
    (hwrites : ∀ row, Writes (calls i) user row (data row) (result (data row)))
    (hafter : s.afterUpdate i (fun row => .auditing (event row) (result row))
      (s.users.update i user.id data) = some t) : Move calls s i .advance t := by
  have hown := hinv.own_of_not_open (i := i) (by rw [hphase]; rfl)
  unfold afterUpdate at hafter
  split at hafter
  · next row' users hdone =>
    cases hafter
    obtain ⟨row, hlookup, rfl, hcommitted, hown', hothers, hlocked⟩ :=
      LockedTable.of_update_done hdone
    rw [visible_of_own hown] at hlookup
    rw [hown] at hown'
    refine .updates hphase hlookup (hwrites row) hcommitted hown' hothers ?_
    intro j hne version hversion heq
    have hfree := any_eq_false.mp hlocked _ (mem_ownRows.mp hversion)
    simp [hne, heq] at hfree
  · cases hafter
  · cases hafter
    exact .stops (by rw [hphase]; rfl)
  · cases hafter
    exact .stops (by rw [hphase]; rfl)

/-- **Inversion of steps.** -/
theorem Inv.move {move : AuthMove} (hinv : Inv calls s)
    (hstep : Step environment calls s (i, move) t) : Move calls s i move t := by
  unfold Step next at hstep
  cases move with
  | rollBack =>
    simp only at hstep
    split at hstep
    · cases hstep
    · next hended =>
      cases hstep
      exact .stops (by simpa using hended)
  | advance =>
    simp only at hstep
    cases hcall : calls i with
    | authoriseOidcIdentity call =>
      rw [hcall] at hstep
      simp only [authoriseOidcIdentity] at hstep
      split at hstep
      · next hphase =>
        have hopen : (s.phase i).isReading = true := by rw [hphase]; rfl
        rw [visible_of_own (hinv.own_of_not_open (AuthPhase.open?_of_isReading hopen))] at hstep
        split at hstep
        · cases hstep
          exact .reads hopen rfl (by rintro _ _ ⟨⟩) (by rintro _ ⟨⟩)
        · cases hstep
          refine .reads hopen rfl (by rintro _ _ ⟨⟩) ?_
          rintro result ⟨⟩
          rfl
        · next candidate hjudged =>
          cases hstep
          obtain ⟨hcandidates, haccepts⟩ := judgeCandidates_eq_ok hjudged
          refine .reads hopen rfl ?_ (by rintro _ ⟨⟩)
          rintro user actorUserId ⟨⟩
          have hmem : candidate ∈ s.users.committed.rows :=
            (mem_filter.mp (mem_of_mem_take
              (hcandidates ▸ mem_singleton_self candidate))).1
          refine ⟨(Table.lookup_eq_some (internalUserSchema_keyedBy_id _)).mpr ⟨hmem, rfl⟩, ?_⟩
          intro call' hcall'
          rw [hcall] at hcall'
          cases hcall'
          exact ⟨hphase, haccepts⟩
      · next reason hphase =>
        have hopen : (s.phase i).isReading = true := by rw [hphase]; rfl
        split at hstep <;> cases hstep
        all_goals
          refine .reads hopen rfl (by rintro _ _ ⟨⟩) ?_
          rintro result ⟨⟩
          rfl
      · next candidate actorUserId hphase =>
        exact move_of_afterUpdate hinv hphase (fun row => hcall ▸ .signsIn) hstep
      · next event result hphase =>
        cases hstep
        exact .audits hphase
      · next event result hphase =>
        cases hstep
        exact .commits hphase
      · cases hstep
      · cases hstep
      · cases hstep
    | setInternalUserStatus call =>
      rw [hcall] at hstep
      simp only [setInternalUserStatus] at hstep
      split at hstep
      · next hphase =>
        cases hstep
        exact .reads (by rw [hphase]; rfl) rfl (by rintro _ _ ⟨⟩) (by rintro _ ⟨⟩)
      · next actor hphase =>
        have hopen : (s.phase i).isReading = true := by rw [hphase]; rfl
        rw [visible_of_own (hinv.own_of_not_open (AuthPhase.open?_of_isReading hopen))] at hstep
        split at hstep
        · next actor target hactor htarget =>
          cases hstep
          refine .reads hopen rfl ?_ (by rintro _ ⟨⟩)
          rintro user actorUserId ⟨⟩
          refine ⟨(Table.lookup_eq_some (internalUserSchema_keyedBy_id _)).mpr
            ⟨mem_of_find?_eq_some htarget, rfl⟩, ?_⟩
          intro call' hcall'
          rw [hcall] at hcall'
          cases hcall'
        · cases hstep
          refine .reads hopen rfl (by rintro _ _ ⟨⟩) ?_
          rintro result ⟨⟩
          rfl
      · next target actorUserId hphase =>
        exact move_of_afterUpdate hinv hphase (fun row => hcall ▸ .setsStatus) hstep
      · next event result hphase =>
        cases hstep
        exact .audits hphase
      · next event result hphase =>
        cases hstep
        exact .commits hphase
      · cases hstep
      · cases hstep
      · cases hstep

theorem step_of_committing {event : Option AuditEvent} {result : AuthResult}
    (hphase : s.phase i = .committing event result)
    (hstep : Step environment calls s (i, .advance) t) : t = s.commit i event result := by
  simp only [Step, next] at hstep
  cases hcall : calls i <;> rw [hcall] at hstep <;>
    simp only [authoriseOidcIdentity, setInternalUserStatus, hphase] at hstep <;>
    exact (Option.some.inj hstep).symm

/-- **What a commit does**: nothing to the users, or it replaces the row that the call has
updated. -/
theorem Inv.commit_cases {event : Option AuditEvent} {result : AuthResult} (hinv : Inv calls s)
    (hphase : s.phase i = .committing event result) :
    (result.principal? = none ∧ ∀ id, (s.commit i event result).user? id = s.user? id) ∨
      ∃ user row row', s.users.own i = [row'] ∧ s.user? row'.id = some row ∧
        Writes (calls i) user row row' result ∧ ∀ id, (s.commit i event result).user? id =
          if row'.id = id then some row' else s.user? id := by
  have hlookup : ∀ id, (s.commit i event result).user? id =
      (s.user? id).map (currentVersion InternalUser.id (s.users.own i)) :=
    fun id => s.users.visible_lookup i id
  have hstanding := hinv i
  generalize hown : s.users.own i = own at hstanding hlookup
  cases hstanding with
  | idle hopen =>
    rw [hphase] at hopen
    cases hopen
  | refused hopen hnone =>
    rw [hphase] at hopen
    cases hopen
    exact .inl ⟨hnone, fun id => (hlookup id).trans (by cases s.user? id <;> rfl)⟩
  | @written user row row' _ hopen hrow hwrites =>
    rw [hphase] at hopen
    cases hopen
    refine .inr ⟨user, row, row', rfl, hrow, hwrites, fun id => ?_⟩
    rw [hlookup]
    by_cases heq : row'.id = id
    · subst heq
      have hfound : s.user? row'.id = some row := hrow
      rw [hfound, Option.map_some, currentVersion_singleton, if_pos hwrites.spec.1, if_pos rfl]
    · cases hfound : s.user? id with
      | none => simp [heq]
      | some found =>
        have hid := (Table.lookup_spec hfound).2
        simp [heq, currentVersion_singleton, hid]

/-- Every move keeps the invariant. -/
theorem Inv.after {move : AuthMove} (hinv : Inv calls s) (hmove : Move calls s i move t) :
    Inv calls t := by
  intro j
  cases hmove with
  | @reads phase hphase hended hread hrefused =>
    by_cases hj : j = i
    · subst hj
      simp only [enter, update_self,
        hinv.own_of_not_open (AuthPhase.open?_of_isReading hphase)]
      cases hopen : phase.open? with
      | none => exact .idle hopen
      | some result => exact .refused hopen (hrefused result hopen)
    · simp only [enter, update_of_ne hj]
      exact hinv j
  | updates hphase hrow hwrites hcommitted hown hothers hfree =>
    by_cases hj : j = i
    · subst hj
      simp only [enter, update_self, hown, hcommitted]
      refine .written rfl ?_ hwrites
      rw [hwrites.spec.1, (Table.lookup_spec hrow).2]
      exact hrow
    · simp only [enter, update_of_ne hj, hothers j hj, hcommitted]
      exact hinv j
  | @audits event result hphase =>
    have hstanding := hinv j
    by_cases hj : j = i
    · subst hj
      simp only [enter, update_self]
      rw [hphase] at hstanding
      generalize s.users.own j = own at hstanding ⊢
      cases hstanding with
      | idle hopen => cases hopen
      | refused hopen hnone => exact .refused hopen hnone
      | written hopen hrow hwrites => exact .written hopen hrow hwrites
    · simp only [enter, update_of_ne hj]
      exact hstanding
  | @commits event result hphase =>
    by_cases hj : j = i
    · subst hj
      simp only [commit, update_self, LockedTable.commit_own_self]
      exact .idle rfl
    · have hstanding := hinv j
      simp only [commit, update_of_ne hj, LockedTable.commit_own_of_ne (Ne.symm hj)]
      generalize hown : s.users.own j = own at hstanding ⊢
      cases hstanding with
      | idle hopen => exact .idle hopen
      | refused hopen hnone => exact .refused hopen hnone
      | @written user row row' _ hopen hrow hwrites =>
        refine .written hopen ?_ hwrites
        -- the row that the other call holds is not the one that is committed
        show (s.commit i event result).user? row'.id = some row
        rcases hinv.commit_cases hphase with ⟨-, hsame⟩ | ⟨_, _, version, hversion, -, -, hsame⟩
        · rw [hsame]
          exact hrow
        · have hne : version.id ≠ row'.id := LockedTable.key_ne_of_own (Ne.symm hj)
            (hversion ▸ mem_singleton_self _) (hown ▸ mem_singleton_self _)
          rw [hsame, if_neg hne]
          exact hrow
  | stops hphase =>
    by_cases hj : j = i
    · subst hj
      simp only [giveUp, update_self, LockedTable.rollBack_own_self]
      exact .idle rfl
    · simp only [giveUp, update_of_ne hj, LockedTable.rollBack_own_of_ne (Ne.symm hj)]
      exact hinv j

theorem inv_start (users : Table (internalUserSchema environment.lower)) :
    Inv calls (start users ι) := fun _ => .idle rfl

theorem inv_of_reachable {users : Table (internalUserSchema environment.lower)}
    (hrun : Transition.Reachable (Step environment calls) (start users ι) s) : Inv calls s := by
  refine hrun.invariant (inv_start users) ?_
  rintro s t ⟨i, move⟩ hinv hstep
  exact hinv.after (hinv.move hstep)

end AuthSystem

end ContentAutomation.Auth
