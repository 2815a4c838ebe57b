import Mathlib.Data.Finset.Card
import ContentAutomation.Jobs.Operations
import ContentAutomation.Library.Isolation
import ContentAutomation.Library.Transition

/-!
# Racing operator commands

Any number of `cancelBackgroundJob` and `retryBackgroundJob` calls run at once, each in a
transaction of its own. Under READ COMMITTED a call counts the audit events of the calls that
have committed. One that has passed and not yet committed is not among them.
-/

namespace ContentAutomation

open Relational Transaction

variable {ι : Type*} [DecidableEq ι]

/-- One call of `cancelBackgroundJob` or `retryBackgroundJob` whose input was accepted, with the
identifier that is generated for its audit event. -/
structure OperationCall where
  prepared : PreparedOperation
  action : OperatorAction
  auditId : String

namespace OperationCall

/-- The time of the call. -/
def now (call : OperationCall) : ℤ := call.prepared.operationAt

/-- The user that gives the command. -/
def operator (call : OperationCall) : String × String :=
  (call.prepared.principal.internalUserId, call.prepared.principal.workspaceId)

/-- The users that the query for the operator selects. -/
def selectsActor (call : OperationCall) (user : InternalUser) : Bool :=
  user.id == call.prepared.principal.internalUserId &&
    user.sessionVersion == call.prepared.principal.sessionVersion && user.status == .active &&
    user.workspaceStatus == .active && user.workspaceId == call.prepared.principal.workspaceId

/-- The audit events that count against the limit. -/
def countsEvent (call : OperationCall) (actor : InternalUser) (event : AuditEvent) : Bool :=
  event.action == call.action.name && event.actorUserId == some actor.id &&
    decide (call.now - operationWindowMs ≤ event.occurredAt) &&
    event.workspaceId == actor.workspaceId

/-- The audit event of an answer. -/
def event (call : OperationCall) (actor : InternalUser) (result : JobOperationResult) :
    AuditEvent := operationAuditData actor call.prepared call.action result call.auditId

/-- The guard of the call, when nothing runs beside it. -/
def guard (call : OperationCall) : JobTransaction App OperationGuard :=
  authoriseOperation call.prepared call.action call.now call.auditId

end OperationCall

/-- An answer that is about to be recorded: whom it is for, and whether the call had passed. -/
structure Judgement where
  actor : InternalUser
  result : JobOperationResult
  passed : Bool

/-- How far a command has come. -/
inductive OperationPhase
  /-- Before the query for the operator. -/
  | authorising
  /-- The operator is an administrator; before the count of the recent commands. -/
  | counting (actor : InternalUser)
  /-- The count was below the limit: `authoriseOperation` has let the command pass. -/
  | working (actor : InternalUser)
  /-- The answer is known; before the insert of its audit event. -/
  | auditing (judgement : Judgement)
  /-- Before the commit. -/
  | committing (judgement : Judgement)
  /-- The transaction has committed. -/
  | answered (judgement : Judgement)
  /-- There is no such operator. -/
  | unauthorised
  /-- The transaction was rolled back. -/
  | failed (passed : Bool)

namespace OperationPhase

/-- The command has passed `authoriseOperation`. -/
def passed : OperationPhase → Bool
  | .working _ => true
  | .auditing judgement | .committing judgement | .answered judgement => judgement.passed
  | .failed passed => passed
  | _ => false

/-- The command is about to count the recent ones. -/
def isCounting : OperationPhase → Bool
  | .counting _ => true
  | _ => false

/-- The call is over. -/
def ended : OperationPhase → Bool
  | .answered _ | .unauthorised | .failed _ => true
  | _ => false

/-- The transaction of the call has committed. -/
def isAnswered : OperationPhase → Bool
  | .answered _ => true
  | _ => false

end OperationPhase

/-- The audit log under open transactions, the users, and the phase of each command. -/
structure OperationRace (ι : Type*) [DecidableEq ι] where
  auditEvents : OpenTable auditEventSchema ι
  internalUsers : List InternalUser
  phase : ι → OperationPhase

/-- What happens next. -/
inductive OperationEvent (ι : Type*)
  /-- The next statement of a command that reads or writes users or audit events, or its commit. -/
  | advance (i : ι)
  /-- What a command that has passed does to its job has come to an answer. -/
  | work (i : ι) (result : JobOperationResult)
  /-- The call throws, or its process stops. -/
  | stop (i : ι)
  /-- The users change. -/
  | change (internalUsers : List InternalUser)

namespace OperationRace

/-- The race before any command has begun. -/
def start (auditEvents : Table auditEventSchema) (internalUsers : List InternalUser) (ι : Type*)
    [DecidableEq ι] : OperationRace ι where
  auditEvents := OpenTable.start auditEvents ι
  internalUsers := internalUsers
  phase := fun _ => .authorising

/-- A command enters its next phase. -/
def enter (s : OperationRace ι) (i : ι) (phase : OperationPhase) : OperationRace ι :=
  { s with phase := Function.update s.phase i phase }

/-- The transaction of a command is rolled back. -/
def throw (s : OperationRace ι) (i : ι) : OperationRace ι where
  auditEvents := s.auditEvents.rollBack i
  internalUsers := s.internalUsers
  phase := Function.update s.phase i (.failed (s.phase i).passed)

/-- The transaction of a command commits. -/
def commit (s : OperationRace ι) (i : ι) (judgement : Judgement) : OperationRace ι where
  auditEvents := s.auditEvents.commit i
  internalUsers := s.internalUsers
  phase := Function.update s.phase i (.answered judgement)

/-- The next statement of a command; `none` while it has to wait, does its work, or is over. -/
def advance (call : OperationCall) (s : OperationRace ι) (i : ι) : Option (OperationRace ι) :=
  match s.phase i with
  | .authorising =>
    match s.internalUsers.find? call.selectsActor with
    | none => some (s.enter i .unauthorised)
    | some actor =>
      if actor.role ≠ .admin then
        some (s.enter i (.auditing ⟨actor, ⟨.refused, "ADMIN_REQUIRED"⟩, false⟩))
      else some (s.enter i (.counting actor))
  | .counting actor =>
    if operationLimits call.action ≤ (s.auditEvents.visible i).rows.countP (call.countsEvent actor)
    then some (s.enter i (.auditing ⟨actor, ⟨.rateLimited, "OPERATOR_RATE_LIMITED"⟩, false⟩))
    else some (s.enter i (.working actor))
  | .auditing judgement =>
    match s.auditEvents.insertRow i (call.event judgement.actor judgement.result) with
    | .done auditEvents => some ({ s with auditEvents }.enter i (.committing judgement))
    | .waits => none
    | .refused _ => some (s.throw i)
  | .committing judgement => some (s.commit i judgement)
  | .working _ | .answered _ | .unauthorised | .failed _ => none

/-- What an event makes of the race. -/
def next (calls : ι → OperationCall) (s : OperationRace ι) :
    OperationEvent ι → Option (OperationRace ι)
  | .advance i => s.advance (calls i) i
  | .work i result =>
    match s.phase i with
    | .working actor => some (s.enter i (.auditing ⟨actor, result, true⟩))
    | _ => none
  | .stop i => if (s.phase i).ended then none else some (s.throw i)
  | .change internalUsers => some { s with internalUsers }

/-- The steps of the race. -/
def Step (calls : ι → OperationCall) (s : OperationRace ι) (event : OperationEvent ι)
    (t : OperationRace ι) : Prop := s.next calls event = some t

/-! ### What a step does -/

section Moves

variable {calls : ι → OperationCall} {s t : OperationRace ι} {event : OperationEvent ι} {i : ι}

/-- What an event does. -/
inductive Move (calls : ι → OperationCall) (s : OperationRace ι) :
    OperationEvent ι → OperationRace ι → Prop
  | rejects {i : ι} (hphase : s.phase i = .authorising) :
      Move calls s (.advance i) (s.enter i .unauthorised)
  | finds {i : ι} {actor : InternalUser} (hphase : s.phase i = .authorising)
      (hactor : (calls i).selectsActor actor = true) :
      Move calls s (.advance i) (s.enter i (.counting actor))
  | denies {i : ι} {actor : InternalUser} {result : JobOperationResult}
      (hphase : s.phase i = .authorising ∨ s.phase i = .counting actor) :
      Move calls s (.advance i) (s.enter i (.auditing ⟨actor, result, false⟩))
  | passes {i : ι} {actor : InternalUser} (hphase : s.phase i = .counting actor)
      (hcount : (s.auditEvents.visible i).rows.countP ((calls i).countsEvent actor) <
        operationLimits (calls i).action) :
      Move calls s (.advance i) (s.enter i (.working actor))
  | works {i : ι} {actor : InternalUser} {result : JobOperationResult}
      (hphase : s.phase i = .working actor) :
      Move calls s (.work i result) (s.enter i (.auditing ⟨actor, result, true⟩))
  | inserts {i : ι} {judgement : Judgement} {auditEvents : OpenTable auditEventSchema ι}
      (hphase : s.phase i = .auditing judgement)
      (hdone : s.auditEvents.insertRow i ((calls i).event judgement.actor judgement.result) =
        .done auditEvents) :
      Move calls s (.advance i) ({ s with auditEvents }.enter i (.committing judgement))
  | commits {i : ι} {judgement : Judgement} (hphase : s.phase i = .committing judgement) :
      Move calls s (.advance i) (s.commit i judgement)
  | fails {i : ι} {event : OperationEvent ι} (hended : (s.phase i).ended = false) :
      Move calls s event (s.throw i)
  | changes {internalUsers : List InternalUser} :
      Move calls s (.change internalUsers) { s with internalUsers }

/-- **Inversion of steps.** -/
theorem move_of_step (hstep : Step calls s event t) : Move calls s event t := by
  unfold Step next at hstep
  cases event with
  | change internalUsers =>
    cases hstep
    exact .changes
  | stop i =>
    simp only at hstep
    split at hstep
    · cases hstep
    · next hended =>
      cases hstep
      exact .fails (by simpa using hended)
  | work i result =>
    simp only at hstep
    split at hstep
    · next actor hphase =>
      cases hstep
      exact .works hphase
    · cases hstep
  | advance i =>
    simp only [advance] at hstep
    split at hstep
    · next hphase =>
      split at hstep
      · cases hstep
        exact .rejects hphase
      · next actor hfound =>
        split at hstep <;> cases hstep
        · exact .denies (Or.inl hphase)
        · exact .finds hphase (List.find?_some hfound)
    · next actor hphase =>
      split at hstep <;> cases hstep
      · exact .denies (Or.inr hphase)
      · next hcount => exact .passes hphase (not_le.mp hcount)
    · next judgement hphase =>
      split at hstep <;> cases hstep
      · next auditEvents hdone => exact .inserts hphase hdone
      · exact .fails (by rw [hphase]; rfl)
    · next judgement hphase =>
      cases hstep
      exact .commits hphase
    all_goals cases hstep

/-! ### A command that runs alone -/

/-- A denial is not a permission. -/
theorem denied_ne_allowed (call : OperationCall) (actor actor' : InternalUser)
    (result : JobOperationResult) (db : Database App) :
    ((do
      let result ← auditAndReturn actor' call.prepared call.action call.auditId result
      pure (.denied result) : JobTransaction App OperationGuard).commit db).1 ≠
      .ok (.allowed actor) := by
  unfold auditAndReturn auditEvent.create Transaction.commit
  simp only [StateT.run_bind, StateT.run_pure]
  simp only [StateT.run, bind, Except.bind]
  cases db.auditEvents.create _ with
  | ok auditEvents => rintro ⟨⟩
  | error violation =>
    simp only [refuse]
    rintro ⟨⟩

/-- What the guard comes to, statement by statement. -/
theorem guard_eq (call : OperationCall) : (call.guard : JobTransaction App OperationGuard) = (do
    match ← internalUser.findFirst call.selectsActor with
    | none => pure (.denied ⟨.refused, "OPERATOR_NOT_AUTHORISED"⟩)
    | some actor =>
      if actor.role ≠ .admin then do
        let result ← auditAndReturn actor call.prepared call.action call.auditId
          ⟨.refused, "ADMIN_REQUIRED"⟩
        pure (.denied result)
      else do
        let recent ← auditEvent.count (call.countsEvent actor)
        if operationLimits call.action ≤ recent then do
          let result ← auditAndReturn actor call.prepared call.action call.auditId
            ⟨.rateLimited, "OPERATOR_RATE_LIMITED"⟩
          pure (.denied result)
        else pure (.allowed actor)) := rfl

/-- A command that is alone and whose answer is to be recorded has not passed. -/
theorem not_passes_of_auditing {call : OperationCall} {s t : OperationRace ι} {judgement : Judgement}
    (hphase : s.phase i = .auditing judgement) (hnext : s.advance call i = some t)
    (actor : InternalUser) : t.phase i ≠ .working actor := by
  unfold advance at hnext
  rw [hphase] at hnext
  simp only at hnext
  split at hnext
  · cases hnext
    simp [enter]
  · cases hnext
  · cases hnext
    simp [throw]

/-- **A command that runs alone passes where `authoriseOperation` allows it.** -/
theorem passes_alone (db : Database App) (call : OperationCall) (i : ι) (actor : InternalUser) :
    (∃ s t : OperationRace ι,
      (start db.auditEvents db.internalUsers ι).advance call i = some s ∧
        s.advance call i = some t ∧ t.phase i = .working actor) ↔
      (call.guard.commit db).1 = .ok (.allowed actor) := by
  have hread : ∀ {α : Type} (select : Database App → α) (next : α → JobTransaction App OperationGuard),
      ((Transaction.read select >>= next : JobTransaction App OperationGuard).commit db).1 =
        ((next (select db)).commit db).1 := fun _ _ => rfl
  have hfirst : (start db.auditEvents db.internalUsers ι).advance call i =
      match db.internalUsers.find? call.selectsActor with
      | none => some ((start db.auditEvents db.internalUsers ι).enter i .unauthorised)
      | some actor =>
        if actor.role ≠ .admin then
          some ((start db.auditEvents db.internalUsers ι).enter i
            (.auditing ⟨actor, ⟨.refused, "ADMIN_REQUIRED"⟩, false⟩))
        else some ((start db.auditEvents db.internalUsers ι).enter i (.counting actor)) := rfl
  rw [guard_eq, internalUser.findFirst, hread, hfirst]
  cases db.internalUsers.find? call.selectsActor with
  | none =>
    constructor
    · rintro ⟨s, t, ⟨⟩, hnext, -⟩
      simp [advance, enter] at hnext
    · rintro ⟨⟩
  | some actor' =>
    simp only
    by_cases hadmin : actor'.role ≠ .admin
    · rw [if_pos hadmin, if_pos hadmin]
      constructor
      · rintro ⟨s, t, ⟨⟩, hnext, hphase⟩
        exact absurd hphase (not_passes_of_auditing (Function.update_self _ _ _) hnext actor)
      · intro hallowed
        exact absurd hallowed (denied_ne_allowed call actor actor' _ db)
    · rw [if_neg hadmin, if_neg hadmin, auditEvent.count, hread]
      have hsecond : ((start db.auditEvents db.internalUsers ι).enter i
          (.counting actor')).advance call i =
          if operationLimits call.action ≤ db.auditEvents.rows.countP (call.countsEvent actor') then
            some (((start db.auditEvents db.internalUsers ι).enter i (.counting actor')).enter i
              (.auditing ⟨actor', ⟨.rateLimited, "OPERATOR_RATE_LIMITED"⟩, false⟩))
          else some (((start db.auditEvents db.internalUsers ι).enter i (.counting actor')).enter i
            (.working actor')) := by
        unfold advance
        simp [enter, start]
      by_cases hlimit :
          operationLimits call.action ≤ db.auditEvents.rows.countP (call.countsEvent actor')
      · rw [if_pos hlimit]
        constructor
        · rintro ⟨s, t, ⟨⟩, hnext, hphase⟩
          rw [hsecond, if_pos hlimit] at hnext
          cases hnext
          simp [enter] at hphase
        · intro hallowed
          exact absurd hallowed (denied_ne_allowed call actor actor' _ db)
      · rw [if_neg hlimit]
        constructor
        · rintro ⟨s, t, ⟨⟩, hnext, hphase⟩
          rw [hsecond, if_neg hlimit] at hnext
          cases hnext
          simp only [enter, Function.update_self, OperationPhase.working.injEq] at hphase
          rw [hphase]
          rfl
        · rintro ⟨⟩
          exact ⟨_, _, rfl, by rw [hsecond, if_neg hlimit], Function.update_self _ _ _⟩

end Moves

end OperationRace

end ContentAutomation
