import ContentAutomation.Auth.Bindings

/-!
# Invited users

A sign-in creates no user. Whatever calls race, the users are those of the beginning, with their
emails, workspaces and roles, and a sign-in is allowed only to one who was there under its email.
-/

namespace ContentAutomation.Auth

open Relational Function

/-- What no call changes of a user. -/
def InternalUser.invitation (user : InternalUser) : String × String × InternalUserRole :=
  (user.workspaceId, user.email, user.role)

/-- The user of a call that has accepted or returned one. -/
def AuthPhase.userId? : AuthPhase → Option String
  | .updating user _ => some user.id
  | .auditing _ result | .committing _ result | .committed result =>
    result.principal?.map SessionPrincipal.internalUserId
  | _ => none

namespace AuthSystem

variable {ι : Type*} [DecidableEq ι] {environment : Environment} {calls : ι → AuthCall}
  {users : Table (internalUserSchema environment.lower)} {s t : AuthSystem environment.lower ι}
  {i : ι} {call : SignInCall}

/-- The users are those of the beginning. -/
def SameUsers (users : Table (internalUserSchema environment.lower))
    (s : AuthSystem environment.lower ι) : Prop :=
  ∀ id, (s.user? id).map InternalUser.invitation =
    (users.lookup InternalUser.id id).map InternalUser.invitation

/-- The user was there in the beginning, under the email of the identity. -/
def Invited (users : Table (internalUserSchema environment.lower)) (call : SignInCall)
    (id : String) : Prop :=
  ∃ user, users.lookup InternalUser.id id = some user ∧
    environment.lower user.email = environment.lower call.identity.email

theorem SameUsers.after {move : AuthMove} (hsame : SameUsers users s) (hinv : Inv calls s)
    (hmove : Move calls s i move t) : SameUsers users t := by
  intro id
  rw [← hsame id]
  cases hmove with
  | reads | audits | stops => rfl
  | updates _ _ _ hcommitted => simp only [user?, enter, hcommitted]
  | commits hphase =>
    rcases hinv.commit_cases hphase with ⟨-, hrows⟩ | ⟨_, row, row', -, hrow, hwrites, hrows⟩
    · rw [hrows]
    · rw [hrows]
      split
      · next heq =>
        subst heq
        rw [hrow]
        generalize calls i = call at hwrites
        cases hwrites <;> rfl
      · rfl

/-- A sign-in goes on with a candidate that has its email. -/
theorem SameUsers.invited {candidate : InternalUser} {actorUserId : String}
    (hsame : SameUsers users s) (hcall : calls i = .authoriseOidcIdentity call)
    (hreading : s.phase i = .reading) (hstep : Step environment calls s (i, .advance) t)
    (hphase : t.phase i = .updating candidate actorUserId)
    (hfound : s.user? candidate.id = some candidate) : Invited users call candidate.id := by
  have hemail : environment.lower candidate.email = environment.lower call.identity.email := by
    simp only [Step, next, hcall, authoriseOidcIdentity, hreading] at hstep
    split at hstep <;> cases hstep <;> simp only [enter, update_self] at hphase <;>
      cases hphase
    next hjudged =>
    have hmem := (judgeCandidates_eq_ok hjudged).1 ▸ List.mem_singleton_self candidate
    exact beq_iff_eq.mp (List.mem_filter.mp (List.mem_of_mem_take hmem)).2
  have hinvitation := hsame candidate.id
  rw [hfound] at hinvitation
  obtain ⟨user, huser, hequal⟩ := Option.map_eq_some_iff.mp hinvitation.symm
  simp only [InternalUser.invitation, Prod.mk.injEq] at hequal
  exact ⟨user, huser, hequal.2.1 ▸ hemail⟩

/-- **Step lemma.** A sign-in comes by no user but an invited one. -/
theorem invited_step {move : AuthMove} (hinv : Inv calls s) (hsame : SameUsers users s)
    (hinvited : ∀ i call id, calls i = .authoriseOidcIdentity call →
      (s.phase i).userId? = some id → Invited users call id)
    (hstep : Step environment calls s (i, move) t) (j : ι) (call : SignInCall) (id : String)
    (hcall : calls j = .authoriseOidcIdentity call) (hid : (t.phase j).userId? = some id) :
    Invited users call id := by
  have hmove := hinv.move hstep
  by_cases hj : j = i
  · subst hj
    have hknown := fun h => hinvited j call id hcall h
    cases hmove with
    | @reads phase hphase hended hread hrefused =>
      have hentered : (s.enter j phase).phase j = phase := update_self ..
      rw [hentered] at hid
      cases phase with
      | updating user actorUserId =>
        cases hid
        obtain ⟨hfound, hreading⟩ := hread user actorUserId rfl
        exact hsame.invited hcall (hreading call hcall).1 hstep hentered hfound
      | auditing | committing =>
        rw [AuthPhase.userId?, hrefused _ rfl] at hid
        cases hid
      | committed => cases hended
      | _ => cases hid
    | updates hphase hrow hwrites =>
      refine hknown ?_
      simp only [enter, update_self, AuthPhase.userId?, hwrites.spec.2] at hid
      rw [hphase, AuthPhase.userId?, ← hid, ← (Table.lookup_spec hrow).2, ← hwrites.spec.1]
      rfl
    | audits hphase | commits hphase =>
      refine hknown ?_
      simp only [enter, commit, update_self] at hid
      rw [hphase]
      exact hid
    | stops =>
      simp only [giveUp, update_self] at hid
      cases hid
  · have hphase : t.phase j = s.phase j := by
      cases hmove <;> exact update_of_ne hj _ _
    exact hinvited j call id hcall (hphase ▸ hid)

/-- **Sign-in is by invitation.** Whatever sign-ins and changes of statuses race, they leave the
users with their emails, workspaces and roles and add none, and a sign-in that is allowed is that of
a user who was there under its email. -/
theorem sign_in_is_by_invitation
    (hrun : Transition.Reachable (Step environment calls) (start users ι) s) :
    SameUsers users s ∧ ∀ i call principal, calls i = .authoriseOidcIdentity call →
      s.phase i = .committed (.decision (.allowed principal)) →
      Invited users call principal.internalUserId := by
  suffices h : Inv calls s ∧ SameUsers users s ∧ ∀ i call id,
      calls i = .authoriseOidcIdentity call → (s.phase i).userId? = some id →
      Invited users call id by
    refine ⟨h.2.1, fun i call principal hcall hphase => h.2.2 i call _ hcall ?_⟩
    rw [hphase]
    rfl
  refine hrun.invariant (I := fun s => Inv calls s ∧ SameUsers users s ∧ ∀ i call id,
    calls i = .authoriseOidcIdentity call → (s.phase i).userId? = some id → Invited users call id)
    ⟨inv_start users, fun _ => rfl, fun _ _ _ _ hid => by cases hid⟩ ?_
  rintro s t ⟨i, move⟩ ⟨hinv, hsame, hinvited⟩ hstep
  have hmove := hinv.move hstep
  exact ⟨hinv.after hmove, hsame.after hinv hmove, invited_step hinv hsame hinvited hstep⟩

end AuthSystem

open Sample AuthSystem in
/-- An invited teammate signs in. -/
theorem invited_teammate_signs_in : ∃ (s : AuthSystem environment.lower ℕ) (call : SignInCall),
    s.phase 0 = .committed (.decision (.allowed ⟨"user", 1, "workspace"⟩)) ∧
      sameSubject 0 = .authoriseOidcIdentity call ∧ Invited users call "user" := by
  have hreplay : (Transition.replay (next environment sameSubject) [] (start users ℕ)
      (completed 0 4)).map (fun r => r.2.phase 0) =
        some (.committed (.decision (.allowed ⟨"user", 1, "workspace"⟩))) := by decide
  obtain ⟨⟨history, s⟩, hs, hphase⟩ := Option.map_eq_some_iff.mp hreplay
  exact ⟨s, _, hphase, rfl,
    (sign_in_is_by_invitation ⟨history, .replay .refl hs⟩).2 0 _ _ rfl hphase⟩

end ContentAutomation.Auth
