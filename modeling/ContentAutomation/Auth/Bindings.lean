import ContentAutomation.Auth.SignIn

/-!
# Bound subjects

The first sign-in of a user stores its subject on the row. The check that an identity
carries the stored subject is made on the row that the call has read, and the update writes
a value that it computes from that row, under the identifier alone. A binding is permanent,
and every allowed sign-in carries the bound subject, in every run in which no sign-in that
has read its user unbound updates the row after another subject has been bound, and none
meets a user bound to the empty subject, which the check takes for none.
-/

namespace ContentAutomation.Auth

open Relational Function

namespace AuthSystem

variable {ι : Type*} [DecidableEq ι] {environment : Environment} {calls : ι → AuthCall}
  {s t : AuthSystem environment.lower ι} {i : ι}

/-- A sign-in that is about to update a row which it has read unbound finds it unbound or
bound to its own subject, and one that has read the empty subject carries it. -/
def KeepsBinding (calls : ι → AuthCall) (s : AuthSystem environment.lower ι)
    (event : ι × AuthMove) : Prop :=
  match event.2, calls event.1, s.phase event.1 with
  | .advance, .authoriseOidcIdentity call, .updating candidate _ =>
    (candidate.oidcSubject = none → ∀ row ∈ s.user? candidate.id,
      row.oidcSubject = none ∨ row.oidcSubject = some call.identity.subject) ∧
    (candidate.oidcSubject = some "" → call.identity.subject = "")
  | _, _, _ => True

instance (calls : ι → AuthCall) (s : AuthSystem environment.lower ι) (event : ι × AuthMove) :
    Decidable (KeepsBinding calls s event) := by
  unfold KeepsBinding
  split <;> infer_instance

/-- The user is bound to a subject, as everyone sees it. -/
def IsBound (s : AuthSystem environment.lower ι) (id subject : String) : Prop :=
  ∃ user, s.user? id = some user ∧ user.oidcSubject = some subject

/-- What is bound stays bound. -/
def StaysBound (s t : AuthSystem environment.lower ι) : Prop :=
  ∀ id subject, s.IsBound id subject → t.IsBound id subject

/-- What the calls know of the bindings. -/
structure Bound (calls : ι → AuthCall) (s : AuthSystem environment.lower ι) : Prop where
  /-- A row was read with a subject that is bound. -/
  read : ∀ i user actorUserId subject, s.phase i = .updating user actorUserId →
    user.oidcSubject = some subject → s.IsBound user.id subject
  /-- A sign-in goes on with a candidate that it has accepted. -/
  accepted : ∀ i call candidate actorUserId, calls i = .authoriseOidcIdentity call →
    s.phase i = .updating candidate actorUserId → candidate.isMismatch call.identity.subject = false
  /-- A version that is written keeps the binding. -/
  keeps : ∀ i, ∀ version ∈ s.users.own i, ∀ subject,
    s.IsBound version.id subject → version.oidcSubject = some subject
  /-- A version that a sign-in has written is bound to its subject. -/
  written : ∀ i call, calls i = .authoriseOidcIdentity call → ∀ version ∈ s.users.own i,
    version.oidcSubject = some call.identity.subject
  /-- An allowed sign-in has carried the bound subject. -/
  allowed : ∀ i call principal, calls i = .authoriseOidcIdentity call →
    s.phase i = .committed (.decision (.allowed principal)) →
    s.IsBound principal.internalUserId call.identity.subject

theorem StaysBound.trans {u : AuthSystem environment.lower ι} (h : s.StaysBound t)
    (h' : t.StaysBound u) : s.StaysBound u := fun id subject hbound => h' id subject (h id subject hbound)

private theorem staysBound_of_same (h : ∀ id, t.user? id = s.user? id) : s.StaysBound t := by
  rintro id subject ⟨user, huser, hsubject⟩
  exact ⟨user, (h id).trans huser, hsubject⟩

theorem IsBound.unique {id subject subject' : String} (h : s.IsBound id subject)
    (h' : s.IsBound id subject') : subject = subject' := by
  obtain ⟨user, huser, hsubject⟩ := h
  obtain ⟨user', huser', hsubject'⟩ := h'
  rw [huser] at huser'
  cases huser'
  rw [hsubject] at hsubject'
  exact Option.some.inj hsubject'

private theorem eq_of_not_isMismatch {candidate : InternalUser} {subject bound : String}
    (h : candidate.isMismatch subject = false) (hbound : candidate.oidcSubject = some bound) :
    bound = "" ∨ bound = subject := by
  unfold InternalUser.isMismatch at h
  rw [hbound] at h
  by_contra hne
  push Not at hne
  simp [hne.1, hne.2] at h

/-- **What an update binds.** It keeps the binding of its row, and that of a sign-in is bound
to its subject. -/
theorem Bound.of_updates (hbound : Bound calls s) (hallowed : KeepsBinding calls s (i, .advance))
    {user row row' : InternalUser} {actorUserId : String} {result : AuthResult}
    (hphase : s.phase i = .updating user actorUserId) (hrow : s.user? user.id = some row)
    (hwrites : Writes (calls i) user row row' result) :
    (∀ subject, row.oidcSubject = some subject → row'.oidcSubject = some subject) ∧
      ∀ call, calls i = .authoriseOidcIdentity call →
        row'.oidcSubject = some call.identity.subject := by
  generalize hcall : calls i = call at hwrites
  cases hwrites with
  | setsStatus => exact ⟨fun subject hsubject => hsubject, by rintro _ ⟨⟩⟩
  | @signsIn call =>
    obtain ⟨hunbound, hempty⟩ : (user.oidcSubject = none → ∀ row ∈ s.user? user.id,
        row.oidcSubject = none ∨ row.oidcSubject = some call.identity.subject) ∧
        (user.oidcSubject = some "" → call.identity.subject = "") := by
      simpa only [KeepsBinding, hcall, hphase] using hallowed
    have hnew : (call.signedIn user row).oidcSubject =
        user.oidcSubject.or (some call.identity.subject) := rfl
    cases hread : user.oidcSubject with
    | none =>
      rw [hread, Option.none_or] at hnew
      refine ⟨fun subject hsubject => ?_, ?_⟩
      · rcases hunbound hread row hrow with hnone | hsame
        · rw [hnone] at hsubject
          cases hsubject
        · rw [hnew, ← hsame, hsubject]
      · rintro _ ⟨⟩
        exact hnew
    | some subject =>
      rw [hread, Option.some_or] at hnew
      have hsame : subject = call.identity.subject := by
        rcases eq_of_not_isMismatch (hbound.accepted i call user actorUserId hcall hphase) hread with
          hnil | hsame
        · rw [hnil, hempty (hnil ▸ hread)]
        · exact hsame
      obtain ⟨row₀, hrow₀, hsubject₀⟩ := hbound.read i user actorUserId subject hphase hread
      rw [hrow] at hrow₀
      cases hrow₀
      refine ⟨fun other hother => ?_, ?_⟩
      · rw [hnew, ← hsubject₀, hother]
      · rintro _ ⟨⟩
        rw [hnew, hsame]

/-- A step of one call keeps what the others know, if it keeps the bindings and the rows that
the others hold. -/
theorem Bound.transfer (hbound : Bound calls s) (hstays : s.StaysBound t)
    (hothers : ∀ j, j ≠ i → t.phase j = s.phase j ∧ t.users.own j = s.users.own j ∧
      ∀ version ∈ s.users.own j, t.user? version.id = s.user? version.id)
    (hread : ∀ user actorUserId, t.phase i = .updating user actorUserId →
      (∀ subject, user.oidcSubject = some subject → t.IsBound user.id subject) ∧
        ∀ call, calls i = .authoriseOidcIdentity call →
          user.isMismatch call.identity.subject = false)
    (hwritten : ∀ version ∈ t.users.own i,
      (∀ subject, t.IsBound version.id subject → version.oidcSubject = some subject) ∧
        ∀ call, calls i = .authoriseOidcIdentity call →
          version.oidcSubject = some call.identity.subject)
    (hdone : ∀ call principal, calls i = .authoriseOidcIdentity call →
      t.phase i = .committed (.decision (.allowed principal)) →
      t.IsBound principal.internalUserId call.identity.subject) : Bound calls t where
  read j user actorUserId subject hphase hsubject := by
    by_cases hj : j = i
    · subst hj
      exact (hread user actorUserId hphase).1 subject hsubject
    · rw [(hothers j hj).1] at hphase
      exact hstays _ _ (hbound.read j user actorUserId subject hphase hsubject)
  accepted j call candidate actorUserId hcall hphase := by
    by_cases hj : j = i
    · subst hj
      exact (hread candidate actorUserId hphase).2 call hcall
    · rw [(hothers j hj).1] at hphase
      exact hbound.accepted j call candidate actorUserId hcall hphase
  keeps j version hversion subject hsubject := by
    by_cases hj : j = i
    · subst hj
      exact (hwritten version hversion).1 subject hsubject
    · obtain ⟨-, hown, hsame⟩ := hothers j hj
      rw [hown] at hversion
      obtain ⟨user, huser, hsubject⟩ := hsubject
      rw [hsame version hversion] at huser
      exact hbound.keeps j version hversion subject ⟨user, huser, hsubject⟩
  written j call hcall version hversion := by
    by_cases hj : j = i
    · subst hj
      exact (hwritten version hversion).2 call hcall
    · rw [(hothers j hj).2.1] at hversion
      exact hbound.written j call hcall version hversion
  allowed j call principal hcall hphase := by
    by_cases hj : j = i
    · subst hj
      exact hdone call principal hcall hphase
    · rw [(hothers j hj).1] at hphase
      exact hstays _ _ (hbound.allowed j call principal hcall hphase)

/-- **Step lemma.** A step that the condition allows keeps every binding, and what the calls
know of them. -/
theorem Bound.step {move : AuthMove} (hinv : Inv calls s) (hbound : Bound calls s)
    (hallowed : KeepsBinding calls s (i, move)) (hmove : Move calls s i move t) :
    s.StaysBound t ∧ Bound calls t := by
  cases hmove with
  | @reads phase hphase hended hread hrefused =>
    have hstays : s.StaysBound (s.enter i phase) := staysBound_of_same fun _ => rfl
    refine ⟨hstays, hbound.transfer hstays (i := i) ?_ ?_ ?_ ?_⟩
    · intro j hj
      exact ⟨update_of_ne hj _ _, rfl, fun _ _ => rfl⟩
    · intro user actorUserId hupdating
      simp only [enter, update_self] at hupdating
      obtain ⟨huser, haccepts⟩ := hread user actorUserId hupdating
      exact ⟨fun subject hsubject => ⟨user, huser, hsubject⟩,
        fun call hcall => (haccepts call hcall).2.subject⟩
    · intro version hversion
      change version ∈ s.users.own i at hversion
      rw [hinv.own_of_not_open (AuthPhase.open?_of_isReading hphase)] at hversion
      cases hversion
    · intro call principal hcall hcommitted
      simp only [enter, update_self] at hcommitted
      subst hcommitted
      cases hended
  | @updates user row row' actorUserId event result users hphase hrow hwrites hcommitted hown
      hothers hfree =>
    have hsame : ∀ id, ({ s with users }.enter i (.auditing event result)).user? id = s.user? id := by
      intro id
      simp only [user?, enter, hcommitted]
    have hstays := staysBound_of_same hsame
    obtain ⟨hkeeps, hbinds⟩ := hbound.of_updates hallowed hphase hrow hwrites
    refine ⟨hstays, hbound.transfer hstays (i := i) ?_ ?_ ?_ ?_⟩
    · intro j hj
      exact ⟨update_of_ne hj _ _, hothers j hj, fun _ _ => hsame _⟩
    · intro user actorUserId hupdating
      simp only [enter, update_self] at hupdating
      cases hupdating
    · intro version hversion
      change version ∈ users.own i at hversion
      rw [hown] at hversion
      cases List.mem_singleton.mp hversion
      refine ⟨?_, hbinds⟩
      rintro subject ⟨found, hfound, hsubject⟩
      rw [hsame, hwrites.spec.1, (Table.lookup_spec hrow).2, hrow] at hfound
      cases hfound
      exact hkeeps subject hsubject
    · intro call principal hcall hcommitted
      simp only [enter, update_self] at hcommitted
      cases hcommitted
  | @audits event result hphase =>
    have hstays : s.StaysBound (s.enter i (.committing (some event) result)) :=
      staysBound_of_same fun _ => rfl
    refine ⟨hstays, hbound.transfer hstays (i := i) ?_ ?_ ?_ ?_⟩
    · intro j hj
      exact ⟨update_of_ne hj _ _, rfl, fun _ _ => rfl⟩
    · intro user actorUserId hupdating
      simp only [enter, update_self] at hupdating
      cases hupdating
    · intro version hversion
      exact ⟨hbound.keeps i version hversion, fun call hcall =>
        hbound.written i call hcall version hversion⟩
    · intro call principal hcall hcommitted
      simp only [enter, update_self] at hcommitted
      cases hcommitted
  | @commits event result hphase =>
    have hclosed : ∀ user actorUserId,
        (s.commit i event result).phase i ≠ .updating user actorUserId := by
      intro user actorUserId hupdating
      simp only [commit, update_self] at hupdating
      cases hupdating
    have hown : (s.commit i event result).users.own i = [] := LockedTable.commit_own_self
    rcases hinv.commit_cases hphase with
      ⟨hnone, hsame⟩ | ⟨user, row, row', hrow', hrow, hwrites, hsame⟩
    · have hstays := staysBound_of_same hsame
      refine ⟨hstays, hbound.transfer hstays (i := i) ?_ ?_ ?_ ?_⟩
      · intro j hj
        exact ⟨update_of_ne hj _ _, LockedTable.commit_own_of_ne (Ne.symm hj),
          fun _ _ => hsame _⟩
      · intro user actorUserId hupdating
        exact absurd hupdating (hclosed user actorUserId)
      · rw [hown]
        rintro version ⟨⟩
      · intro call principal hcall hcommitted
        simp only [commit, update_self, AuthPhase.committed.injEq] at hcommitted
        subst hcommitted
        cases hnone
    · have hmem : row' ∈ s.users.own i := hrow' ▸ List.mem_singleton_self _
      have hstays : s.StaysBound (s.commit i event result) := by
        rintro id subject ⟨found, hfound, hsubject⟩
        by_cases heq : row'.id = id
        · subst heq
          exact ⟨row', by rw [hsame, if_pos rfl],
            hbound.keeps i row' hmem subject ⟨found, hfound, hsubject⟩⟩
        · exact ⟨found, by rw [hsame, if_neg heq, hfound], hsubject⟩
      refine ⟨hstays, hbound.transfer hstays (i := i) ?_ ?_ ?_ ?_⟩
      · intro j hj
        refine ⟨update_of_ne hj _ _, LockedTable.commit_own_of_ne (Ne.symm hj), ?_⟩
        intro version hversion
        have hne : row'.id ≠ version.id := LockedTable.key_ne_of_own (Ne.symm hj) hmem hversion
        rw [hsame, if_neg hne]
      · intro user actorUserId hupdating
        exact absurd hupdating (hclosed user actorUserId)
      · rw [hown]
        rintro version ⟨⟩
      · intro call principal hcall hcommitted
        simp only [commit, update_self, AuthPhase.committed.injEq] at hcommitted
        subst hcommitted
        have hprincipal : some principal = some row'.principal := hwrites.spec.2
        cases hprincipal
        exact ⟨row', by rw [hsame]; exact if_pos rfl, hbound.written i call hcall row' hmem⟩
  | stops hphase =>
    have hstays : s.StaysBound (s.giveUp i) := staysBound_of_same fun _ => rfl
    refine ⟨hstays, hbound.transfer hstays (i := i) ?_ ?_ ?_ ?_⟩
    · intro j hj
      exact ⟨update_of_ne hj _ _, LockedTable.rollBack_own_of_ne (Ne.symm hj),
        fun _ _ => rfl⟩
    · intro user actorUserId hupdating
      simp only [giveUp, update_self] at hupdating
      cases hupdating
    · have hown : (s.giveUp i).users.own i = [] := LockedTable.rollBack_own_self
      rw [hown]
      rintro version ⟨⟩
    · intro call principal hcall hcommitted
      simp only [giveUp, update_self] at hcommitted
      cases hcommitted

private theorem bound_start (users : Table (internalUserSchema environment.lower)) :
    Bound calls (start users ι) where
  read _ _ _ _ hphase := by cases hphase
  accepted _ _ _ _ _ hphase := by cases hphase
  keeps _ _ hversion := by cases hversion
  written _ _ _ _ hversion := by cases hversion
  allowed _ _ _ _ hphase := by cases hphase

/-- The steps that keep the bindings. -/
def BindingStep (environment : Environment) (calls : ι → AuthCall) :
    AuthSystem environment.lower ι → ι × AuthMove → AuthSystem environment.lower ι → Prop :=
  Transition.Restricted (Step environment calls) (KeepsBinding calls)

/-- **Run lemma.** What is bound stays bound along every run whose steps the condition allows. -/
theorem Bound.run (hinv : Inv calls s) (hbound : Bound calls s)
    (hrun : Transition.Reachable (BindingStep environment calls) s t) :
    Inv calls t ∧ Bound calls t ∧ s.StaysBound t := by
  refine hrun.invariant (I := fun t => Inv calls t ∧ Bound calls t ∧ s.StaysBound t)
    ⟨hinv, hbound, fun _ _ h => h⟩ ?_
  rintro t u ⟨i, move⟩ ⟨hinv, hbound, hstays⟩ ⟨hallowed, hstep⟩
  have hmove := hinv.move hstep
  obtain ⟨hstays', hbound'⟩ := hbound.step hinv hallowed hmove
  exact ⟨hinv.after hmove, hbound', hstays.trans hstays'⟩

end AuthSystem

open AuthSystem in
/-- **A sign-in binding is permanent**, in every run in which no sign-in updates a row that it
has read unbound after another subject has been bound to it, and none with another subject
meets a user bound to the empty one. -/
theorem sign_in_binding_is_permanent {ι : Type*} [DecidableEq ι] {environment : Environment}
    {calls : ι → AuthCall} {users : Table (internalUserSchema environment.lower)}
    {s t : AuthSystem environment.lower ι}
    (hrun : Transition.Reachable (BindingStep environment calls) (start users ι) s)
    (hlater : Transition.Reachable (BindingStep environment calls) s t) :
    (∀ id subject, s.IsBound id subject → t.IsBound id subject) ∧
      (∀ i call principal, calls i = .authoriseOidcIdentity call →
        t.phase i = .committed (.decision (.allowed principal)) →
        t.IsBound principal.internalUserId call.identity.subject) ∧
      ∀ i j call call' principal principal', calls i = .authoriseOidcIdentity call →
        calls j = .authoriseOidcIdentity call' →
        t.phase i = .committed (.decision (.allowed principal)) →
        t.phase j = .committed (.decision (.allowed principal')) →
        principal.internalUserId = principal'.internalUserId →
        call.identity.subject = call'.identity.subject := by
  obtain ⟨hinv, hbound, -⟩ := (bound_start users).run (inv_start users) hrun
  obtain ⟨-, hbound', hstays⟩ := hbound.run hinv hlater
  refine ⟨hstays, hbound'.allowed, ?_⟩
  intro i j call call' principal principal' hcall hcall' hallowed hallowed' hsame
  have hfirst := hbound'.allowed i call principal hcall hallowed
  rw [hsame] at hfirst
  exact hfirst.unique (hbound'.allowed j call' principal' hcall' hallowed')

/-! ### Two first sign-ins -/

namespace Sample

/-- One active workspace, and emails that are compared as they are. -/
def environment : Environment := ⟨[⟨"workspace", .active⟩], id, id⟩

/-- A teammate on the allowlist who has not signed in yet, and the administrator. -/
def users : Table (internalUserSchema environment.lower) where
  rows := [
    ⟨"user", "workspace", none, "teammate@studio.example", none, .active, .member, 1, none⟩,
    ⟨"admin", "workspace", some "google-admin", "admin@studio.example", none, .active, .admin, 1,
      none⟩]
  valid := by decide

/-- A sign-in of the teammate with a subject. -/
def signIn (subject : String) : AuthCall :=
  .authoriseOidcIdentity ⟨⟨none, "teammate@studio.example", subject⟩, "correlation", 0, subject⟩

/-- The administrator sets the status of the teammate. -/
def setStatus (status : AccountStatus) : AuthCall :=
  .setInternalUserStatus ⟨"admin", "correlation", status, "user", "workspace", 0, "audit"⟩

/-- A call comes from its first statement to the end of its transaction. -/
def completed (i : ℕ) (statements : ℕ) : List (ℕ × AuthMove) :=
  List.replicate statements (i, .advance)

/-- Two sign-ins of the teammate with the same subject. -/
def sameSubject (_ : ℕ) : AuthCall := signIn "google-subject"

/-- Two sign-ins of the teammate with different subjects. -/
def differentSubjects (i : ℕ) : AuthCall :=
  if i = 0 then signIn "google-subject" else signIn "other-subject"

/-- The state that events lead to, if the condition allows each. -/
def after (calls : ℕ → AuthCall) (events : List (ℕ × AuthMove)) :
    Option (AuthSystem environment.lower ℕ) :=
  Transition.replayWithin (next environment calls) (AuthSystem.KeepsBinding calls)
    (AuthSystem.start users ℕ) events

end Sample

open Sample AuthSystem in
/-- Two overlapping sign-ins with one subject are both allowed, and the binding stays. -/
theorem same_subject_stays_bound : ∃ t : AuthSystem environment.lower ℕ,
    t.phase 1 = .committed (.decision (.allowed ⟨"user", 1, "workspace"⟩)) ∧
      t.IsBound "user" "google-subject" := by
  have hafter : (after sameSubject ((0, .advance) :: (1, .advance) :: completed 0 3 ++
      completed 1 3)).map (fun t => t.phase 1) =
      some (.committed (.decision (.allowed ⟨"user", 1, "workspace"⟩))) := by
    decide
  obtain ⟨t, ht, hphase⟩ := Option.map_eq_some_iff.mp hafter
  exact ⟨t, hphase, (sign_in_binding_is_permanent .refl
    (Transition.Reachable.refl.replayWithin ht)).2.1 1 _ _ rfl hphase⟩

open Sample AuthSystem in
/-- **A binding is replaced.** Two first sign-ins with different subjects read the row
unbound; the second update waits for the first to commit and then stores its own subject.
Both are allowed. -/
theorem first_sign_in_is_overwritten : ∃ s t : AuthSystem environment.lower ℕ,
    Transition.Reachable (Step environment differentSubjects) (start users ℕ) s ∧
      Transition.Reachable (Step environment differentSubjects) s t ∧
      s.IsBound "user" "google-subject" ∧ t.IsBound "user" "other-subject" ∧
      t.phase 0 = .committed (.decision (.allowed ⟨"user", 1, "workspace"⟩)) ∧
      t.phase 1 = .committed (.decision (.allowed ⟨"user", 1, "workspace"⟩)) := by
  have hfirst : (Transition.replay (next environment differentSubjects) [] (start users ℕ)
      ((0, .advance) :: (1, .advance) :: completed 0 3)).map
        (fun r => ((r.2.user? "user").map InternalUser.oidcSubject,
          (Transition.replay (next environment differentSubjects) [] r.2 (completed 1 3)).map
            fun r' => ((r'.2.user? "user").map InternalUser.oidcSubject, r'.2.phase 0,
              r'.2.phase 1))) =
      some (some (some "google-subject"), some (some (some "other-subject"),
        .committed (.decision (.allowed ⟨"user", 1, "workspace"⟩)),
        .committed (.decision (.allowed ⟨"user", 1, "workspace"⟩)))) := by
    decide
  obtain ⟨⟨history, s⟩, hs, hfacts⟩ := Option.map_eq_some_iff.mp hfirst
  obtain ⟨hbound, hsecond⟩ := Prod.mk.inj hfacts
  obtain ⟨⟨history', t⟩, ht, hfacts'⟩ := Option.map_eq_some_iff.mp hsecond
  obtain ⟨hbound', hphases⟩ := Prod.mk.inj hfacts'
  obtain ⟨hphase, hphase'⟩ := Prod.mk.inj hphases
  exact ⟨s, t, ⟨history, .replay .refl hs⟩, ⟨history', .replay .refl ht⟩,
    Option.map_eq_some_iff.mp hbound, Option.map_eq_some_iff.mp hbound', hphase, hphase'⟩

end ContentAutomation.Auth
