import ContentAutomation.Auth.Bindings

/-!
# Revoked sessions

A session carries the version that its user had when the row was updated by the sign-in. The
version and the status of a user are moved by one statement, so a version belongs to one
status for ever. A principal is therefore never active again after its user has been
disabled, unless the user was enabled again between the read and the update of the sign-in.
-/

namespace ContentAutomation.Auth

open Relational Function Transition

/-- What a row may become: a status is left only for a greater version. -/
def InternalUser.Later (row row' : InternalUser) : Prop :=
  (row'.sessionVersion = row.sessionVersion ∧ row'.status = row.status) ∨
    row.sessionVersion < row'.sessionVersion

theorem InternalUser.Later.refl (row : InternalUser) : row.Later row := .inl ⟨rfl, rfl⟩

theorem InternalUser.Later.trans {row row' row'' : InternalUser} (h : row.Later row')
    (h' : row'.Later row'') : row.Later row'' := by
  rcases h with ⟨hversion, hstatus⟩ | hlt
  · rcases h' with ⟨hversion', hstatus'⟩ | hlt'
    · exact .inl ⟨hversion'.trans hversion, hstatus'.trans hstatus⟩
    · exact .inr (hversion ▸ hlt')
  · rcases h' with ⟨hversion', -⟩ | hlt'
    · exact .inr (hversion' ▸ hlt)
    · exact .inr (hlt.trans hlt')

theorem InternalUser.Later.le {row row' : InternalUser} (h : row.Later row') :
    row.sessionVersion ≤ row'.sessionVersion := by
  rcases h with ⟨hversion, -⟩ | hlt
  · exact hversion.ge
  · exact hlt.le

theorem Writes.later {call : AuthCall} {user row row' : InternalUser} {result : AuthResult}
    (h : Writes call user row row' result) : row.Later row' := by
  cases h with
  | signsIn => exact .refl row
  | setsStatus => exact .inr (Int.lt_succ _)

/-- The result of a call that has updated, or of one that has returned. -/
def AuthPhase.result? : AuthPhase → Option AuthResult
  | .auditing _ result | .committing _ result | .committed result => some result
  | _ => none

theorem AuthPhase.result?_of_isReading {phase : AuthPhase} (h : phase.isReading) :
    phase.result? = none := by
  cases phase <;> first | rfl | cases h

namespace AuthSystem

variable {ι : Type*} [DecidableEq ι] {environment : Environment} {calls : ι → AuthCall}
  {s t u : AuthSystem environment.lower ι} {i d : ι} {id : String} {move : AuthMove}
  {row : InternalUser} {call : SignInCall} {principal : SessionPrincipal}

/-- The call is about to commit the update of a user to a status. -/
def SetsStatus (calls : ι → AuthCall) (s : AuthSystem environment.lower ι) (d : ι) (id : String)
    (status : AccountStatus) : Prop :=
  match calls d, s.phase d with
  | .setInternalUserStatus call, .committing _ (.status (some principal)) =>
    call.status = status ∧ principal.internalUserId = id
  | _, _ => False

instance (calls : ι → AuthCall) (s : AuthSystem environment.lower ι) (d : ι) (id : String)
    (status : AccountStatus) : Decidable (SetsStatus calls s d id status) := by
  unfold SetsStatus
  split <;> infer_instance

private theorem setsStatus_iff {status : AccountStatus} : SetsStatus calls s d id status ↔
    ∃ call event principal, calls d = .setInternalUserStatus call ∧ call.status = status ∧
      s.phase d = .committing event (.status (some principal)) ∧ principal.internalUserId = id := by
  unfold SetsStatus
  constructor
  · intro h
    split at h
    · next call event principal hcall hphase => exact ⟨call, event, principal, hcall, h.1, hphase, h.2⟩
    · exact h.elim
  · rintro ⟨call, event, principal, hcall, hstatus, hphase, hid⟩
    rw [hcall, hphase]
    exact ⟨hstatus, hid⟩

/-- Every row is later than it was. -/
def Evolves (s t : AuthSystem environment.lower ι) : Prop :=
  ∀ id row, s.user? id = some row → ∃ row', t.user? id = some row' ∧ row.Later row'

private theorem evolves_of_same (h : ∀ id, t.user? id = s.user? id) : s.Evolves t :=
  fun id row hrow => ⟨row, (h id).trans hrow, .refl row⟩

theorem Evolves.trans (h : s.Evolves t) (h' : t.Evolves u) : s.Evolves u := by
  intro id row hrow
  obtain ⟨row', hrow', hlater⟩ := h id row hrow
  obtain ⟨row'', hrow'', hlater'⟩ := h' id row' hrow'
  exact ⟨row'', hrow'', hlater.trans hlater'⟩

/-- A step leaves a row, or commits the version that a call has written of it. -/
theorem Inv.row_cases (hinv : Inv calls s) (hmove : Move calls s d move t)
    (hrow : s.user? id = some row) :
    t.user? id = some row ∨ ∃ user row' event result, move = .advance ∧
      s.phase d = .committing event result ∧ t = s.commit d event result ∧ row'.id = id ∧
      Writes (calls d) user row row' result ∧ t.user? id = some row' := by
  cases hmove with
  | reads | audits | stops => exact .inl hrow
  | updates hphase hfound hwrites hcommitted =>
    left
    simpa only [user?, enter, hcommitted] using hrow
  | commits hphase =>
    rcases hinv.commit_cases hphase with ⟨-, hsame⟩ | ⟨user, row₀, row', -, hrow₀, hwrites, hsame⟩
    · exact .inl ((hsame id).trans hrow)
    · by_cases heq : row'.id = id
      · subst heq
        rw [hrow] at hrow₀
        cases hrow₀
        exact .inr ⟨user, row', _, _, rfl, hphase, rfl, rfl, hwrites,
          (hsame _).trans (if_pos rfl)⟩
      · exact .inl ((hsame id).trans ((if_neg heq).trans hrow))

theorem Inv.evolves (hinv : Inv calls s) (hmove : Move calls s i move t) :
    s.Evolves t := by
  intro id row hrow
  rcases hinv.row_cases hmove hrow with hsame | ⟨_, row', _, _, -, -, -, -, hwrites, hrow'⟩
  · exact ⟨row, hsame, .refl row⟩
  · exact ⟨row', hrow', hwrites.later⟩

private theorem Inv.evolves_run (hinv : Inv calls s)
    (hrun : Reachable (Step environment calls) s t) : Inv calls t ∧ s.Evolves t := by
  refine hrun.invariant (I := fun t => Inv calls t ∧ s.Evolves t)
    ⟨hinv, evolves_of_same fun _ => rfl⟩ ?_
  rintro t u ⟨i, move⟩ ⟨hinv, hevolves⟩ hstep
  have hmove := hinv.move hstep
  exact ⟨hinv.after hmove, hevolves.trans (hinv.evolves hmove)⟩

/-- Every principal that a call has returned is of a version that its user has had. -/
def Issued (s : AuthSystem environment.lower ι) : Prop :=
  ∀ i result principal, s.phase i = .committed result → result.principal? = some principal →
    ∃ row, s.user? principal.internalUserId = some row ∧
      principal.sessionVersion ≤ row.sessionVersion

/-- A principal that was issued stays so while the rows evolve. -/
theorem Issued.step (hinv : Inv calls s) (hissued : s.Issued)
    (hmove : Move calls s i move t) : t.Issued := by
  have hevolves := hinv.evolves hmove
  have hother : ∀ j, t.phase j = s.phase j → ∀ result principal, t.phase j = .committed result →
      result.principal? = some principal → ∃ row, t.user? principal.internalUserId = some row ∧
        principal.sessionVersion ≤ row.sessionVersion := by
    intro j hsame result principal hphase hprincipal
    rw [hsame] at hphase
    obtain ⟨row, hrow, hle⟩ := hissued j result principal hphase hprincipal
    obtain ⟨row', hrow', hlater⟩ := hevolves _ _ hrow
    exact ⟨row', hrow', hle.trans hlater.le⟩
  intro j result principal hphase hprincipal
  cases hmove with
  | @reads phase hreading hended =>
    by_cases hj : j = i
    · subst hj
      simp only [enter, update_self] at hphase
      subst hphase
      cases hended
    · exact hother j (update_of_ne hj _ _) result principal hphase hprincipal
  | updates | audits =>
    by_cases hj : j = i
    · subst hj
      simp only [enter, update_self] at hphase
      cases hphase
    · exact hother j (update_of_ne hj _ _) result principal hphase hprincipal
  | @commits event result' hcommitting =>
    by_cases hj : j = i
    · subst hj
      simp only [commit, update_self, AuthPhase.committed.injEq] at hphase
      subst hphase
      rcases hinv.commit_cases hcommitting with ⟨hnone, -⟩ | ⟨_, row, row', -, -, hwrites, hsame⟩
      · rw [hnone] at hprincipal
        cases hprincipal
      · have heq := hwrites.spec.2.symm.trans hprincipal
        cases heq
        exact ⟨row', by rw [hsame]; exact if_pos rfl, le_rfl⟩
    · exact hother j (update_of_ne hj _ _) result principal hphase hprincipal
  | stops =>
    by_cases hj : j = i
    · subst hj
      simp only [giveUp, update_self] at hphase
      cases hphase
    · exact hother j (update_of_ne hj _ _) result principal hphase hprincipal

private theorem issued_of_reachable {users : Table (internalUserSchema environment.lower)}
    (hrun : Reachable (Step environment calls) (start users ι) s) : s.Issued := by
  suffices hboth : Inv calls s ∧ s.Issued from hboth.2
  refine hrun.invariant (I := fun s => Inv calls s ∧ s.Issued) ⟨inv_start users, ?_⟩ ?_
  · rintro i result principal ⟨⟩
  · rintro s t ⟨i, move⟩ ⟨hinv, hissued⟩ hstep
    have hmove := hinv.move hstep
    exact ⟨hinv.after hmove, hissued.step hinv hmove⟩

/-- What has a result keeps it, or is rolled back. -/
theorem settled_of_move (hmove : Move calls s d move t) {result : AuthResult}
    (h : (s.phase i).result? = some result ∨ s.phase i = .rolledBack) :
    (t.phase i).result? = some result ∨ t.phase i = .rolledBack := by
  by_cases hi : i = d
  · subst hi
    cases hmove with
    | reads hphase =>
      rcases h with h | h
      · rw [AuthPhase.result?_of_isReading hphase] at h
        cases h
      · rw [h] at hphase
        cases hphase
    | updates hphase =>
      rw [hphase] at h
      rcases h with h | h <;> cases h
    | audits hphase =>
      rw [hphase] at h
      rcases h with h | h
      · simp only [enter, update_self]
        exact .inl h
      · cases h
    | commits hphase =>
      rw [hphase] at h
      rcases h with h | h
      · simp only [commit, update_self]
        exact .inl h
      · cases h
    | stops =>
      simp only [giveUp, update_self]
      exact .inr trivial
  · have hsame : t.phase i = s.phase i := by
      cases hmove <;> exact update_of_ne hi _ _
    rwa [hsame]

private theorem settled_of_run (hinv : Inv calls s) {result : AuthResult}
    (hrun : Reachable (Step environment calls) s t)
    (hresult : (s.phase i).result? = some result ∨ s.phase i = .rolledBack) :
    (t.phase i).result? = some result ∨ t.phase i = .rolledBack := by
  suffices hboth : Inv calls t ∧
      ((t.phase i).result? = some result ∨ t.phase i = .rolledBack) from hboth.2
  refine hrun.invariant (I := fun t => Inv calls t ∧
    ((t.phase i).result? = some result ∨ t.phase i = .rolledBack)) ⟨hinv, hresult⟩ ?_
  rintro t u ⟨d, move⟩ ⟨hinv, hbefore⟩ hstep
  have hmove := hinv.move hstep
  exact ⟨hinv.after hmove, settled_of_move hmove hbefore⟩

/-! ### After a user has been disabled -/

/-- A sign-in, after the user has been disabled: the row is disabled until the sign-in
updates it, and from then on it has the version of the principal only while it is disabled. -/
def Revokes (id : String) (row : InternalUser) : AuthPhase → Prop
  | .updating _ _ => row.status = .disabled
  | .auditing _ result | .committing _ result | .committed result =>
    ∀ principal, result.principal? = some principal → principal.internalUserId = id →
      principal.sessionVersion ≤ row.sessionVersion ∧
        (row.sessionVersion = principal.sessionVersion → row.status = .disabled)
  | .rolledBack => True
  | .reading | .readingWorkspaces _ | .readingTarget _ => False

/-- The user is there, and the sign-in is revoked. -/
def Revoked (id : String) (i : ι) (s : AuthSystem environment.lower ι) : Prop :=
  ∃ row, s.user? id = some row ∧ Revokes id row (s.phase i)

private theorem not_revokes_of_isReading {phase : AuthPhase}
    (h : phase.isReading) : ¬ Revokes id row phase := by
  cases phase <;> first | exact not_false | cases h

theorem Revokes.later {row' : InternalUser} {phase : AuthPhase} (h : Revokes id row phase)
    (hlater : row.Later row')
    (hupdating : (∃ candidate actorUserId, phase = .updating candidate actorUserId) →
      row.status = .disabled → row'.status = .disabled) : Revokes id row' phase := by
  have hresult : ∀ result : AuthResult,
      (∀ principal, result.principal? = some principal → principal.internalUserId = id →
        principal.sessionVersion ≤ row.sessionVersion ∧
          (row.sessionVersion = principal.sessionVersion → row.status = .disabled)) →
      ∀ principal, result.principal? = some principal → principal.internalUserId = id →
        principal.sessionVersion ≤ row'.sessionVersion ∧
          (row'.sessionVersion = principal.sessionVersion → row'.status = .disabled) := by
    intro result hbefore principal hprincipal hid
    obtain ⟨hle, hstatus⟩ := hbefore principal hprincipal hid
    refine ⟨hle.trans hlater.le, fun heq => ?_⟩
    rcases hlater with ⟨hversion, hsame⟩ | hlt
    · exact hsame.trans (hstatus (hversion.symm.trans heq))
    · omega
  cases phase with
  | updating candidate actorUserId => exact hupdating ⟨candidate, actorUserId, rfl⟩ h
  | auditing event result | committing event result | committed result => exact hresult result h
  | rolledBack => trivial
  | reading | readingWorkspaces | readingTarget => exact h

/-- **Step lemma.** A revoked sign-in stays revoked, if its user is not enabled between its
read and its update. -/
theorem Revoked.step (hinv : Inv calls s) (hcall : calls i = .authoriseOidcIdentity call)
    (hrevoked : Revoked id i s) (hmove : Move calls s d move t)
    (hkept : (∃ candidate actorUserId, s.phase i = .updating candidate actorUserId) → ¬ (move =
      .advance ∧ SetsStatus calls s d id .active)) : Revoked id i t := by
  obtain ⟨row, hrow, hrevokes⟩ := hrevoked
  by_cases hi : i = d
  · subst hi
    cases hmove with
    | reads hphase => exact absurd hrevokes (not_revokes_of_isReading hphase)
    | @updates user row₀ row' actorUserId event result users hphase hrow₀ hwrites hcommitted =>
      refine ⟨row, by simpa only [user?, enter, hcommitted] using hrow, ?_⟩
      rw [hphase] at hrevokes
      simp only [enter, update_self]
      intro principal hprincipal hid
      rw [hwrites.spec.2] at hprincipal
      cases hprincipal
      -- the row that the update has found is the disabled one
      have hsame : row₀ = row := by
        have huser : user.id = id := by
          rw [← (Table.lookup_spec hrow₀).2, ← hwrites.spec.1]
          exact hid
        rw [huser, hrow] at hrow₀
        exact (Option.some.inj hrow₀).symm
      subst hsame
      rw [hcall] at hwrites
      cases hwrites
      exact ⟨le_rfl, fun _ => hrevokes⟩
    | audits hphase =>
      rw [hphase] at hrevokes
      refine ⟨row, hrow, ?_⟩
      simp only [enter, update_self]
      exact hrevokes
    | @commits event result hphase =>
      rw [hphase] at hrevokes
      rcases hinv.row_cases (.commits hphase) hrow with
        hsame | ⟨user, row', _, _, -, hphase', -, -, hwrites, hrow'⟩
      · refine ⟨row, hsame, ?_⟩
        simp only [commit, update_self]
        exact hrevokes
      · refine ⟨row', hrow', ?_⟩
        have hafter : Revokes id row' (.committed result) :=
          hrevokes.later hwrites.later (by rintro ⟨_, _, ⟨⟩⟩)
        simpa only [commit, update_self] using hafter
    | stops =>
      refine ⟨row, hrow, ?_⟩
      simp only [giveUp, update_self]
      trivial
  · have hsame : t.phase i = s.phase i := by
      cases hmove <;> exact update_of_ne hi _ _
    unfold Revoked
    rw [hsame]
    rcases hinv.row_cases hmove hrow with
      hrow' | ⟨user, row', event, result, hadvance, hphase, -, hid, hwrites, hrow'⟩
    · exact ⟨row, hrow', hrevokes⟩
    · refine ⟨row', hrow', hrevokes.later hwrites.later fun hupdating hdisabled => ?_⟩
      generalize hother : calls d = other at hwrites
      cases hwrites with
      | signsIn => exact hdisabled
      | @setsStatus call' =>
        show call'.status = .disabled
        cases hstatus : call'.status with
        | disabled => rfl
        | active =>
          exact absurd ⟨hadvance, setsStatus_iff.mpr
            ⟨call', event, _, hother, hstatus, hphase, hid⟩⟩ (hkept hupdating)

/-- **The disabling of a user** revokes every sign-in that has read it. -/
theorem Issued.revoked (hinv : Inv calls s) (hissued : s.Issued)
    (hcall : calls i = .authoriseOidcIdentity call) (hread : (s.phase i).isReading = false)
    (hsets : SetsStatus calls s d id .disabled) (hstep : Step environment calls s (d, .advance) t) :
    Revoked id i t := by
  obtain ⟨status, event, principal, hstatus, hdisabled, hphase, hid⟩ := setsStatus_iff.mp hsets
  have hne : i ≠ d := by
    rintro rfl
    rw [hcall] at hstatus
    cases hstatus
  have ht := step_of_committing hphase hstep
  subst ht
  rcases hinv.commit_cases hphase with ⟨⟨⟩, -⟩ | ⟨user, row, row', hown, hrow, hwrites, hsame⟩
  have hprincipal : principal = row'.principal := Option.some.inj hwrites.spec.2
  have hid' : row'.id = id := by
    rw [← hid, hprincipal]
    rfl
  rw [hstatus] at hwrites
  cases hwrites with
  | setsStatus =>
  refine ⟨_, (hsame id).trans (if_pos hid'), ?_⟩
  simp only [commit, update_of_ne hne]
  have hopen : ∀ result, (s.phase i).open? = some result → ∀ principal',
      result.principal? = some principal' → principal'.internalUserId ≠ id := by
    -- two open transactions do not hold one row
    intro result hopen principal' hprincipal' hid''
    have hstanding := hinv i
    generalize hown' : s.users.own i = own at hstanding
    cases hstanding with
    | idle hnone => exact absurd (hnone.symm.trans hopen) (by simp)
    | refused hsome hnone =>
      cases hsome.symm.trans hopen
      rw [hnone] at hprincipal'
      cases hprincipal'
    | @written _ _ version _ hsome _ hwrites' =>
      cases hsome.symm.trans hopen
      have heq := hwrites'.spec.2.symm.trans hprincipal'
      cases heq
      have hmem : version ∈ s.users.own i := hown' ▸ List.mem_singleton_self _
      have hmem' : status.updated row ∈ s.users.own d := hown ▸ List.mem_singleton_self _
      exact LockedTable.key_ne_of_own hne hmem hmem' (Eq.trans hid'' hid'.symm)
  cases hcase : s.phase i with
  | updating => exact hdisabled
  | auditing event' result =>
    intro principal' hprincipal' hid''
    exact absurd hid'' (hopen result (by rw [hcase]; rfl) principal' hprincipal')
  | committing event' result =>
    intro principal' hprincipal' hid''
    exact absurd hid'' (hopen result (by rw [hcase]; rfl) principal' hprincipal')
  | committed result =>
    intro principal' hprincipal' hid''
    obtain ⟨found, hfound, hle⟩ := hissued i result principal' hcase hprincipal'
    have hfound' : s.user? row.id = some found := by
      rw [show row.id = principal'.internalUserId from Eq.trans hid' hid''.symm]
      exact hfound
    cases hfound'.symm.trans hrow
    refine ⟨hle.trans (Int.lt_succ _).le, fun heq => ?_⟩
    have hversion : row.sessionVersion + 1 = principal'.sessionVersion := heq
    omega
  | rolledBack => trivial
  | reading | readingWorkspaces | readingTarget =>
    rw [hcase] at hread
    cases hread

private theorem find_eq_none (hrow : s.user? principal.internalUserId = some row)
    (h : row.sessionVersion = principal.sessionVersion → row.status = .disabled) :
    findActiveSessionPrincipal environment s.users.committed principal = none ∧
      findActiveAdminPrincipal environment s.users.committed principal = none := by
  have hnone : ∀ found ∈ s.users.committed.rows, found.id = principal.internalUserId →
      found.sessionVersion = principal.sessionVersion → found.status ≠ .active := by
    intro found hmem hid hversion
    have hfound := (Table.lookup_eq_some (internalUserSchema_keyedBy_id _)).mpr ⟨hmem, hid⟩
    cases hfound.symm.trans hrow
    rw [h hversion]
    decide
  constructor
  · simp only [findActiveSessionPrincipal, Table.findFirst, Option.map_eq_none_iff,
      List.find?_eq_none, Bool.and_eq_true, beq_iff_eq]
    rintro found hmem ⟨⟨⟨⟨hid, hversion⟩, hactive⟩, -⟩, -⟩
    exact hnone found hmem hid hversion hactive
  · simp only [findActiveAdminPrincipal, Table.findFirst, Option.map_eq_none_iff,
      List.find?_eq_none, Bool.and_eq_true, beq_iff_eq]
    rintro found hmem ⟨⟨⟨⟨⟨hid, -⟩, hversion⟩, hactive⟩, -⟩, -⟩
    exact hnone found hmem hid hversion hactive

private theorem Inv.version_lt {status : AccountStatus} (hinv : Inv calls s)
    (hsets : SetsStatus calls s d id status) (hstep : Step environment calls s (d, .advance) t)
    {row' : InternalUser} (hrow : s.user? id = some row) (hrow' : t.user? id = some row') :
    row.sessionVersion < row'.sessionVersion := by
  obtain ⟨call, event, principal, hcall, -, hphase, hid⟩ := setsStatus_iff.mp hsets
  rw [step_of_committing hphase hstep] at hrow'
  rcases hinv.commit_cases hphase with ⟨⟨⟩, -⟩ | ⟨_, old, new, -, hold, hwrites, hsame⟩
  have hprincipal : principal = new.principal := Option.some.inj hwrites.spec.2
  have hid' : new.id = id := by
    rw [← hid, hprincipal]
    rfl
  rw [hsame, if_pos hid'] at hrow'
  rw [hid'] at hold
  cases hrow'
  cases hrow.symm.trans hold
  rw [hcall] at hwrites
  cases hwrites
  exact Int.lt_succ _

/-- The user is not enabled while a sign-in that has read it has still to update it. -/
def KeepsDisabled (calls : ι → AuthCall) (id : String) (i : ι) (s : AuthSystem environment.lower ι)
    (event : ι × AuthMove) : Prop :=
  (∃ candidate actorUserId, s.phase i = .updating candidate actorUserId) →
    ¬ (event.2 = .advance ∧ SetsStatus calls s event.1 id .active)

/-- **Run lemma.** A revoked sign-in stays revoked along every run in which its user is not
enabled between its read and its update. -/
theorem Revoked.run (hinv : Inv calls s) (hcall : calls i = .authoriseOidcIdentity call)
    (hrevoked : Revoked id i s)
    (hrun : Reachable (Restricted (Step environment calls) (KeepsDisabled
      calls id i)) s t) :
    Inv calls t ∧ Revoked id i t := by
  refine hrun.invariant (I := fun t => Inv calls t ∧ Revoked id i t) ⟨hinv, hrevoked⟩ ?_
  rintro t u ⟨e, move⟩ ⟨hbefore, hrevoked⟩ ⟨hallowed, hstep⟩
  have hmove := hbefore.move hstep
  exact ⟨hbefore.after hmove, hrevoked.step hbefore hcall hmove hallowed⟩

private theorem Revoked.find_eq_none (hinv : Inv calls s)
    (hrevoked : Revoked principal.internalUserId i s)
    (hrun : Reachable (Step environment calls) s t)
    (hphase : t.phase i = .committed (.decision (.allowed principal))) :
    findActiveSessionPrincipal environment s.users.committed principal = none ∧
      findActiveAdminPrincipal environment s.users.committed principal = none := by
  obtain ⟨row, hrow, hrevokes⟩ := hrevoked
  have hresult : ∀ result, (s.phase i).result? = some result ∨ s.phase i = .rolledBack →
      result = .decision (.allowed principal) := by
    intro result hresult
    have hsettled := settled_of_run hinv hrun hresult
    rw [hphase] at hsettled
    rcases hsettled with h | h
    · exact (Option.some.inj h).symm
    · cases h
  refine AuthSystem.find_eq_none hrow ?_
  cases hcase : s.phase i with
  | updating candidate actorUserId =>
    rw [hcase] at hrevokes
    exact fun _ => hrevokes
  | auditing event result | committing event result | committed result =>
    rw [hcase] at hrevokes hresult
    cases hresult result (.inl rfl)
    exact (hrevokes principal rfl rfl).2
  | rolledBack => cases hresult (.status none) (.inr hcase)
  | reading | readingWorkspaces | readingTarget =>
    rw [hcase] at hrevokes
    exact hrevokes.elim

end AuthSystem

open AuthSystem in
/-- **Revocation is final for issued sessions**, and a version never repeats: the statement
that sets a status gives the user a version greater than all before. A principal of a sign-in
that has committed before its user is disabled, or that has read the user before and updates
it before the user is enabled again, is not active in any state after the disabling. -/
theorem revocation_is_final {ι : Type*} [DecidableEq ι] {environment : Environment}
    {calls : ι → AuthCall} {users : Table (internalUserSchema environment.lower)}
    {s s' : AuthSystem environment.lower ι} {d : ι} {id : String} {status : AccountStatus}
    (hrun : Transition.Reachable (Step environment calls) (start users ι) s)
    (hsets : SetsStatus calls s d id status)
    (hstep : Step environment calls s (d, .advance) s') :
    (∀ r row row', Transition.Reachable (Step environment calls) (start users ι) r →
      Transition.Reachable (Step environment calls) r s → r.user? id = some row →
      s'.user? id = some row' → row.sessionVersion < row'.sessionVersion) ∧
    (status = .disabled → ∀ history t i call principal,
      Transition.Run (Step environment calls) s' history t →
      calls i = .authoriseOidcIdentity call →
      t.phase i = .committed (.decision (.allowed principal)) → principal.internalUserId = id →
      (∃ result, s.phase i = .committed result) ∨ ((s.phase i).isReading = false ∧
        ∀ visited ∈ history, KeepsDisabled calls id i visited.1 visited.2) →
      ∀ u, u = t ∨ (∃ event, (u, event) ∈ history) →
        findActiveSessionPrincipal environment u.users.committed principal = none ∧
          findActiveAdminPrincipal environment u.users.committed principal = none) := by
  have hinv := inv_of_reachable hrun
  constructor
  · intro r row row' hr hrs hrow hrow'
    obtain ⟨found, hfound, hlater⟩ := ((inv_of_reachable hr).evolves_run hrs).2 id row hrow
    exact hlater.le.trans_lt (hinv.version_lt hsets hstep hfound hrow')
  · rintro rfl history t i call principal hhistory hcall hphase rfl hread u hu
    have hkept : (s.phase i).isReading = false ∧
        ∀ visited ∈ history, KeepsDisabled calls principal.internalUserId i visited.1 visited.2 := by
      rcases hread with ⟨result, hcommitted⟩ | hread
      · -- a call that has returned updates no more
        refine ⟨by rw [hcommitted]; rfl, ?_⟩
        rintro visited hvisited ⟨candidate, actorUserId, hupdating⟩
        have hsettled : (visited.1.phase i).result? = some result ∨
            visited.1.phase i = .rolledBack := settled_of_run hinv
          ((Transition.Reachable.refl.tail hstep).trans (hhistory.mem_history hvisited).1)
          (.inl (by rw [hcommitted]; rfl))
        rw [hupdating] at hsettled
        rcases hsettled with h | h <;> cases h
      · exact hread
    have hrevoked := (issued_of_reachable hrun).revoked hinv hcall hkept.1 hsets hstep
    have hrestricted : Run (Restricted (Step environment calls)
        (KeepsDisabled calls principal.internalUserId i)) s' history t :=
      hhistory.restricted hkept.2
    have hends : Reachable (Restricted (Step environment calls)
        (KeepsDisabled calls principal.internalUserId i)) s' u ∧
        Reachable (Step environment calls) u t := by
      rcases hu with rfl | ⟨event, hmem⟩
      · exact ⟨⟨history, hrestricted⟩, .refl⟩
      · obtain ⟨hbefore, next, hnext, hafter⟩ := hrestricted.mem_history hmem
        exact ⟨hbefore, (Transition.Reachable.refl.tail hnext.2).trans hafter.of_restricted⟩
    obtain ⟨hinvu, hrevokedu⟩ := hrevoked.run (hinv.after (hinv.move hstep)) hcall hends.1
    exact hrevokedu.find_eq_none hinvu hends.2 hphase

/-! ### A sign-in around a disabling -/

namespace Sample

/-- A sign-in of the teammate, who is disabled and enabled again. -/
def interrupted (i : ℕ) : AuthCall :=
  if i = 0 then signIn "google-subject"
  else if i = 1 then setStatus .disabled
  else setStatus .active

/-- The state that events lead to, after a state with a history. -/
def goOn (s : AuthSystem environment.lower ℕ) (events : List (ℕ × AuthMove)) :
    Option (List (AuthSystem environment.lower ℕ × ℕ × AuthMove) × AuthSystem environment.lower ℕ) :=
  replay (next environment interrupted) [] s events

/-- The teammate is about to be disabled, after some statements of the sign-in. -/
def aboutToDisable (statements : ℕ) :
    Option (List (AuthSystem environment.lower ℕ × ℕ × AuthMove) × AuthSystem environment.lower ℕ) :=
  goOn (AuthSystem.start users ℕ) (completed 0 statements ++ completed 1 4)

end Sample

open Sample AuthSystem in
/-- The principal of a sign-in from before is not active when its user is enabled again. -/
theorem earlier_session_stays_revoked : ∃ t : AuthSystem environment.lower ℕ,
    t.phase 0 = .committed (.decision (.allowed ⟨"user", 1, "workspace"⟩)) ∧
      (t.user? "user").map InternalUser.status = some .active ∧
      findActiveSessionPrincipal environment t.users.committed ⟨"user", 1, "workspace"⟩ = none := by
  have hfacts : (aboutToDisable 4).bind (fun r =>
      (next environment interrupted r.2 (1, .advance)).bind fun s' =>
        (goOn s' (completed 2 5)).map fun r' =>
          (r.2.phase 0, decide (SetsStatus interrupted r.2 1 "user" .disabled), r'.2.phase 0,
            (r'.2.user? "user").map InternalUser.status)) =
      some (.committed (.decision (.allowed ⟨"user", 1, "workspace"⟩)), true,
        .committed (.decision (.allowed ⟨"user", 1, "workspace"⟩)), some .active) := by
    decide
  obtain ⟨⟨history, s⟩, hs, hfacts⟩ := Option.bind_eq_some_iff.mp hfacts
  obtain ⟨s', hstep, hfacts⟩ := Option.bind_eq_some_iff.mp hfacts
  obtain ⟨⟨history', t⟩, ht, hfacts⟩ := Option.map_eq_some_iff.mp hfacts
  obtain ⟨hcommitted, hfacts⟩ := Prod.mk.inj hfacts
  obtain ⟨hsets, hfacts⟩ := Prod.mk.inj hfacts
  obtain ⟨hphase, hactive⟩ := Prod.mk.inj hfacts
  exact ⟨t, hphase, hactive, ((revocation_is_final ⟨history, .replay .refl hs⟩
    (of_decide_eq_true hsets) hstep).2 rfl history' t 0 _ _ (.replay .refl ht) rfl hphase rfl
    (.inl ⟨_, hcommitted⟩) t (.inl rfl)).1⟩

open Sample AuthSystem in
/-- **A sign-in outlives a disabling.** It reads its user, who is then disabled and enabled
again; its update returns the version of the new activation. -/
theorem interrupted_sign_in_is_active : ∃ s s' t : AuthSystem environment.lower ℕ,
    Transition.Reachable (Step environment interrupted) (start users ℕ) s ∧
      (s.phase 0).isReading = false ∧ SetsStatus interrupted s 1 "user" .disabled ∧
      Step environment interrupted s (1, .advance) s' ∧
      Transition.Reachable (Step environment interrupted) s' t ∧
      t.phase 0 = .committed (.decision (.allowed ⟨"user", 3, "workspace"⟩)) ∧
      findActiveSessionPrincipal environment t.users.committed ⟨"user", 3, "workspace"⟩ =
        some ⟨"user", 3, "workspace"⟩ := by
  have hfacts : (aboutToDisable 1).bind (fun r =>
      (next environment interrupted r.2 (1, .advance)).bind fun s' =>
        (goOn s' (completed 2 5 ++ completed 0 3)).map fun r' =>
          ((r.2.phase 0).isReading, decide (SetsStatus interrupted r.2 1 "user" .disabled),
            r'.2.phase 0,
            findActiveSessionPrincipal environment r'.2.users.committed ⟨"user", 3, "workspace"⟩)) =
      some (false, true, .committed (.decision (.allowed ⟨"user", 3, "workspace"⟩)),
        some ⟨"user", 3, "workspace"⟩) := by
    decide
  obtain ⟨⟨history, s⟩, hs, hfacts⟩ := Option.bind_eq_some_iff.mp hfacts
  obtain ⟨s', hstep, hfacts⟩ := Option.bind_eq_some_iff.mp hfacts
  obtain ⟨⟨history', t⟩, ht, hfacts⟩ := Option.map_eq_some_iff.mp hfacts
  obtain ⟨hread, hfacts⟩ := Prod.mk.inj hfacts
  obtain ⟨hsets, hfacts⟩ := Prod.mk.inj hfacts
  obtain ⟨hphase, hactive⟩ := Prod.mk.inj hfacts
  exact ⟨s, s', t, ⟨history, .replay .refl hs⟩, hread, of_decide_eq_true hsets, hstep,
    ⟨history', .replay .refl ht⟩, hphase, hactive⟩

end ContentAutomation.Auth
