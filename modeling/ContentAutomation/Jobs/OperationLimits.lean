import ContentAutomation.Jobs.OperationRace

/-!
# Limits on operator commands

A count sees every earlier command of the window as long as each of them has committed when the
next one counts. The command that counts last in a window then bounds the number of all that have
passed in it.
-/

namespace ContentAutomation

open Relational List Function

namespace OperationRace

variable {ι : Type*} [DecidableEq ι] {calls : ι → OperationCall} {s t : OperationRace ι}
  {event : OperationEvent ι} {i j : ι} {call : OperationCall} {phase : OperationPhase}
  {judgement : Judgement} {actor : InternalUser}

/-- Two commands of one kind by one user. -/
def Alike (calls : ι → OperationCall) (i j : ι) : Prop :=
  (calls i).action = (calls j).action ∧ (calls i).operator = (calls j).operator

/-- Among the commands of one kind by one user in a window, no more than the limit have passed. -/
def WithinLimit (calls : ι → OperationCall) (s : OperationRace ι) : Prop :=
  ∀ (action : OperatorAction) (operator : String × String) (x : ℤ) (window : Finset ι),
    (∀ i ∈ window, (s.phase i).passed = true ∧ (calls i).action = action ∧
      (calls i).operator = operator ∧ x ≤ (calls i).now ∧ (calls i).now ≤ x + operationWindowMs) →
    window.card ≤ operationLimits action

/-- When a command counts, each that has passed in its window has committed. -/
def CountsAll (calls : ι → OperationCall) (s : OperationRace ι) : OperationEvent ι → Prop
  | .advance i => (s.phase i).isCounting = true → ∀ j, j ≠ i → Alike calls j i →
      (s.phase j).passed = true → (calls i).now - operationWindowMs ≤ (calls j).now →
      (s.phase j).isAnswered = true
  | _ => True

instance [Fintype ι] (calls : ι → OperationCall) (s : OperationRace ι) (event : OperationEvent ι) :
    Decidable (CountsAll calls s event) := by
  unfold CountsAll Alike
  cases event <;> infer_instance

/-- The actor is the user that gives the command. -/
def Operates (call : OperationCall) (actor : InternalUser) : Prop :=
  (actor.id, actor.workspaceId) = call.operator

/-- Where a command stands: what it has written and not yet committed, with the audit log as
everyone sees it. -/
inductive Standing (committed : Table auditEventSchema) (call : OperationCall) :
    OperationPhase → List AuditEvent → Prop
  | authorising : Standing committed call .authorising []
  | counting {actor : InternalUser} (hactor : Operates call actor) :
      Standing committed call (.counting actor) []
  | working {actor : InternalUser} (hactor : Operates call actor) :
      Standing committed call (.working actor) []
  | auditing {judgement : Judgement}
      (hactor : judgement.passed = true → Operates call judgement.actor) :
      Standing committed call (.auditing judgement) []
  | committing {judgement : Judgement}
      (hactor : judgement.passed = true → Operates call judgement.actor) :
      Standing committed call (.committing judgement)
        [call.event judgement.actor judgement.result]
  | answered {judgement : Judgement}
      (hactor : judgement.passed = true → Operates call judgement.actor)
      (hevent : call.event judgement.actor judgement.result ∈ committed.rows) :
      Standing committed call (.answered judgement) []
  | unauthorised : Standing committed call .unauthorised []
  | failed {passed : Bool} : Standing committed call (.failed passed) []

/-- The invariant: every command stands where its statements have brought it, and the audit
events of those that have committed are different. -/
structure Inv (calls : ι → OperationCall) (s : OperationRace ι) : Prop where
  standing : ∀ i, Standing s.auditEvents.committed (calls i) (s.phase i) (s.auditEvents.own i)
  apart : ∀ i j, i ≠ j → (s.phase i).isAnswered = true → (s.phase j).isAnswered = true →
    (calls i).auditId ≠ (calls j).auditId

/-! ### What a command has written -/

private theorem auditEventSchema_keyedBy_id : auditEventSchema.KeyedBy AuditEvent.id :=
  ⟨_, mem_cons_self, fun _ _ heq => beq_iff_eq.mpr heq⟩

private theorem Standing.own_eq_nil {committed : Table auditEventSchema} {own : List AuditEvent}
    (h : Standing committed call phase own) (hphase : ∀ judgement, phase ≠ .committing judgement) :
    own = [] := by
  cases h with
  | committing => exact absurd rfl (hphase _)
  | _ => rfl

theorem Inv.own_of_committing (hinv : Inv calls s) (hphase : s.phase i = .committing judgement) :
    s.auditEvents.own i = [(calls i).event judgement.actor judgement.result] ∧
      (judgement.passed → Operates (calls i) judgement.actor) := by
  have hstanding := hinv.standing i
  rw [hphase] at hstanding
  generalize s.auditEvents.own i = own at hstanding ⊢
  cases hstanding with
  | committing hactor => exact ⟨rfl, hactor⟩

private theorem Inv.operates_of_counting (hinv : Inv calls s)
    (hphase : s.phase i = .counting actor) :
    s.auditEvents.own i = [] ∧ Operates (calls i) actor := by
  have hstanding := hinv.standing i
  rw [hphase] at hstanding
  generalize s.auditEvents.own i = own at hstanding ⊢
  cases hstanding with
  | counting hactor => exact ⟨rfl, hactor⟩

private theorem Inv.operates_of_working (hinv : Inv calls s) (hphase : s.phase i = .working actor) :
    s.auditEvents.own i = [] ∧ Operates (calls i) actor := by
  have hstanding := hinv.standing i
  rw [hphase] at hstanding
  generalize s.auditEvents.own i = own at hstanding ⊢
  cases hstanding with
  | working hactor => exact ⟨rfl, hactor⟩

private theorem Inv.operates_of_auditing (hinv : Inv calls s)
    (hphase : s.phase i = .auditing judgement) :
    s.auditEvents.own i = [] ∧
      (judgement.passed → Operates (calls i) judgement.actor) := by
  have hstanding := hinv.standing i
  rw [hphase] at hstanding
  generalize s.auditEvents.own i = own at hstanding ⊢
  cases hstanding with
  | auditing hactor => exact ⟨rfl, hactor⟩

private theorem Inv.event_of_answered (hinv : Inv calls s) (hanswered : (s.phase i).isAnswered)
    (hpassed : (s.phase i).passed) :
    ∃ actor result, Operates (calls i) actor ∧
      (calls i).event actor result ∈ s.auditEvents.committed.rows := by
  have hstanding := hinv.standing i
  generalize s.auditEvents.own i = own, s.phase i = phase at hstanding hanswered hpassed
  cases hstanding with
  | answered hactor hevent => exact ⟨_, _, hactor hpassed, hevent⟩
  | _ => cases hanswered

/-! ### The invariant -/

theorem Standing.mono {committed committed' : Table auditEventSchema} {own : List AuditEvent}
    (h : Standing committed call phase own) (hsubset : committed.rows ⊆ committed'.rows) :
    Standing committed' call phase own := by
  cases h with
  | authorising => exact .authorising
  | counting hactor => exact .counting hactor
  | working hactor => exact .working hactor
  | auditing hactor => exact .auditing hactor
  | committing hactor => exact .committing hactor
  | answered hactor hevent => exact .answered hactor (hsubset hevent)
  | unauthorised => exact .unauthorised
  | failed => exact .failed

private theorem isAnswered_of_enter (hopen : phase.isAnswered = false)
    (hj : ((s.enter i phase).phase j).isAnswered) : (s.phase j).isAnswered := by
  by_cases heq : j = i
  · subst heq
    simp [OperationRace.enter, hopen] at hj
  · simpa only [OperationRace.enter, update_of_ne heq] using hj

theorem Inv.enter (hinv : Inv calls s)
    (hstanding : Standing s.auditEvents.committed (calls i) phase (s.auditEvents.own i))
    (hopen : phase.isAnswered = false) : Inv calls (s.enter i phase) where
  standing := by
    intro j
    by_cases hj : j = i
    · subst hj
      simpa only [OperationRace.enter, update_self] using hstanding
    · simpa only [OperationRace.enter, update_of_ne hj] using hinv.standing j
  apart := fun j k hne hj hk =>
    hinv.apart j k hne (isAnswered_of_enter hopen hj) (isAnswered_of_enter hopen hk)

theorem Inv.throw (hinv : Inv calls s) : Inv calls (s.throw i) where
  standing := by
    intro j
    by_cases hj : j = i
    · subst hj
      simp only [OperationRace.throw, update_self, OpenTable.rollBack_own_self]
      exact .failed
    · simp only [OperationRace.throw, update_of_ne hj,
        OpenTable.rollBack_own_of_ne (Ne.symm hj)]
      exact hinv.standing j
  apart := fun j k hne hj hk =>
    hinv.apart j k hne (isAnswered_of_enter rfl hj) (isAnswered_of_enter rfl hk)

private theorem Inv.auditId_ne (hinv : Inv calls s) (hphase : s.phase i = .committing judgement)
    (hanswered : (s.phase j).isAnswered) :
    (calls j).auditId ≠ (calls i).auditId := by
  obtain ⟨hown, -⟩ := hinv.own_of_committing hphase
  have hstanding := hinv.standing j
  generalize s.auditEvents.own j = own, s.phase j = phase at hstanding hanswered
  cases hstanding with
  | answered hactor hevent =>
    exact OpenTable.key_ne_of_committed auditEventSchema_keyedBy_id hevent
      (hown ▸ mem_singleton_self _)
  | _ => cases hanswered

/-- The invariant, after a command has committed. -/
theorem Inv.commit (hinv : Inv calls s) (hphase : s.phase i = .committing judgement) :
    Inv calls (s.commit i judgement) where
  standing := by
    obtain ⟨hown, hactor⟩ := hinv.own_of_committing hphase
    intro j
    by_cases hj : j = i
    · subst hj
      simp only [OperationRace.commit, update_self, OpenTable.commit_own_self]
      refine .answered hactor ?_
      simp [hown]
    · simp only [OperationRace.commit, update_of_ne hj,
        OpenTable.commit_own_of_ne (Ne.symm hj)]
      exact (hinv.standing j).mono (subset_append_left _ _)
  apart := by
    have hbefore : ∀ j, j ≠ i → ((s.commit i judgement).phase j).isAnswered = true →
        (s.phase j).isAnswered = true := by
      intro j hne hj
      simpa only [OperationRace.commit, update_of_ne hne] using hj
    intro j k hne hj hk
    by_cases hji : j = i
    · subst hji
      exact (hinv.auditId_ne hphase (hbefore k (Ne.symm hne) hk)).symm
    · by_cases hki : k = i
      · subst hki
        exact hinv.auditId_ne hphase (hbefore j hne hj)
      · exact hinv.apart j k hne (hbefore j hji hj) (hbefore k hki hk)

private theorem operates_of_selects (h : call.selectsActor actor) : Operates call actor := by
  simp only [OperationCall.selectsActor, Bool.and_eq_true, beq_iff_eq] at h
  exact Prod.ext h.1.1.1.1 h.2

/-- Every move keeps the invariant. -/
theorem Inv.after (hinv : Inv calls s) (hmove : Move calls s event t) : Inv calls t := by
  cases hmove with
  | @rejects i hphase =>
    refine hinv.enter ?_ rfl
    rw [(hinv.standing i).own_eq_nil (by simp [hphase])]
    exact .unauthorised
  | @finds i actor hphase hactor =>
    refine hinv.enter ?_ rfl
    rw [(hinv.standing i).own_eq_nil (by simp [hphase])]
    exact .counting (operates_of_selects hactor)
  | @denies i actor result hphase =>
    refine hinv.enter ?_ rfl
    rw [(hinv.standing i).own_eq_nil (by rcases hphase with h | h <;> simp [h])]
    exact .auditing (by simp)
  | @passes i actor hphase hcount =>
    obtain ⟨hown, hactor⟩ := hinv.operates_of_counting hphase
    refine hinv.enter ?_ rfl
    rw [hown]
    exact .working hactor
  | @works i actor result hphase =>
    obtain ⟨hown, hactor⟩ := hinv.operates_of_working hphase
    refine hinv.enter ?_ rfl
    rw [hown]
    exact .auditing fun _ => hactor
  | @inserts i judgement auditEvents hphase hdone =>
    obtain ⟨hempty, hactor⟩ := hinv.operates_of_auditing hphase
    obtain ⟨hcommitted, hown, hothers⟩ := OpenTable.of_insertRow_done hdone
    have hstanding : ∀ j, j ≠ i → Standing auditEvents.committed (calls j) (s.phase j)
        (auditEvents.own j) := by
      intro j hj
      rw [hcommitted, hothers j hj]
      exact hinv.standing j
    constructor
    · intro j
      by_cases hj : j = i
      · subst hj
        simp only [OperationRace.enter, update_self, hown, hempty, nil_append]
        exact .committing hactor
      · simpa only [OperationRace.enter, update_of_ne hj] using hstanding j hj
    · intro j k hne hj hk
      exact hinv.apart j k hne (isAnswered_of_enter rfl hj) (isAnswered_of_enter rfl hk)
  | commits hphase => exact hinv.commit hphase
  | fails => exact hinv.throw
  | changes => exact ⟨hinv.standing, hinv.apart⟩

theorem inv_start (auditEvents : Table auditEventSchema) (internalUsers : List InternalUser) :
    Inv calls (start auditEvents internalUsers ι) where
  standing := fun _ => .authorising
  apart := fun _ _ _ h => by cases h

/-! ### The limit -/

private theorem passed_of_move (hmove : Move calls s event t) (hpassed : (t.phase j).passed) :
    (s.phase j).passed ∨ ∃ actor, event = .advance j ∧ s.phase j = .counting actor ∧
      (s.auditEvents.visible j).rows.countP ((calls j).countsEvent actor) <
        operationLimits (calls j).action := by
  have hother : ∀ {i : ι} {phase : OperationPhase}, (phase.passed = true →
      (s.phase i).passed = true) → (update s.phase i phase j).passed = true →
      (s.phase j).passed = true := by
    intro i phase hkeeps h
    by_cases heq : j = i
    · subst heq
      rw [update_self] at h
      exact hkeeps h
    · rwa [update_of_ne heq] at h
  cases hmove with
  | @passes i actor hphase hcount =>
    by_cases heq : j = i
    · subst heq
      exact .inr ⟨actor, rfl, hphase, hcount⟩
    · simp only [OperationRace.enter, update_of_ne heq] at hpassed
      exact .inl hpassed
  | rejects | finds | denies => exact .inl (hother (fun h => by cases h) hpassed)
  | works hphase => exact .inl (hother (fun _ => by rw [hphase]; rfl) hpassed)
  | inserts hphase | commits hphase =>
    exact .inl (hother (fun h => by rw [hphase]; exact h) hpassed)
  | @fails i _ hended =>
    have hkeeps : (OperationPhase.failed (s.phase i).passed).passed = true →
        (s.phase i).passed = true := fun h => h
    exact .inl (hother hkeeps hpassed)
  | changes => exact .inl hpassed

omit [DecidableEq ι] in
private theorem countsEvent_of_alike {actor' : InternalUser} (halike : Alike calls j i)
    (hactor : Operates (calls i) actor) (hactor' : Operates (calls j) actor')
    (hwindow : (calls i).now - operationWindowMs ≤ (calls j).now) (result : JobOperationResult) :
    (calls i).countsEvent actor ((calls j).event actor' result) := by
  have hsame : (actor'.id, actor'.workspaceId) = (actor.id, actor.workspaceId) :=
    hactor'.trans (halike.2.trans hactor.symm)
  obtain ⟨hid, hworkspace⟩ := Prod.mk.inj hsame
  have hwindow' : (calls i).now - operationWindowMs ≤ (calls j).prepared.operationAt := hwindow
  simp [OperationCall.countsEvent, OperationCall.event, operationAuditData, halike.1, hid,
    hworkspace, hwindow']

/-- The commands that have committed are no more than the audit events that one of them counts. -/
theorem Inv.card_le_count (hinv : Inv calls s) (hactor : Operates (calls i) actor)
    {earlier : Finset ι}
    (hearlier : ∀ j ∈ earlier, Alike calls j i ∧ (s.phase j).isAnswered ∧ (s.phase j).passed
      ∧ (calls i).now - operationWindowMs ≤ (calls j).now) :
    earlier.card ≤ s.auditEvents.committed.rows.countP ((calls i).countsEvent actor) := by
  have hinjective : Set.InjOn (fun j => (calls j).auditId) earlier := by
    intro j hj k hk heq
    by_contra hne
    exact hinv.apart j k hne (hearlier j hj).2.1 (hearlier k hk).2.1 heq
  have hsubset : earlier.image (fun j => (calls j).auditId) ⊆
      ((s.auditEvents.committed.rows.filter ((calls i).countsEvent actor)).map
        AuditEvent.id).toFinset := by
    intro id hid
    obtain ⟨j, hj, rfl⟩ := Finset.mem_image.mp hid
    obtain ⟨halike, hanswered, hpassed, hwindow⟩ := hearlier j hj
    obtain ⟨actor', result, hactor', hevent⟩ := hinv.event_of_answered hanswered hpassed
    have hcounts := countsEvent_of_alike halike hactor hactor' hwindow result
    exact mem_toFinset.mpr
      (mem_map.mpr ⟨_, mem_filter.mpr ⟨hevent, hcounts⟩, rfl⟩)
  calc earlier.card = (earlier.image fun j => (calls j).auditId).card :=
        (Finset.card_image_of_injOn hinjective).symm
    _ ≤ _ := Finset.card_le_card hsubset
    _ ≤ _ := toFinset_card_le _
    _ = _ := by rw [length_map, countP_eq_length_filter]

/-- Every move keeps the limit, when its count sees all. -/
theorem Inv.withinLimit_after (hinv : Inv calls s) (hwithin : WithinLimit calls s)
    (hcounts : CountsAll calls s event) (hmove : Move calls s event t) : WithinLimit calls t := by
  intro action operator x window hwindow
  by_cases hbefore : ∀ i ∈ window, (s.phase i).passed = true
  · exact hwithin action operator x window fun i hi => ⟨hbefore i hi, (hwindow i hi).2⟩
  · push Not at hbefore
    obtain ⟨i, hi, hnew⟩ := hbefore
    obtain ⟨hpassed, hkind, huser, hlow, hhigh⟩ := hwindow i hi
    obtain habsurd | ⟨actor, hevent, hphase, hcount⟩ := passed_of_move hmove hpassed
    · exact absurd habsurd hnew
    subst hevent
    obtain ⟨hown, hactor⟩ := hinv.operates_of_counting hphase
    -- the others of the window have passed before, and were counted
    have hearlier : ∀ j ∈ window.erase i, Alike calls j i ∧ (s.phase j).isAnswered = true ∧
        (s.phase j).passed = true ∧ (calls i).now - operationWindowMs ≤ (calls j).now := by
      intro j hj
      obtain ⟨hne, hmem⟩ := Finset.mem_erase.mp hj
      obtain ⟨hpassed', hkind', huser', hlow', -⟩ := hwindow j hmem
      have halike : Alike calls j i := ⟨hkind'.trans hkind.symm, huser'.trans huser.symm⟩
      have hlate : (calls i).now - operationWindowMs ≤ (calls j).now := by omega
      have hold : (s.phase j).passed = true := by
        rcases passed_of_move hmove hpassed' with hold | ⟨-, hevent, -⟩
        · exact hold
        · exact absurd (OperationEvent.advance.inj hevent).symm hne
      have hcounting : (s.phase i).isCounting = true := by rw [hphase]; rfl
      exact ⟨halike, hcounts hcounting j hne halike hold hlate, hold, hlate⟩
    have hcard := hinv.card_le_count hactor hearlier
    have hvisible : (s.auditEvents.visible i).rows = s.auditEvents.committed.rows := by simp [hown]
    rw [hvisible, hkind] at hcount
    rw [Finset.card_erase_of_mem hi] at hcard
    omega

/-- **The limit holds as long as every count sees all.** -/
theorem withinLimit_of_reachable {auditEvents : Table auditEventSchema}
    {internalUsers : List InternalUser}
    (h : Transition.Reachable (Transition.Restricted (Step calls) (CountsAll calls))
      (start auditEvents internalUsers ι) t) : WithinLimit calls t := by
  have hboth : Inv calls t ∧ WithinLimit calls t := by
    refine h.invariant (I := fun t => Inv calls t ∧ WithinLimit calls t) ⟨inv_start _ _, ?_⟩ ?_
    · intro action operator x window hwindow
      have hnone : window = ∅ :=
        Finset.eq_empty_of_forall_notMem fun i hi => Bool.noConfusion (hwindow i hi).1
      rw [hnone]
      exact Nat.zero_le _
    · rintro s t event ⟨hinv, hwithin⟩ ⟨hcounts, hstep⟩
      have hmove := move_of_step hstep
      exact ⟨hinv.after hmove, hinv.withinLimit_after hwithin hcounts hmove⟩
  exact hboth.2

end OperationRace

end ContentAutomation
