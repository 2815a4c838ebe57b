import ContentAutomation.Jobs.SystemRules

/-!
# Fencing

A result is committed at most once, and a process whose lease has ended changes
nothing any more, however the processes are interleaved. Successful and
cancelled jobs keep their state.
-/

namespace ContentAutomation

open Relational Transaction List

variable {App : Type} {environment : Environment App} {s t u : System App}

/-- The lease of a job has ended: its attempt was closed, by recovery for example,
or a later attempt was made. -/
def Database.LeaseEnded (db : Database App) (k leaseId : String) : Prop :=
  ∃ attempt ∈ db.attemptsOf k, attempt.leaseId = leaseId ∧ (attempt.state ≠ .active ∨
    ∃ later ∈ db.attemptsOf k, attempt.attemptNumber < later.attemptNumber)

instance (db : Database App) (k leaseId : String) : Decidable (db.LeaseEnded k leaseId) :=
  inferInstanceAs (Decidable (∃ attempt ∈ db.attemptsOf k, attempt.leaseId = leaseId ∧
    (attempt.state ≠ .active ∨
      ∃ later ∈ db.attemptsOf k, attempt.attemptNumber < later.attemptNumber)))

private theorem Database.leaseEnded_iff {db : Database App} {k leaseId : String} :
    db.LeaseEnded k leaseId ↔ (db.view k).LeaseEnded leaseId := by
  unfold LeaseEnded JobView.LeaseEnded
  constructor
  · rintro ⟨attempt, hmem, hlease, hended⟩
    refine ⟨attempt.summary, mem_map_of_mem hmem, hlease, ?_⟩
    rcases hended with hclosed | ⟨later, hlater, hlt⟩
    · exact .inl hclosed
    · exact .inr ⟨later.summary, mem_map_of_mem hlater, hlt⟩
  · rintro ⟨summary, hmem, hlease, hended⟩
    obtain ⟨attempt, hattempt, rfl⟩ := mem_map.mp hmem
    refine ⟨attempt, hattempt, hlease, ?_⟩
    rcases hended with hclosed | ⟨laterSummary, hlater, hlt⟩
    · exact .inl hclosed
    · obtain ⟨later, hlaterMem, rfl⟩ := mem_map.mp hlater
      exact .inr ⟨later, hlaterMem, hlt⟩

private theorem Database.Inv.not_held_of_ended {db : Database App} (hinv : db.Inv)
    {k leaseId : String}
    (hended : db.LeaseEnded k leaseId) {job : BackgroundJob} (hjob : db.job? k = some job) :
    job.leaseId ≠ some leaseId := by
  intro hheld
  obtain ⟨attempt, hmem, rfl, hended⟩ := hended
  obtain ⟨outbox, -, hconsistent⟩ := hinv.consistent hjob
  have hrow : attempt ∈ db.jobAttempts.rows := mem_of_mem_filter hmem
  have hactive : attempt.state = .active := (hinv.attempt_of_lease hjob hrow hheld).2
  rcases hended with hclosed | ⟨later, hlater, hlt⟩
  · exact hclosed hactive
  · have hlast := hconsistent.of_active (mem_map_of_mem (f := JobAttempt.summary) hmem) hactive
    have hbound := hconsistent.attemptNumber_le
      (mem_map_of_mem (f := JobAttempt.summary) hlater)
    have hnumber : attempt.attemptNumber = job.summary.attemptCount := hlast.2
    have hlater' : later.attemptNumber ≤ job.summary.attemptCount := hbound
    omega

namespace System

theorem Evolves.leaseEnded (h : s.Evolves t) {k leaseId : String}
    (hended : s.db.LeaseEnded k leaseId) : t.db.LeaseEnded k leaseId := by
  rw [Database.leaseEnded_iff] at hended ⊢
  rcases h k with hsame | ⟨action, hstep⟩
  · rw [hsame]
    exact hended
  · exact hstep.leaseEnded hended

theorem Inv.perform_unheld (hinv : s.Inv) {α : Type} {call : Call App α}
    (henabled : call.isEnabled s.db) {k leaseId : String}
    (hlease : call.lease = some (k, leaseId))
    (hunheld : ∀ job, s.db.job? k = some job → job.leaseId ≠ some leaseId) :
    (s.perform call).2.db = s.db ∧ (s.perform call).2.committed = s.committed := by
  rcases perform_cases (call.ensures_lease hinv.db henabled hlease) with
    ⟨answer, db', ⟨job, hjob, hheld⟩, -⟩ | ⟨error, -, hresult⟩
  · exact absurd hheld (hunheld job hjob)
  · rw [hresult]
    exact ⟨rfl, rfl⟩

end System

/-- A process that works under a claim needs its lease for whatever it asks of the
database. -/
theorem Process.lease_of_claim {process : Process App} {input : Input App} {intent : Intent App}
    (hintent : process.intent environment input = some intent) {k : String} {claim : JobClaim}
    (hclaim : process.claim? = some (k, claim)) :
    intent.call.lease = some (k, claim.leaseId) ∨
      ((s.perform intent.call).2.db = s.db ∧
        (s.perform intent.call).2.committed = s.committed) := by
  cases process with
  | handler run =>
    cases input with
    | handler input =>
      obtain ⟨delivery, phase⟩ := run
      cases phase with
      | checking own | committing own result | settling own failure =>
        cases hintent
        cases hclaim
        exact .inl rfl
      | executing own =>
        -- the work itself asks nothing of the job tables
        cases hintent
        exact .inr ⟨rfl, rfl⟩
      | _ => cases hclaim
    | callback | reconciler | dispatcher => cases hintent
  | callback run =>
    cases input with
    | callback =>
      obtain ⟨delivery, own, kind, calledAt, phase⟩ := run
      cases hclaim
      cases phase with
      | checking =>
        cases hintent
        exact .inl rfl
      | updating =>
        cases kind <;> cases hintent
        · exact .inl rfl
        · exact .inl rfl
      | returned | threw => cases hintent
    | handler | reconciler | dispatcher => cases hintent
  | _ => cases hclaim

namespace System

/-- **The fence.** A process whose lease has ended changes nothing. -/
theorem Inv.fenced (hinv : s.Inv) {pid : ℕ} {input : Input App} {k : String} {claim : JobClaim}
    (hclaim : (s.processes pid).claim? = some (k, claim)) (hended : s.db.LeaseEnded k claim.leaseId)
    (hstep : Step environment s (.advance pid input) t) :
    t.db = s.db ∧ t.committed = s.committed := by
  cases hstep.taken with
  | idle hevent => exact absurd rfl (hevent pid input)
  | @advance _ _ intent _ hintent hrun =>
    unfold System.runIntent at hrun
    split at hrun
    · next henabled =>
      cases hrun
      rcases Process.lease_of_claim (s := s) hintent hclaim with hlease | hnothing
      · exact hinv.perform_unheld henabled hlease fun job hjob =>
          hinv.db.not_held_of_ended hended hjob
      · exact hnothing
    · cases hrun

theorem Inv.run (hinv : s.Inv) (hrun : Transition.Reachable (Step environment) s t) : t.Inv :=
  hrun.invariant hinv fun hbefore hstep => hbefore.step hstep

private theorem Inv.leaseEnded_run (hinv : s.Inv) {k leaseId : String}
    (hended : s.db.LeaseEnded k leaseId)
    (hrun : Transition.Reachable (Step environment) s t) : t.db.LeaseEnded k leaseId := by
  have hboth : t.Inv ∧ t.db.LeaseEnded k leaseId := by
    refine hrun.invariant (I := fun t => t.Inv ∧ t.db.LeaseEnded k leaseId) ⟨hinv, hended⟩ ?_
    intro t u event ⟨hbefore, hendedBefore⟩ hstep
    exact ⟨hbefore.step hstep, (hbefore.evolves hstep).leaseEnded hendedBefore⟩
  exact hboth.2

theorem Evolves.final (h : s.Evolves t) {k : String} {state : BackgroundJobState}
    (hfinal : state = .succeeded ∨ state = .cancelled)
    (hbefore : ∃ job, s.db.job? k = some job ∧ job.state = state) :
    ∃ job, t.db.job? k = some job ∧ job.state = state := by
  obtain ⟨job, hjob, hstate⟩ := hbefore
  have hview := Database.view_job hjob
  rcases h k with hsame | ⟨action, hstep⟩
  · rw [← hsame] at hview
    obtain ⟨job', hjob', hsummary⟩ := Database.job?_of_view hview
    have hstate' : job'.state = job.state := congrArg JobSummary.state hsummary
    exact ⟨job', hjob', hstate'.trans hstate⟩
  · obtain ⟨summary, hsummary⟩ := hstep.persists hview
    have hkept : summary.state = job.state :=
      hstep.final hview hsummary (by
        rw [← hstate] at hfinal
        exact hfinal)
    obtain ⟨job', hjob', rfl⟩ := Database.job?_of_view hsummary
    exact ⟨job', hjob', hkept.trans hstate⟩

/-- **Exactly-once commit and lease fencing.** In every reachable state each job's
result has been committed at most once; from then on no process that works under
a lease which has ended changes the database or commits a result; and a job that
has succeeded or was cancelled keeps its state. -/
theorem commits_once_and_fences_leases (hreach : Reachable environment s) :
    (∀ k, (s.committed.map Prod.fst).count k ≤ 1) ∧
      (∀ k leaseId, s.db.LeaseEnded k leaseId →
        ∀ t, Transition.Reachable (Step environment) s t →
          ∀ pid claim, (t.processes pid).claim? = some (k, claim) → claim.leaseId = leaseId →
            ∀ input u, Step environment t (.advance pid input) u →
              u.db = t.db ∧ u.committed = t.committed) ∧
      ∀ k job, s.db.job? k = some job → job.state = .succeeded ∨ job.state = .cancelled →
        ∀ t, Transition.Reachable (Step environment) s t →
          ∃ job', t.db.job? k = some job' ∧ job'.state = job.state := by
  have hinv := hreach.inv
  refine ⟨?_, ?_, ?_⟩
  · intro k
    exact nodup_iff_count_le_one.mp hinv.once k
  · intro k leaseId hended t hrun pid claim hclaim hlease input u hstep
    have hendedThen := hinv.leaseEnded_run hended hrun
    rw [← hlease] at hendedThen
    exact (hinv.run hrun).fenced hclaim hendedThen hstep
  · intro k job hjob hfinal t hrun
    have hboth : t.Inv ∧ ∃ job', t.db.job? k = some job' ∧ job'.state = job.state := by
      refine hrun.invariant
        (I := fun t => t.Inv ∧ ∃ job', t.db.job? k = some job' ∧ job'.state = job.state)
        ⟨hinv, job, hjob, rfl⟩ ?_
      intro t u event ⟨hbefore, hkept⟩ hstep
      exact ⟨hbefore.step hstep, (hbefore.evolves hstep).final hfinal hkept⟩
    exact hboth.2

end System

namespace Sample

/-- A first handler claims the job, its lease is recovered, and a second handler
claims the job while the first one goes on. -/
def overtaken : List (Event Bool) :=
  enqueued :: claimed 0 0 "lease-0" ++
    [.tick 200000, .command (.recover ⟨"workspace"⟩ jobId 200000 none "audit")] ++
    claimed 1 200000 "lease-1" ++ [handled 0 200001 "unused"]

/-- The overtaken handler tries to commit its result, and nothing changes. -/
theorem overtaken_fenced :
    ∃ u, System.Step callbacks (after overtaken) (handled 0 200002 "unused") u ∧
      u.db = (after overtaken).db ∧ u.committed = (after overtaken).committed := by
  have hstep : ((after overtaken).step callbacks (handled 0 200002 "unused")).isSome = true := by
    decide
  obtain ⟨u, hu⟩ := Option.isSome_iff_exists.mp hstep
  have hclaim : ∃ claim, ((after overtaken).processes 0).claim? = some (jobId, claim) ∧
      claim.leaseId = "lease-0" := by
    have hsome : (((after overtaken).processes 0).claim?.map fun entry =>
        (entry.1, entry.2.leaseId)) = some (jobId, "lease-0") := by
      decide
    obtain ⟨⟨k, claim⟩, hentry, hpair⟩ := Option.map_eq_some_iff.mp hsome
    obtain ⟨rfl, hlease⟩ := Prod.mk.inj hpair
    exact ⟨claim, hentry, hlease⟩
  obtain ⟨claim, hentry, hlease⟩ := hclaim
  have hended : (after overtaken).db.LeaseEnded jobId "lease-0" := by decide
  have hfence := (System.commits_once_and_fences_leases (reachable_after overtaken)).2.1
    jobId "lease-0" hended (after overtaken) .refl 0 claim hentry hlease _ u hu
  exact ⟨u, hu, hfence⟩

end Sample

end ContentAutomation
