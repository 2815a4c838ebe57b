import ContentAutomation.Jobs.SystemRules

/-!
# Cancellation

A request for cancellation is final: the job it was made for is cancelled or
stays as it is. Whether the request takes effect at the next checkpoint of the
running handler depends on the order of three transactions, since a callback
checks for the request in one and updates its attempt in another.
-/

namespace ContentAutomation

open Relational Transaction List

variable {App : Type} {environment : Environment App} {s t u : System App} {event : Event App}
  {k leaseId : String}

/-- The job was asked to cancel itself. -/
def Database.Requested (db : Database App) (k : String) : Prop :=
  ∃ job, db.job? k = some job ∧ job.cancellationRequestedAt.isSome = true

private theorem Database.requested_iff {db : Database App} :
    db.Requested k ↔ ∃ summary, (db.view k).job = some summary ∧
      summary.cancellationRequested := by
  constructor
  · rintro ⟨job, hjob, hrequest⟩
    exact ⟨job.summary, Database.view_job hjob, hrequest⟩
  · rintro ⟨summary, hsummary, hrequest⟩
    obtain ⟨job, hjob, rfl⟩ := Database.job?_of_view hsummary
    exact ⟨job, hjob, hrequest⟩

namespace System

/-! ### Finality -/

/-- What a step may do to a job that was asked to cancel itself. -/
structure KeepsCancelling (s t : System App) (k : String) : Prop where
  /-- The request stays, and the only state the job can enter is that of a cancelled
  job. -/
  job : ∃ job job', s.db.job? k = some job ∧ t.db.job? k = some job' ∧
    job'.cancellationRequestedAt.isSome = true ∧
      (job'.state = job.state ∨ job'.state = .cancelled)
  /-- No success, failure or retry is recorded for an attempt. -/
  attempts : ∀ attempt' ∈ t.db.attemptsOf k, attempt'.state = .cancelled ∨
    ∃ attempt ∈ s.db.attemptsOf k, attempt.leaseId = attempt'.leaseId ∧
      attempt.state = attempt'.state
  /-- No result of the job is committed. -/
  committed : (t.committed.filter fun entry => entry.1 == k) =
    s.committed.filter fun entry => entry.1 == k

/-- **Step lemma.** Whatever happens, a job that was asked to cancel itself is
cancelled or stays as it is. -/
theorem Inv.keepsCancelling (hinv : s.Inv) (hrequested : s.db.Requested k)
    (hstep : Step environment s event t) : s.KeepsCancelling t k := by
  obtain ⟨job, hjob, hrequest⟩ := hrequested
  have hview := Database.view_job hjob
  have hmoved : ∃ summary, (t.db.view k).job = some summary ∧
      summary.cancellationRequested = true ∧
      (summary.state = job.state ∨ summary.state = .cancelled) ∧
      ∀ attempt' ∈ (t.db.view k).attempts, attempt' ∈ (s.db.view k).attempts ∨
        attempt'.state = .cancelled := by
    rcases hinv.acts hstep k with hsame | ⟨action, -, hmoves⟩
    · rw [hsame]
      exact ⟨job.summary, hview, hrequest, .inl rfl, fun _ => .inl⟩
    · obtain ⟨summary, hsummary⟩ := hmoves.persists hview
      exact ⟨summary, hsummary, hmoves.requested (hinv.db k) hview hsummary hrequest⟩
  obtain ⟨summary, hsummary, hrequest', hstate', hattempts⟩ := hmoved
  obtain ⟨job', hjob', rfl⟩ := Database.job?_of_view hsummary
  refine ⟨⟨job, job', hjob, hjob', hrequest', hstate'⟩, ?_, ?_⟩
  · intro attempt' hattempt'
    rcases hattempts attempt'.summary (mem_map_of_mem hattempt') with hold | hcancelled
    · obtain ⟨attempt, hattempt, heq⟩ := mem_map.mp hold
      have hlease : attempt.leaseId = attempt'.leaseId := congrArg AttemptSummary.leaseId heq
      have hstate : attempt.state = attempt'.state := congrArg AttemptSummary.state heq
      exact .inr ⟨attempt, hattempt, hlease, hstate⟩
    · exact .inl hcancelled
  · obtain ⟨new, hcommitted, hsucceeds⟩ := hinv.commits hstep
    have hnone : (new.filter fun entry => entry.1 == k) = [] := by
      apply filter_eq_nil_iff.mpr
      intro entry hentry hk
      -- a job succeeds only when it was not asked to cancel itself
      have hmem : k ∈ new.map Prod.fst := by
        rw [← beq_iff_eq.mp hk]
        exact mem_map_of_mem hentry
      obtain ⟨⟨summary, hsummary, -, hnot⟩, -⟩ := (hsucceeds k hmem).of_succeed
      obtain rfl : job.summary = summary := Option.mem_unique hview hsummary
      exact absurd (hrequest.symm.trans hnot) (by simp)
    rw [hcommitted, filter_append, hnone, nil_append]

private theorem Inv.requested_run (hinv : s.Inv) (hrequested : s.db.Requested k)
    (hrun : Transition.Reachable (Step environment) s t) : t.Inv ∧ t.db.Requested k := by
  refine hrun.invariant (I := fun t => t.Inv ∧ t.db.Requested k) ⟨hinv, hrequested⟩ ?_
  intro t u event ⟨hbefore, hrequestedBefore⟩ hstep
  obtain ⟨-, job', -, hjob', hrequest', -⟩ := (hbefore.keepsCancelling hrequestedBefore hstep).job
  exact ⟨hbefore.step hstep, job', hjob', hrequest'⟩

/-- **Cancellation is final.** Once a job was asked to cancel itself, the only state it
can enter is that of a cancelled job, nothing but a cancellation is recorded for
its attempts, and its result is not committed. -/
theorem cancellation_is_final (hreach : Reachable environment s) (hrequested : s.db.Requested k) :
    ∀ t, Transition.Reachable (Step environment) s t →
      ∀ event u, Step environment t event u → t.KeepsCancelling u k := by
  intro t hrun event u hstep
  obtain ⟨hinv, hrequestedThen⟩ := hreach.inv.requested_run hrequested hrun
  exact hinv.keepsCancelling hrequestedThen hstep

end System

namespace Sample

/-- The operator cancels the job. -/
def cancelled (now : ℤ) : Event Bool :=
  .command (.cancel correlationId principal jobId "OPERATOR_REQUEST" now "cancel-audit")

/-- The job runs, and the operator asks it to cancel itself. -/
def requested : List (Event Bool) := enqueued :: claimed 0 0 "lease-0" ++ [cancelled 1]

/-- The handler finds that its result is refused. -/
theorem requested_final : ∃ t, Transition.Reachable (System.Step callbacks) (after requested) t ∧
    ∃ u, System.Step callbacks t (handled 0 3 "unused") u ∧ t.KeepsCancelling u jobId := by
  have hrequested : (after requested).db.Requested jobId := by
    have hsome : ((after requested).db.job? jobId).map
        (fun job => job.cancellationRequestedAt.isSome) = some true := by
      decide
    exact Option.map_eq_some_iff.mp hsome
  have hstep : (((after requested).replay callbacks [handled 0 2 "unused"]).bind fun result =>
      result.2.step callbacks (handled 0 3 "unused")).isSome = true := by
    decide
  obtain ⟨u, hu⟩ := Option.isSome_iff_exists.mp hstep
  obtain ⟨⟨history, t⟩, hreplay, hu⟩ := Option.bind_eq_some_iff.mp hu
  have hrun : Transition.Reachable (System.Step callbacks) (after requested) t :=
    ⟨history, System.run_of_replay hreplay⟩
  exact ⟨t, hrun, u, hu,
    System.cancellation_is_final (reachable_after requested) hrequested t hrun _ u hu⟩

end Sample

/-- The event is a cancellation command. -/
def Event.isCancellation : Event App → Bool
  | .command (.cancel ..) => true
  | _ => false

private theorem afterUpdate_ne_updating (result : Except JobError Unit) :
    afterUpdate result ≠ .updating := by
  cases result <;> simp [afterUpdate]

private theorem Process.callback_of_resume {process : Process App} {input : Input App}
    {intent : Intent App} (hintent : process.intent environment input = some intent)
    {result : Except JobError intent.answer} {run' : CallbackRun}
    (hresume : intent.resume result = .callback run') : ∃ run, process = .callback run := by
  have hcontinues := (Process.proposes hintent).continues result
  rw [hresume] at hcontinues
  cases process with
  | callback run => exact ⟨run, rfl⟩
  | _ => cases hcontinues

namespace System

/-! ### Checkpoints -/

/-- An operator's command has asked the holder of a lease to cancel itself. -/
def RequestsCancellation (s : System App) (event : Event App) (k leaseId : String) : Prop :=
  ∃ correlationId principal reasonCode now auditId,
    event = .command (.cancel correlationId principal k reasonCode now auditId) ∧
      (∃ result, (s.perform (.cancelBackgroundJob correlationId principal k reasonCode now
        auditId)).1 = .ok result ∧ result.outcome = .cancellationRequested) ∧
      ∃ job, s.db.job? k = some job ∧ job.leaseId = some leaseId

/-- A heartbeat or a stage record of a lease commits its update and returns. -/
def CompletesUpdate (s t : System App) (pid : ℕ) (k leaseId : String) : Prop :=
  ∃ run, s.processes pid = .callback run ∧ run.phase = .updating ∧
    run.delivery.envelope.domainJobId = k ∧ run.claim.leaseId = leaseId ∧
      t.processes pid = .callback { run with phase := .returned }

/-- A callback of the job's holder has made its check and not yet its update. -/
def IsUpdating (s : System App) (k : String) : Prop :=
  ∃ pid run job, s.processes pid = .callback run ∧ run.phase = .updating ∧
    run.delivery.envelope.domainJobId = k ∧ s.db.job? k = some job ∧
      job.leaseId = some run.claim.leaseId

/-- A cancellation command is given that will ask a running job to cancel itself, while
a callback of the holder is between its check and its update. -/
def InterruptsUpdate (s : System App) (event : Event App) : Prop :=
  ∃ correlationId principal k reasonCode now auditId,
    event = .command (.cancel correlationId principal k reasonCode now auditId) ∧
      s.db.acceptsCancellation correlationId principal k reasonCode now = true ∧ s.IsUpdating k

seal ContentAutomation.cancelBackgroundJob in
private theorem Step.of_cancel {correlationId reasonCode auditId : String}
    {principal : SessionPrincipal} {now : ℤ} (hstep : Step environment s
      (.command (.cancel correlationId principal k reasonCode now auditId)) t) :
    (∃ result, (s.perform (.cancelBackgroundJob correlationId principal k reasonCode now
        auditId)).1 = .ok result ∧ CancelOutcome s.db k result.outcome t.db ∧
        (result.outcome = .cancellationRequested →
          s.db.acceptsCancellation correlationId principal k reasonCode now)) ∨
      (∃ error, (s.perform (.cancelBackgroundJob correlationId principal k reasonCode now
        auditId)).1 = .error error) ∧ t.db = s.db := by
  have hrule : (.cancelBackgroundJob correlationId principal k reasonCode now auditId :
    Call App JobOperationResult).body.Ensures _ _ s.db := ensures_cancelBackgroundJob
  obtain ⟨-, rfl⟩ := hstep.of_command
  simp only [Command.call]
  rcases perform_cases hrule with ⟨result, db', hpost, hresult⟩ | ⟨error, -, hresult⟩
  · rw [hresult]
    exact .inl ⟨result, rfl, hpost⟩
  · rw [hresult]
    exact .inr ⟨⟨error, rfl⟩, rfl⟩

theorem RequestsCancellation.requested (h : s.RequestsCancellation event k leaseId)
    (hstep : Step environment s event t) : t.db.Requested k := by
  obtain ⟨correlationId, principal, reasonCode, now, auditId, rfl, ⟨result, hanswer, houtcome⟩,
    -⟩ := h
  rcases hstep.of_cancel with ⟨result', hanswer', hdone, -⟩ | ⟨⟨error, herror⟩, -⟩
  · obtain rfl : result = result' := Except.ok.inj (hanswer.symm.trans hanswer')
    rw [houtcome] at hdone
    have hmoves : JobStep .requestCancellation (s.db.view k) (t.db.view k) := hdone.1
    rw [Database.requested_iff]
    generalize s.db.view k = before at hmoves
    generalize t.db.view k = after at hmoves
    cases hmoves with
    | requestCancellation => exact ⟨_, rfl, rfl⟩
  · rw [hanswer] at herror
    cases herror

/-- Only a command that is accepted asks a job that holds its lease. -/
theorem Inv.accepts_of_requested (hinv : s.Inv) (hstep : Step environment s event t)
    {job : BackgroundJob} (hjob : s.db.job? k = some job) (hlease : job.leaseId = some leaseId)
    (hnot : job.cancellationRequestedAt = none) (hrequested : t.db.Requested k) :
    ∃ correlationId principal reasonCode now auditId,
      event = .command (.cancel correlationId principal k reasonCode now auditId) ∧
        s.db.acceptsCancellation correlationId principal k reasonCode now := by
  have hview := Database.view_job hjob
  have hnotSummary : job.summary.cancellationRequested = false := by
    simp [BackgroundJob.summary, hnot]
  have hrunning : job.state = .processing := by
    obtain ⟨outbox, -, hconsistent⟩ := hinv.db.consistent hjob
    exact hconsistent.processing.mpr (by simp [BackgroundJob.summary, hlease])
  -- a job that runs is not cancelled at once
  have hnotWaiting : ¬ JobStep .cancelWaiting (s.db.view k) (t.db.view k) := by
    intro hmoves
    generalize hbefore : s.db.view k = before at hmoves hview
    generalize t.db.view k = after at hmoves
    cases hmoves with
    | cancelWaiting hwaiting =>
      cases hview
      have hwaiting' : job.state = .queued ∨ job.state = .retryScheduled := hwaiting
      rw [hrunning] at hwaiting'
      simp at hwaiting'
  obtain ⟨summary, hsummary, hrequest⟩ := Database.requested_iff.mp hrequested
  have hchanged : t.db.view k ≠ s.db.view k := by
    intro hsame
    rw [hsame] at hsummary
    obtain rfl : job.summary = summary := Option.mem_unique hview hsummary
    exact absurd (hnotSummary.symm.trans hrequest) (by simp)
  rcases hinv.acts hstep k with hsame | ⟨action, hacts, hmoves⟩
  · exact absurd hsame hchanged
  · rcases hmoves.of_request hview hsummary hnotSummary hrequest with rfl | rfl
    · cases event with
      | advance pid input => exact absurd hacts (Process.not_acts_of_operator (.inl rfl))
      | tick | write | spawn | crash => cases hacts
      | command command =>
        cases command with
        | cancel correlationId principal jobId reasonCode now auditId =>
          obtain ⟨rfl, -⟩ := hacts
          refine ⟨correlationId, principal, reasonCode, now, auditId, rfl, ?_⟩
          rcases hstep.of_cancel with ⟨result, -, hdone, haccepts⟩ | ⟨-, hsame⟩
          · cases houtcome : result.outcome <;> rw [houtcome] at hdone
            case cancellationRequested => exact haccepts houtcome
            case cancelled => exact absurd hdone.1 hnotWaiting
            all_goals exact absurd (hdone k) hchanged
          · rw [hsame] at hchanged
            exact absurd rfl hchanged
        | _ =>
          simp [System.Acts, Command.call, Call.Acts] at hacts
    · exact absurd hmoves hnotWaiting

theorem Inv.held_before (hinv : s.Inv) (hstep : Step environment s event t)
    (hissued : ∃ attempt ∈ (s.db.view k).attempts, attempt.leaseId = leaseId)
    {job' : BackgroundJob} (hjob' : t.db.job? k = some job') (hlease' : job'.leaseId = some leaseId) :
    ∃ job, s.db.job? k = some job ∧ job.leaseId = some leaseId := by
  have hview' := Database.view_job hjob'
  rcases hinv.acts hstep k with hsame | ⟨action, -, hmoves⟩
  · rw [hsame] at hview'
    obtain ⟨job, hjob, hsummary⟩ := Database.job?_of_view hview'
    have hlease : job.leaseId = job'.leaseId := congrArg JobSummary.leaseId hsummary
    exact ⟨job, hjob, hlease.trans hlease'⟩
  · obtain ⟨summary, hsummary, hlease, -⟩ :=
      hmoves.held_before hview' hlease' hissued (hinv.db k)
    obtain ⟨job, hjob, rfl⟩ := Database.job?_of_view hsummary
    exact ⟨job, hjob, hlease⟩

private theorem phase_of_start_callback {birth : Birth} {run : CallbackRun}
    (hstart : s.start birth = some (.callback run)) : run.phase = .checking := by
  cases birth with
  | callback owner kind calledAt =>
    simp only [start] at hstart
    split at hstart <;> cases hstart
    rfl
  | deliver delivery =>
    simp only [start] at hstart
    split at hstart <;> cases hstart
  | reconcile correlationId batchSize =>
    simp only [start] at hstart
    split at hstart
    · cases hstart
    · split at hstart <;> cases hstart
  | dispatch batchSize failureDelayMs leaseDurationMs =>
    simp only [start] at hstart
    split at hstart <;> cases hstart

/-- A callback between its check and its update, whose lease is still held, works for a
job that was not asked to cancel itself. -/
def UpdatesUnrequested (s : System App) : Prop :=
  ∀ pid run, s.processes pid = .callback run → run.phase = .updating →
    ∀ job, s.db.job? run.delivery.envelope.domainJobId = some job →
      job.leaseId = some run.claim.leaseId → job.cancellationRequestedAt = none

/-- **Step lemma.** The checks of callbacks stay good as long as no cancellation is
accepted between a check and its update. -/
theorem UpdatesUnrequested.step (h : s.UpdatesUnrequested) (hinv : s.Inv)
    (hquiet : ¬ s.InterruptsUpdate event) (hstep : Step environment s event t) :
    t.UpdatesUnrequested := by
  intro pid run hprocess hphase job' hjob' hlease'
  have hmoves := hstep.processMoves pid
  generalize t.processes pid = process at hmoves hprocess
  cases hmoves with
  | crashes => cases hprocess
  | starts hunused hstart =>
    -- a callback starts with its check
    subst hprocess
    rw [phase_of_start_callback hstart] at hphase
    cases hphase
  | stays =>
    by_contra hrequest
    have hrequested : t.db.Requested run.delivery.envelope.domainJobId :=
      ⟨job', hjob', Option.isSome_iff_ne_none.mpr hrequest⟩
    have hclaim : (s.processes pid).claim? =
        some (run.delivery.envelope.domainJobId, run.claim) := by
      rw [hprocess]
      rfl
    have hissued := (hinv.tickets pid _ _ hclaim).1
    obtain ⟨job, hjob, hlease⟩ := hinv.held_before hstep hissued hjob' hlease'
    have hnot := h pid run hprocess hphase job hjob hlease
    obtain ⟨correlationId, principal, reasonCode, now, auditId, rfl, haccepts⟩ :=
      hinv.accepts_of_requested hstep hjob hlease hnot hrequested
    exact hquiet ⟨correlationId, principal, _, reasonCode, now, auditId, rfl, haccepts, pid, run,
      job, hprocess, hphase, rfl, hjob, hlease⟩
  | @advances input intent _ hintent henabled hdb =>
    obtain ⟨before, hbefore⟩ := Process.callback_of_resume hintent hprocess
    rw [hbefore] at hintent
    cases input with
    | callback =>
      obtain ⟨delivery, claim, kind, calledAt, phase⟩ := before
      cases phase with
      | checking =>
        cases hintent
        have hrule : (.throwIfCancellationRequested delivery.context
          delivery.envelope.domainJobId claim.leaseId calledAt : Call App Bool).body.Ensures _ _ s.db :=
            ensures_throwIfBackgroundJobCancellationRequested hinv.db
        cases hprocess
        rcases perform_cases hrule with ⟨cancelled, db', hpost, hresult⟩ | ⟨error, -, hresult⟩
        · rw [hresult] at hphase hdb
          cases cancelled with
          | true => cases kind <;> cases hphase
          | false =>
            -- the check has found no request, and has changed nothing
            obtain ⟨⟨job, hjob, -, hnone⟩, hsame⟩ := hpost
            obtain rfl : db' = s.db := hsame
            rw [hdb] at hjob'
            obtain rfl := Option.mem_unique hjob hjob'
            exact Option.not_isSome_iff_eq_none.mp (by simp [hnone])
        · rw [hresult] at hphase
          cases kind <;> cases hphase
      | updating =>
        cases kind with
        | throwIfCancellationRequested => cases hintent
        | heartbeat | recordStage =>
          cases hintent
          cases hprocess
          exact absurd hphase (afterUpdate_ne_updating _)
      | returned | threw => cases hintent
    | handler | reconciler | dispatcher => cases hintent

private theorem Inv.held_of_completesUpdate (hinv : s.Inv) (hstep : Step environment s event t)
    {pid : ℕ} (hupdate : s.CompletesUpdate t pid k leaseId) :
    ∃ job, s.db.job? k = some job ∧ job.leaseId = some leaseId := by
  obtain ⟨run, hbefore, hphase, rfl, rfl, hafter⟩ := hupdate
  have hmoves := hstep.processMoves pid
  generalize t.processes pid = process at hmoves hafter
  cases hmoves with
  | crashes => cases hafter
  | starts hunused => cases hbefore.symm.trans hunused
  | stays =>
    -- the phase has changed
    rw [hbefore] at hafter
    injection hafter with hrun
    have hreturned : run.phase = .returned := congrArg CallbackRun.phase hrun
    cases hphase.symm.trans hreturned
  | @advances input intent _ hintent henabled hdb =>
    rw [hbefore] at hintent
    obtain ⟨delivery, claim, kind, calledAt, phase⟩ := run
    cases hphase
    cases input with
    | callback =>
      cases kind with
      | throwIfCancellationRequested => cases hintent
      | heartbeat =>
        cases hintent
        rcases perform_cases (Call.ensures_lease _ hinv.db henabled rfl) with
          ⟨answer, db', hheld, -⟩ | ⟨error, -, hresult⟩
        · exact hheld
        · rw [hresult] at hafter
          cases hafter
      | recordStage stage =>
        cases hintent
        rcases perform_cases (Call.ensures_lease _ hinv.db henabled rfl) with
          ⟨answer, db', hheld, -⟩ | ⟨error, -, hresult⟩
        · exact hheld
        · rw [hresult] at hafter
          cases hafter
    | handler | reconciler | dispatcher => cases hintent

/-- The steps at which no cancellation is accepted between a check and its update. -/
def LeavesUpdatesAlone (s : System App) (event : Event App) : Prop := ¬ s.InterruptsUpdate event

/-- **Cancellation at the next checkpoint.** In every run in which no cancellation is
accepted between the check and the update of a callback of the holder, no
heartbeat and no stage record of a lease completes its update after the holder of
the lease was asked to cancel itself. -/
theorem no_update_completes_after_request {clock : ℤ} {internalUsers : List InternalUser}
    {app : App} {history : List (System App × Event App)}
    (hrun : Transition.Run (Transition.Restricted (Step environment) LeavesUpdatesAlone)
      (initial clock internalUsers app) history t) :
    ∀ event u, Step environment t event u → ∀ pid k leaseId, t.CompletesUpdate u pid k leaseId →
      ∀ visited ∈ history, ¬ visited.1.RequestsCancellation visited.2 k leaseId := by
  intro event u hstep pid k leaseId hupdate visited hvisited hrequests
  have hreach : Reachable environment t :=
    ⟨clock, internalUsers, app, Transition.Reachable.of_restricted ⟨history, hrun⟩⟩
  -- the job of the update was not asked to cancel itself
  have hgood : t.Inv ∧ t.UpdatesUnrequested := by
    refine Transition.Reachable.invariant (I := fun t => t.Inv ∧ t.UpdatesUnrequested)
      ⟨history, hrun⟩ ⟨inv_initial clock internalUsers app, fun pid run hprocess => ?_⟩ ?_
    · cases hprocess
    · intro t u event ⟨hinv, hunrequested⟩ ⟨hquiet, hstep⟩
      exact ⟨hinv.step hstep, hunrequested.step hinv hquiet hstep⟩
  obtain ⟨job, hjob, hlease⟩ := hgood.1.held_of_completesUpdate hstep hupdate
  have hnot : job.cancellationRequestedAt = none := by
    obtain ⟨run, hbefore, hphase, rfl, rfl, -⟩ := hupdate
    exact hgood.2 pid run hbefore hphase job hjob hlease
  -- a request in the history would have stayed
  obtain ⟨hbefore, next, ⟨-, hnext⟩, hafter⟩ := hrun.mem_history hvisited
  have hinv : visited.1.Inv :=
    Reachable.inv ⟨clock, internalUsers, app, Transition.Reachable.of_restricted hbefore⟩
  obtain ⟨-, job', hjob', hrequest⟩ := (hinv.step hnext).requested_run
    (hrequests.requested hnext) (Transition.Reachable.of_restricted hafter)
  obtain rfl := Option.mem_unique hjob hjob'
  rw [hnot] at hrequest
  cases hrequest

end System

private theorem Process.eq_of_callback? {process : Process App} {run : CallbackRun}
    (h : process.callback? = some run) : process = .callback run := by
  cases process with
  | callback other => exact congrArg Process.callback (Option.some.inj h)
  | _ => cases h

namespace Sample

/-- The claim of a handler that has claimed the enqueued job. -/
def claim (leaseId : String) : JobClaim where
  attemptNumber := 1
  correlationId := correlationId
  handlerVersion := 1
  jobCreatedAt := 0
  leaseExpiresAt := 120000
  leaseId
  maxAttempts := 8
  queueName := "asset.validate"
  version := 2
  workspaceId := "workspace"

/-- The work of the first handler records a stage. -/
def recording (phase : CallbackPhase) : CallbackRun :=
  ⟨delivery, claim "lease-0", .recordStage "publishing", 1, phase⟩

/-- The job runs, and its work is about to record a stage: the check has been made. -/
def checked : List (Event Bool) :=
  enqueued :: claimed 0 0 "lease-0" ++
    [.spawn 1 (.callback 0 (.recordStage "publishing") 1), .advance 1 .callback]

private theorem exists_step {events : List (Event Bool)} {event : Event Bool} {pid : ℕ}
    {run : CallbackRun}
    (h : (((after events).step callbacks event).bind fun u => (u.processes pid).callback?) =
      some run) :
    ∃ u, System.Step callbacks (after events) event u ∧ u.processes pid = .callback run := by
  obtain ⟨u, hu, hrun⟩ := Option.bind_eq_some_iff.mp h
  exact ⟨u, hu, Process.eq_of_callback? hrun⟩

/-- Without a cancellation the stage is recorded. -/
theorem checked_completes : ∃ u, System.Step callbacks (after checked) (.advance 1 .callback) u ∧
    (after checked).CompletesUpdate u 1 jobId "lease-0" ∧
      ∀ visited ∈ (run checked).1, ¬ visited.1.RequestsCancellation visited.2 jobId "lease-0" := by
  obtain ⟨u, hstep, hafter⟩ : ∃ u, System.Step callbacks (after checked) (.advance 1 .callback) u ∧
      u.processes 1 = .callback (recording .returned) := exists_step (by decide)
  have hbefore : ((after checked).processes 1).callback? = some (recording .updating) := by
    decide
  have hupdate : (after checked).CompletesUpdate u 1 jobId "lease-0" :=
    ⟨recording .updating, Process.eq_of_callback? hbefore, rfl, rfl, rfl, hafter⟩
  have hquiet : ∀ visited ∈ (run checked).1, System.LeavesUpdatesAlone visited.1 visited.2 := by
    have hcommands : ((run checked).1.all fun visited => !visited.2.isCancellation) = true := by
      decide
    intro visited hvisited ⟨_, _, _, _, _, _, hcancel, _⟩
    have hnot := all_eq_true.mp hcommands visited hvisited
    rw [hcancel] at hnot
    cases hnot
  exact ⟨u, hstep, hupdate, System.no_update_completes_after_request
    ((run_run checked).restricted hquiet) _ u hstep 1 jobId "lease-0" hupdate⟩

/-- The operator asks the job to cancel itself between the check and the update. -/
def interrupted : List (Event Bool) := checked ++ [cancelled 2]

/-- **A request that comes too late.** The stage is recorded after the holder of the lease
was asked to cancel itself. -/
theorem interrupted_completes :
    Transition.Run (System.Step callbacks) initial (run interrupted).1 (after interrupted) ∧
      ∃ u, System.Step callbacks (after interrupted) (.advance 1 .callback) u ∧
        (after interrupted).CompletesUpdate u 1 jobId "lease-0" ∧
          ∃ visited ∈ (run interrupted).1,
            visited.1.RequestsCancellation visited.2 jobId "lease-0" := by
  refine ⟨run_run interrupted, ?_⟩
  obtain ⟨u, hstep, hafter⟩ : ∃ u,
      System.Step callbacks (after interrupted) (.advance 1 .callback) u ∧
        u.processes 1 = .callback (recording .returned) := exists_step (by decide)
  have hbefore : ((after interrupted).processes 1).callback? = some (recording .updating) := by
    decide
  have hupdate : (after interrupted).CompletesUpdate u 1 jobId "lease-0" :=
    ⟨recording .updating, Process.eq_of_callback? hbefore, rfl, rfl, rfl, hafter⟩
  obtain ⟨v, hcancel⟩ := Option.isSome_iff_exists.mp
    (show ((after checked).step callbacks (cancelled 2)).isSome = true by decide)
  have hhistory : run interrupted = ((after checked, cancelled 2) :: (run checked).1, v) :=
    run_concat (by decide) hcancel
  refine ⟨u, hstep, hupdate, (after checked, cancelled 2), ?_, ?_⟩
  · rw [hhistory]
    exact mem_cons_self
  · refine ⟨_, _, _, _, _, rfl, ⟨⟨.cancellationRequested, "OPERATOR_REQUEST"⟩, ?_, rfl⟩, ?_⟩
    · decide
    · have hlease : ((after checked).db.job? jobId).map BackgroundJob.leaseId =
          some (some "lease-0") := by
        decide
      exact Option.map_eq_some_iff.mp hlease

end Sample

end ContentAutomation
