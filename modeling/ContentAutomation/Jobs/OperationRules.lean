import ContentAutomation.Jobs.Operations

/-!
# What operator commands ensure

A cancellation settles a waiting job or asks a running one; a manual retry sends
a failed job back to the queue. Every other answer leaves the jobs alone.
-/

namespace ContentAutomation

open Relational Transaction Database.SameViews

variable {App : Type} {db : Database App} {prepared : PreparedOperation} {actor : InternalUser}
  {action : OperatorAction} {job : BackgroundJob} {k auditId outboxId : String} {now : ℤ}
  {result : JobOperationResult} {row : BackgroundJob} {reasonCode : String}
  {outcome : JobOperationOutcome} {principal : SessionPrincipal}
  {callbacks : ManualRetryCallbacks App}

/-- The operator may give a command now: an administrator of an active workspace, who
has not used up the commands of the window. -/
def Database.authorises (db : Database App) (action : OperatorAction)
    (principal : SessionPrincipal) (now : ℤ) : Bool :=
  (db.internalUsers.find? fun user =>
    user.id == principal.internalUserId && user.sessionVersion == principal.sessionVersion &&
      user.status == .active && user.workspaceStatus == .active &&
      user.workspaceId == principal.workspaceId).any fun actor =>
    actor.role == .admin && decide ((db.auditEvents.rows.countP fun event =>
      event.action == action.name && event.actorUserId == some actor.id &&
        decide (now - operationWindowMs ≤ event.occurredAt) &&
        event.workspaceId == actor.workspaceId) < operationLimits action)

/-- The job runs in a stage in which it can still be asked to cancel itself. -/
def BackgroundJob.isCancellable (job : BackgroundJob) : Bool :=
  job.state == .processing && job.cancellationRequestedAt.isNone &&
    isSafeProcessingCancellationStage job.stage

/-- A cancellation command that will ask a running job to cancel itself. -/
def Database.acceptsCancellation (db : Database App) (correlationId : String)
    (principal : SessionPrincipal) (jobId reasonCode : String) (now : ℤ) : Bool :=
  (parseCorrelationId correlationId).isSome && isSafeCode reasonCode && isUuidV7 jobId &&
    db.authorises .cancel principal now && (db.job? jobId).any fun job =>
      job.workspaceId == principal.workspaceId && job.isCancellable

theorem isSafeOutcome_name (outcome : JobOperationOutcome) : isSafeOutcome outcome.name := by
  cases outcome <;> decide

private theorem accepted_operationAuditData (hsafe : isSafeCode result.reasonCode) :
    (operationAuditData actor prepared action result auditId).Accepted where
  actorShape := .inl ⟨rfl, rfl, rfl⟩
  outcome := isSafeOutcome_name result.outcome
  reasonCode := hsafe

private theorem accepted_operatorCancelledJob (h : row.Accepted)
    (hstate : row.state ≠ .processing) (hsafe : isSafeCode reasonCode)
    (now : ℤ) : (operatorCancelledJob reasonCode now row).Accepted := by
  have hidle := h.unleased hstate
  have hversion := h.version
  refine { h with
    version := ?_
    stage := (by decide : isSafeJobStage "cancelled" = true)
    leaseShape := .inr ⟨by simp [operatorCancelledJob], hidle⟩
    timingShape := .inr (.inl ⟨.inr (.inr rfl), rfl, rfl⟩)
    errorShape := ⟨rfl, rfl⟩
    cancellationShape := rfl
    cancellationReason := hsafe
    reconciliationShape := rfl
    reconciliationCode := rfl }
  simp only [operatorCancelledJob]
  omega

private theorem accepted_cancellationRequestedJob (h : row.Accepted)
    (hsafe : isSafeCode reasonCode) (now : ℤ) :
    (cancellationRequestedJob reasonCode now row).Accepted := by
  have hversion := h.version
  refine { h with version := ?_, cancellationShape := rfl, cancellationReason := hsafe }
  simp only [cancellationRequestedJob]
  omega

/-- A failed job may be sent back to the queue with a raised budget. -/
theorem accepted_operatorRetriedJob (h : row.Accepted)
    (hstate : row.state = .failedAttention) {maxAttempts : ℤ} (hmin : row.maxAttempts ≤ maxAttempts)
    (hmax : maxAttempts ≤ 100) (now : ℤ) : (operatorRetriedJob maxAttempts now row).Accepted := by
  have hidle := h.unleased (by simp [hstate])
  have hnext := h.unscheduled (by simp [hstate])
  have hversion := h.version
  have hcount := h.attemptCount
  refine { h with
    attemptCount := ?_
    version := ?_
    stage := (by decide : isSafeJobStage "queued" = true)
    leaseShape := .inr ⟨by simp [operatorRetriedJob], hidle⟩
    timingShape := .inr (.inr ⟨.inl rfl, hnext, rfl⟩)
    errorShape := ⟨rfl, rfl⟩
    cancellationShape := rfl
    cancellationReason := rfl
    reconciliationShape := rfl
    reconciliationCode := rfl }
  · simp only [BackgroundJob.AttemptCount, operatorRetriedJob] at hcount ⊢
    omega
  · simp only [operatorRetriedJob]
    omega

theorem accepted_resetOutboxRow {outbox : JobOutbox} (h : outbox.Accepted) (now : ℤ) :
    (resetOutboxRow now outbox).Accepted :=
  { h with
    leaseShape := rfl
    deliveryShape := .inl ⟨rfl, rfl⟩
    cancelledLease := .inl rfl }

theorem ensures_jobOutbox_upsert {create : JobOutbox} (houtbox : (db.outboxOf k).isSome) :
    (jobOutbox.upsert k create (resetOutboxRow now)).Ensures
      (fun _ db' => db.OutboxMoves k OutboxSummary.reset db') JobError.Unchecked db := by
  obtain ⟨outbox, hfound⟩ := Option.isSome_iff_exists.mp houtbox
  have hread : db.jobOutbox.findFirst (fun row => row.backgroundJobId == k) = some outbox := hfound
  unfold jobOutbox.upsert jobOutbox.findFirst
  rw [ensures_bind, ensures_read, hread]
  rw [ensures_bind]
  exact ensures_jobOutbox_moves (fun _ h _ => accepted_resetOutboxRow h _) (fun _ => rfl)
    (fun _ _ => rfl) (fun _ habsurd => by cases habsurd)

private theorem ensures_auditAndReturn {post : JobOperationResult → Database App → Prop}
    (hsafe : isSafeCode result.reasonCode)
    (hpost : ∀ auditEvents, post result (db.setAuditEvents auditEvents)) :
    (auditAndReturn actor prepared action auditId result).Ensures post JobError.Unchecked db := by
  unfold auditAndReturn
  rw [ensures_bind]
  exact ensures_auditEvent_create (accepted_operationAuditData hsafe) hpost fun index _ =>
    unchecked_unique index

private theorem ensures_authoriseOperation :
    (authoriseOperation prepared action now auditId).Ensures
      (fun guard db' => match guard with
        | .allowed actor => db' = db ∧ db.authorises action prepared.principal now ∧
            actor.workspaceId = prepared.principal.workspaceId
        | .denied result => db.SameViews db' ∧
            (result.outcome = .refused ∨ result.outcome = .rateLimited))
      JobError.Unchecked db := by
  unfold authoriseOperation
  rw [ensures_bind]
  unfold internalUser.findFirst
  rw [ensures_read]
  split
  · exact ⟨refl, .inl rfl⟩
  · next actor hfound =>
    by_cases hrole : actor.role ≠ .admin
    · rw [if_pos hrole, ensures_bind]
      exact ensures_auditAndReturn (by decide) fun _ => ⟨fun _ => rfl, .inl rfl⟩
    · rw [if_neg hrole, ensures_bind]
      unfold auditEvent.count
      rw [ensures_read]
      split
      · rw [ensures_bind]
        exact ensures_auditAndReturn (by decide) fun _ => ⟨fun _ => rfl, .inr rfl⟩
      · next hlimit =>
        have hselected := List.find?_some hfound
        simp only [Bool.and_eq_true, beq_iff_eq] at hselected
        refine ⟨rfl, ?_, hselected.2⟩
        simp only [not_not] at hrole
        unfold Database.authorises
        rw [hfound]
        simp only [Option.any_some, Bool.and_eq_true, beq_iff_eq, decide_eq_true_eq]
        exact ⟨hrole, Nat.lt_of_not_le hlimit⟩

private theorem ensures_findOperatedJob :
    (findOperatedJob prepared actor).Ensures
      (fun found db' => db' = db ∧ ∀ job, found = some job →
        db.job? prepared.jobId = some job ∧ prepared.validJobId ∧
          job.workspaceId = actor.workspaceId)
      JobError.Unchecked db := by
  unfold findOperatedJob
  split
  · next hvalid =>
    refine ensures_backgroundJob_findFirst (fun _ => ⟨rfl, fun _ h => by cases h⟩)
      fun job hjob hworkspace => ⟨rfl, fun other hother => ?_⟩
    rw [← Option.some.inj hother]
    exact ⟨hjob, hvalid, by simpa using hworkspace⟩
  · exact ⟨rfl, fun _ h => by cases h⟩

/-- What a cancellation has done, by its outcome. -/
def CancelOutcome (db : Database App) (k : String) (outcome : JobOperationOutcome)
    (db' : Database App) : Prop :=
  match outcome with
  | .cancelled => db.Moves .cancelWaiting k db'
  | .cancellationRequested => db.Moves .requestCancellation k db'
  | _ => db.SameViews db'

theorem CancelOutcome.trans_same {db' db'' : Database App}
    (h : CancelOutcome db k outcome db') (hsame : db'.SameViews db'') :
    CancelOutcome db k outcome db'' := by
  cases outcome with
  | cancelled | cancellationRequested => exact Database.Moves.trans_same h hsame
  | _ =>
    exact fun id => (hsame id).trans (h id)

theorem Database.moves_of_outbox {action : JobAction} {job' : BackgroundJob}
    {change : OutboxSummary → OutboxSummary} {db' : Database App} (hjob : db.job? k = some job)
    (hjobs : ∀ id, db'.job? id = if id = k then some job' else db.job? id)
    (hattempts : ∀ id, (db'.view id).attempts = (db.view id).attempts)
    (houtbox : ∀ id, (db'.view id).outbox =
      if id = k then (db.view id).outbox.map change else (db.view id).outbox)
    (hstep : JobStep action ⟨some job.summary, (db.view k).attempts, (db.view k).outbox⟩
      ⟨some job'.summary, (db.view k).attempts, (db.view k).outbox.map change⟩) :
    db.Moves action k db' := by
  refine Database.Moves.of_parts hjob hjobs (fun id _ => hattempts id) (fun id hid => ?_) ?_
  · rw [houtbox id, if_neg hid]
  · rw [hattempts k, houtbox k, if_pos rfl]
    exact hstep

/-- What the answer to a cancellation has done. -/
theorem ensures_cancelFoundJob (hjob : db.job? k = some job) :
    (cancelFoundJob prepared job now).Ensures
      (fun result db' => isSafeCode result.reasonCode ∧
        CancelOutcome db k result.outcome db' ∧
        (result.outcome = .cancellationRequested → job.isCancellable))
      JobError.Unchecked db := by
  have hid := Database.id_of_job? hjob
  have haccepted := Database.accepted_of_job? hjob
  unfold cancelFoundJob
  by_cases happlied : job.state = .cancelled ∨ job.cancellationRequestedAt.isSome = true
  · rw [if_pos happlied]
    exact ⟨by decide, refl, by simp⟩
  rw [if_neg happlied]
  by_cases hwaiting : job.state = .queued ∨ job.state = .retryScheduled
  · have hidle : job.state ≠ .processing := by
      rcases hwaiting with hs | hs <;> simp [hs]
    have hallowed : canTransitionJob job.state .cancelled = true := by
      rcases hwaiting with hs | hs <;> rw [hs] <;> rfl
    rw [if_pos hwaiting, ensures_bind]
    refine ensures_assertJobTransition hallowed ?_
    rw [ensures_bind, hid]
    refine ensures_backgroundJob_updateMany (.inr unchecked_unique)
      (fun _ => ⟨by decide, refl, by simp⟩) fun row hrow hselects => ?_
    obtain rfl := Option.mem_unique hjob hrow
    refine ⟨accepted_operatorCancelledJob haccepted hidle prepared.safeReasonCode now,
      fun t hrows => ?_⟩
    have hjobs := Database.job?_update hjob hselects hrows fun _ => rfl
    rw [if_neg (by simp), ensures_bind]
    unfold cancelOutbox
    rw [ensures_bind]
    refine ensures_cancelledOutbox.mono (fun _ db' houtbox => ?_) fun _ herror => herror
    obtain ⟨jobOutbox, rfl, hmoves⟩ := houtbox
    exact ⟨prepared.safeReasonCode, Database.moves_of_outbox hjob hjobs (fun _ => rfl) hmoves
      (JobStep.cancelWaiting hwaiting), by simp⟩
  · rw [if_neg hwaiting]
    by_cases hstate : job.state = .processing
    · rw [if_pos hstate]
      split
      · exact ⟨by decide, refl, by simp⟩
      · next hstage =>
        have hcancellable : job.isCancellable = true := by
          simp only [not_or, Option.not_isSome_iff_eq_none, Bool.not_eq_false] at happlied hstage
          simp [BackgroundJob.isCancellable, hstate, happlied.2, hstage]
        rw [ensures_bind, hid]
        refine ensures_backgroundJob_updateMany (.inr unchecked_unique)
          (fun _ => ⟨by decide, refl, by simp⟩) fun row hrow hselects => ?_
        obtain rfl := Option.mem_unique hjob hrow
        refine ⟨accepted_cancellationRequestedJob haccepted prepared.safeReasonCode now,
          fun t hrows => ?_⟩
        have hjobs := Database.job?_update hjob hselects hrows fun _ => rfl
        rw [if_neg (by simp), ensures_bind]
        unfold cancelOutbox
        rw [ensures_bind]
        refine ensures_cancelledOutbox.mono (fun _ db' houtbox => ?_) fun _ herror => herror
        obtain ⟨jobOutbox, rfl, hmoves⟩ := houtbox
        exact ⟨prepared.safeReasonCode, Database.moves_of_outbox hjob hjobs (fun _ => rfl) hmoves
          (JobStep.requestCancellation hstate), fun _ => hcancellable⟩
    · rw [if_neg hstate]
      exact ⟨by decide, refl, by simp⟩

/-- **The cancellation command.** The outcome says what became of the job, and a running
job is asked to cancel itself only by a command that is accepted. -/
theorem ensures_cancelBackgroundJob {correlationId : String} :
    (cancelBackgroundJob correlationId principal k reasonCode now auditId).Ensures
      (fun result db' => CancelOutcome db k result.outcome db' ∧
        (result.outcome = .cancellationRequested →
          db.acceptsCancellation correlationId principal k reasonCode now))
      JobError.Unchecked db := by
  unfold cancelBackgroundJob prepareOperation
  cases hcorrelation : parseCorrelationId correlationId with
  | none => exact unchecked_validationError _
  | some parsed =>
    dsimp only
    by_cases hsafe : isSafeCode reasonCode = true
    · rw [dif_pos hsafe]
      dsimp only
      rw [ensures_bind]
      refine ensures_authoriseOperation.mono (fun guard db₁ hguard => ?_) fun _ herror => herror
      cases guard with
      | denied result =>
        obtain ⟨hsame, houtcome⟩ := hguard
        rw [ensures_pure]
        rcases houtcome with ho | ho <;> rw [ho] <;> exact ⟨hsame, by simp⟩
      | allowed actor =>
        obtain ⟨rfl, hauthorised, hworkspace⟩ := hguard
        dsimp only
        rw [ensures_bind]
        refine ensures_findOperatedJob.mono (fun found db₂ hfound => ?_) fun _ herror => herror
        obtain ⟨rfl, hjob⟩ := hfound
        cases found with
        | none => exact ensures_auditAndReturn (by decide) fun _ => ⟨fun _ => rfl, by simp⟩
        | some job =>
          obtain ⟨hjob, hvalid, hjobWorkspace⟩ := hjob job rfl
          have hvalid' : isUuidV7 k = true := hvalid
          have hjob' : Database.job? db₂ k = some job := hjob
          dsimp only
          rw [ensures_bind]
          refine (ensures_cancelFoundJob hjob').mono (fun result db₃ hresult => ?_)
            fun _ herror => herror
          obtain ⟨hreason, houtcome, hcancellable⟩ := hresult
          refine ensures_auditAndReturn hreason fun _ => ⟨houtcome.trans_same fun _ => rfl, ?_⟩
          intro hrequested
          simp [Database.acceptsCancellation, hcorrelation, hsafe, hvalid', hauthorised, hjob',
            hjobWorkspace.trans hworkspace, hcancellable hrequested]
    · rw [dif_neg hsafe]
      exact unchecked_validationError _

/-- What a retry has done, by its outcome. -/
def RetryOutcome (db : Database App) (k : String) (outcome : JobOperationOutcome)
    (db' : Database App) : Prop :=
  match outcome with
  | .retryQueued => db.Moves .retryByOperator k db'
  | _ => db.SameViews db'

theorem RetryOutcome.trans_same {db' db'' : Database App}
    (h : RetryOutcome db k outcome db') (hsame : db'.SameViews db'') :
    RetryOutcome db k outcome db'' := by
  cases outcome with
  | retryQueued => exact Database.Moves.trans_same h hsame
  | _ =>
    exact fun id => (hsame id).trans (h id)

private theorem ensures_requeueFailedJob (hinv : db.Inv) (hjob : db.job? k = some job)
    (hstate : job.state = .failedAttention) :
    (requeueFailedJob prepared job now outboxId).Ensures
      (fun result db' => isSafeCode result.reasonCode ∧ RetryOutcome db k result.outcome db')
      JobError.Unchecked db := by
  have hid := Database.id_of_job? hjob
  have haccepted := Database.accepted_of_job? hjob
  obtain ⟨outbox, houtbox, -⟩ := hinv.consistent hjob
  unfold requeueFailedJob
  dsimp only
  split
  · exact ⟨by decide, refl⟩
  · next hlimit =>
    have hmax : max job.maxAttempts (job.attemptCount + 1) ≤ 100 := by omega
    rw [ensures_bind]
    refine ensures_assertJobTransition rfl ?_
    rw [ensures_bind, hid]
    refine ensures_backgroundJob_updateMany (.inr unchecked_unique)
      (fun _ => ⟨by decide, refl⟩) fun row hrow hselects => ?_
    obtain rfl := Option.mem_unique hjob hrow
    refine ⟨accepted_operatorRetriedJob haccepted hstate (by omega) hmax now, fun t hrows => ?_⟩
    have hjobs := Database.job?_update hjob hselects hrows fun _ => rfl
    rw [if_neg (by simp), ensures_bind]
    refine ensures_analysisJob_updateMany fun analysisJobs => ?_
    rw [ensures_bind, ensures_read, ensures_bind]
    refine (ensures_jobOutbox_upsert (k := k) ?_).mono (fun _ db' hupsert => ?_)
      fun _ herror => herror
    · show (Database.outboxOf db k).isSome = true
      rw [houtbox]
      rfl
    · obtain ⟨jobOutbox, rfl, hmoves⟩ := hupsert
      exact ⟨prepared.safeReasonCode, Database.moves_of_outbox hjob hjobs (fun _ => rfl)
        hmoves (JobStep.retryByOperator hstate hmax)⟩

/-- What the answer to a manual retry ensures. -/
theorem ensures_retryFoundJob (hinv : db.Inv)
    (hjob : db.job? k = some job) :
    (retryFoundJob callbacks prepared job now outboxId).Ensures
      (fun result db' => isSafeCode result.reasonCode ∧ RetryOutcome db k result.outcome db')
      JobError.Unchecked db := by
  unfold retryFoundJob
  split
  · rw [ensures_bind]
    unfold auditEvent.findFirst
    rw [ensures_read]
    split
    · exact ⟨by decide, refl⟩
    · exact ⟨by decide, refl⟩
  split
  · exact ⟨by decide, refl⟩
  next hstate =>
  split
  · exact ⟨by decide, refl⟩
  rw [ensures_bind, ensures_read]
  cases callbacks.resultExists db (toManualRetryJob job) with
  | none =>
    intro constraint h
    cases h
  | some exists_ =>
    unfold orThrow
    rw [ensures_bind, ensures_pure]
    split
    · exact ⟨by decide, refl⟩
    rw [ensures_bind, ensures_read]
    cases callbacks.checkPrerequisites db (toManualRetryJob job) with
    | none =>
      intro constraint h
      cases h
    | some prerequisite =>
      rw [ensures_bind, ensures_pure]
      dsimp only
      split
      · split
        · next hsafe => exact ⟨hsafe, refl⟩
        · exact unchecked_validationError _
      · exact ensures_requeueFailedJob hinv hjob (not_not.mp hstate)

/-- **The retry command.** A failed job goes back to the queue when the answer says so,
and otherwise nothing that matters has changed. -/
theorem ensures_retryBackgroundJob {correlationId : String} (hinv : db.Inv) :
    (retryBackgroundJob callbacks correlationId principal k reasonCode now outboxId auditId).Ensures
      (fun result db' => RetryOutcome db k result.outcome db') JobError.Unchecked db := by
  unfold retryBackgroundJob prepareOperation
  cases hcorrelation : parseCorrelationId correlationId with
  | none => exact unchecked_validationError _
  | some correlationId =>
    dsimp only
    by_cases hsafe : isSafeCode reasonCode = true
    · rw [dif_pos hsafe]
      dsimp only
      rw [ensures_bind]
      refine ensures_authoriseOperation.mono (fun guard db₁ hguard => ?_) fun _ herror => herror
      cases guard with
      | denied result =>
        obtain ⟨hsame, houtcome⟩ := hguard
        rw [ensures_pure]
        rcases houtcome with ho | ho <;> rw [ho] <;> exact hsame
      | allowed actor =>
        obtain ⟨rfl, -⟩ := hguard
        dsimp only
        rw [ensures_bind]
        refine ensures_findOperatedJob.mono (fun found db₂ hfound => ?_) fun _ herror => herror
        obtain ⟨rfl, hjob⟩ := hfound
        cases found with
        | none => exact ensures_auditAndReturn (by decide) fun _ _ => rfl
        | some job =>
          dsimp only
          rw [ensures_bind]
          refine (ensures_retryFoundJob hinv (hjob job rfl).1).mono (fun result db₃ hresult => ?_)
            fun _ herror => herror
          exact ensures_auditAndReturn hresult.1 fun _ => hresult.2.trans_same fun _ => rfl
    · rw [dif_neg hsafe]
      exact unchecked_validationError _

end ContentAutomation
