import ContentAutomation.Jobs.Execution

/-!
# What claims, leases and recovery ensure

One rule for each transaction of a handler: which action of the machine it
performs on which job, and that it fails on no `CHECK` constraint.
-/

namespace ContentAutomation

open Relational Transaction Database

variable {App : Type} {db : Database App} {context : WorkspaceContext} {jobId leaseId : String}
  {now : ℤ} {job : BackgroundJob}

/-- A claim describes the job while the lease is held. -/
def Database.Holds (db : Database App) (jobId : String) (claim : JobClaim) : Prop :=
  ∃ job, db.job? jobId = some job ∧ job.leaseId = some claim.leaseId ∧
    job.attemptCount = claim.attemptNumber ∧ job.maxAttempts = claim.maxAttempts

/-- **The claim rule.** A claim takes the job, or changes nothing; a queued job
is never refused for lack of attempts. -/
theorem ensures_claimBackgroundJob {leaseDurationMs : Option ℤ} {attemptId : String}
    (hinv : db.Inv) :
    (claimBackgroundJob context jobId leaseDurationMs now leaseId attemptId).Ensures
      (fun result db' => match result with
        | .refused reason => db' = db ∧ reason ≠ .attemptsExhausted
        | .claimed claim => claim.leaseId = leaseId ∧ db.Moves .claim jobId db' ∧
            db'.Holds jobId claim ∧ ∃ attempt ∈ db'.attemptsOf jobId, attempt.leaseId = leaseId)
      JobError.Unchecked db := by
  unfold claimBackgroundJob
  dsimp only
  split
  · exact unchecked_validationError _
  refine ensures_orDatabaseError ?_
  rw [ensures_bind]
  refine ensures_backgroundJob_findFirst (fun _ => ⟨rfl, by simp⟩) fun job hjob howned => ?_
  dsimp only
  by_cases hstate : job.state ≠ .queued
  · rw [if_pos hstate]
    exact ⟨rfl, by simp⟩
  rw [if_neg hstate]
  push Not at hstate
  obtain ⟨outbox, houtbox, hconsistent⟩ := hinv.consistent hjob
  have hbudget : job.attemptCount < job.maxAttempts := hconsistent.waiting (.inl hstate)
  have hid := id_of_job? hjob
  have haccepted := accepted_of_job? hjob
  rw [if_neg (by omega), ensures_bind]
  refine ensures_assertJobTransition rfl ?_
  rw [ensures_bind, hid]
  refine ensures_backgroundJob_updateMany (.inr unchecked_unique) (fun _ => ⟨rfl, by simp⟩) fun row hrow hselects => ?_
  obtain rfl := Option.mem_unique hjob hrow
  refine ⟨accepted_claimedJob haccepted hstate hbudget _ _ _ _, fun t hrows => ?_⟩
  rw [if_neg (by simp), ensures_bind]
  refine ensures_jobAttempt_create (accepted_claimedAttempt haccepted _ _ _) fun ta hta => ?_
  rw [ensures_pure]
  have hjobs := job?_update hjob hselects hrows fun _ => rfl
  have hattempts := attemptsOf_append hta
  have hkId : (claimedAttempt job now leaseId attemptId).backgroundJobId = jobId := hid
  refine ⟨rfl, ?_, ⟨_, (hjobs jobId).trans (if_pos rfl), rfl, rfl, rfl⟩, ?_⟩
  · refine Database.Moves.of_parts hjob hjobs (fun id hne => ?_) (fun _ _ => rfl) ?_
    · show List.map _ (attemptsOf _ id) = _
      rw [hattempts id, if_neg (by rw [hkId]; exact hne.symm), List.append_nil]
      rfl
    · have hview : List.map JobAttempt.summary (db.attemptsOf jobId ++
          [claimedAttempt job now leaseId attemptId]) = (db.view jobId).attempts ++
            [⟨job.summary.attemptCount + 1, leaseId, .active⟩] := List.map_append
      have hfresh : ∀ attempt ∈ (db.view jobId).attempts, attempt.leaseId ≠ leaseId := by
        intro summary hsummary
        obtain ⟨attempt, hmem, -, rfl⟩ := mem_of_view hsummary
        exact leaseId_ne_of_append hta hmem
      show JobStep .claim _ ⟨_, List.map _ (attemptsOf _ jobId), _⟩
      rw [hattempts jobId, if_pos hkId]
      exact hview ▸ JobStep.claim hstate hbudget hfresh
  · refine ⟨claimedAttempt job now leaseId attemptId, ?_, rfl⟩
    show _ ∈ attemptsOf _ jobId
    rw [hattempts jobId, if_pos hkId]
    exact List.mem_append_right _ (List.mem_singleton_self _)

/-- **The heartbeat rule.** A running handler changes nothing that matters, and
only as long as it holds the lease. -/
theorem ensures_updateActiveAttempt {data : HolderUpdate} :
    (updateActiveAttempt context jobId leaseId data).Ensures
      (fun _ db' => db.SameViews db' ∧ ∃ job, db.job? jobId = some job ∧
        job.leaseId = some leaseId ∧ job.state = .processing)
      JobError.Unchecked db := by
  unfold updateActiveAttempt
  refine ensures_orDatabaseError ?_
  rw [ensures_bind]
  refine ensures_backgroundJob_updateMany (.inr unchecked_unique) (fun _ => ?_) fun job hjob hselects => ?_
  · rw [ensures_bind]
    refine ensures_jobAttempt_updateMany (.inr unchecked_unique) (fun _ => ?_) fun attempt hattempt _ _ => ?_
    · exact unchecked_jobLeaseLost
    · refine ⟨data.accepted_attemptData _ (accepted_of_mem_jobAttempts hattempt),
        fun _ _ => ?_⟩
      exact unchecked_jobLeaseLost
  · simp only [Bool.and_eq_true, beq_iff_eq] at hselects
    refine ⟨data.accepted_jobData _ (accepted_of_job? hjob) hselects.1.2,
      fun t hrows => ?_⟩
    rw [ensures_bind]
    refine ensures_jobAttempt_updateMany (.inr unchecked_unique) (fun _ => ?_) fun attempt hattempt hlease hactive => ?_
    · exact unchecked_jobLeaseLost
    · refine ⟨data.accepted_attemptData _ (accepted_of_mem_jobAttempts hattempt),
        fun ta hta => ⟨?_, job, hjob, hselects.1.1, hselects.1.2⟩⟩
      have hjobs := sameViews_jobs hrows data.id_jobData data.summary_jobData
      have hattempts := sameViews_attempts hta data.backgroundJobId_attemptData
        data.summary_attemptData
      exact fun id => (hattempts id).trans (hjobs id)

theorem ensures_heartbeatBackgroundJob {at' : ℤ} {leaseDurationMs : Option ℤ} :
    (heartbeatBackgroundJob context jobId leaseId at' leaseDurationMs).Ensures
      (fun _ db' => db.SameViews db' ∧ ∃ job, db.job? jobId = some job ∧
        job.leaseId = some leaseId ∧ job.state = .processing)
      JobError.Unchecked db := by
  unfold heartbeatBackgroundJob
  dsimp only
  split
  · exact unchecked_validationError _
  · exact ensures_updateActiveAttempt

theorem ensures_recordBackgroundJobStage {stage : String} {at' : ℤ} :
    (recordBackgroundJobStage context jobId leaseId stage at').Ensures
      (fun _ db' => db.SameViews db' ∧ ∃ job, db.job? jobId = some job ∧
        job.leaseId = some leaseId ∧ job.state = .processing)
      JobError.Unchecked db := by
  unfold recordBackgroundJobStage
  split
  · exact ensures_updateActiveAttempt
  · exact unchecked_validationError _

/-- **The release rule.** A due retry goes back to the queue. -/
theorem ensures_makeBackgroundJobRetryDue :
    (makeBackgroundJobRetryDue context jobId now).Ensures
      (fun _ db' => db' = db ∨ db.Moves .releaseRetry jobId db') JobError.Unchecked db := by
  unfold makeBackgroundJobRetryDue
  rw [ensures_bind]
  refine ensures_assertJobTransition rfl ?_
  rw [ensures_rethrow]
  refine Ensures.mono ?_ (fun _ _ h => h) (fun error h => h)
  rw [ensures_bind]
  refine ensures_backgroundJob_updateMany (.inr unchecked_unique) (fun _ => .inl rfl) fun job hjob hselects => ?_
  have hstate : job.state = .retryScheduled := by
    simp only [Bool.and_eq_true, beq_iff_eq] at hselects
    exact hselects.1.2
  refine ⟨accepted_retryDueJob (accepted_of_job? hjob) hstate now, fun t hrows => ?_⟩
  rw [ensures_pure]
  have hjobs := job?_update hjob hselects hrows fun _ => rfl
  exact .inr (Database.Moves.of_parts hjob hjobs (fun _ _ => rfl) (fun _ _ => rfl)
    (JobStep.releaseRetry hstate))

theorem ensures_cancelledOutbox {cancelledAt : ℤ} :
    (jobOutbox.updateMany (cancelledOutbox cancelledAt) fun row =>
      row.backgroundJobId == jobId && true).Ensures
      (fun _ db' => db.OutboxMoves jobId OutboxSummary.cancel db') JobError.Unchecked db :=
  ensures_jobOutbox_moves (fun _ h _ => accepted_cancelledOutbox h _) (fun _ => rfl)
    (fun _ _ => rfl) (fun _ habsurd => by cases habsurd)

private theorem ensures_recoverOutbox :
    (recoverOutbox job now).Ensures
      (fun _ db' => db.OutboxMoves job.id
        (if job.cancellationRequestedAt.isSome then OutboxSummary.cancel
          else if recoveredState job = .queued then OutboxSummary.redeliver else id) db')
      JobError.Unchecked db := by
  unfold recoverOutbox
  by_cases hcancelled : job.cancellationRequestedAt.isSome = true
  · rw [if_pos hcancelled, if_pos hcancelled, ensures_bind]
    exact ensures_cancelledOutbox
  · rw [if_neg hcancelled, if_neg hcancelled]
    by_cases hqueued : recoveredState job = .queued
    · rw [if_pos hqueued, if_pos hqueued, ensures_bind]
      refine ensures_jobOutbox_moves (fun _ h _ => accepted_redeliveredOutbox h _) (fun _ => rfl)
        (fun row hrow => ?_) (fun row hrow => ?_)
      · have hopen : row.cancelledAt.isSome = false := by simpa using hrow
        simp [JobOutbox.summary, OutboxSummary.redeliver, redeliveredOutbox, hopen]
      · have hcancelledAt : row.cancelledAt.isSome = true := by simpa using hrow
        simp [JobOutbox.summary, OutboxSummary.redeliver, hcancelledAt]
    · rw [if_neg hqueued, if_neg hqueued, ensures_pure]
      refine ⟨db.jobOutbox, rfl, fun other => ?_⟩
      by_cases hother : other = job.id <;> simp [hother]

private theorem ensures_auditRecovery {auditCorrelationId : Option String}
    {auditId : String} :
    (auditRecovery job now auditCorrelationId auditId).Ensures
      (fun _ db' => ∃ auditEvents, db' = db.setAuditEvents auditEvents) JobError.Unchecked db := by
  unfold auditRecovery
  cases auditCorrelationId with
  | none => exact ⟨db.auditEvents, rfl⟩
  | some correlationId =>
    refine ensures_auditEvent_create (accepted_serviceAuditData (by decide) ?_ _ _ _ _ _ _)
      (fun auditEvents => ⟨auditEvents, rfl⟩) fun index _ => unchecked_unique index
    by_cases hcancelled : job.cancellationRequestedAt.isSome = true
    · rw [if_pos hcancelled]
      decide
    · rw [if_neg hcancelled]
      decide

theorem Database.Inv.moves_of_release (hinv : db.Inv) {action : JobAction}
    {job' : BackgroundJob} {attempt : JobAttempt} {state : JobAttemptState}
    {change : OutboxSummary → OutboxSummary} {db' : Database App}
    (hjob : db.job? jobId = some job) (hlease : job.leaseId = some attempt.leaseId)
    (hattempt : attempt ∈ db.jobAttempts.rows)
    (hjobs : ∀ id, db'.job? id = if id = jobId then some job' else db.job? id)
    (hattempts : ∀ id, (db'.view id).attempts =
      closeAttempt attempt.leaseId state (db.view id).attempts)
    (houtbox : ∀ id, (db'.view id).outbox =
      if id = jobId then (db.view id).outbox.map change else (db.view id).outbox)
    (hstep : JobStep action ⟨some job.summary, (db.view jobId).attempts, (db.view jobId).outbox⟩
      ⟨some job'.summary, closeAttempt attempt.leaseId state (db.view jobId).attempts,
        (db.view jobId).outbox.map change⟩) : db.Moves action jobId db' := by
  have hbelongs := (hinv.attempt_of_lease hjob hattempt hlease).1
  refine Database.Moves.of_parts hjob hjobs (fun id hne => ?_) (fun id hne => ?_) ?_
  · rw [hattempts id]
    exact closeAttempt_other hattempt (by rw [hbelongs]; exact hne)
  · rw [houtbox id, if_neg hne]
  · rw [hattempts jobId, houtbox jobId, if_pos rfl]
    exact hstep

theorem Database.Inv.moves_of_end (hinv : db.Inv) {action : JobAction}
    {job' : BackgroundJob} {attempt : JobAttempt} {state : JobAttemptState}
    {db' : Database App} (hjob : db.job? jobId = some job)
    (hlease : job.leaseId = some attempt.leaseId) (hattempt : attempt ∈ db.jobAttempts.rows)
    (hjobs : ∀ id, db'.job? id = if id = jobId then some job' else db.job? id)
    (hattempts : ∀ id, (db'.view id).attempts =
      closeAttempt attempt.leaseId state (db.view id).attempts)
    (houtbox : ∀ id, (db'.view id).outbox = (db.view id).outbox)
    (hstep : JobStep action ⟨some job.summary, (db.view jobId).attempts, (db.view jobId).outbox⟩
      ⟨some job'.summary, closeAttempt attempt.leaseId state (db.view jobId).attempts,
        (db.view jobId).outbox⟩) : db.Moves action jobId db' := by
  have hsame : ∀ id, (db'.view id).outbox =
      if id = jobId then (db.view id).outbox.map (fun outbox => outbox)
        else (db.view id).outbox := by
    intro other
    rw [houtbox other, Option.map_id']
    split <;> rfl
  refine hinv.moves_of_release hjob hlease hattempt hjobs hattempts hsame ?_
  rw [Option.map_id']
  exact hstep

/-- **The recovery rule.** An expired lease is taken away: the job goes back to
the queue, needs attention, or settles its cancellation. -/
theorem ensures_recoverExpiredBackgroundJobLease {audit : Option String}
    {auditId : String} (hinv : db.Inv) :
    (recoverExpiredBackgroundJobLease context jobId now audit auditId).Ensures
      (fun _ db' => db' = db ∨ db.Moves .recover jobId db' ∨
        db.Moves .settleCancellation jobId db') JobError.Unchecked db := by
  unfold recoverExpiredBackgroundJobLease
  dsimp only
  split
  · exact unchecked_validationError _
  refine ensures_orDatabaseError ?_
  rw [ensures_bind]
  refine ensures_backgroundJob_findFirst (fun _ => .inl rfl) fun job hjob hexpired => ?_
  dsimp only
  have hid := id_of_job? hjob
  have hstate : job.state = .processing := by
    simp only [isLeaseExpired, Bool.and_eq_true, beq_iff_eq] at hexpired
    exact hexpired.1.2
  cases hlease : job.leaseId with
  | none => exact .inl rfl
  | some leaseId =>
    dsimp only
    rw [ensures_bind]
    refine ensures_assertJobTransition ?_ ?_
    · unfold recoveredState
      split
      · rfl
      · split <;> rfl
    rw [ensures_bind, hid]
    refine ensures_backgroundJob_updateMany (.inr unchecked_unique) (fun _ => .inl rfl) fun row hrow hselects => ?_
    obtain rfl := Option.mem_unique hjob hrow
    refine ⟨accepted_recoveredJob (accepted_of_job? hjob) hstate now, fun t hrows => ?_⟩
    rw [if_neg (by simp), ensures_bind]
    refine ensures_jobAttempt_updateMany (.inr unchecked_unique) (fun _ => ?_) fun attempt hattempt hsame hactive => ?_
    · exact unchecked_jobLeaseLost
    have hactive' : attempt.state = .active := by simpa using hactive
    refine ⟨accepted_recoveredAttempt (accepted_of_mem_jobAttempts hattempt) hactive' _ _,
      fun ta hta => ?_⟩
    rw [if_neg (by simp), ensures_bind]
    refine ensures_recoverOutbox.mono (fun _ db' houtbox => ?_) fun _ herror => herror
    rw [ensures_bind]
    refine ensures_auditRecovery.mono (fun _ db'' haudit => ?_) fun _ herror => herror
    rw [ensures_pure]
    obtain ⟨jobOutbox, rfl, hmoves⟩ := houtbox
    obtain ⟨auditEvents, rfl⟩ := haudit
    have hjobs := job?_update hjob hselects hrows fun _ => rfl
    subst hsame
    have hprocessing : job.summary.state = .processing := hstate
    have hheld : job.summary.leaseId = some attempt.leaseId := hlease
    have hkeep : ∀ row, (recoveredAttempt job now row).backgroundJobId = row.backgroundJobId := by
      intro row
      unfold recoveredAttempt
      split <;> rfl
    by_cases hcancelled : job.cancellationRequestedAt.isSome = true
    · have hsummary : ∀ row, (recoveredAttempt job now row).summary =
          { row.summary with state := .cancelled } := by
        simp [recoveredAttempt, hcancelled, JobAttempt.summary]
      have hattempts := view_attempts_close hta hkeep hsummary hattempt rfl hactive hactive'
      simp only [hid, hcancelled, if_true] at hmoves
      refine .inr (.inr (hinv.moves_of_release hjob hlease hattempt hjobs hattempts hmoves ?_))
      have hafter : (recoveredJob job now job).summary =
          { job.summary with state := .cancelled, leaseId := none } := by
        simp [recoveredJob, recoveredState, BackgroundJob.summary, hcancelled]
      rw [hafter]
      exact JobStep.settleCancellation hprocessing hheld hcancelled
    · have hsummary : ∀ row, (recoveredAttempt job now row).summary =
          { row.summary with state := .leaseExpired } := by
        simp [recoveredAttempt, hcancelled, JobAttempt.summary]
      have hattempts := view_attempts_close hta hkeep hsummary hattempt rfl hactive hactive'
      have hrequest : job.summary.cancellationRequested = false := by
        simpa [BackgroundJob.summary] using hcancelled
      by_cases hexhausted : job.maxAttempts ≤ job.attemptCount
      · have hfailed : recoveredState job = .failedAttention := by
          simp [recoveredState, hcancelled, hexhausted]
        simp only [hid, hcancelled, hfailed] at hmoves
        refine .inr (.inl (hinv.moves_of_release hjob hlease hattempt hjobs hattempts
          hmoves ?_))
        have hafter : (recoveredJob job now job).summary =
            { job.summary with state := .failedAttention, leaseId := none } := by
          simp [recoveredJob, BackgroundJob.summary, hfailed]
        rw [hafter]
        simpa using JobStep.recoverExhausted hprocessing hheld hrequest hexhausted
      · have hqueued : recoveredState job = .queued := by
          simp [recoveredState, hcancelled, hexhausted]
        simp only [hid, hcancelled, hqueued, if_true] at hmoves
        refine .inr (.inl (hinv.moves_of_release hjob hlease hattempt hjobs hattempts
          hmoves ?_))
        have hafter : (recoveredJob job now job).summary =
            { job.summary with state := .queued, leaseId := none } := by
          simp [recoveredJob, BackgroundJob.summary, hqueued]
        have hbudget : job.attemptCount < job.maxAttempts := by omega
        rw [hafter]
        exact JobStep.recoverQueued hprocessing hheld hrequest hbudget

/-- **The cancellation rule.** The check of a running handler settles a request
for cancellation, or finds none and changes nothing. -/
theorem ensures_throwIfBackgroundJobCancellationRequested {cancelledAt : ℤ} (hinv : db.Inv) :
    (throwIfBackgroundJobCancellationRequested context jobId leaseId cancelledAt).Ensures
      (fun cancelled db' =>
        (∃ job, db.job? jobId = some job ∧ job.leaseId = some leaseId ∧
          job.cancellationRequestedAt.isSome = cancelled) ∧
        if cancelled then db.Moves .settleCancellation jobId db' else db' = db)
      JobError.Unchecked db := by
  unfold throwIfBackgroundJobCancellationRequested
  refine ensures_orDatabaseError ?_
  rw [ensures_bind]
  refine ensures_backgroundJob_findFirst (fun _ => unchecked_jobLeaseLost)
    fun job hjob howned => ?_
  dsimp only
  have hid := id_of_job? hjob
  simp only [Bool.and_eq_true, beq_iff_eq] at howned
  obtain ⟨⟨hlease, hstate⟩, -⟩ := howned
  by_cases hnone : job.cancellationRequestedAt.isNone = true
  · rw [if_pos hnone, ensures_pure]
    have hsome : job.cancellationRequestedAt.isSome = false := by
      simpa using hnone
    exact ⟨⟨job, hjob, hlease, hsome⟩, rfl⟩
  rw [if_neg hnone, ensures_bind]
  have hrequest : job.cancellationRequestedAt.isSome = true := by
    rw [Option.isSome_iff_ne_none]
    simpa using hnone
  refine ensures_assertJobTransition rfl ?_
  rw [ensures_bind, hid]
  refine ensures_backgroundJob_updateMany (.inr unchecked_unique) (fun _ => unchecked_jobLeaseLost)
    fun row hrow hselects => ?_
  obtain rfl := Option.mem_unique hjob hrow
  refine ⟨accepted_cancelledJob (accepted_of_job? hjob) _, fun t hrows => ?_⟩
  rw [if_neg (by simp), ensures_bind]
  refine ensures_jobAttempt_updateMany (.inr unchecked_unique) (fun _ => unchecked_jobLeaseLost)
    fun attempt hattempt hsame hselected => ?_
  have hactive : attempt.state = .active := by
    simp only [Bool.and_eq_true, beq_iff_eq] at hselected
    exact hselected.1
  refine ⟨accepted_cancelledAttempt (accepted_of_mem_jobAttempts hattempt) hactive _,
    fun ta hta => ?_⟩
  rw [if_neg (by simp), ensures_bind]
  refine ensures_cancelledOutbox.mono (fun _ db' houtbox => ?_) fun _ herror => herror
  rw [ensures_pure]
  obtain ⟨jobOutbox, rfl, hmoves⟩ := houtbox
  subst hsame
  have hjobs := job?_update hjob hselects hrows fun _ => rfl
  have hattempts := view_attempts_close hta (fun _ => rfl)
    (fun _ => rfl) hattempt rfl hselected hactive
  refine ⟨⟨job, hjob, hlease, hrequest⟩, ?_⟩
  rw [if_pos rfl]
  exact hinv.moves_of_release hjob hlease hattempt hjobs hattempts hmoves
    (JobStep.settleCancellation hstate hlease hrequest)

end ContentAutomation
