import ContentAutomation.Jobs.Dispatch
import ContentAutomation.Jobs.Reconciliation

/-!
# The transactions of the job framework

Every transaction that any process of the program runs on the job tables, as
one family of calls. What a call may do to a job is stated once, by the actions
of the machine, and so is which calls need the lease of a running job.
-/

namespace ContentAutomation

open Relational Transaction List Database.SameViews

variable {App : Type}

/-- A call of a transaction, by the type of its answer. -/
inductive Call (App : Type) : Type → Type
  /-- Nothing is asked of the database. -/
  | skip : Call App Unit
  | loadOwnedJob (context : WorkspaceContext) (jobId : String) : Call App (Option BackgroundJob)
  | resultExists (callback : Database App → Option Bool) : Call App Bool
  | enqueueBackgroundJob (context : WorkspaceContext) (input : EnqueueBackgroundJobInput)
      (jobId outboxId : String) : Call App EnqueueBackgroundJobResult
  /-- A transaction of the application, which writes its tables and enqueues jobs. -/
  | application (effects : List (CommitEffect App)) : Call App Unit
  | claimBackgroundJob (context : WorkspaceContext) (jobId : String) (leaseDurationMs : Option ℤ)
      (now : ℤ) (leaseId attemptId : String) : Call App JobClaimResult
  | throwIfCancellationRequested (context : WorkspaceContext) (jobId leaseId : String)
      (cancelledAt : ℤ) : Call App Bool
  | heartbeat (context : WorkspaceContext) (jobId leaseId : String) (at' : ℤ)
      (leaseDurationMs : Option ℤ) : Call App Unit
  | recordStage (context : WorkspaceContext) (jobId leaseId stage : String) (at' : ℤ) :
      Call App Unit
  | makeRetryDue (context : WorkspaceContext) (jobId : String) (now : ℤ) : Call App Bool
  | recoverExpiredLease (context : WorkspaceContext) (jobId : String) (now : ℤ)
      (audit : Option String) (auditId : String) : Call App Bool
  | commitJobSuccess (context : WorkspaceContext) (jobId leaseId : String)
      (result : List (CommitEffect App)) (completedAt : ℤ) : Call App Unit
  | commitJobFailure (context : WorkspaceContext) (jobId leaseId : String) (failure : JobFailure)
      (decision : JobRetryDecision) (completedAt : ℤ) : Call App Unit
  | cancelBackgroundJob (correlationId : String) (principal : SessionPrincipal)
      (jobId reasonCode : String) (now : ℤ) (auditId : String) : Call App JobOperationResult
  | retryBackgroundJob (callbacks : ManualRetryCallbacks App) (correlationId : String)
      (principal : SessionPrincipal) (jobId reasonCode : String) (now : ℤ)
      (outboxId auditId : String) : Call App JobOperationResult
  /-- One `findMany` of a pass, with the rows that the database chooses. -/
  | scan (kind : ReconciliationScan) (now : ℤ) (batchSize : ℕ) (chosen : List String) :
      Call App (List ReconciliationJob)
  | inspectResult (callback : Database App → Option JobResultInspection) :
      Call App JobResultInspection
  | requeueDueRetry (jobId workspaceId correlationId : String) (now : ℤ)
      (outboxId auditId : String) : Call App Bool
  | requeueStrandedDelivery (jobId workspaceId correlationId : String) (now : ℤ)
      (outboxId auditId : String) : Call App Bool
  | repairMissingOutbox (jobId workspaceId correlationId : String) (now : ℤ)
      (outboxId auditId : String) : Call App Bool
  | repairCommittedResult (jobId workspaceId correlationId : String) (now : ℤ)
      (auditId : String) : Call App Bool
  | flagAmbiguousJob (jobId workspaceId correlationId : String) (reason : AmbiguousResult)
      (now : ℤ) (auditId : String) : Call App Bool
  | auditServiceOutcome (correlationId : String) (outcome : CleanupDebtOutcome) (now : ℤ)
      (auditId : String) : Call App Unit
  | leasePendingOutbox (now leaseDurationMs : ℤ) (batchSize : ℕ) (locked : List String)
      (leaseId : String) : Call App (List LeasedOutboxRecord)
  | markOutboxDispatched (record : LeasedOutboxRecord) (deliveryId : String) (dispatchedAt : ℤ) :
      Call App Unit
  | releaseOutbox (record : LeasedOutboxRecord) (errorCode : String) (nextAttemptAt : ℤ) :
      Call App Unit

/-- The rows that a scan has chosen, as it selects them. -/
def scannedJobs (db : Database App) (chosen : List String) : List ReconciliationJob :=
  chosen.filterMap fun id => (db.job? id).map BackgroundJob.toReconciliationJob

/-- The identifiers that an effect creates. -/
def CommitEffect.createdIds : CommitEffect App → List String
  | .write _ => []
  | .enqueue _ _ jobId outboxId => [jobId, outboxId]

namespace Call

variable {α : Type}

/-- The transaction that a call runs. -/
def body : Call App α → JobTransaction App α
  | skip => pure ()
  | loadOwnedJob context jobId =>
    backgroundJob.findFirst fun row => row.id == jobId && row.workspaceId == context.workspaceId
  | resultExists callback =>
    rethrow (fun error => databaseError "JOB_RESULT_CHECK_FAILED" error.cause) do
      let answer ← read callback
      orThrow answer
  | enqueueBackgroundJob context input jobId outboxId =>
    ContentAutomation.enqueueBackgroundJob context input jobId outboxId
  | application effects => commitResult effects
  | claimBackgroundJob context jobId leaseDurationMs now leaseId attemptId =>
    ContentAutomation.claimBackgroundJob context jobId leaseDurationMs now leaseId attemptId
  | throwIfCancellationRequested context jobId leaseId cancelledAt =>
    throwIfBackgroundJobCancellationRequested context jobId leaseId cancelledAt
  | heartbeat context jobId leaseId at' leaseDurationMs =>
    heartbeatBackgroundJob context jobId leaseId at' leaseDurationMs
  | recordStage context jobId leaseId stage at' =>
    recordBackgroundJobStage context jobId leaseId stage at'
  | makeRetryDue context jobId now => makeBackgroundJobRetryDue context jobId now
  | recoverExpiredLease context jobId now audit auditId =>
    recoverExpiredBackgroundJobLease context jobId now audit auditId
  | commitJobSuccess context jobId leaseId result completedAt =>
    ContentAutomation.commitJobSuccess context jobId leaseId result completedAt
  | commitJobFailure context jobId leaseId failure decision completedAt =>
    ContentAutomation.commitJobFailure context jobId leaseId failure decision completedAt
  | cancelBackgroundJob correlationId principal jobId reasonCode now auditId =>
    ContentAutomation.cancelBackgroundJob correlationId principal jobId reasonCode now auditId
  | retryBackgroundJob callbacks correlationId principal jobId reasonCode now outboxId auditId =>
    ContentAutomation.retryBackgroundJob callbacks correlationId principal jobId reasonCode now
      outboxId auditId
  | scan _ _ _ chosen => read fun db => scannedJobs db chosen
  | inspectResult callback => do
    let answer ← read callback
    orThrow answer
  | requeueDueRetry jobId workspaceId correlationId now outboxId auditId =>
    ContentAutomation.requeueDueRetry jobId workspaceId correlationId now outboxId auditId
  | requeueStrandedDelivery jobId workspaceId correlationId now outboxId auditId =>
    ContentAutomation.requeueStrandedDelivery jobId workspaceId correlationId now outboxId auditId
  | repairMissingOutbox jobId workspaceId correlationId now outboxId auditId =>
    ContentAutomation.repairMissingOutbox jobId workspaceId correlationId now outboxId auditId
  | repairCommittedResult jobId workspaceId correlationId now auditId =>
    ContentAutomation.repairCommittedResult jobId workspaceId correlationId now auditId
  | flagAmbiguousJob jobId workspaceId correlationId reason now auditId =>
    ContentAutomation.flagAmbiguousJob jobId workspaceId correlationId reason now auditId
  | auditServiceOutcome correlationId outcome now auditId =>
    ContentAutomation.auditServiceOutcome correlationId outcome now auditId
  | leasePendingOutbox now leaseDurationMs batchSize locked leaseId =>
    ContentAutomation.leasePendingOutbox now leaseDurationMs batchSize locked leaseId
  | markOutboxDispatched record deliveryId dispatchedAt =>
    ContentAutomation.markOutboxDispatched record deliveryId dispatchedAt
  | releaseOutbox record errorCode nextAttemptAt =>
    ContentAutomation.releaseOutbox record errorCode nextAttemptAt

/-- The identifiers that `createId` has to supply for a call. -/
def createdIds : Call App α → List String
  | enqueueBackgroundJob _ _ jobId outboxId => [jobId, outboxId]
  | application effects => effects.flatMap CommitEffect.createdIds
  | claimBackgroundJob _ _ _ _ leaseId attemptId => [leaseId, attemptId]
  | recoverExpiredLease _ _ _ _ auditId => [auditId]
  | commitJobSuccess _ _ _ result _ => result.flatMap CommitEffect.createdIds
  | cancelBackgroundJob _ _ _ _ _ auditId => [auditId]
  | retryBackgroundJob _ _ _ _ _ _ outboxId auditId => [outboxId, auditId]
  | requeueDueRetry _ _ _ _ outboxId auditId => [outboxId, auditId]
  | requeueStrandedDelivery _ _ _ _ outboxId auditId => [outboxId, auditId]
  | repairMissingOutbox _ _ _ _ outboxId auditId => [outboxId, auditId]
  | repairCommittedResult _ _ _ _ auditId => [auditId]
  | flagAmbiguousJob _ _ _ _ _ auditId => [auditId]
  | auditServiceOutcome _ _ _ auditId => [auditId]
  | leasePendingOutbox _ _ _ _ leaseId => [leaseId]
  | _ => []

end Call

/-- No row has been given an identifier. -/
def Database.isFresh (db : Database App) (id : String) : Bool :=
  db.backgroundJobs.rows.all (fun row => row.id != id) &&
    db.jobAttempts.rows.all (fun row => row.id != id && row.leaseId != id) &&
    db.jobOutbox.rows.all (fun row => row.id != id && row.leaseId != some id) &&
    db.auditEvents.rows.all (fun row => row.id != id)

/-- The rows chosen by a `findMany` with `take`: distinct, all selected, and as
many as there are up to the limit. -/
def Database.isSelection (db : Database App) (selects : BackgroundJob → Bool) (take : ℕ)
    (chosen : List String) : Bool :=
  decide chosen.Nodup && chosen.all (fun id => (db.job? id).any selects) &&
    decide (chosen.length = min take (db.backgroundJobs.rows.countP selects))

/-- What the surroundings of a call guarantee: identifiers are created once, and
a scan returns rows that it selects. -/
def Call.isEnabled {α : Type} (call : Call App α) (db : Database App) : Bool :=
  decide call.createdIds.Nodup && call.createdIds.all db.isFresh &&
    match call with
    | .scan kind now batchSize chosen => db.isSelection (kind.selects db now) batchSize chosen
    | _ => true

/-- The action that a call may perform on a job. -/
def Call.Acts {α : Type} (db : Database App) (k : String) (action : JobAction) : Call App α → Prop
  | .enqueueBackgroundJob .. => action = .enqueue
  | .application _ => action = .enqueue
  | .claimBackgroundJob _ jobId .. => k = jobId ∧ action = .claim
  | .throwIfCancellationRequested _ jobId .. => k = jobId ∧ action = .settleCancellation
  | .makeRetryDue _ jobId _ => k = jobId ∧ action = .releaseRetry
  | .recoverExpiredLease _ jobId .. =>
    k = jobId ∧ (action = .recover ∨ action = .settleCancellation)
  | .commitJobSuccess _ jobId .. =>
    (k = jobId ∧ action = .succeed) ∨ (k ≠ jobId ∧ action = .enqueue)
  | .commitJobFailure _ jobId .. => k = jobId ∧ action = .fail
  | .cancelBackgroundJob _ _ jobId .. =>
    k = jobId ∧ (action = .cancelWaiting ∨ action = .requestCancellation)
  | .retryBackgroundJob _ _ _ jobId .. => k = jobId ∧ action = .retryByOperator
  | .requeueDueRetry jobId .. => k = jobId ∧ action = .requeueRetry
  | .requeueStrandedDelivery jobId .. => k = jobId ∧ action = .requeueStranded
  | .repairCommittedResult jobId .. => k = jobId ∧ action = .repairCommitted
  | .markOutboxDispatched record .. =>
    action = .dispatch ∧ ∃ row ∈ db.jobOutbox.rows, row.id = record.id ∧
      row.backgroundJobId = k ∧ isLeasedRecord record row = true
  | _ => False

/-- Every job either keeps its view or takes a step that a call may perform. -/
def Call.Follows {α : Type} (call : Call App α) (db db' : Database App) : Prop :=
  ∀ k, db'.view k = db.view k ∨
    ∃ action, call.Acts db k action ∧ JobStep action (db.view k) (db'.view k)

/-- A failure is settled within the budget that the claim was given. -/
def Call.InBudget {α : Type} (db : Database App) : Call App α → Prop
  | .commitJobFailure _ jobId leaseId _ decision _ =>
    decision.jobState = .retryScheduled → ∀ job, db.job? jobId = some job →
      job.leaseId = some leaseId → job.attemptCount < job.maxAttempts
  | _ => True

/-- The job and the lease that a call needs. -/
def Call.lease {α : Type} : Call App α → Option (String × String)
  | .throwIfCancellationRequested _ jobId leaseId _ => some (jobId, leaseId)
  | .heartbeat _ jobId leaseId .. => some (jobId, leaseId)
  | .recordStage _ jobId leaseId .. => some (jobId, leaseId)
  | .commitJobSuccess _ jobId leaseId .. => some (jobId, leaseId)
  | .commitJobFailure _ jobId leaseId .. => some (jobId, leaseId)
  | _ => none

/-- The job and the lease whose result a call commits when it returns. -/
def Call.commits {α : Type} : Call App α → List (String × String)
  | .commitJobSuccess _ jobId leaseId _ _ => [(jobId, leaseId)]
  | _ => []

/-! ### What calls ensure -/

-- each transaction has its rule; the rule of calls unfolds none of them
seal enqueueBackgroundJobInTransaction ContentAutomation.claimBackgroundJob
  throwIfBackgroundJobCancellationRequested heartbeatBackgroundJob recordBackgroundJobStage
  makeBackgroundJobRetryDue recoverExpiredBackgroundJobLease ContentAutomation.commitJobSuccess
  ContentAutomation.commitJobFailure ContentAutomation.cancelBackgroundJob
  ContentAutomation.retryBackgroundJob ContentAutomation.requeueDueRetry
  ContentAutomation.requeueStrandedDelivery ContentAutomation.repairMissingOutbox
  ContentAutomation.repairCommittedResult ContentAutomation.flagAmbiguousJob
  ContentAutomation.auditServiceOutcome ContentAutomation.leasePendingOutbox
  ContentAutomation.markOutboxDispatched ContentAutomation.releaseOutbox

namespace Call

variable {α : Type} {db db' : Database App} {call : Call App α}

theorem Follows.of_same (h : db.SameViews db') : call.Follows db db' := fun k => .inl (h k)

private theorem Follows.of_moves {action : JobAction} {k : String} (h : db.Moves action k db')
    (hacts : call.Acts db k action) : call.Follows db db' := by
  intro id
  by_cases hid : id = k
  · subst hid
    exact .inr ⟨action, hacts, h.1⟩
  · exact .inl (h.2 id hid)

private theorem nodup_of_isEnabled (h : call.isEnabled db) : call.createdIds.Nodup := by
  simp only [isEnabled, Bool.and_eq_true, decide_eq_true_eq] at h
  exact h.1.1

private theorem fresh_of_isEnabled (h : call.isEnabled db) {id : String}
    (hid : id ∈ call.createdIds) : ∀ row ∈ db.jobOutbox.rows, row.id ≠ id := by
  simp only [isEnabled, Bool.and_eq_true, all_eq_true] at h
  have hfresh := h.1.2 id hid
  simp only [Database.isFresh, Bool.and_eq_true, all_eq_true, bne_iff_ne] at hfresh
  intro row hrow
  exact (hfresh.1.2 row hrow).1

theorem freshJob_of_isEnabled (h : call.isEnabled db) {id : String}
    (hid : id ∈ call.createdIds) : ∀ job ∈ db.backgroundJobs.rows, job.id ≠ id := by
  simp only [isEnabled, Bool.and_eq_true, all_eq_true] at h
  have hfresh := h.1.2 id hid
  simp only [Database.isFresh, Bool.and_eq_true, all_eq_true, bne_iff_ne] at hfresh
  exact hfresh.1.1.1

private theorem sublist_createdIds (effects : List (CommitEffect App)) :
    (effects.filterMap CommitEffect.createdOutboxId).Sublist
      (effects.flatMap CommitEffect.createdIds) := by
  induction effects with
  | nil => exact List.Sublist.refl _
  | cons effect effects ih =>
    rw [flatMap_cons]
    cases effect with
    | write update => exact ih
    | enqueue context input jobId outboxId => exact (ih.cons_cons outboxId).cons jobId

private theorem ensures_effects {effects : List (CommitEffect App)} (hinv : db.Inv)
    (hnodup : (effects.flatMap CommitEffect.createdIds).Nodup)
    (hfresh : ∀ id ∈ effects.flatMap CommitEffect.createdIds,
      ∀ row ∈ db.jobOutbox.rows, row.id ≠ id) :
    (commitResult effects).Ensures (fun _ db' => db.Grows db') JobError.Unchecked db :=
  ensures_commitResult hinv.delivered (hnodup.sublist (sublist_createdIds effects))
    fun id hid => hfresh id ((sublist_createdIds effects).subset hid)

private theorem ensures_orThrow {answer : Option α} {post : α → Database App → Prop}
    (h : ∀ value, answer = some value → post value db) :
    (orThrow answer : JobTransaction App α).Ensures post JobError.Unchecked db := by
  cases answer with
  | none =>
    intro constraint hcause
    cases hcause
  | some value => exact h value rfl

/-- **The rule of calls.** Every call performs only the actions it may perform,
and fails on no `CHECK` constraint. -/
theorem ensures (call : Call App α) (hinv : db.Inv) (henabled : call.isEnabled db)
    (hbudget : call.InBudget db) :
    call.body.Ensures (fun _ db' => call.Follows db db') JobError.Unchecked db := by
  have hnodup := nodup_of_isEnabled henabled
  have hfresh : ∀ id ∈ call.createdIds, ∀ row ∈ db.jobOutbox.rows, row.id ≠ id :=
    fun _ hid => fresh_of_isEnabled henabled hid
  cases call with
  | skip => exact Follows.of_same refl
  | loadOwnedJob context jobId =>
    exact ensures_backgroundJob_findFirst (fun _ => Follows.of_same refl)
      fun _ _ _ => Follows.of_same refl
  | resultExists callback =>
    rw [body]
    rw [ensures_rethrow, ensures_bind, ensures_read]
    exact ensures_orThrow fun _ _ => Follows.of_same refl
  | inspectResult callback =>
    rw [body]
    rw [ensures_bind, ensures_read]
    exact ensures_orThrow fun _ _ => Follows.of_same refl
  | scan kind now batchSize chosen => exact Follows.of_same refl
  | enqueueBackgroundJob context input jobId outboxId =>
    rw [body, ContentAutomation.enqueueBackgroundJob]
    refine ensures_orDatabaseError ?_
    refine (ensures_enqueueBackgroundJobInTransaction hinv.delivered
      (hfresh outboxId (by simp [createdIds]))).mono (fun _ db' hpost id => ?_) fun _ herror => herror
    rcases hpost.1.views id with hsame | hstep
    · exact .inl hsame
    · exact .inr ⟨.enqueue, rfl, hstep⟩
  | application effects =>
    refine (ensures_effects hinv hnodup hfresh).mono (fun _ db' hgrows id => ?_)
      fun _ herror => herror
    rcases hgrows.views id with hsame | hstep
    · exact .inl hsame
    · exact .inr ⟨.enqueue, rfl, hstep⟩
  | claimBackgroundJob context jobId leaseDurationMs now leaseId attemptId =>
    rw [body]
    refine (ensures_claimBackgroundJob hinv).mono (fun result db' hpost => ?_)
      fun _ herror => herror
    cases result with
    | refused reason =>
      obtain rfl := hpost.1
      exact Follows.of_same refl
    | claimed claim => exact Follows.of_moves hpost.2.1 ⟨rfl, rfl⟩
  | throwIfCancellationRequested context jobId leaseId cancelledAt =>
    rw [body]
    refine (ensures_throwIfBackgroundJobCancellationRequested hinv).mono
      (fun cancelled db' hpost => ?_) fun _ herror => herror
    cases cancelled with
    | false =>
      obtain rfl : db' = db := hpost.2
      exact Follows.of_same refl
    | true => exact Follows.of_moves hpost.2 ⟨rfl, rfl⟩
  | heartbeat context jobId leaseId at' leaseDurationMs =>
    rw [body]
    exact ensures_heartbeatBackgroundJob.mono (fun _ db' hpost => Follows.of_same hpost.1)
      fun _ herror => herror
  | recordStage context jobId leaseId stage at' =>
    rw [body]
    exact ensures_recordBackgroundJobStage.mono (fun _ db' hpost => Follows.of_same hpost.1)
      fun _ herror => herror
  | makeRetryDue context jobId now =>
    rw [body]
    refine ensures_makeBackgroundJobRetryDue.mono (fun _ db' hpost => ?_) fun _ herror => herror
    rcases hpost with rfl | hmoves
    · exact Follows.of_same refl
    · exact Follows.of_moves hmoves ⟨rfl, rfl⟩
  | recoverExpiredLease context jobId now audit auditId =>
    rw [body]
    refine (ensures_recoverExpiredBackgroundJobLease hinv).mono (fun _ db' hpost => ?_)
      fun _ herror => herror
    rcases hpost with rfl | hmoves | hmoves
    · exact Follows.of_same refl
    · exact Follows.of_moves hmoves ⟨rfl, .inl rfl⟩
    · exact Follows.of_moves hmoves ⟨rfl, .inr rfl⟩
  | commitJobSuccess context jobId leaseId result completedAt =>
    rw [body]
    refine (ensures_commitJobSuccess hinv (hnodup.sublist (sublist_createdIds result))
      fun id hid => hfresh id ((sublist_createdIds result).subset hid)).mono
        (fun _ db' hpost id => ?_) fun _ herror => herror
    by_cases hid : id = jobId
    · subst hid
      exact .inr ⟨.succeed, .inl ⟨rfl, rfl⟩, hpost.2.1⟩
    · rcases hpost.2.2 id hid with hsame | hstep
      · exact .inl hsame
      · exact .inr ⟨.enqueue, .inr ⟨hid, rfl⟩, hstep⟩
  | commitJobFailure context jobId leaseId failure decision completedAt =>
    rw [body]
    refine (ensures_commitJobFailure hinv).mono (fun _ db' hpost => ?_) fun _ herror => herror
    obtain ⟨job, hjob, hlease, hmoves⟩ := hpost
    exact Follows.of_moves (hmoves fun hretry => hbudget hretry job hjob hlease) ⟨rfl, rfl⟩
  | cancelBackgroundJob correlationId principal jobId reasonCode now auditId =>
    rw [body]
    refine ensures_cancelBackgroundJob.mono (fun result db' hpost => ?_) fun _ herror => herror
    have hdone := hpost.1
    cases houtcome : result.outcome <;> rw [houtcome] at hdone
    case cancelled => exact Follows.of_moves hdone ⟨rfl, .inl rfl⟩
    case cancellationRequested => exact Follows.of_moves hdone ⟨rfl, .inr rfl⟩
    all_goals exact Follows.of_same hdone
  | retryBackgroundJob callbacks correlationId principal jobId reasonCode now outboxId auditId =>
    rw [body]
    refine (ensures_retryBackgroundJob hinv).mono (fun result db' hpost => ?_)
      fun _ herror => herror
    cases houtcome : result.outcome <;> rw [houtcome] at hpost
    case retryQueued => exact Follows.of_moves hpost ⟨rfl, rfl⟩
    all_goals exact Follows.of_same hpost
  | requeueDueRetry jobId workspaceId correlationId now outboxId auditId =>
    rw [body]
    refine (ensures_requeueDueRetry hinv).mono (fun _ db' hpost => ?_) fun _ herror => herror
    rcases hpost with rfl | hmoves
    · exact Follows.of_same refl
    · exact Follows.of_moves hmoves ⟨rfl, rfl⟩
  | requeueStrandedDelivery jobId workspaceId correlationId now outboxId auditId =>
    rw [body]
    refine (ensures_requeueStrandedDelivery hinv).mono (fun _ db' hpost => ?_)
      fun _ herror => herror
    rcases hpost with rfl | hmoves
    · exact Follows.of_same refl
    · exact Follows.of_moves hmoves ⟨rfl, rfl⟩
  | repairMissingOutbox jobId workspaceId correlationId now outboxId auditId =>
    rw [body]
    refine (ensures_repairMissingOutbox hinv).mono (fun _ db' hpost => ?_) fun _ herror => herror
    obtain rfl := hpost.2
    exact Follows.of_same refl
  | repairCommittedResult jobId workspaceId correlationId now auditId =>
    rw [body]
    refine (ensures_repairCommittedResult hinv).mono (fun _ db' hpost => ?_) fun _ herror => herror
    rcases hpost with rfl | hmoves
    · exact Follows.of_same refl
    · exact Follows.of_moves hmoves ⟨rfl, rfl⟩
  | flagAmbiguousJob jobId workspaceId correlationId reason now auditId =>
    rw [body]
    exact ensures_flagAmbiguousJob.mono (fun _ _ hsame => Follows.of_same hsame)
      fun _ herror => herror
  | auditServiceOutcome correlationId outcome now auditId =>
    rw [body]
    exact ensures_auditServiceOutcome.mono (fun _ _ hsame => Follows.of_same hsame)
      fun _ herror => herror
  | leasePendingOutbox now leaseDurationMs batchSize locked leaseId =>
    rw [body]
    exact ensures_leasePendingOutbox.mono (fun _ _ hsame => Follows.of_same hsame)
      fun _ herror => herror
  | markOutboxDispatched record deliveryId dispatchedAt =>
    rw [body]
    refine ensures_markOutboxDispatched.mono (fun _ db' hpost => ?_) fun _ herror => herror
    rcases hpost with rfl | ⟨k, hmoves, hrow⟩
    · exact Follows.of_same refl
    · exact Follows.of_moves hmoves ⟨rfl, hrow⟩
  | releaseOutbox record errorCode nextAttemptAt =>
    rw [body]
    exact ensures_releaseOutbox.mono (fun _ _ hsame => Follows.of_same hsame)
      fun _ herror => herror

/-- **The rule of leases.** A call that needs a lease returns only while its job
holds that lease. -/
theorem ensures_lease (call : Call App α) (hinv : db.Inv) (henabled : call.isEnabled db)
    {k leaseId : String} (hlease : call.lease = some (k, leaseId)) :
    call.body.Ensures (fun _ _ => ∃ job, db.job? k = some job ∧ job.leaseId = some leaseId)
      (fun _ => True) db := by
  have hnodup := nodup_of_isEnabled henabled
  have hfresh : ∀ id ∈ call.createdIds, ∀ row ∈ db.jobOutbox.rows, row.id ≠ id :=
    fun _ hid => fresh_of_isEnabled henabled hid
  cases call with
  | throwIfCancellationRequested context jobId lease cancelledAt =>
    cases hlease
    rw [body]
    refine (ensures_throwIfBackgroundJobCancellationRequested hinv).mono
      (fun _ _ hpost => ?_) fun _ _ => trivial
    obtain ⟨⟨job, hjob, hheld, -⟩, -⟩ := hpost
    exact ⟨job, hjob, hheld⟩
  | heartbeat context jobId lease at' leaseDurationMs =>
    cases hlease
    rw [body]
    refine ensures_heartbeatBackgroundJob.mono (fun _ _ hpost => ?_) fun _ _ => trivial
    obtain ⟨-, job, hjob, hheld, -⟩ := hpost
    exact ⟨job, hjob, hheld⟩
  | recordStage context jobId lease stage at' =>
    cases hlease
    rw [body]
    refine ensures_recordBackgroundJobStage.mono (fun _ _ hpost => ?_) fun _ _ => trivial
    obtain ⟨-, job, hjob, hheld, -⟩ := hpost
    exact ⟨job, hjob, hheld⟩
  | commitJobSuccess context jobId lease result completedAt =>
    cases hlease
    rw [body]
    refine (ensures_commitJobSuccess hinv (hnodup.sublist (sublist_createdIds result))
      fun id hid => hfresh id ((sublist_createdIds result).subset hid)).mono
        (fun _ _ hpost => hpost.1) fun _ _ => trivial
  | commitJobFailure context jobId lease failure decision completedAt =>
    cases hlease
    rw [body]
    refine (ensures_commitJobFailure hinv).mono (fun _ _ hpost => ?_) fun _ _ => trivial
    obtain ⟨job, hjob, hheld, -⟩ := hpost
    exact ⟨job, hjob, hheld⟩
  | _ => cases hlease

theorem nodup_commits (call : Call App α) : (call.commits.map Prod.fst).Nodup := by
  cases call with
  | commitJobSuccess context jobId leaseId result completedAt => exact nodup_singleton jobId
  | _ => exact nodup_nil

/-- **The rule of commits.** The result of a job is committed with the step that
makes the job successful. -/
theorem ensures_commits (call : Call App α) (hinv : db.Inv) (henabled : call.isEnabled db) :
    call.body.Ensures
      (fun _ db' => ∀ k ∈ call.commits.map Prod.fst, JobStep .succeed (db.view k) (db'.view k))
      (fun _ => True) db := by
  have hnodup := nodup_of_isEnabled henabled
  have hfresh : ∀ id ∈ call.createdIds, ∀ row ∈ db.jobOutbox.rows, row.id ≠ id :=
    fun _ hid => fresh_of_isEnabled henabled hid
  cases call with
  | commitJobSuccess context jobId leaseId result completedAt =>
    rw [body]
    refine (ensures_commitJobSuccess hinv (hnodup.sublist (sublist_createdIds result))
      fun id hid => hfresh id ((sublist_createdIds result).subset hid)).mono
        (fun _ db' hpost k hk => ?_) fun _ _ => trivial
    obtain rfl : k = jobId := mem_singleton.mp hk
    exact hpost.2.1
  | _ => exact Ensures.of_forall (fun _ _ _ hk => by cases hk) fun _ => trivial

end Call

end ContentAutomation
