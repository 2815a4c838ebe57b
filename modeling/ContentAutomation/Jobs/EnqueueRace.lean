import ContentAutomation.Jobs.Enqueue
import ContentAutomation.Library.Isolation
import ContentAutomation.Library.Transition
import Mathlib.Data.Finset.Insert

/-!
# Racing enqueues

Any number of callers run `enqueueBackgroundJobInTransaction` at once, each in a
transaction of its own, under one idempotency key. Their statements interleave
freely; the unique index decides whose insert wins, and the others wait for the
winner and read its job back.
-/

namespace ContentAutomation

open Relational Transaction List Function OpenTable

variable {App : Type} {ι : Type*}

/-- One call of `enqueueBackgroundJobInTransaction`, with the identifiers that were
generated for it and the time at which its transaction began. -/
structure EnqueueCall where
  context : WorkspaceContext
  input : EnqueueBackgroundJobInput
  jobId : String
  outboxId : String
  clock : ℤ

namespace EnqueueCall

/-- The job that the call inserts. -/
def job (call : EnqueueCall) : BackgroundJob :=
  enqueuedJob call.context call.input call.jobId call.clock

/-- The outbox row that the call inserts for a job. -/
def outbox (call : EnqueueCall) (job : BackgroundJob) : JobOutbox :=
  newOutbox job call.outboxId call.clock call.clock

/-- The unique key that the call inserts and reads back under. -/
def key (call : EnqueueCall) : String × String × ℤ × String :=
  (call.context.workspaceId, call.input.queueName, call.input.handlerVersion, call.input.key)

/-- What the call returns for a job. -/
def result (call : EnqueueCall) (job : BackgroundJob) : EnqueueBackgroundJobResult where
  created := job.id == call.jobId
  correlationId := job.correlationId
  handlerVersion := job.handlerVersion
  id := job.id
  queueName := job.queueName
  workspaceId := job.workspaceId

/-- A job describes other work than the call, as the call spells it. -/
def Differs (call : EnqueueCall) (job : BackgroundJob) : Prop :=
  job.inputVersion ≠ call.input.revision ∨ job.priority ≠ call.input.rank ∨
    job.resourceId ≠ call.input.resourceId ∨ job.resourceType ≠ call.input.resource

end EnqueueCall

/-- How far a call has come. -/
inductive EnqueuePhase
  /-- Before the insert of the job. -/
  | inserting
  /-- The insert is over; the job has not been read back. -/
  | reading
  /-- The job was read back and describes the same work. -/
  | delivering (job : BackgroundJob)
  /-- The call has returned; its transaction is open. -/
  | returned (result : EnqueueBackgroundJobResult)
  /-- The call has returned and its transaction has committed. -/
  | committed (result : EnqueueBackgroundJobResult)
  /-- The call has thrown, and its transaction was rolled back. -/
  | raised (error : JobError)
  /-- The caller gave its transaction up. -/
  | rolledBack
  deriving DecidableEq

/-- The call and its transaction are over. -/
def EnqueuePhase.ended : EnqueuePhase → Bool
  | .committed _ | .raised _ | .rolledBack => true
  | _ => false

/-- The conflict of two different pieces of work under one key. -/
def idempotencyConflict : JobError := conflictError "JOB_IDEMPOTENCY_CONFLICT"

/-- A race: the two tables under open transactions, and the phase of each call. -/
structure EnqueueRace (ι : Type*) [DecidableEq ι] where
  backgroundJobs : OpenTable backgroundJobSchema ι
  jobOutbox : OpenTable jobOutboxSchema ι
  phase : ι → EnqueuePhase

/-- What a call does next. -/
inductive EnqueueMove
  /-- Its next statement, or its commit. -/
  | advance
  /-- Its caller rolls the transaction back: it crashed, or failed later. -/
  | rollBack

namespace EnqueueRace

variable [DecidableEq ι]

/-- The race before any call has begun. -/
def start (db : Database App) (ι : Type*) [DecidableEq ι] : EnqueueRace ι where
  backgroundJobs := OpenTable.start db.backgroundJobs ι
  jobOutbox := OpenTable.start db.jobOutbox ι
  phase := fun _ => .inserting

/-- A call enters its next phase. -/
def enter (race : EnqueueRace ι) (i : ι) (phase : EnqueuePhase) : EnqueueRace ι :=
  { race with phase := update race.phase i phase }

/-- A call ends without effect. -/
def giveUp (race : EnqueueRace ι) (i : ι) (phase : EnqueuePhase) : EnqueueRace ι where
  backgroundJobs := race.backgroundJobs.rollBack i
  jobOutbox := race.jobOutbox.rollBack i
  phase := update race.phase i phase

/-- The next statement of a call; `none` while it has to wait, or has ended. -/
def advance (calls : ι → EnqueueCall) (race : EnqueueRace ι) (i : ι) : Option (EnqueueRace ι) :=
  let call := calls i
  match race.phase i with
  | .inserting =>
    match call.input.refusal with
    | some code => some (race.giveUp i (.raised (validationError code)))
    | none =>
      match race.backgroundJobs.insertSkippingDuplicates i call.job with
      | .waits => none
      | .done backgroundJobs => some ({ race with backgroundJobs }.enter i .reading)
      | .refused violation =>
        some (race.giveUp i (.raised
          (databaseError "JOB_ENQUEUE_FAILED" (some (.violation violation)))))
  | .reading =>
    match (race.backgroundJobs.visible i).lookup BackgroundJob.idempotency call.key with
    | none =>
      some (race.giveUp i (.raised (databaseError "JOB_ENQUEUE_FAILED" (some .recordNotFound))))
    | some job =>
      if isIdempotencyConflict call.input call.jobId job then
        some (race.giveUp i (.raised idempotencyConflict))
      else some (race.enter i (.delivering job))
  | .delivering job =>
    match race.jobOutbox.insertSkippingDuplicates i (call.outbox job) with
    | .waits => none
    | .done jobOutbox => some ({ race with jobOutbox }.enter i (.returned (call.result job)))
    | .refused violation =>
      some (race.giveUp i (.raised
        (databaseError "JOB_ENQUEUE_FAILED" (some (.violation violation)))))
  | .returned result =>
    some
      { backgroundJobs := race.backgroundJobs.commit i
        jobOutbox := race.jobOutbox.commit i
        phase := update race.phase i (.committed result) }
  | .committed _ | .raised _ | .rolledBack => none

/-- One move of one call. -/
def next (calls : ι → EnqueueCall) (race : EnqueueRace ι) : ι × EnqueueMove → Option (EnqueueRace ι)
  | (i, .advance) => race.advance calls i
  | (i, .rollBack) =>
    if (race.phase i).ended then none else some (race.giveUp i .rolledBack)

/-- The steps of a race. -/
def Step (calls : ι → EnqueueCall) (race : EnqueueRace ι) (event : ι × EnqueueMove)
    (race' : EnqueueRace ι) : Prop := race.next calls event = some race'

end EnqueueRace

open EnqueueRace

/-- Calls that race for one key which stands for no job yet, with new identifiers. -/
structure RacesFor (db : Database App) (calls : ι → EnqueueCall)
    (key : String × String × ℤ × String) : Prop where
  /-- Every call asks for the same key. -/
  shared : ∀ i, (calls i).key = key
  /-- No job has the key. -/
  absent : ∀ row ∈ db.backgroundJobs.rows, row.idempotency ≠ key
  /-- No job has an identifier that was generated for a call. -/
  freshJob : ∀ i, ∀ row ∈ db.backgroundJobs.rows, row.id ≠ (calls i).jobId
  /-- No outbox row has an identifier that was generated for a call. -/
  freshOutbox : ∀ i, ∀ row ∈ db.jobOutbox.rows, row.id ≠ (calls i).outboxId
  /-- The calls were given different identifiers. -/
  distinct : Function.Injective fun i => (calls i).jobId
  /-- No outbox row is without its job. -/
  delivered : db.Delivered

/-- Where a call stands, given the call whose job is committed: its phase, and the
rows that it has inserted and not yet committed. -/
inductive Standing (calls : ι → EnqueueCall) (winner : Option ι) (i : ι) :
    EnqueuePhase → List BackgroundJob → List JobOutbox → Prop
  | inserting : Standing calls winner i .inserting [] []
  | readingOwn (hvalid : (calls i).input.refusal = none) :
      Standing calls winner i .reading [(calls i).job] []
  | readingOther {v : ι} (hvalid : (calls i).input.refusal = none) (hwinner : winner = some v)
      (hne : v ≠ i) :
      Standing calls winner i .reading [] []
  | deliveringOwn (hvalid : (calls i).input.refusal = none) :
      Standing calls winner i (.delivering (calls i).job) [(calls i).job] []
  | deliveringOther {v : ι} (hvalid : (calls i).input.refusal = none) (hwinner : winner = some v)
      (hne : v ≠ i) (hsame : ¬ (calls i).Differs (calls v).job) :
      Standing calls winner i (.delivering (calls v).job) [] []
  | returnedOwn (hvalid : (calls i).input.refusal = none) :
      Standing calls winner i (.returned ((calls i).result (calls i).job)) [(calls i).job]
        [(calls i).outbox (calls i).job]
  | returnedOther {v : ι} (hvalid : (calls i).input.refusal = none) (hwinner : winner = some v)
      (hne : v ≠ i) (hsame : ¬ (calls i).Differs (calls v).job) :
      Standing calls winner i (.returned ((calls i).result (calls v).job)) [] []
  | committedOwn (hwinner : winner = some i) :
      Standing calls winner i (.committed ((calls i).result (calls i).job)) [] []
  | committedOther {v : ι} (hwinner : winner = some v) (hne : v ≠ i)
      (hsame : ¬ (calls i).Differs (calls v).job) :
      Standing calls winner i (.committed ((calls i).result (calls v).job)) [] []
  | conflicted {v : ι} (hwinner : winner = some v) (hne : v ≠ i)
      (hdiffers : (calls i).Differs (calls v).job) :
      Standing calls winner i (.raised idempotencyConflict) [] []
  | refused {code : String} (hrefused : (calls i).input.refusal = some code) :
      Standing calls winner i (.raised (validationError code)) [] []
  | rolledBack : Standing calls winner i .rolledBack [] []

/-- The invariant of a race: at most the winner's two rows have been committed, and
every call stands where its own statements and the winner have brought it. -/
structure EnqueueRace.Inv [DecidableEq ι] (db : Database App) (calls : ι → EnqueueCall) (winner : Option ι)
    (race : EnqueueRace ι) : Prop where
  jobs : race.backgroundJobs.committed.rows =
    db.backgroundJobs.rows ++ winner.toList.map fun w => (calls w).job
  outbox : race.jobOutbox.committed.rows =
    db.jobOutbox.rows ++ winner.toList.map fun w => (calls w).outbox (calls w).job
  won : ∀ w, winner = some w → (calls w).input.refusal = none ∧
    race.phase w = .committed ((calls w).result (calls w).job)
  standing : ∀ i, Standing calls winner i (race.phase i) (race.backgroundJobs.own i)
    (race.jobOutbox.own i)

variable {call : EnqueueCall} {calls : ι → EnqueueCall}

private theorem isIdempotencyConflict_iff {job : BackgroundJob}
    (hne : job.id ≠ call.jobId) :
    isIdempotencyConflict call.input call.jobId job ↔ call.Differs job := by
  simp [isIdempotencyConflict, EnqueueCall.Differs, hne, or_assoc]

private theorem collision_enqueuedJob {other : BackgroundJob}
    (h : backgroundJobSchema.collision other call.job ≠ none) :
    other.id = call.jobId ∨ other.idempotency = call.key := by
  by_contra hneither
  push Not at hneither
  obtain ⟨hid, hkey⟩ := hneither
  refine h (Schema.collision_eq_none.mpr ?_)
  simp only [backgroundJobSchema, forall_mem_cons, not_mem_nil, false_imp_iff,
    implies_true, and_true]
  refine ⟨by simpa [EnqueueCall.job, enqueuedJob] using hid, ?_, ?_⟩
  · simpa [EnqueueCall.job, enqueuedJob] using fun _ => hid
  · simpa [EnqueueCall.job, EnqueueCall.key, enqueuedJob, BackgroundJob.idempotency, and_assoc]
      using hkey

private theorem isIdempotencyConflict_own (call : EnqueueCall) :
    isIdempotencyConflict call.input call.jobId call.job = false := by
  simp [isIdempotencyConflict, EnqueueCall.job, enqueuedJob]

private theorem idempotency_job (call : EnqueueCall) : call.job.idempotency = call.key := rfl

private theorem checked_job (hvalid : call.input.refusal = none) :
    backgroundJobSchema.failedCheck call.job = none :=
  backgroundJobSchema_failedCheck.mpr (accepted_enqueuedJob hvalid)

private theorem checked_outbox (call call' : EnqueueCall) (hvalid : call'.input.refusal = none) :
    jobOutboxSchema.failedCheck (call.outbox call'.job) = none :=
  jobOutboxSchema_failedCheck.mpr (accepted_newOutbox (accepted_enqueuedJob hvalid) _ _ _)

private theorem Standing.of_none {winner : Option ι} {i : ι} {phase : EnqueuePhase}
    {jobs : List BackgroundJob} {records : List JobOutbox}
    (h : Standing calls none i phase jobs records) : Standing calls winner i phase jobs records := by
  cases h with
  | inserting => exact .inserting
  | readingOwn hvalid => exact .readingOwn hvalid
  | readingOther _ hwinner => cases hwinner
  | deliveringOwn hvalid => exact .deliveringOwn hvalid
  | deliveringOther _ hwinner => cases hwinner
  | returnedOwn hvalid => exact .returnedOwn hvalid
  | returnedOther _ hwinner => cases hwinner
  | committedOwn hwinner => cases hwinner
  | committedOther hwinner => cases hwinner
  | conflicted hwinner => cases hwinner
  | refused hrefused => exact .refused hrefused
  | rolledBack => exact .rolledBack

private theorem Standing.own_cases {winner : Option ι} {i : ι}
    {phase : EnqueuePhase} {jobs : List BackgroundJob} {records : List JobOutbox}
    (h : Standing calls winner i phase jobs records) : jobs = [] ∨ jobs = [(calls i).job] := by
  cases h <;> first | exact .inl rfl | exact .inr rfl

private theorem RacesFor.id_ne {db : Database App} {key : String × String × ℤ × String}
    (hrace : RacesFor db calls key) {v i : ι} (hne : v ≠ i) :
    (calls v).job.id ≠ (calls i).jobId := fun heq => hne (hrace.distinct heq)

private theorem RacesFor.no_outbox {db : Database App} {key : String × String × ℤ × String}
    (hrace : RacesFor db calls key) (i : ι) :
    ∀ row ∈ db.jobOutbox.rows, row.backgroundJobId ≠ (calls i).jobId := by
  have hjob : db.job? (calls i).jobId = none := Table.lookup_eq_none.mpr (hrace.freshJob i)
  have hview := hrace.delivered (calls i).jobId
  simp only [JobView.Delivered, Database.view, hjob, Option.map_none,
    Option.map_eq_none_iff] at hview
  exact Table.lookup_eq_none.mp hview.2

namespace EnqueueRace

variable [DecidableEq ι] {db : Database App} {key : String × String × ℤ × String}
  {winner : Option ι} {race race' : EnqueueRace ι} {i w : ι}

private theorem phase_enter (race : EnqueueRace ι) (i : ι) (phase : EnqueuePhase) :
    (race.enter i phase).phase i = phase := update_self _ _ _

private theorem advance_inserting (calls : ι → EnqueueCall) (hphase : race.phase i = .inserting) :
    race.advance calls i =
      match (calls i).input.refusal with
      | some code => some (race.giveUp i (.raised (validationError code)))
      | none =>
        match race.backgroundJobs.insertSkippingDuplicates i (calls i).job with
        | .waits => none
        | .done backgroundJobs => some ({ race with backgroundJobs }.enter i .reading)
        | .refused violation =>
          some (race.giveUp i (.raised
            (databaseError "JOB_ENQUEUE_FAILED" (some (.violation violation))))) := by
  unfold advance
  rw [hphase]

/-- The second statement of a call: the job under the key is read and compared. -/
theorem advance_reading (calls : ι → EnqueueCall) (hphase : race.phase i = .reading) :
    race.advance calls i =
      match (race.backgroundJobs.visible i).lookup BackgroundJob.idempotency (calls i).key with
      | none =>
        some (race.giveUp i (.raised (databaseError "JOB_ENQUEUE_FAILED" (some .recordNotFound))))
      | some job =>
        if isIdempotencyConflict (calls i).input (calls i).jobId job then
          some (race.giveUp i (.raised idempotencyConflict))
        else some (race.enter i (.delivering job)) := by
  unfold advance
  rw [hphase]

private theorem advance_delivering (calls : ι → EnqueueCall) {job : BackgroundJob}
    (hphase : race.phase i = .delivering job) :
    race.advance calls i =
      match race.jobOutbox.insertSkippingDuplicates i ((calls i).outbox job) with
      | .waits => none
      | .done jobOutbox => some ({ race with jobOutbox }.enter i (.returned ((calls i).result job)))
      | .refused violation =>
        some (race.giveUp i (.raised
          (databaseError "JOB_ENQUEUE_FAILED" (some (.violation violation))))) := by
  unfold advance
  rw [hphase]

private theorem advance_returned (calls : ι → EnqueueCall) {result : EnqueueBackgroundJobResult}
    (hphase : race.phase i = .returned result) :
    race.advance calls i = some
      { backgroundJobs := race.backgroundJobs.commit i
        jobOutbox := race.jobOutbox.commit i
        phase := update race.phase i (.committed result) } := by
  unfold advance
  rw [hphase]

private theorem advance_ended (calls : ι → EnqueueCall) (hended : (race.phase i).ended) :
    race.advance calls i = none := by
  unfold advance
  cases hphase : race.phase i with
  | committed result | raised error | rolledBack => rfl
  | inserting | reading | delivering job | returned result =>
    rw [hphase] at hended
    cases hended

theorem inv_start (db : Database App) (calls : ι → EnqueueCall) :
    Inv db calls none (start db ι) where
  jobs := by simp [start]
  outbox := by simp [start]
  won := by simp
  standing := fun _ => .inserting

/-- A move that commits nothing concerns the standing of one call. -/
theorem Inv.stay (hinv : Inv db calls winner race) (hopen : (race.phase i).ended = false)
    (hjobs : race'.backgroundJobs.committed = race.backgroundJobs.committed)
    (houtbox : race'.jobOutbox.committed = race.jobOutbox.committed)
    (hothers : ∀ j, j ≠ i → race'.phase j = race.phase j ∧
      race'.backgroundJobs.own j = race.backgroundJobs.own j ∧
        race'.jobOutbox.own j = race.jobOutbox.own j)
    (hstanding : Standing calls winner i (race'.phase i) (race'.backgroundJobs.own i)
      (race'.jobOutbox.own i)) : Inv db calls winner race' where
  jobs := by rw [hjobs, hinv.jobs]
  outbox := by rw [houtbox, hinv.outbox]
  won := by
    intro w hw
    obtain ⟨hvalid, hphase⟩ := hinv.won w hw
    have hne : w ≠ i := by
      rintro rfl
      rw [hphase] at hopen
      cases hopen
    exact ⟨hvalid, (hothers w hne).1.trans hphase⟩
  standing := by
    intro j
    by_cases heq : j = i
    · subst heq
      exact hstanding
    · obtain ⟨hphase, hown, hrecords⟩ := hothers j heq
      rw [hphase, hown, hrecords]
      exact hinv.standing j

theorem Inv.enter (hinv : Inv db calls winner race) (hopen : (race.phase i).ended = false)
    {phase : EnqueuePhase} (hstanding : Standing calls winner i phase (race.backgroundJobs.own i)
      (race.jobOutbox.own i)) : Inv db calls winner (race.enter i phase) := by
  refine hinv.stay hopen rfl rfl (fun j hne => ?_) ?_
  · exact ⟨update_of_ne hne _ _, rfl, rfl⟩
  · simpa [EnqueueRace.enter] using hstanding

theorem Inv.giveUp (hinv : Inv db calls winner race) (hopen : (race.phase i).ended = false)
    {phase : EnqueuePhase} (hstanding : Standing calls winner i phase [] []) :
    Inv db calls winner (race.giveUp i phase) := by
  refine hinv.stay hopen rfl rfl (fun j hne => ?_) ?_
  · refine ⟨update_of_ne hne _ _, ?_, ?_⟩
    · exact rollBack_own_of_ne hne.symm
    · exact rollBack_own_of_ne hne.symm
  · simpa [EnqueueRace.giveUp] using hstanding

private theorem Inv.no_winner (hinv : Inv db calls winner race) (hrace : RacesFor db calls key)
    (hown : (calls i).job ∈ race.backgroundJobs.own i) : winner = none := by
  cases winner with
  | none => rfl
  | some w =>
    have hmem : (calls w).job ∈ race.backgroundJobs.committed.rows := by
      rw [hinv.jobs]
      simp
    have hne := key_ne_of_committed backgroundJobSchema_keyedBy_idempotency hmem hown
    rw [idempotency_job, idempotency_job, hrace.shared, hrace.shared] at hne
    exact absurd rfl hne

/-- A condition that only the jobs of the race meet finds the winner's job, or else
the call's own. -/
theorem Inv.findFirst (hinv : Inv db calls winner race) {selects : BackgroundJob → Bool}
    (habsent : ∀ row ∈ db.backgroundJobs.rows, selects row = false)
    (hpresent : ∀ j, selects (calls j).job) :
    (race.backgroundJobs.visible i).findFirst selects =
      (winner.map fun w => (calls w).job).or (race.backgroundJobs.own i).head? := by
  have hbefore : db.backgroundJobs.rows.find? selects = none :=
    List.find?_eq_none.mpr fun row hrow => by simp [habsent row hrow]
  have hown : (race.backgroundJobs.own i).find? selects =
      (race.backgroundJobs.own i).head? := by
    rcases (hinv.standing i).own_cases with hnone | hone
    · rw [hnone]
      rfl
    · simp [hone, hpresent i]
  unfold Table.findFirst
  rw [visible_rows, hinv.jobs, List.find?_append, List.find?_append, hown, hbefore]
  cases winner with
  | none => rfl
  | some w => simp [hpresent w]

theorem Inv.lookup (hinv : Inv db calls winner race) (hrace : RacesFor db calls key) :
    (race.backgroundJobs.visible i).lookup BackgroundJob.idempotency (calls i).key =
      (winner.map fun w => (calls w).job).or (race.backgroundJobs.own i).head? := by
  refine hinv.findFirst (fun row hrow => ?_) fun j => ?_
  · simpa [hrace.shared i] using hrace.absent row hrow
  · simp [idempotency_job, hrace.shared]

private theorem Inv.checked_delivering (hinv : Inv db calls winner race) {job : BackgroundJob}
    (hphase : race.phase i = .delivering job) :
    jobOutboxSchema.failedCheck ((calls i).outbox job) = none := by
  have hstanding := hinv.standing i
  rw [hphase] at hstanding
  generalize race.backgroundJobs.own i = own, race.jobOutbox.own i = records at hstanding
  cases hstanding with
  | deliveringOwn hvalid => exact checked_outbox (calls i) (calls i) hvalid
  | @deliveringOther v _ hwinner => exact checked_outbox (calls i) (calls v) (hinv.won v hwinner).1

/-- The insert of the job: it is skipped when the winner's job is there, and adds the
call's own job otherwise. -/
theorem Inv.insert_job (hinv : Inv db calls winner race) (hrace : RacesFor db calls key)
    (hphase : race.phase i = .inserting) (hvalid : (calls i).input.refusal = none)
    {backgroundJobs : OpenTable backgroundJobSchema ι}
    (hinsert : race.backgroundJobs.insertSkippingDuplicates i (calls i).job =
      .done backgroundJobs) :
    Inv db calls winner ({ race with backgroundJobs }.enter i .reading) := by
  have hopen : (race.phase i).ended = false := by rw [hphase]; rfl
  have hstanding := hinv.standing i
  rw [hphase] at hstanding
  generalize hown : race.backgroundJobs.own i = own, hrecords : race.jobOutbox.own i = records
    at hstanding
  cases hstanding
  rcases of_insertSkippingDuplicates_done (checked_job hvalid) hinsert with
    ⟨rfl, other, hother, hcollides⟩ | ⟨hcommitted, hself, hothers⟩
  · -- only the winner's job can be in the way
    rw [visible_rows, hinv.jobs, hown, append_nil] at hother
    have hkeys := collision_enqueuedJob hcollides
    rcases mem_append.mp hother with hold | hwinner
    · rcases hkeys with hid | hkey
      · exact absurd hid (hrace.freshJob i other hold)
      · exact absurd (hkey.trans (hrace.shared i)) (hrace.absent other hold)
    · obtain ⟨v, hv, rfl⟩ := mem_map.mp hwinner
      have hv' : winner = some v := by simpa using hv
      have hne : v ≠ i := by
        rintro rfl
        have hcommitted := (hinv.won v hv').2
        rw [hphase] at hcommitted
        cases hcommitted
      refine hinv.enter hopen ?_
      rw [hown, hrecords]
      exact .readingOther hvalid hv' hne
  · refine hinv.stay hopen hcommitted rfl (fun j hne => ?_) ?_
    · exact ⟨update_of_ne hne _ _, hothers j hne, rfl⟩
    · have hjobs : backgroundJobs.own i = [(calls i).job] := by rw [hself, hown]; rfl
      simp only [EnqueueRace.enter, update_self]
      rw [hjobs, hrecords]
      exact .readingOwn hvalid

private theorem Inv.read_back (hinv : Inv db calls winner race) (hrace : RacesFor db calls key)
    (hphase : race.phase i = .reading) (hadvance : race.advance calls i = some race') :
    Inv db calls winner race' := by
  have hopen : (race.phase i).ended = false := by rw [hphase]; rfl
  have hlookup := hinv.lookup hrace (i := i)
  have hstanding := hinv.standing i
  rw [advance_reading calls hphase] at hadvance
  rw [hphase] at hstanding
  generalize hown : race.backgroundJobs.own i = own, hrecords : race.jobOutbox.own i = records
    at hstanding hlookup
  cases hstanding with
  | readingOwn hvalid =>
    have hnone : winner = none := hinv.no_winner hrace (i := i) (by simp [hown])
    subst hnone
    rw [hlookup] at hadvance
    dsimp only [Option.map_none, Option.none_or, List.head?_cons] at hadvance
    rw [isIdempotencyConflict_own, if_neg Bool.false_ne_true] at hadvance
    obtain rfl := Option.some.inj hadvance
    refine hinv.enter hopen ?_
    rw [hown, hrecords]
    exact .deliveringOwn hvalid
  | @readingOther v hvalid hwinner hne =>
    rw [hlookup, hwinner] at hadvance
    dsimp only [Option.map_some, Option.some_or] at hadvance
    have hconflict := isIdempotencyConflict_iff (hrace.id_ne hne)
    split at hadvance
    · next hdiffers =>
      obtain rfl := Option.some.inj hadvance
      exact hinv.giveUp hopen (.conflicted hwinner hne (hconflict.mp hdiffers))
    · next hsame =>
      obtain rfl := Option.some.inj hadvance
      refine hinv.enter hopen ?_
      rw [hown, hrecords]
      exact .deliveringOther hvalid hwinner hne fun hdiffers => hsame (hconflict.mpr hdiffers)

/-- The insert of the outbox row: the creator of the job adds it, and everyone else
finds it there. -/
theorem Inv.insert_outbox (hinv : Inv db calls winner race) (hrace : RacesFor db calls key)
    {job : BackgroundJob} (hphase : race.phase i = .delivering job)
    {jobOutbox : OpenTable jobOutboxSchema ι}
    (hinsert : race.jobOutbox.insertSkippingDuplicates i ((calls i).outbox job) = .done jobOutbox) :
    Inv db calls winner ({ race with jobOutbox }.enter i (.returned ((calls i).result job))) := by
  have hopen : (race.phase i).ended = false := by rw [hphase]; rfl
  have hstanding := hinv.standing i
  rw [hphase] at hstanding
  generalize hown : race.backgroundJobs.own i = own, hrecords : race.jobOutbox.own i = records
    at hstanding
  cases hstanding with
  | deliveringOwn hvalid =>
    have hnone : winner = none := hinv.no_winner hrace (i := i) (by simp [hown])
    subst hnone
    rcases of_insertSkippingDuplicates_done
      (checked_outbox (calls i) (calls i) hvalid) hinsert with
      ⟨-, other, hother, hcollides⟩ | ⟨hcommitted, hself, hothers⟩
    · rw [visible_rows, hinv.outbox, hrecords, append_nil] at hother
      have hold : other ∈ db.jobOutbox.rows := by simpa using hother
      rcases collision_newOutbox hcollides with hid | hjob
      · exact absurd hid (hrace.freshOutbox i other hold)
      · exact absurd hjob (hrace.no_outbox i other hold)
    · refine hinv.stay hopen rfl hcommitted (fun j hne => ?_) ?_
      · exact ⟨update_of_ne hne _ _, rfl, hothers j hne⟩
      · have hrows : jobOutbox.own i = [(calls i).outbox (calls i).job] := by
          rw [hself, hrecords]
          rfl
        simp only [EnqueueRace.enter, update_self]
        rw [hown, hrows]
        exact .returnedOwn hvalid
  | @deliveringOther v hvalid hwinner hne hsame =>
    have hother := (hinv.won v hwinner).1
    rcases of_insertSkippingDuplicates_done
      (checked_outbox (calls i) (calls v) hother) hinsert with
      ⟨rfl, -⟩ | ⟨hcommitted, hself, -⟩
    · refine hinv.enter hopen ?_
      rw [hown, hrecords]
      exact .returnedOther hvalid hwinner hne hsame
    · -- the winner's outbox row is committed, so no second one fits
      have hmem : (calls v).outbox (calls v).job ∈ jobOutbox.committed.rows := by
        rw [hcommitted, hinv.outbox, hwinner]
        simp
      have hnew : (calls i).outbox (calls v).job ∈ jobOutbox.own i := by
        rw [hself]
        simp
      have hkeys := key_ne_of_committed jobOutboxSchema_keyedBy_backgroundJobId hmem hnew
      exact absurd rfl hkeys

/-- The commit: the creator of the job becomes the winner, and for everyone else there is
nothing to commit. -/
theorem Inv.commit (hinv : Inv db calls winner race) (hrace : RacesFor db calls key)
    {result : EnqueueBackgroundJobResult} (hphase : race.phase i = .returned result)
    (hadvance : race.advance calls i = some race') : ∃ winner', Inv db calls winner' race' := by
  have hopen : (race.phase i).ended = false := by rw [hphase]; rfl
  have hstanding := hinv.standing i
  rw [advance_returned calls hphase] at hadvance
  rw [hphase] at hstanding
  obtain rfl := Option.some.inj hadvance
  have hothers : ∀ j, j ≠ i → update race.phase i (.committed result) j = race.phase j ∧
      (race.backgroundJobs.commit i).own j = race.backgroundJobs.own j ∧
        (race.jobOutbox.commit i).own j = race.jobOutbox.own j := fun j hne =>
    ⟨update_of_ne hne _ _, commit_own_of_ne hne.symm,
      commit_own_of_ne hne.symm⟩
  generalize hown : race.backgroundJobs.own i = own, hrecords : race.jobOutbox.own i = records
    at hstanding
  cases hstanding with
  | returnedOwn hvalid =>
    have hnone : winner = none := hinv.no_winner hrace (i := i) (by simp [hown])
    subst hnone
    refine ⟨some i, ?_, ?_, ?_, fun j => ?_⟩
    · simp [hinv.jobs, hown]
    · simp [hinv.outbox, hrecords]
    · rintro w hw
      obtain rfl := Option.some.inj hw
      exact ⟨hvalid, update_self _ _ _⟩
    · by_cases heq : j = i
      · subst heq
        simp only [update_self, commit_own_self]
        exact .committedOwn rfl
      · obtain ⟨hphase', hown', hrecords'⟩ := hothers j heq
        have hstands : Standing calls (some i) j (race.phase j) (race.backgroundJobs.own j)
            (race.jobOutbox.own j) := (hinv.standing j).of_none
        dsimp only
        rw [hphase', hown', hrecords']
        exact hstands
  | @returnedOther v hvalid hwinner hne hsame =>
    refine ⟨winner, hinv.stay hopen ?_ ?_ hothers ?_⟩
    · exact Table.ext (by simp [hown])
    · exact Table.ext (by simp [hrecords])
    · simp only [update_self, commit_own_self]
      exact .committedOther hwinner hne hsame

/-- A statement of a call, short of its commit, keeps the invariant and the winner. -/
theorem Inv.advance_open (hinv : Inv db calls winner race) (hrace : RacesFor db calls key)
    (hadvance : race.advance calls i = some race')
    (hopen : ∀ result, race.phase i ≠ .returned result) : Inv db calls winner race' := by
  cases hphase : race.phase i with
  | inserting =>
    have hopen : (race.phase i).ended = false := by rw [hphase]; rfl
    rw [advance_inserting calls hphase] at hadvance
    cases hvalid : (calls i).input.refusal with
    | some code =>
      rw [hvalid] at hadvance
      obtain rfl := Option.some.inj hadvance
      exact hinv.giveUp hopen (.refused hvalid)
    | none =>
      rw [hvalid] at hadvance
      cases hinsert : race.backgroundJobs.insertSkippingDuplicates i (calls i).job with
      | done backgroundJobs =>
        rw [hinsert] at hadvance
        obtain rfl := Option.some.inj hadvance
        exact hinv.insert_job hrace hphase hvalid hinsert
      | waits =>
        rw [hinsert] at hadvance
        cases hadvance
      | refused violation =>
        exact absurd hinsert (insertSkippingDuplicates_ne_refused (checked_job hvalid) _)
  | reading => exact hinv.read_back hrace hphase hadvance
  | delivering job =>
    rw [advance_delivering calls hphase] at hadvance
    cases hinsert : race.jobOutbox.insertSkippingDuplicates i ((calls i).outbox job) with
    | done jobOutbox =>
      rw [hinsert] at hadvance
      obtain rfl := Option.some.inj hadvance
      exact hinv.insert_outbox hrace hphase hinsert
    | waits =>
      rw [hinsert] at hadvance
      cases hadvance
    | refused violation =>
      exact absurd hinsert (insertSkippingDuplicates_ne_refused
        (hinv.checked_delivering hphase) _)
  | returned result => exact absurd hphase (hopen result)
  | committed result | raised error | rolledBack =>
    rw [advance_ended calls (by rw [hphase]; rfl)] at hadvance
    cases hadvance

/-- **The advance rule.** Every statement of a call keeps the invariant. -/
theorem Inv.advance (hinv : Inv db calls winner race) (hrace : RacesFor db calls key)
    (hadvance : race.advance calls i = some race') : ∃ winner', Inv db calls winner' race' := by
  by_cases hreturned : ∃ result, race.phase i = .returned result
  · obtain ⟨result, hphase⟩ := hreturned
    exact hinv.commit hrace hphase hadvance
  · push Not at hreturned
    exact ⟨winner, hinv.advance_open hrace hadvance hreturned⟩

/-- **The invariant of a race.** -/
theorem inv_of_reachable (hrace : RacesFor db calls key)
    (hreach : Transition.Reachable (Step calls) (start db ι) race) :
    ∃ winner, Inv db calls winner race := by
  refine hreach.invariant (I := fun race => ∃ winner, Inv db calls winner race)
    ⟨none, inv_start db calls⟩ ?_
  rintro t u ⟨i, move⟩ ⟨winner, hinv⟩ hstep
  cases move with
  | advance => exact hinv.advance hrace hstep
  | rollBack =>
    unfold Step next at hstep
    dsimp only at hstep
    split at hstep
    · cases hstep
    · next hopen =>
      obtain rfl := Option.some.inj hstep
      exact ⟨winner, hinv.giveUp (by simpa using hopen) .rolledBack⟩

/-- A call that ended and was not rolled back means that some job is committed, if its
input passed validation. -/
theorem Inv.exists_winner (hinv : Inv db calls winner race) (hended : (race.phase i).ended)
    (hvalid : (calls i).input.refusal = none) (hlasting : race.phase i ≠ .rolledBack) :
    ∃ w, winner = some w := by
  have hstanding := hinv.standing i
  generalize race.phase i = phase, race.backgroundJobs.own i = own,
    race.jobOutbox.own i = records at hstanding hended hlasting
  cases hstanding with
  | committedOwn hwinner => exact ⟨i, hwinner⟩
  | committedOther hwinner => exact ⟨_, hwinner⟩
  | conflicted hwinner => exact ⟨_, hwinner⟩
  | refused hrefused =>
    rw [hvalid] at hrefused
    cases hrefused
  | rolledBack => exact absurd rfl hlasting
  | _ => cases hended

/-- Once some job is committed, a call that ended and was not rolled back has returned it, or
conflicts with it: its creator never does. -/
theorem Inv.answer (hinv : Inv db calls (some w) race) (hended : (race.phase i).ended)
    (hvalid : (calls i).input.refusal = none) (hlasting : race.phase i ≠ .rolledBack) :
    race.phase i = .committed ((calls i).result (calls w).job) ∧
        ¬ (w ≠ i ∧ (calls i).Differs (calls w).job) ∨
      race.phase i = .raised idempotencyConflict ∧ w ≠ i ∧ (calls i).Differs (calls w).job := by
  have hstanding := hinv.standing i
  generalize race.phase i = phase, race.backgroundJobs.own i = own,
    race.jobOutbox.own i = records at hstanding hended hlasting
  cases hstanding with
  | committedOwn hwinner =>
    obtain rfl := Option.some.inj hwinner
    exact .inl ⟨rfl, fun h => h.1 rfl⟩
  | committedOther hwinner hne hsame =>
    obtain rfl := Option.some.inj hwinner
    exact .inl ⟨rfl, fun h => hsame h.2⟩
  | conflicted hwinner hne hdiffers =>
    obtain rfl := Option.some.inj hwinner
    exact .inr ⟨rfl, hne, hdiffers⟩
  | refused hrefused =>
    rw [hvalid] at hrefused
    cases hrefused
  | rolledBack => exact absurd rfl hlasting
  | _ => cases hended

/-- The winner is the call that reports that it has created the job. -/
theorem Inv.created_iff (hinv : Inv db calls (some w) race) (hrace : RacesFor db calls key) :
    (∃ result, race.phase i = .committed result ∧ result.created) ↔ i = w := by
  constructor
  · rintro ⟨result, hphase, hcreated⟩
    have hstanding := hinv.standing i
    rw [hphase] at hstanding
    generalize race.backgroundJobs.own i = own, race.jobOutbox.own i = records at hstanding
    cases hstanding with
    | committedOwn hwinner => exact (Option.some.inj hwinner).symm
    | committedOther hwinner hne =>
      obtain rfl := Option.some.inj hwinner
      exact absurd (by simpa [EnqueueCall.result] using hcreated) (hrace.id_ne hne)
  · rintro rfl
    exact ⟨_, (hinv.won i rfl).2, by simp [EnqueueCall.result, EnqueueCall.job, enqueuedJob]⟩

/-! ### No call waits for ever -/

/-- Calls that go on by their statements alone. -/
def Advances (calls : ι → EnqueueCall) (race : EnqueueRace ι) (i : ι) (race' : EnqueueRace ι) :
    Prop := race.advance calls i = some race'

/-- A statement of a call leaves the phases of the others as they are. -/
theorem phase_advance_of_ne (hadvance : race.advance calls i = some race') {j : ι} (hne : j ≠ i) :
    race'.phase j = race.phase j := by
  unfold advance at hadvance
  dsimp only at hadvance
  split at hadvance
  · split at hadvance
    · obtain rfl := Option.some.inj hadvance
      exact update_of_ne hne _ _
    · split at hadvance <;> cases hadvance <;> exact update_of_ne hne _ _
  · split at hadvance
    · obtain rfl := Option.some.inj hadvance
      exact update_of_ne hne _ _
    · split at hadvance <;> cases hadvance <;> exact update_of_ne hne _ _
  · split at hadvance <;> cases hadvance <;> exact update_of_ne hne _ _
  · obtain rfl := Option.some.inj hadvance
    exact update_of_ne hne _ _
  · cases hadvance
  · cases hadvance
  · cases hadvance

/-- A call that has ended is as it is, whatever the others do. -/
theorem ended_stays (hreach : Transition.Reachable (Advances calls) race race')
    (hended : (race.phase i).ended) : race'.phase i = race.phase i := by
  refine hreach.invariant (I := fun later => later.phase i = race.phase i) rfl ?_
  intro t u j hsame hstep
  have hne : i ≠ j := by
    rintro rfl
    have hnone := advance_ended calls (hsame ▸ hended)
    rw [show t.advance calls i = some u from hstep] at hnone
    cases hnone
  rw [phase_advance_of_ne hstep hne, hsame]

/-- A call comes to its end by its own statements. -/
structure Ends (calls : ι → EnqueueCall) (race : EnqueueRace ι) (i : ι) (later : EnqueueRace ι) :
    Prop where
  reached : Transition.Reachable (Advances calls) race later
  ended : (later.phase i).ended = true
  lasting : later.phase i ≠ .rolledBack
  others : ∀ j, j ≠ i → later.phase j = race.phase j

theorem Ends.after {later : EnqueueRace ι} (h : Ends calls race' i later)
    (hadvance : race.advance calls i = some race') : Ends calls race i later where
  reached := (Transition.Reachable.refl.tail hadvance).trans h.reached
  ended := h.ended
  lasting := h.lasting
  others j hne := (h.others j hne).trans (phase_advance_of_ne hadvance hne)

private theorem Ends.of_advance (hadvance : race.advance calls i = some race')
    (hended : (race'.phase i).ended) (hlasting : race'.phase i ≠ .rolledBack) :
    Ends calls race i race' where
  reached := Transition.Reachable.refl.tail hadvance
  ended := hended
  lasting := hlasting
  others _ hne := phase_advance_of_ne hadvance hne

private theorem ends_of_returned (calls : ι → EnqueueCall) {result : EnqueueBackgroundJobResult}
    (hphase : race.phase i = .returned result) : ∃ later, Ends calls race i later := by
  refine ⟨_, .of_advance (advance_returned calls hphase) ?_ ?_⟩ <;> simp [EnqueuePhase.ended]

/-- A call that inserts its outbox row goes on to its end: nobody else has one open. -/
theorem Inv.ends_of_delivering (hinv : Inv db calls winner race) (hrace : RacesFor db calls key)
    {job : BackgroundJob} (hphase : race.phase i = .delivering job) :
    ∃ later, Ends calls race i later := by
  have hadvance := advance_delivering calls hphase
  rcases race.jobOutbox.insertSkippingDuplicates_cases i (hinv.checked_delivering hphase) with
    ⟨-, hskip⟩ | ⟨table, hdone, -⟩ | ⟨⟨j, record, hne, hrecord, -⟩, -⟩
  · rw [hskip] at hadvance
    obtain ⟨later, hends⟩ := ends_of_returned calls (phase_enter _ i (.returned _))
    exact ⟨later, hends.after hadvance⟩
  · rw [hdone] at hadvance
    obtain ⟨later, hends⟩ := ends_of_returned calls (phase_enter _ i (.returned _))
    exact ⟨later, hends.after hadvance⟩
  · -- whoever has an outbox row open has a job open, under the key of this call's job
    have hopen : (calls j).job ∈ race.backgroundJobs.own j := by
      have hstanding := hinv.standing j
      generalize race.phase j = phase, race.backgroundJobs.own j = own,
        race.jobOutbox.own j = records at hstanding hrecord
      cases hstanding with
      | returnedOwn => exact mem_singleton_self _
      | _ =>
        exact absurd hrecord not_mem_nil
    obtain rfl := hinv.no_winner hrace hopen
    have hstanding := hinv.standing i
    rw [hphase] at hstanding
    generalize hown : race.backgroundJobs.own i = own, race.jobOutbox.own i = records at hstanding
    cases hstanding with
    | deliveringOwn =>
      have hkeys := key_ne_of_open backgroundJobSchema_keyedBy_idempotency hne hopen
        (by rw [hown]; exact mem_singleton_self _)
      rw [idempotency_job, idempotency_job, hrace.shared, hrace.shared] at hkeys
      exact absurd rfl hkeys
    | deliveringOther _ hwinner => cases hwinner

private theorem Inv.ends_of_reading (hinv : Inv db calls winner race)
    (hrace : RacesFor db calls key)
    (hphase : race.phase i = .reading) : ∃ later, Ends calls race i later := by
  have hadvance := advance_reading calls hphase
  split at hadvance
  · refine ⟨_, .of_advance hadvance ?_ ?_⟩ <;> simp [EnqueueRace.giveUp, EnqueuePhase.ended]
  · split at hadvance
    · refine ⟨_, .of_advance hadvance ?_ ?_⟩ <;> simp [EnqueueRace.giveUp, EnqueuePhase.ended]
    · next job _ _ =>
      obtain ⟨winner', hinv'⟩ := hinv.advance hrace hadvance
      obtain ⟨later, hends⟩ :=
        hinv'.ends_of_delivering hrace (phase_enter race i (.delivering job))
      exact ⟨later, hends.after hadvance⟩

/-- A call goes on to its end that does not have to wait. -/
theorem Inv.ends_of_insert (hinv : Inv db calls winner race) (hrace : RacesFor db calls key)
    (hphase : race.phase i = .inserting) (hvalid : (calls i).input.refusal = none)
    {table : OpenTable backgroundJobSchema ι}
    (hdone : race.backgroundJobs.insertSkippingDuplicates i (calls i).job = .done table) :
    ∃ later, Ends calls race i later := by
  have hadvance := advance_inserting calls hphase
  rw [hvalid] at hadvance
  rw [hdone] at hadvance
  obtain ⟨winner', hinv'⟩ := hinv.advance hrace hadvance
  obtain ⟨later, hends⟩ := hinv'.ends_of_reading hrace (phase_enter _ i .reading)
  exact ⟨later, hends.after hadvance⟩

/-- A call with an open job goes on to its end, and its job is committed. -/
theorem Inv.ends_of_open (hinv : Inv db calls winner race) (hrace : RacesFor db calls key)
    {row : BackgroundJob} (hopen : row ∈ race.backgroundJobs.own i) :
    (calls i).input.refusal = none ∧ ∃ later, Ends calls race i later := by
  have hstanding := hinv.standing i
  generalize hphase : race.phase i = phase, race.backgroundJobs.own i = own,
    race.jobOutbox.own i = records at hstanding hopen
  cases hstanding with
  | readingOwn hvalid => exact ⟨hvalid, hinv.ends_of_reading hrace hphase⟩
  | deliveringOwn hvalid => exact ⟨hvalid, hinv.ends_of_delivering hrace hphase⟩
  | returnedOwn hvalid => exact ⟨hvalid, ends_of_returned calls hphase⟩
  | _ => exact absurd hopen not_mem_nil

private theorem inv_of_advances (hinv : Inv db calls winner race) (hrace : RacesFor db calls key)
    (hreach : Transition.Reachable (Advances calls) race race') :
    ∃ winner', Inv db calls winner' race' := by
  refine hreach.invariant (I := fun later => ∃ winner', Inv db calls winner' later)
    ⟨winner, hinv⟩ ?_
  rintro t u j ⟨winner', hinv'⟩ hstep
  exact hinv'.advance hrace hstep

/-- **No call waits for ever.** A call comes to its end by its own statements and those of the one
call that it may have to wait for. -/
theorem Inv.exists_ended (hinv : Inv db calls winner race) (hrace : RacesFor db calls key) (i : ι) :
    ∃ later, Transition.Reachable (Advances calls) race later ∧ (later.phase i).ended := by
  have hreached {t : EnqueueRace ι} (h : ∃ later, Ends calls t i later) :
      ∃ later, Transition.Reachable (Advances calls) t later ∧ (later.phase i).ended = true := by
    obtain ⟨later, hends⟩ := h
    exact ⟨later, hends.reached, hends.ended⟩
  cases hphase : race.phase i with
  | inserting =>
    cases hvalid : (calls i).input.refusal with
    | some code =>
      have hadvance := advance_inserting calls hphase
      rw [hvalid] at hadvance
      refine hreached ⟨_, .of_advance hadvance ?_ ?_⟩ <;>
        simp [EnqueueRace.giveUp, EnqueuePhase.ended]
    | none =>
      rcases race.backgroundJobs.insertSkippingDuplicates_cases i (checked_job hvalid) with
        ⟨-, hskip⟩ | ⟨table, hdone, -⟩ | ⟨⟨j, row, hne, hrow, -⟩, -⟩
      · exact hreached (hinv.ends_of_insert hrace hphase hvalid hskip)
      · exact hreached (hinv.ends_of_insert hrace hphase hvalid hdone)
      · -- once the other call has ended, its job is committed and no other one is open
        obtain ⟨hvalid', later, hends⟩ := hinv.ends_of_open hrace hrow
        obtain ⟨winner', hinv'⟩ := inv_of_advances hinv hrace hends.reached
        obtain ⟨w, rfl⟩ := hinv'.exists_winner hends.ended hvalid' hends.lasting
        have hphase' : later.phase i = .inserting := (hends.others i hne.symm).trans hphase
        have hlast : ∃ last, Ends calls later i last := by
          rcases later.backgroundJobs.insertSkippingDuplicates_cases i (checked_job hvalid) with
            ⟨-, hskip⟩ | ⟨table, hdone, -⟩ | ⟨⟨k, row', -, hrow', -⟩, -⟩
          · exact hinv'.ends_of_insert hrace hphase' hvalid hskip
          · exact hinv'.ends_of_insert hrace hphase' hvalid hdone
          · rcases (hinv'.standing k).own_cases with hnone | hone
            · rw [hnone] at hrow'
              cases hrow'
            · cases hinv'.no_winner hrace (i := k) (by rw [hone]; exact mem_singleton_self _)
        obtain ⟨last, hreach, hended⟩ := hreached hlast
        exact ⟨last, hends.reached.trans hreach, hended⟩
  | reading => exact hreached (hinv.ends_of_reading hrace hphase)
  | delivering job => exact hreached (hinv.ends_of_delivering hrace hphase)
  | returned result => exact hreached (ends_of_returned calls hphase)
  | committed result | raised error | rolledBack => exact ⟨race, .refl, by rw [hphase]; rfl⟩

end EnqueueRace

namespace Sample

def noJobs : Database Unit where
  clock := 0
  backgroundJobs := Table.empty _
  jobAttempts := Table.empty _
  jobOutbox := Table.empty _
  auditEvents := Table.empty _
  internalUsers := []
  analysisJobs := []
  app := ()

/-- A call under the one key, about an account under one of its spellings. -/
def racer (resourceId jobId outboxId : String) : EnqueueCall where
  context := ⟨"workspace"⟩
  input :=
    { correlationId := "01900000-0000-7000-8000-0000000000c0"
      handlerVersion := 1
      idempotencyKey := " key "
      inputVersion := none
      maxAttempts := none
      priority := none
      queueName := "analysis.run"
      resourceId := some resourceId
      resourceType := some "instagram_account" }
  jobId
  outboxId
  clock := 0

/-- Three calls about one account, whose identifier the last one spells in capitals. -/
def racers : Fin 3 → EnqueueCall
  | 0 => racer "01900000-0000-7000-8000-0000000000ac" "job-0" "outbox-0"
  | 1 => racer "01900000-0000-7000-8000-0000000000ac" "job-1" "outbox-1"
  | 2 => racer "01900000-0000-7000-8000-0000000000AC" "job-2" "outbox-2"

/-- The first call wins, and the statements of the other two interleave. -/
def raced : List (Fin 3 × EnqueueMove) :=
  [(0, .advance), (0, .advance), (0, .advance), (0, .advance), (1, .advance), (2, .advance),
    (2, .advance), (1, .advance), (1, .advance), (1, .advance)]

private theorem racesFor_racers :
    RacesFor noJobs racers ("workspace", "analysis.run", 1, "key") where
  shared := by decide
  absent := by simp [noJobs, Table.empty]
  freshJob := by simp [noJobs, Table.empty]
  freshOutbox := by simp [noJobs, Table.empty]
  distinct := by
    have hdistinct : ∀ i j, (racers i).jobId = (racers j).jobId → i = j := by decide
    exact fun i j heq => hdistinct i j heq
  delivered := fun _ => ⟨rfl, rfl⟩

end Sample

end ContentAutomation
