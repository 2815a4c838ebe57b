import ContentAutomation.Jobs.Lifecycle
import Mathlib.Data.List.Range

/-!
# The abstract machine of one job

What the job framework is for, without rows and columns: a job with its budget
and its lease, the attempts made at it, and its delivery record. The operations
of the program are the actions of this machine; the invariants that make a job
run to completion are proved here and carried over by refinement.
-/

namespace ContentAutomation

open List

/-- What matters of a job. -/
@[ext] structure JobSummary where
  workspaceId : String
  state : BackgroundJobState
  leaseId : Option String
  attemptCount : ℤ
  maxAttempts : ℤ
  cancellationRequested : Bool

/-- What matters of an attempt. -/
@[ext] structure AttemptSummary where
  attemptNumber : ℤ
  leaseId : String
  state : JobAttemptState
  deriving DecidableEq

/-- What matters of a delivery record. -/
@[ext] structure OutboxSummary where
  workspaceId : String
  cancelled : Bool
  dispatchedAt : Option ℤ

/-- A job with its attempts and its delivery record. -/
@[ext] structure JobView where
  job : Option JobSummary
  attempts : List AttemptSummary
  outbox : Option OutboxSummary

/-- Nothing will be delivered for this record. -/
def OutboxSummary.cancel (outbox : OutboxSummary) : OutboxSummary := { outbox with cancelled := true }

/-- The record is to be delivered, whatever became of it. -/
def OutboxSummary.reset (outbox : OutboxSummary) : OutboxSummary :=
  { outbox with cancelled := false, dispatchedAt := none }

/-- The record is to be delivered again, unless it is cancelled. -/
def OutboxSummary.redeliver (outbox : OutboxSummary) : OutboxSummary :=
  if outbox.cancelled then outbox else { outbox with dispatchedAt := none }

/-- Close the active attempt that holds a lease. -/
def closeAttempt (leaseId : String) (state : JobAttemptState) (attempts : List AttemptSummary) :
    List AttemptSummary :=
  attempts.map fun attempt =>
    if attempt.leaseId == leaseId && attempt.state == .active then { attempt with state }
    else attempt

/-- The actions that change what matters of a job. -/
inductive JobAction
  | enqueue | claim | releaseRetry | requeueRetry | recover | settleCancellation | succeed | fail
  | cancelWaiting | requestCancellation | retryByOperator | requeueStranded | repairCommitted
  | dispatch
  deriving DecidableEq

/-- **The machine.** Each action with its guard and its effect. -/
inductive JobStep : JobAction → JobView → JobView → Prop
  | enqueue {workspaceId : String} {maxAttempts : ℤ} (hmin : 1 ≤ maxAttempts)
      (hmax : maxAttempts ≤ 100) :
      JobStep .enqueue ⟨none, [], none⟩
        ⟨some ⟨workspaceId, .queued, none, 0, maxAttempts, false⟩, [],
          some ⟨workspaceId, false, none⟩⟩
  | claim {job : JobSummary} {attempts : List AttemptSummary} {outbox : Option OutboxSummary}
      {leaseId : String} (hstate : job.state = .queued)
      (hbudget : job.attemptCount < job.maxAttempts)
      (hfresh : ∀ attempt ∈ attempts, attempt.leaseId ≠ leaseId) :
      JobStep .claim ⟨some job, attempts, outbox⟩
        ⟨some { job with
            state := .processing, leaseId := some leaseId, attemptCount := job.attemptCount + 1 },
          attempts ++ [⟨job.attemptCount + 1, leaseId, .active⟩], outbox⟩
  | releaseRetry {job : JobSummary} {attempts : List AttemptSummary}
      {outbox : Option OutboxSummary} (hstate : job.state = .retryScheduled) :
      JobStep .releaseRetry ⟨some job, attempts, outbox⟩
        ⟨some { job with state := .queued }, attempts, outbox⟩
  | requeueRetry {job : JobSummary} {attempts : List AttemptSummary}
      {outbox : Option OutboxSummary} (hstate : job.state = .retryScheduled) :
      JobStep .requeueRetry ⟨some job, attempts, outbox⟩
        ⟨some { job with state := .queued }, attempts, outbox.map OutboxSummary.reset⟩
  | recoverExhausted {job : JobSummary} {attempts : List AttemptSummary}
      {outbox : Option OutboxSummary} {leaseId : String} (hstate : job.state = .processing)
      (hlease : job.leaseId = some leaseId) (hrequest : job.cancellationRequested = false)
      (hbudget : job.maxAttempts ≤ job.attemptCount) :
      JobStep .recover ⟨some job, attempts, outbox⟩
        ⟨some { job with state := .failedAttention, leaseId := none },
          closeAttempt leaseId .leaseExpired attempts, outbox⟩
  | recoverQueued {job : JobSummary} {attempts : List AttemptSummary}
      {outbox : Option OutboxSummary} {leaseId : String} (hstate : job.state = .processing)
      (hlease : job.leaseId = some leaseId) (hrequest : job.cancellationRequested = false)
      (hbudget : job.attemptCount < job.maxAttempts) :
      JobStep .recover ⟨some job, attempts, outbox⟩
        ⟨some { job with state := .queued, leaseId := none },
          closeAttempt leaseId .leaseExpired attempts, outbox.map OutboxSummary.redeliver⟩
  | settleCancellation {job : JobSummary} {attempts : List AttemptSummary}
      {outbox : Option OutboxSummary} {leaseId : String} (hstate : job.state = .processing)
      (hlease : job.leaseId = some leaseId) (hrequest : job.cancellationRequested = true) :
      JobStep .settleCancellation ⟨some job, attempts, outbox⟩
        ⟨some { job with state := .cancelled, leaseId := none },
          closeAttempt leaseId .cancelled attempts, outbox.map OutboxSummary.cancel⟩
  | succeed {job : JobSummary} {attempts : List AttemptSummary} {outbox : Option OutboxSummary}
      {leaseId : String} (hstate : job.state = .processing) (hlease : job.leaseId = some leaseId)
      (hrequest : job.cancellationRequested = false) :
      JobStep .succeed ⟨some job, attempts, outbox⟩
        ⟨some { job with state := .succeeded, leaseId := none },
          closeAttempt leaseId .succeeded attempts, outbox⟩
  | failAttention {job : JobSummary} {attempts : List AttemptSummary}
      {outbox : Option OutboxSummary} {leaseId : String} (hstate : job.state = .processing)
      (hlease : job.leaseId = some leaseId) (hrequest : job.cancellationRequested = false) :
      JobStep .fail ⟨some job, attempts, outbox⟩
        ⟨some { job with state := .failedAttention, leaseId := none },
          closeAttempt leaseId .failedAttention attempts, outbox⟩
  | failRetry {job : JobSummary} {attempts : List AttemptSummary}
      {outbox : Option OutboxSummary} {leaseId : String} (hstate : job.state = .processing)
      (hlease : job.leaseId = some leaseId) (hrequest : job.cancellationRequested = false)
      (hbudget : job.attemptCount < job.maxAttempts) :
      JobStep .fail ⟨some job, attempts, outbox⟩
        ⟨some { job with state := .retryScheduled, leaseId := none },
          closeAttempt leaseId .retryScheduled attempts, outbox⟩
  | cancelWaiting {job : JobSummary} {attempts : List AttemptSummary}
      {outbox : Option OutboxSummary}
      (hstate : job.state = .queued ∨ job.state = .retryScheduled) :
      JobStep .cancelWaiting ⟨some job, attempts, outbox⟩
        ⟨some { job with state := .cancelled, cancellationRequested := true },
          attempts, outbox.map OutboxSummary.cancel⟩
  | requestCancellation {job : JobSummary} {attempts : List AttemptSummary}
      {outbox : Option OutboxSummary} (hstate : job.state = .processing) :
      JobStep .requestCancellation ⟨some job, attempts, outbox⟩
        ⟨some { job with cancellationRequested := true },
          attempts, outbox.map OutboxSummary.cancel⟩
  | retryByOperator {job : JobSummary} {attempts : List AttemptSummary}
      {outbox : Option OutboxSummary} (hstate : job.state = .failedAttention)
      (hmax : max job.maxAttempts (job.attemptCount + 1) ≤ 100) :
      JobStep .retryByOperator ⟨some job, attempts, outbox⟩
        ⟨some { job with
            state := .queued, maxAttempts := max job.maxAttempts (job.attemptCount + 1),
            cancellationRequested := false },
          attempts, outbox.map OutboxSummary.reset⟩
  | requeueStranded {job : JobSummary} {attempts : List AttemptSummary}
      {outbox : Option OutboxSummary} (hstate : job.state = .queued) :
      JobStep .requeueStranded ⟨some job, attempts, outbox⟩
        ⟨some job, attempts, outbox.map OutboxSummary.reset⟩
  | repairWaiting {job : JobSummary} {attempts : List AttemptSummary}
      {outbox : Option OutboxSummary} (hrequest : job.cancellationRequested = false)
      (hstate : job.state = .queued ∨ job.state = .retryScheduled) :
      JobStep .repairCommitted ⟨some job, attempts, outbox⟩
        ⟨some { job with state := .succeeded }, attempts, outbox.map OutboxSummary.cancel⟩
  | repairHeld {job : JobSummary} {attempts : List AttemptSummary}
      {outbox : Option OutboxSummary} {leaseId : String}
      (hrequest : job.cancellationRequested = false) (hstate : job.state = .processing)
      (hlease : job.leaseId = some leaseId) :
      JobStep .repairCommitted ⟨some job, attempts, outbox⟩
        ⟨some { job with state := .succeeded, leaseId := none },
          closeAttempt leaseId .succeeded attempts, outbox.map OutboxSummary.cancel⟩
  | dispatch {job : Option JobSummary} {attempts : List AttemptSummary} {outbox : OutboxSummary}
      {dispatchedAt : ℤ} (hcancelled : outbox.cancelled = false) (hdispatched : outbox.dispatchedAt = none) :
      JobStep .dispatch ⟨job, attempts, some outbox⟩
        ⟨job, attempts, some { outbox with dispatchedAt := some dispatchedAt }⟩

/-- The attempt numbers `1, …, count`. -/
def attemptNumbers (count : ℤ) : List ℤ := (List.range count.toNat).map fun i : ℕ => (i : ℤ) + 1

/-- What holds between a job, its attempts and its delivery record. -/
structure JobConsistent (job : JobSummary) (attempts : List AttemptSummary)
    (outbox : OutboxSummary) : Prop where
  /-- The record belongs to the tenant of the job. -/
  workspace : outbox.workspaceId = job.workspaceId
  budget : 0 ≤ job.attemptCount ∧ job.attemptCount ≤ job.maxAttempts ∧ job.maxAttempts ≤ 100
  numbers : attempts.map AttemptSummary.attemptNumber = attemptNumbers job.attemptCount
  /-- A lease belongs to the last attempt, and only that attempt is active. -/
  held : ∀ leaseId, job.leaseId = some leaseId → ∃ earlier,
    attempts = earlier ++ [⟨job.attemptCount, leaseId, .active⟩] ∧
      ∀ attempt ∈ earlier, attempt.state ≠ .active
  released : job.leaseId = none → ∀ attempt ∈ attempts, attempt.state ≠ .active
  processing : job.state = .processing ↔ job.leaseId.isSome = true
  /-- A job that waits can be claimed. -/
  waiting : job.state = .queued ∨ job.state = .retryScheduled → job.attemptCount < job.maxAttempts
  requested : job.cancellationRequested = true → job.state = .processing ∨ job.state = .cancelled
  /-- Only a job that will not run again loses its delivery. -/
  delivery : outbox.cancelled = true → job.state = .cancelled ∨ job.state = .succeeded ∨
    (job.state = .processing ∧ job.cancellationRequested = true)

/-- **The invariant of the machine.** -/
def JobView.Inv (view : JobView) : Prop :=
  match view.job, view.outbox with
  | some job, some outbox => JobConsistent job view.attempts outbox
  | none, none => view.attempts = []
  | _, _ => False

theorem attemptNumbers_succ {count : ℤ} (h : 0 ≤ count) :
    attemptNumbers (count + 1) = attemptNumbers count ++ [count + 1] := by
  have hsucc : (count + 1).toNat = count.toNat + 1 := by omega
  have hcast : ((count.toNat : ℕ) : ℤ) = count := Int.toNat_of_nonneg h
  rw [attemptNumbers, hsucc, range_succ, map_append, map_singleton, hcast]
  rfl

private theorem map_attemptNumber_closeAttempt (leaseId : String) (state : JobAttemptState)
    (attempts : List AttemptSummary) :
    (closeAttempt leaseId state attempts).map AttemptSummary.attemptNumber =
      attempts.map AttemptSummary.attemptNumber := by
  rw [closeAttempt, map_map]
  refine map_congr_left fun attempt _ => ?_
  simp only [Function.comp_apply]
  split <;> rfl

variable {outbox' : OutboxSummary} {job' : JobSummary} {action : JobAction} {view' : JobView}
  {job : JobSummary} {attempts : List AttemptSummary} {view : JobView} {leaseId : String}
  {attempt : AttemptSummary}

namespace JobConsistent

variable {outbox : OutboxSummary}

theorem closed (h : JobConsistent job attempts outbox) (hlease : job.leaseId = some leaseId)
    {state : JobAttemptState} (hstate : state ≠ .active) :
    ∀ attempt ∈ closeAttempt leaseId state attempts, attempt.state ≠ .active := by
  obtain ⟨earlier, rfl, hearlier⟩ := h.held leaseId hlease
  intro attempt hattempt
  obtain ⟨original, horiginal, rfl⟩ := mem_map.mp hattempt
  rcases mem_append.mp horiginal with hold | hlast
  · simp [hearlier original hold]
  · rw [mem_singleton.mp hlast]
    simp [hstate]

theorem settle (h : JobConsistent job attempts outbox) (hlease : job.leaseId = some leaseId)
    {attemptState : JobAttemptState} (hattempt : attemptState ≠ .active)
    {state : BackgroundJobState} (hstate : state ≠ .processing)
    (hworkspace : outbox'.workspaceId = outbox.workspaceId)
    (hwaiting : state = .queued ∨ state = .retryScheduled → job.attemptCount < job.maxAttempts)
    (hrequested : job.cancellationRequested → state = .cancelled)
    (hdelivery : outbox'.cancelled → state = .cancelled ∨ state = .succeeded) :
    JobConsistent { job with state, leaseId := none }
      (closeAttempt leaseId attemptState attempts) outbox' where
  workspace := hworkspace.trans h.workspace
  budget := h.budget
  numbers := (map_attemptNumber_closeAttempt _ _ _).trans h.numbers
  held := by
    intro leaseId' h'
    cases h'
  released := fun _ => h.closed hlease hattempt
  processing := by simp [hstate]
  waiting := hwaiting
  requested := fun hrequest => .inr (hrequested hrequest)
  delivery := by
    intro hcancelled
    rcases hdelivery hcancelled with h' | h'
    · exact .inl h'
    · exact .inr (.inl h')

theorem move (h : JobConsistent job attempts outbox) (hidle : job.state ≠ .processing) (hworkspace : job'.workspaceId = job.workspaceId)
    (hlease : job'.leaseId = job.leaseId) (hcount : job'.attemptCount = job.attemptCount)
    (hmax : job.maxAttempts ≤ job'.maxAttempts ∧ job'.maxAttempts ≤ 100)
    (hstate : job'.state ≠ .processing)
    (houtbox : outbox'.workspaceId = outbox.workspaceId)
    (hwaiting : job'.state = .queued ∨ job'.state = .retryScheduled →
      job'.attemptCount < job'.maxAttempts)
    (hrequested : job'.cancellationRequested → job'.state = .cancelled)
    (hdelivery : outbox'.cancelled → job'.state = .cancelled ∨ job'.state = .succeeded) :
    JobConsistent job' attempts outbox' := by
  have hnone : job.leaseId = none := by
    have hnot := mt h.processing.mpr hidle
    simpa using hnot
  refine ⟨(houtbox.trans h.workspace).trans hworkspace.symm, ?_, ?_, ?_, ?_, ?_, hwaiting,
    fun hrequest => .inr (hrequested hrequest), ?_⟩
  · have hbudget := h.budget
    rw [hcount]
    omega
  · rw [hcount]
    exact h.numbers
  · intro leaseId' h'
    rw [hlease, hnone] at h'
    cases h'
  · intro _
    exact h.released hnone
  · rw [hlease, hnone]
    simp [hstate]
  · intro hcancelled
    rcases hdelivery hcancelled with h' | h'
    · exact .inl h'
    · exact .inr (.inl h')

end JobConsistent

theorem JobView.Inv.present {outbox : Option OutboxSummary}
    (h : JobView.Inv ⟨some job, attempts, outbox⟩) :
    ∃ record, outbox = some record ∧ JobConsistent job attempts record := by
  cases outbox with
  | none => exact h.elim
  | some record => exact ⟨record, rfl, h⟩

/-- **Step lemma.** Every action keeps the invariant. -/
theorem JobStep.inv (hstep : JobStep action view view')
    (hinv : view.Inv) : view'.Inv := by
  cases hstep with
  | @enqueue workspaceId maxAttempts hmin hmax =>
    have hbudget : (0 : ℤ) ≤ 0 ∧ 0 ≤ maxAttempts ∧ maxAttempts ≤ 100 := by omega
    refine ⟨rfl, hbudget, rfl, ?_, ?_, ?_, ?_, ?_, ?_⟩
    all_goals simp
    omega
  | @claim job attempts outbox leaseId hstate hbudget hfresh =>
    obtain ⟨record, rfl, h⟩ := JobView.Inv.present hinv
    have hnone : job.leaseId = none := by simpa [hstate] using h.processing
    have hcount := h.budget
    refine ⟨h.workspace, ?_, ?_, ?_, ?_, ?_, ?_, ?_, ?_⟩
    · simp only
      omega
    · rw [map_append, h.numbers, attemptNumbers_succ hcount.1]
      rfl
    · intro leaseId' hlease
      obtain rfl : leaseId = leaseId' := Option.some.inj hlease
      exact ⟨attempts, rfl, h.released hnone⟩
    · intro habsurd
      cases habsurd
    · simp
    · simp
    · simp
    · intro hcancelled
      rcases h.delivery hcancelled with hs | hs | ⟨hs, -⟩ <;> rw [hstate] at hs <;> cases hs
  | @releaseRetry job attempts outbox hstate =>
    obtain ⟨record, rfl, h⟩ := JobView.Inv.present hinv
    have hwaiting := h.waiting (.inr hstate)
    refine h.move (by simp [hstate]) rfl rfl rfl ⟨Int.le_refl _, h.budget.2.2⟩ (by simp) rfl
      (fun _ => hwaiting) ?_ ?_
    · intro hrequest
      rcases h.requested hrequest with hs | hs <;> rw [hstate] at hs <;> cases hs
    · intro hcancelled
      rcases h.delivery hcancelled with hs | hs | ⟨hs, -⟩ <;> rw [hstate] at hs <;> cases hs
  | @requeueRetry job attempts outbox hstate =>
    obtain ⟨record, rfl, h⟩ := JobView.Inv.present hinv
    have hwaiting := h.waiting (.inr hstate)
    refine h.move (by simp [hstate]) rfl rfl rfl ⟨Int.le_refl _, h.budget.2.2⟩ (by simp) rfl
      (fun _ => hwaiting) ?_ (by simp [OutboxSummary.reset])
    intro hrequest
    rcases h.requested hrequest with hs | hs <;> rw [hstate] at hs <;> cases hs
  | @recoverExhausted job attempts outbox leaseId hstate hlease hrequest hbudget =>
    obtain ⟨record, rfl, h⟩ := JobView.Inv.present hinv
    refine h.settle hlease (by simp) (by simp) rfl (by simp) (by simp [hrequest]) ?_
    intro hcancelled
    rcases h.delivery hcancelled with hs | hs | ⟨-, hs⟩
    · rw [hstate] at hs
      cases hs
    · rw [hstate] at hs
      cases hs
    · rw [hrequest] at hs
      cases hs
  | @recoverQueued job attempts outbox leaseId hstate hlease hrequest hbudget =>
    obtain ⟨record, rfl, h⟩ := JobView.Inv.present hinv
    have hopen : record.cancelled = false := by
      by_contra hcancelled
      have hdelivery := h.delivery (by simpa using hcancelled)
      simp [hstate, hrequest] at hdelivery
    refine h.settle hlease (by simp) (by simp) ?_ (fun _ => hbudget) (by simp [hrequest]) ?_
    · simp [OutboxSummary.redeliver, hopen]
    · simp [OutboxSummary.redeliver, hopen]
  | @settleCancellation job attempts outbox leaseId hstate hlease hrequest =>
    obtain ⟨record, rfl, h⟩ := JobView.Inv.present hinv
    exact h.settle hlease (by simp) (by simp) rfl (by simp) (by simp) (by simp)
  | @succeed job attempts outbox leaseId hstate hlease hrequest =>
    obtain ⟨record, rfl, h⟩ := JobView.Inv.present hinv
    exact h.settle hlease (by simp) (by simp) rfl (by simp) (by simp [hrequest]) (by simp)
  | @failAttention job attempts outbox leaseId hstate hlease hrequest =>
    obtain ⟨record, rfl, h⟩ := JobView.Inv.present hinv
    refine h.settle hlease (by simp) (by simp) rfl (by simp) (by simp [hrequest]) ?_
    intro hcancelled
    have hdelivery := h.delivery hcancelled
    simp [hstate, hrequest] at hdelivery
  | @failRetry job attempts outbox leaseId hstate hlease hrequest hbudget =>
    obtain ⟨record, rfl, h⟩ := JobView.Inv.present hinv
    refine h.settle hlease (by simp) (by simp) rfl (fun _ => hbudget) (by simp [hrequest]) ?_
    intro hcancelled
    have hdelivery := h.delivery hcancelled
    simp [hstate, hrequest] at hdelivery
  | @cancelWaiting job attempts outbox hstate =>
    obtain ⟨record, rfl, h⟩ := JobView.Inv.present hinv
    have hidle : job.state ≠ .processing := by
      rcases hstate with hs | hs <;> rw [hs] <;> simp
    exact h.move hidle rfl rfl rfl ⟨Int.le_refl _, h.budget.2.2⟩ (by simp) rfl (by simp)
      (by simp) (by simp)
  | @requestCancellation job attempts outbox hstate =>
    obtain ⟨record, rfl, h⟩ := JobView.Inv.present hinv
    exact ⟨h.workspace, h.budget, h.numbers, h.held, h.released, h.processing, h.waiting,
      fun _ => .inl hstate, fun _ => .inr (.inr ⟨hstate, rfl⟩)⟩
  | @retryByOperator job attempts outbox hstate hmax =>
    obtain ⟨record, rfl, h⟩ := JobView.Inv.present hinv
    have hraised : job.attemptCount < max job.maxAttempts (job.attemptCount + 1) := by omega
    exact h.move (by simp [hstate]) rfl rfl rfl ⟨Int.le_max_left _ _, hmax⟩ (by simp) rfl
      (fun _ => hraised) (by simp) (by simp [OutboxSummary.reset])
  | @requeueStranded job attempts outbox hstate =>
    obtain ⟨record, rfl, h⟩ := JobView.Inv.present hinv
    refine h.move (by simp [hstate]) rfl rfl rfl ⟨Int.le_refl _, h.budget.2.2⟩ (by simp [hstate]) rfl
      h.waiting ?_ (by simp [OutboxSummary.reset])
    intro hrequest
    rcases h.requested hrequest with hs | hs
    · rw [hstate] at hs
      cases hs
    · exact hs
  | @repairWaiting job attempts outbox hrequest hstate =>
    obtain ⟨record, rfl, h⟩ := JobView.Inv.present hinv
    have hidle : job.state ≠ .processing := by
      rcases hstate with hs | hs <;> rw [hs] <;> simp
    exact h.move hidle rfl rfl rfl ⟨Int.le_refl _, h.budget.2.2⟩ (by simp) rfl (by simp)
      (by simp [hrequest]) (by simp)
  | @repairHeld job attempts outbox leaseId hrequest hstate hlease =>
    obtain ⟨record, rfl, h⟩ := JobView.Inv.present hinv
    exact h.settle hlease (by simp) (by simp) rfl (by simp) (by simp [hrequest]) (by simp)
  | @dispatch job attempts outbox dispatchedAt hcancelled hdispatched =>
    cases job with
    | none => exact hinv.elim
    | some job =>
      have h : JobConsistent job attempts outbox := hinv
      exact ⟨h.workspace, h.budget, h.numbers, h.held, h.released, h.processing, h.waiting,
        h.requested, h.delivery⟩

/-- **The declared transitions.** An action changes the state along the declared
machine, except that the repair of a committed result also takes a waiting job
to success. -/
theorem JobStep.allowed (hstep : JobStep action view view') (hjob : view.job = some job)
    (hjob' : view'.job = some job') :
    job'.state = job.state ∨ canTransitionJob job.state job'.state ∨
      (action = .repairCommitted ∧ (job.state = .queued ∨ job.state = .retryScheduled) ∧
        job'.state = .succeeded) := by
  cases hstep with
  | enqueue => cases hjob
  | cancelWaiting hstate =>
    cases hjob
    cases hjob'
    rcases hstate with hs | hs <;> rw [hs] <;> exact .inr (.inl rfl)
  | repairWaiting hrequest hstate =>
    cases hjob
    cases hjob'
    exact .inr (.inr ⟨rfl, hstate, rfl⟩)
  | requestCancellation hstate =>
    cases hjob
    cases hjob'
    exact .inl rfl
  | requeueStranded hstate =>
    cases hjob
    cases hjob'
    exact .inl rfl
  | dispatch =>
    cases hjob.symm.trans hjob'
    exact .inl rfl
  | claim hstate | releaseRetry hstate | requeueRetry hstate | recoverExhausted hstate
  | recoverQueued hstate | settleCancellation hstate | succeed hstate | failAttention hstate
  | failRetry hstate | retryByOperator hstate | repairHeld _ hstate =>
    cases hjob
    cases hjob'
    rw [hstate]
    exact .inr (.inl rfl)

theorem JobStep.persists (hstep : JobStep action view view') (hjob : view.job = some job) :
    ∃ job', view'.job = some job' := by
  cases hstep <;> first | exact ⟨_, rfl⟩ | exact ⟨job, hjob⟩

theorem JobStep.final (hstep : JobStep action view view') (hjob : view.job = some job)
    (hjob' : view'.job = some job') (hfinal : job.state = .succeeded ∨ job.state = .cancelled) :
    job'.state = job.state := by
  rcases hstep.allowed hjob hjob' with hsame | hallowed | ⟨-, hwaiting, -⟩
  · exact hsame
  · rw [canTransitionJob_of_final hfinal] at hallowed
    cases hallowed
  · rcases hfinal with hs | hs <;> rw [hs] at hwaiting <;> simp at hwaiting

theorem JobStep.of_succeed (hstep : JobStep .succeed view view') :
    (∃ job, view.job = some job ∧ job.state = .processing ∧ job.cancellationRequested = false) ∧
      ∃ job', view'.job = some job' ∧ job'.state = .succeeded := by
  cases hstep with
  | succeed hstate hlease hrequest => exact ⟨⟨_, rfl, hstate, hrequest⟩, _, rfl, rfl⟩

/-- A job comes to succeed by its success or by a repair, and was not asked to cancel
itself. -/
theorem JobStep.of_succeeded (hstep : JobStep action view view') (hjob : view.job = some job)
    (hjob' : view'.job = some job') (hnot : job.state ≠ .succeeded)
    (hsucceeded : job'.state = .succeeded) :
    job.cancellationRequested = false ∧ (action = .succeed ∨ (action = .repairCommitted ∧
      (job.state = .queued ∨ job.state = .retryScheduled ∨ job.state = .processing))) := by
  cases hstep with
  | succeed hstate hlease hrequest =>
    cases hjob
    exact ⟨hrequest, .inl rfl⟩
  | repairWaiting hrequest hstate =>
    cases hjob
    refine ⟨hrequest, .inr ⟨rfl, ?_⟩⟩
    rcases hstate with hs | hs
    · exact .inl hs
    · exact .inr (.inl hs)
  | repairHeld hrequest hstate =>
    cases hjob
    exact ⟨hrequest, .inr ⟨rfl, .inr (.inr hstate)⟩⟩
  | enqueue => cases hjob
  | dispatch =>
    obtain rfl := Option.mem_unique hjob hjob'
    exact absurd hsucceeded hnot
  | requestCancellation | requeueStranded =>
    cases hjob
    cases hjob'
    exact absurd hsucceeded hnot
  | _ =>
    cases hjob'
    cases hsucceeded

/-- **A request for cancellation is final.** The job keeps the request, its state is
unchanged or cancelled, and so is the state of each of its attempts. -/
theorem JobStep.requested (hstep : JobStep action view view') (hinv : view.Inv)
    (hjob : view.job = some job) (hjob' : view'.job = some job')
    (hrequest : job.cancellationRequested) :
    job'.cancellationRequested ∧ (job'.state = job.state ∨ job'.state = .cancelled) ∧
      ∀ attempt' ∈ view'.attempts, attempt' ∈ view.attempts ∨ attempt'.state = .cancelled := by
  have hrunning : job.state = .processing ∨ job.state = .cancelled := by
    obtain ⟨vjob, attempts, outbox⟩ := view
    cases hjob
    obtain ⟨record, rfl, h⟩ := JobView.Inv.present hinv
    exact h.requested hrequest
  cases hstep with
  | enqueue => cases hjob
  | settleCancellation =>
    cases hjob
    cases hjob'
    refine ⟨hrequest, .inr rfl, fun attempt' hattempt' => ?_⟩
    obtain ⟨attempt, hattempt, rfl⟩ := mem_map.mp hattempt'
    split
    · exact .inr rfl
    · exact .inl hattempt
  | cancelWaiting =>
    cases hjob
    cases hjob'
    exact ⟨rfl, .inr rfl, fun _ => .inl⟩
  | requestCancellation =>
    cases hjob
    cases hjob'
    exact ⟨rfl, .inl rfl, fun _ => .inl⟩
  | requeueStranded =>
    cases hjob
    cases hjob'
    exact ⟨hrequest, .inl rfl, fun _ => .inl⟩
  | dispatch =>
    cases hjob.symm.trans hjob'
    exact ⟨hrequest, .inl rfl, fun _ => .inl⟩
  | claim hstate | releaseRetry hstate | requeueRetry hstate | retryByOperator hstate =>
    cases hjob
    rw [hstate] at hrunning
    simp at hrunning
  | recoverExhausted _ _ hnot | recoverQueued _ _ hnot | succeed _ _ hnot
  | failAttention _ _ hnot | failRetry _ _ hnot | repairWaiting hnot | repairHeld hnot =>
    cases hjob
    rw [hrequest] at hnot
    cases hnot

/-- A job that holds its lease comes to be asked to cancel itself by a request
only. -/
theorem JobStep.of_request (hstep : JobStep action view view') (hjob : view.job = some job)
    (hjob' : view'.job = some job') (hnot : job.cancellationRequested = false)
    (hrequest : job'.cancellationRequested) :
    action = .requestCancellation ∨ action = .cancelWaiting := by
  cases hstep with
  | requestCancellation => exact .inl rfl
  | cancelWaiting => exact .inr rfl
  | enqueue => cases hjob
  | dispatch =>
    obtain rfl := Option.mem_unique hjob hjob'
    rw [hnot] at hrequest
    cases hrequest
  | retryByOperator =>
    cases hjob'
    cases hrequest
  | _ =>
    cases hjob
    cases hjob'
    exact absurd (hnot.symm.trans hrequest) (by simp)

private theorem exists_mem_closeAttempt {state : JobAttemptState}
    (hmem : attempt ∈ attempts) :
    ∃ attempt' ∈ closeAttempt leaseId state attempts, attempt'.leaseId = attempt.leaseId ∧
      attempt'.attemptNumber = attempt.attemptNumber ∧
      (attempt.state ≠ .active → attempt'.state ≠ .active) := by
  refine ⟨_, mem_map_of_mem hmem, ?_⟩
  split
  · next hselected =>
    simp only [Bool.and_eq_true, beq_iff_eq] at hselected
    exact ⟨rfl, rfl, fun hclosed => absurd hselected.2 hclosed⟩
  · exact ⟨rfl, rfl, fun hclosed => hclosed⟩

theorem JobStep.attempt_persists (hstep : JobStep action view view')
    (hmem : attempt ∈ view.attempts) :
    ∃ attempt' ∈ view'.attempts, attempt'.leaseId = attempt.leaseId ∧
      attempt'.attemptNumber = attempt.attemptNumber ∧
      (attempt.state ≠ .active → attempt'.state ≠ .active) := by
  have hkept : ∀ attempts : List AttemptSummary, attempt ∈ attempts → ∃ attempt' ∈ attempts,
      attempt'.leaseId = attempt.leaseId ∧ attempt'.attemptNumber = attempt.attemptNumber ∧
        (attempt.state ≠ .active → attempt'.state ≠ .active) :=
    fun attempts h => ⟨attempt, h, rfl, rfl, fun hclosed => hclosed⟩
  cases hstep with
  | enqueue => cases hmem
  | claim => exact hkept _ (mem_append_left _ hmem)
  | recoverExhausted | recoverQueued | settleCancellation | succeed | failAttention | failRetry
  | repairHeld => exact exists_mem_closeAttempt hmem
  | _ => exact hkept _ hmem

/-- No action removes or changes a closed attempt. -/
theorem JobStep.closed_stays (hstep : JobStep action view view')
    (hmem : attempt ∈ view.attempts) (hclosed : attempt.state ≠ .active) :
    attempt ∈ view'.attempts := by
  have hkept : ∀ leaseId state (attempts : List AttemptSummary), attempt ∈ attempts →
      attempt ∈ closeAttempt leaseId state attempts := fun leaseId state attempts h =>
    mem_map.mpr ⟨attempt, h, if_neg (by simp [hclosed])⟩
  cases hstep with
  | enqueue => cases hmem
  | claim => exact mem_append_left _ hmem
  | recoverExhausted | recoverQueued | settleCancellation | succeed | failAttention | failRetry
  | repairHeld => exact hkept _ _ _ hmem
  | _ => exact hmem

/-- **A lease has ended**: its attempt is closed, or a later attempt was made. -/
def JobView.LeaseEnded (view : JobView) (leaseId : String) : Prop :=
  ∃ attempt ∈ view.attempts, attempt.leaseId = leaseId ∧ (attempt.state ≠ .active ∨
    ∃ later ∈ view.attempts, attempt.attemptNumber < later.attemptNumber)

theorem JobStep.leaseEnded (hstep : JobStep action view view') (h : view.LeaseEnded leaseId) :
    view'.LeaseEnded leaseId := by
  obtain ⟨attempt, hmem, hlease, hended⟩ := h
  obtain ⟨attempt', hmem', hlease', hnumber', hclosed'⟩ := hstep.attempt_persists hmem
  refine ⟨attempt', hmem', hlease'.trans hlease, ?_⟩
  rcases hended with hclosed | ⟨later, hlater, hlt⟩
  · exact .inl (hclosed' hclosed)
  · obtain ⟨later', hlaterMem', -, hlaterNumber', -⟩ := hstep.attempt_persists hlater
    refine .inr ⟨later', hlaterMem', ?_⟩
    omega

theorem JobStep.held_before (hstep : JobStep action view view') (hjob' : view'.job = some job')
    (hlease' : job'.leaseId = some leaseId)
    (hissued : ∃ attempt ∈ view.attempts, attempt.leaseId = leaseId) (hinv : view.Inv) :
    ∃ job, view.job = some job ∧ job.leaseId = some leaseId ∧
      job'.attemptCount = job.attemptCount ∧ job'.maxAttempts = job.maxAttempts := by
  cases hstep with
  | enqueue =>
    cases hjob'
    cases hlease'
  | claim hstate hbudget hfresh =>
    cases hjob'
    obtain ⟨attempt, hmem, rfl⟩ := hissued
    exact absurd (Option.some.inj hlease').symm (hfresh attempt hmem)
  | @retryByOperator job attempts outbox hstate =>
    cases hjob'
    obtain ⟨record, rfl, h⟩ := JobView.Inv.present hinv
    have hprocessing := h.processing.mpr (by rw [show job.leaseId = some leaseId from hlease']; rfl)
    rw [hstate] at hprocessing
    cases hprocessing
  | dispatch => exact ⟨job', hjob', hlease', rfl, rfl⟩
  | releaseRetry | requeueRetry | cancelWaiting | requestCancellation | requeueStranded
  | repairWaiting =>
    cases hjob'
    exact ⟨_, rfl, hlease', rfl, rfl⟩
  | _ =>
    cases hjob'
    cases hlease'

/-- **The ticket of a claim.** Its attempt was made, and as long as its lease is held
the job has the numbers that the claim was given. -/
def JobView.Ticket (view : JobView) (leaseId : String) (attemptNumber maxAttempts : ℤ) : Prop :=
  (∃ attempt ∈ view.attempts, attempt.leaseId = leaseId) ∧
    ∀ job, view.job = some job → job.leaseId = some leaseId →
      job.attemptCount = attemptNumber ∧ job.maxAttempts = maxAttempts

theorem JobStep.ticket (hstep : JobStep action view view') (hinv : view.Inv)
    {attemptNumber maxAttempts : ℤ} (h : view.Ticket leaseId attemptNumber maxAttempts) :
    view'.Ticket leaseId attemptNumber maxAttempts := by
  obtain ⟨hissued, hnumbers⟩ := h
  constructor
  · obtain ⟨attempt, hmem, hlease⟩ := hissued
    obtain ⟨attempt', hmem', hlease', -⟩ := hstep.attempt_persists hmem
    exact ⟨attempt', hmem', hlease'.trans hlease⟩
  · intro job' hjob' hlease'
    obtain ⟨job, hjob, hlease, hcount, hmax⟩ := hstep.held_before hjob' hlease' hissued hinv
    rw [hcount, hmax]
    exact hnumbers job hjob hlease

/-- Only a dispatch sets the instant of a delivery. -/
theorem JobStep.dispatchedAt (hstep : JobStep action view view')
    (haction : action ≠ .dispatch) (houtbox' : view'.outbox = some outbox') {dispatchedAt : ℤ}
    (hdispatched : outbox'.dispatchedAt = some dispatchedAt) :
    ∃ outbox, view.outbox = some outbox ∧ outbox.dispatchedAt = some dispatchedAt := by
  cases hstep with
  | enqueue =>
    cases houtbox'
    cases hdispatched
  | dispatch => exact absurd rfl haction
  | @recoverQueued job attempts outbox =>
    obtain ⟨record, hrecord, rfl⟩ := Option.map_eq_some_iff.mp houtbox'
    refine ⟨record, hrecord, ?_⟩
    unfold OutboxSummary.redeliver at hdispatched
    split at hdispatched
    · exact hdispatched
    · cases hdispatched
  | requeueRetry | retryByOperator | requeueStranded =>
    obtain ⟨record, -, rfl⟩ := Option.map_eq_some_iff.mp houtbox'
    cases hdispatched
  | claim | releaseRetry | recoverExhausted | succeed | failAttention | failRetry =>
    exact ⟨outbox', houtbox', hdispatched⟩
  | _ =>
    obtain ⟨record, hrecord, rfl⟩ := Option.map_eq_some_iff.mp houtbox'
    exact ⟨record, hrecord, hdispatched⟩

theorem JobConsistent.of_active {outbox : OutboxSummary} (h : JobConsistent job attempts outbox)
    (hmem : attempt ∈ attempts) (hactive : attempt.state = .active) :
    job.leaseId = some attempt.leaseId ∧ attempt.attemptNumber = job.attemptCount := by
  cases hlease : job.leaseId with
  | none => exact absurd hactive (h.released hlease attempt hmem)
  | some leaseId =>
    obtain ⟨earlier, rfl, hearlier⟩ := h.held leaseId hlease
    rcases mem_append.mp hmem with hold | hlast
    · exact absurd hactive (hearlier attempt hold)
    · rw [mem_singleton.mp hlast]
      exact ⟨rfl, rfl⟩

theorem JobConsistent.attemptNumber_le {outbox : OutboxSummary}
    (h : JobConsistent job attempts outbox) (hmem : attempt ∈ attempts) :
    attempt.attemptNumber ≤ job.attemptCount := by
  have hnumber : attempt.attemptNumber ∈ attemptNumbers job.attemptCount := by
    rw [← h.numbers]
    exact mem_map_of_mem hmem
  obtain ⟨i, hi, heq⟩ := mem_map.mp hnumber
  have hlt := mem_range.mp hi
  omega

end ContentAutomation
