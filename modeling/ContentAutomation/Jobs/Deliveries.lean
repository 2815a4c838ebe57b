import ContentAutomation.Jobs.Fencing
import ContentAutomation.Jobs.Invariants

/-!
# Overlapping deliveries

A handler reads the row of its job and probes for the result in two steps. What it
makes of the two depends on what falls between them: a result that exists while
the row is open raises an alarm, and the alarm is false when the job was made
successful in between.
-/

namespace ContentAutomation

open Relational Transaction

variable {App : Type} {environment : Environment App} {s t : System App} {event : Event App}
  {k : String}

/-- The result of the job exists while the job is not successful. -/
def Database.ResultWithoutSuccess (environment : Environment App) (db : Database App)
    (k : String) : Prop :=
  environment.resultExists k db = some true ∧ ∃ job, db.job? k = some job ∧ job.state ≠ .succeeded

/-- A row of this state does not end its delivery by itself. -/
def BackgroundJobState.isOpen (state : BackgroundJobState) : Bool :=
  state != .succeeded && state != .cancelled && state != .failedAttention

/-- A handler comes to probe for the result only when it has read its row. -/
theorem HandlerRun.loading_of_probing {run : HandlerRun App} {input : HandlerInput App}
    {intent : Intent App} (hintent : run.intent environment input = some intent)
    {result : Except JobError intent.answer} {delivery : Delivery} {row : BackgroundJob}
    (hresume : intent.resume result = .handler ⟨delivery, .probing row⟩) :
    run.phase = .loading := by
  obtain ⟨delivery, phase⟩ := run
  cases phase with
  | loading => rfl
  | stopped outcome => cases hintent
  | probing job =>
    cases hintent
    cases result with
    | error error => cases hresume
    | ok existingResult =>
      simp only [HandlerRun.after, afterProbe] at hresume
      repeat' split at hresume
      all_goals cases hresume
  | releasing | committing | settling =>
    cases hintent
    cases result <;> cases hresume
  | reloading =>
    cases hintent
    cases result with
    | error error => cases hresume
    | ok job =>
      cases job with
      | none => cases hresume
      | some job =>
        simp only [HandlerRun.after, afterReload] at hresume
        split at hresume <;> cases hresume
  | claiming =>
    cases hintent
    cases result with
    | error error => cases hresume
    | ok answer =>
      cases answer with
      | refused reason => cases hresume
      | claimed own =>
        simp only [HandlerRun.after, afterClaim] at hresume
        split at hresume <;> cases hresume
  | checking own =>
    cases hintent
    cases result with
    | error error =>
      simp only [afterCheck] at hresume
      split at hresume <;> cases hresume
    | ok cancelled => cases cancelled <;> cases hresume
  | executing own =>
    cases hintent
    cases result with
    | error error => cases hresume
    | ok answer =>
      simp only [HandlerRun.after, afterExecution] at hresume
      split at hresume <;> cases hresume

private theorem BackgroundJobState.ne_succeeded_of_isOpen {state : BackgroundJobState}
    (h : state.isOpen) : state ≠ .succeeded := by
  rintro rfl
  cases h

private theorem of_afterProbe_inconsistent {row : BackgroundJob} {now : ℤ} {existingResult : Bool}
    (h : (afterProbe row now existingResult : HandlerPhase App) =
      .stopped (.error (databaseError "JOB_RESULT_STATE_INCONSISTENT" none))) :
    existingResult ∧ row.state.isOpen := by
  unfold afterProbe at h
  split at h
  · split at h
    · cases h
    · simp [databaseError] at h
  next hsucceeded =>
  split at h
  · cases h
  next hcancelled =>
  split at h
  · cases h
  next hfailed =>
  have hopen : row.state.isOpen = true := by
    simp [BackgroundJobState.isOpen, hsucceeded, hcancelled, hfailed]
  split at h
  · next hexisting => exact ⟨hexisting, hopen⟩
  · repeat' split at h
    all_goals cases h

private theorem ensures_resultExists {callback : Database App → Option Bool} {db : Database App} :
    (Call.resultExists callback).body.Ensures
      (fun existingResult db' => db' = db ∧ callback db = some existingResult)
      (fun error => ∃ cause, error = databaseError "JOB_RESULT_CHECK_FAILED" cause) db := by
  rw [Call.body, ensures_rethrow, ensures_bind, ensures_read]
  cases hanswer : callback db with
  | none => exact ⟨_, rfl⟩
  | some existingResult => exact ⟨rfl, rfl⟩

namespace System

/-- A handler raises that the result of its job exists though its job has not
succeeded. -/
def RaisesInconsistency (s t : System App) (pid : ℕ) (k : String) : Prop :=
  ∃ run row, s.processes pid = .handler run ∧ run.phase = .probing row ∧
    run.delivery.envelope.domainJobId = k ∧
      t.processes pid = .handler { run with
        phase := .stopped (.error (databaseError "JOB_RESULT_STATE_INCONSISTENT" none)) }

/-- The next step of a process may make the job successful: the holder of its lease
commits its result, or the reconciler repairs it. -/
def Succeeds (s : System App) (pid : ℕ) (k : String) : Prop :=
  ∃ job, s.db.job? k = some job ∧ job.cancellationRequestedAt = none ∧
    ((∃ delivery claim result, s.processes pid = .handler ⟨delivery, .committing claim result⟩ ∧
        delivery.envelope.domainJobId = k ∧ job.leaseId = some claim.leaseId) ∨
      ∃ pass repaired pending, s.processes pid = .reconciler pass ∧
        pass.phase = .settlingResult repaired .repair pending ∧ repaired.id = k ∧
          isRepairable job.state = true)

/-- A handler has read the row of the job when it was open, and has yet to probe for the
result. -/
def IsProbing (s : System App) (k : String) : Prop :=
  ∃ pid run row, s.processes pid = .handler run ∧ run.phase = .probing row ∧
    run.delivery.envelope.domainJobId = k ∧ row.state.isOpen = true

/-- A job that has no result yet is made successful while a handler that read its open row
has yet to probe for the result. -/
def StraddlesProbe (environment : Environment App) (s : System App) (event : Event App) : Prop :=
  ∃ pid input k, event = .advance pid input ∧ s.Succeeds pid k ∧ s.IsProbing k ∧
    environment.resultExists k s.db ≠ some true

/-- Only the commit of a holder and the reconciler's repair make a job successful. -/
theorem Inv.succeeds_of_step (hinv : s.Inv) (hstep : Step environment s event t)
    {job job' : BackgroundJob} (hjob : s.db.job? k = some job) (hnot : job.state ≠ .succeeded)
    (hjob' : t.db.job? k = some job') (hsucceeded : job'.state = .succeeded) :
    ∃ pid input, event = .advance pid input ∧ s.Succeeds pid k := by
  have hview := Database.view_job hjob
  have hview' := Database.view_job hjob'
  have hchanged : t.db ≠ s.db := by
    intro hsame
    rw [hsame] at hjob'
    obtain rfl := Option.mem_unique hjob hjob'
    exact hnot hsucceeded
  rcases hinv.acts hstep k with hsame | ⟨action, hacts, hmoves⟩
  · rw [hsame] at hview'
    have hsummary : job.summary = job'.summary := Option.mem_unique hview hview'
    have hstate : job.state = job'.state := congrArg JobSummary.state hsummary
    exact absurd (hstate.trans hsucceeded) hnot
  · obtain ⟨hrequest, haction⟩ := hmoves.of_succeeded hview hview' hnot hsucceeded
    have hunrequested : job.cancellationRequestedAt = none :=
      Option.not_isSome_iff_eq_none.mp (by simpa [BackgroundJob.summary] using hrequest)
    rcases haction with rfl | ⟨rfl, hstate⟩
    · cases event with
      | advance pid input =>
        obtain ⟨delivery, claim, result, hprocess, rfl⟩ := Process.of_acts_succeed hacts
        refine ⟨pid, input, rfl, job, hjob, hunrequested, .inl ⟨delivery, claim, result, hprocess,
          rfl, ?_⟩⟩
        -- a commit without the lease changes nothing
        by_contra hunheld
        cases hstep.taken with
        | idle hevent => exact hevent pid input rfl
        | advance hintent hrun =>
          rw [hprocess] at hintent
          cases input with
          | handler input =>
            cases hintent
            unfold System.runIntent at hrun
            split at hrun
            · next henabled =>
              cases hrun
              refine hchanged (hinv.perform_unheld henabled rfl fun other hother => ?_).1
              rw [← Option.some.inj (hjob.symm.trans hother)]
              exact hunheld
            · cases hrun
          | callback | reconciler | dispatcher => cases hintent
      | command command => cases command <;> simp [System.Acts, Command.call, Call.Acts] at hacts
      | tick | write | spawn | crash => cases hacts
    · obtain ⟨pid, input, pass, repaired, pending, rfl, hprocess, hphase, hid⟩ := hacts.repairsResult
      refine ⟨pid, input, rfl, job, hjob, hunrequested, .inr ⟨pass, repaired, pending, hprocess,
        hphase, hid, ?_⟩⟩
      have hstate' : job.state = .queued ∨ job.state = .retryScheduled ∨ job.state = .processing :=
        hstate
      rcases hstate' with hs | hs | hs <;> rw [hs] <;> rfl

private theorem not_probing_of_start {birth : Birth} {run : HandlerRun App} {row : BackgroundJob}
    (hstart : s.start birth = some (.handler run)) : run.phase ≠ .probing row := by
  cases birth with
  | deliver delivery =>
    simp only [start] at hstart
    split at hstart <;> cases hstart <;> simp
  | callback owner kind calledAt =>
    simp only [start] at hstart
    split at hstart <;> cases hstart
  | reconcile correlationId batchSize =>
    simp only [start] at hstart
    split at hstart
    · cases hstart
    · split at hstart <;> cases hstart
  | dispatch batchSize failureDelayMs leaseDurationMs =>
    simp only [start] at hstart
    split at hstart <;> cases hstart

/-- A handler that probes for the result of an open row works for a job that has not
succeeded, or the result was there before the job succeeded. -/
def ProbesOpen (environment : Environment App) (history : List (System App × Event App))
    (s : System App) : Prop :=
  ∀ pid run row, s.processes pid = .handler run → run.phase = .probing row →
    row.state.isOpen = true →
      (∃ job, s.db.job? run.delivery.envelope.domainJobId = some job ∧ job.state ≠ .succeeded) ∨
        ∃ visited ∈ history,
          visited.1.db.ResultWithoutSuccess environment run.delivery.envelope.domainJobId

/-- **Step lemma.** Probes stay good as long as no success straddles them. -/
theorem ProbesOpen.step {history : List (System App × Event App)}
    (h : s.ProbesOpen environment history) (hinv : s.Inv)
    (hquiet : ¬ s.StraddlesProbe environment event) (hstep : Step environment s event t) :
    t.ProbesOpen environment ((s, event) :: history) := by
  intro pid run row hprocess hphase hopen
  have hmoves := hstep.processMoves pid
  generalize t.processes pid = process at hmoves hprocess
  cases hmoves with
  | crashes => cases hprocess
  | starts hunused hstart =>
    subst hprocess
    exact absurd hphase (not_probing_of_start hstart)
  | stays =>
    rcases h pid run row hprocess hphase hopen with ⟨job, hjob, hnot⟩ | ⟨visited, hmem, hresult⟩
    · obtain ⟨job', hjob'⟩ := (hinv.evolves hstep).persists hjob
      by_cases hsucceeded : job'.state = .succeeded
      · obtain ⟨other, input, rfl, hsucceeds⟩ :=
          hinv.succeeds_of_step hstep hjob hnot hjob' hsucceeded
        -- the step does not straddle the probe, so the result was there
        have hexists : environment.resultExists run.delivery.envelope.domainJobId s.db =
            some true := by
          by_contra habsent
          exact hquiet ⟨other, input, _, rfl, hsucceeds,
            ⟨pid, run, row, hprocess, hphase, rfl, hopen⟩, habsent⟩
        exact .inr ⟨_, List.mem_cons_self, hexists, job, hjob, hnot⟩
      · exact .inl ⟨job', hjob', hsucceeded⟩
    · exact .inr ⟨visited, List.mem_cons_of_mem _ hmem, hresult⟩
  | @advances input intent _ hintent henabled hdb =>
    obtain ⟨before, input, hbefore, rfl⟩ := Process.handler_of_resume hintent hprocess
    rw [hbefore] at hintent
    obtain ⟨delivery', phase'⟩ := run
    cases hphase
    have hloading := HandlerRun.loading_of_probing hintent hprocess
    obtain ⟨delivery, phase⟩ := before
    cases hloading
    cases hintent
    have hrule : (.loadOwnedJob delivery.context delivery.envelope.domainJobId :
        Call App (Option BackgroundJob)).body.Ensures
          (fun found db' => db' = s.db ∧ ∀ job, found = some job →
            s.db.job? delivery.envelope.domainJobId = some job) JobError.Unchecked s.db :=
      ensures_backgroundJob_findFirst (fun _ => ⟨rfl, fun _ hnone => by cases hnone⟩)
        fun job hjob _ => ⟨rfl, fun other hother => by rw [← Option.some.inj hother]; exact hjob⟩
    rcases perform_cases hrule with ⟨found, db', ⟨hsame, hfound⟩, hresult⟩ | ⟨error, -, hresult⟩
    · rw [hresult] at hprocess hdb
      cases found with
      | none => cases hprocess
      | some job =>
        simp only [HandlerRun.after, afterLoad] at hprocess
        split at hprocess
        · cases hprocess
          refine .inl ⟨row, ?_, BackgroundJobState.ne_succeeded_of_isOpen hopen⟩
          rw [hdb, hsame]
          exact hfound row rfl
        · cases hprocess
    · rw [hresult] at hprocess
      cases hprocess

private theorem Step.of_raisesInconsistency (hstep : Step environment s event t) {pid : ℕ}
    (hraises : s.RaisesInconsistency t pid k) : environment.resultExists k s.db = some true ∧
      ∃ run row, s.processes pid = .handler run ∧ run.phase = .probing row ∧
        run.delivery.envelope.domainJobId = k ∧ row.state.isOpen := by
  obtain ⟨run, row, hbefore, hphase, rfl, hafter⟩ := hraises
  have hmoves := hstep.processMoves pid
  generalize t.processes pid = process at hmoves hafter
  cases hmoves with
  | crashes => cases hafter
  | starts hunused => cases hbefore.symm.trans hunused
  | stays =>
    rw [hbefore] at hafter
    injection hafter with hrun
    have hstopped := congrArg HandlerRun.phase hrun
    cases hphase.symm.trans hstopped
  | @advances input intent _ hintent henabled hdb =>
    rw [hbefore] at hintent
    obtain ⟨delivery, phase⟩ := run
    cases hphase
    cases input with
    | handler input =>
      cases hintent
      rcases perform_cases ensures_resultExists with
        ⟨existingResult, db', ⟨-, hanswer⟩, hresult⟩ | ⟨error, ⟨cause, rfl⟩, hresult⟩
      · rw [hresult] at hafter
        simp only [HandlerRun.after, Process.handler.injEq, HandlerRun.mk.injEq, true_and] at hafter
        obtain ⟨rfl, hopen⟩ := of_afterProbe_inconsistent hafter
        exact ⟨hanswer, _, row, hbefore, rfl, rfl, hopen⟩
      · rw [hresult] at hafter
        simp [HandlerRun.after, databaseError] at hafter
    | callback | reconciler | dispatcher => cases hintent

/-- **No false alarm.** In every run in which no job that has no result yet is made
successful while another handler is between reading its row and probing for its
result, a handler raises that a result is inconsistent with its job only after a
state in which the result existed while the job was not successful. -/
theorem raises_only_after_result_without_success {clock : ℤ} {internalUsers : List InternalUser}
    {app : App} {history : List (System App × Event App)}
    (hrun : Transition.Run (Transition.Restricted (Step environment)
      fun s event => ¬ s.StraddlesProbe environment event) (initial clock internalUsers app)
      history s) :
    ∀ event t, Step environment s event t → ∀ pid k, s.RaisesInconsistency t pid k →
      ∃ visited, (visited = s ∨ visited ∈ history.map Prod.fst) ∧
        visited.db.ResultWithoutSuccess environment k := by
  intro event t hstep pid k hraises
  have hgood : s.Inv ∧ s.ProbesOpen environment history := by
    clear hstep hraises
    induction hrun with
    | refl =>
      refine ⟨inv_initial clock internalUsers app, fun pid run row hprocess => ?_⟩
      cases hprocess
    | tail _ hlast ih =>
      obtain ⟨hquiet, hlast⟩ := hlast
      exact ⟨ih.1.step hlast, ih.2.step ih.1 hquiet hlast⟩
  obtain ⟨hexists, run, row, hprocess, hphase, rfl, hopen⟩ := hstep.of_raisesInconsistency hraises
  rcases hgood.2 pid run row hprocess hphase hopen with hjob | ⟨visited, hmem, hresult⟩
  · exact ⟨s, .inl rfl, hexists, hjob⟩
  · exact ⟨visited.1, .inr (List.mem_map_of_mem hmem), hresult⟩

end System

instance {db : Database App} : Decidable (db.ResultWithoutSuccess environment k) :=
  decidable_of_iff (environment.resultExists k db = some true ∧
    ((db.job? k).any fun job => job.state != .succeeded) = true) (by
      simp [Database.ResultWithoutSuccess, Option.any_eq_true])

namespace Sample

/-- The delivery for which a handler is probing. -/
def probing? : Process Bool → Option Delivery
  | .handler ⟨delivery, .probing _⟩ => some delivery
  | _ => none

/-- The delivery for which a handler has stopped with an exception. -/
def raised? : Process Bool → Option (Delivery × JobError)
  | .handler ⟨delivery, .stopped (.error error)⟩ => some (delivery, error)
  | _ => none

private theorem raises_of_states {s t : System Bool} {pid : ℕ}
    (hbefore : probing? (s.processes pid) = some delivery)
    (hafter : raised? (t.processes pid) =
      some (delivery, databaseError "JOB_RESULT_STATE_INCONSISTENT" none)) :
    s.RaisesInconsistency t pid jobId := by
  unfold probing? at hbefore
  unfold raised? at hafter
  split at hbefore
  · next own row hprocess =>
    split at hafter
    · next other error hprocess' =>
      obtain rfl := Option.some.inj hbefore
      obtain ⟨rfl, rfl⟩ := Prod.mk.inj (Option.some.inj hafter)
      exact ⟨_, row, hprocess, rfl, rfl, hprocess'⟩
    · cases hafter
  · cases hbefore

/-- The next step of a process may commit a result. -/
def mayCommit : Process Bool → Bool
  | .handler ⟨_, .committing _ _⟩ => true
  | .reconciler _ => true
  | _ => false

/-- A result appears while the job waits, and a handler has read the row of the job. -/
def appeared : List (Event Bool) :=
  [enqueued, .write [operator] [] true, delivered 0, handled 0 0 "lease-0"]

/-- The alarm is raised, and rightly so. -/
theorem appeared_raises : ∃ t, System.Step callbacks (after appeared) (handled 0 0 "lease-0") t ∧
    (after appeared).RaisesInconsistency t 0 jobId ∧
      ∃ visited, (visited = after appeared ∨ visited ∈ (run appeared).1.map Prod.fst) ∧
        visited.db.ResultWithoutSuccess callbacks jobId := by
  have hafter : (((after appeared).step callbacks (handled 0 0 "lease-0")).bind fun t =>
      raised? (t.processes 0)) =
        some (delivery, databaseError "JOB_RESULT_STATE_INCONSISTENT" none) := by
    decide
  obtain ⟨t, hstep, hraised⟩ := Option.bind_eq_some_iff.mp hafter
  have hraises : (after appeared).RaisesInconsistency t 0 jobId :=
    raises_of_states (by decide) hraised
  have hquiet : ∀ visited ∈ (run appeared).1,
      ¬ visited.1.StraddlesProbe callbacks visited.2 := by
    have hcommits : ((run appeared).1.all fun visited =>
        match visited.2 with
        | .advance pid _ => !mayCommit (visited.1.processes pid)
        | _ => true) = true := by
      decide
    rintro visited hvisited ⟨pid, input, k, hevent, ⟨job, -, -, hsucceeds⟩, -⟩
    have hnot := List.all_eq_true.mp hcommits visited hvisited
    have hnot' : mayCommit (visited.1.processes pid) = false := by simpa [hevent] using hnot
    rcases hsucceeds with ⟨own, claim, result, hprocess, -⟩ | ⟨pass, repaired, pending, hprocess, -⟩
    · rw [hprocess] at hnot'
      cases hnot'
    · rw [hprocess] at hnot'
      cases hnot'
  exact ⟨t, hstep, hraises, System.raises_only_after_result_without_success
    ((run_run appeared).restricted hquiet) _ t hstep 0 jobId hraises⟩

/-- A second handler reads the row of the running job, and the first one commits its
result before the second one probes for it. -/
def straddled : List (Event Bool) :=
  enqueued :: claimed 0 0 "lease-0" ++
    [handled 0 1 "lease-0", delivered 1, handled 1 1 "lease-1", handled 0 2 "lease-0"]

/-- **The false alarm.** The second handler raises the alarm, though in no state the result
existed while the job was not successful. -/
theorem straddled_raises :
    Transition.Run (System.Step callbacks) initial (run straddled).1 (after straddled) ∧
      ∃ t, System.Step callbacks (after straddled) (handled 1 3 "lease-1") t ∧
        (after straddled).RaisesInconsistency t 1 jobId ∧
          ¬ (after straddled).db.ResultWithoutSuccess callbacks jobId ∧
            ∀ visited ∈ (run straddled).1, ¬ visited.1.db.ResultWithoutSuccess callbacks jobId := by
  refine ⟨run_run straddled, ?_⟩
  have hafter : (((after straddled).step callbacks (handled 1 3 "lease-1")).bind fun t =>
      raised? (t.processes 1)) =
        some (delivery, databaseError "JOB_RESULT_STATE_INCONSISTENT" none) := by
    decide
  obtain ⟨t, hstep, hraised⟩ := Option.bind_eq_some_iff.mp hafter
  refine ⟨t, hstep, raises_of_states (by decide) hraised, ?_, ?_⟩
  · decide
  · decide

end Sample

end ContentAutomation
