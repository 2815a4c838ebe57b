import ContentAutomation.Jobs.Database
import ContentAutomation.Jobs.Machine

/-!
# The machine behind the tables

Each job of the database, with its attempts and its outbox row, is a state of
the abstract machine. The lemmas below say how the statements of an operation
change that state: which job they move, and that they leave the others alone.
-/

namespace ContentAutomation

open Relational List

/-- What the machine sees of a job. -/
def BackgroundJob.summary (job : BackgroundJob) : JobSummary where
  workspaceId := job.workspaceId
  state := job.state
  leaseId := job.leaseId
  attemptCount := job.attemptCount
  maxAttempts := job.maxAttempts
  cancellationRequested := job.cancellationRequestedAt.isSome

/-- What the machine sees of an attempt. -/
def JobAttempt.summary (attempt : JobAttempt) : AttemptSummary where
  attemptNumber := attempt.attemptNumber
  leaseId := attempt.leaseId
  state := attempt.state

/-- What the machine sees of an outbox row. -/
def JobOutbox.summary (outbox : JobOutbox) : OutboxSummary where
  workspaceId := outbox.workspaceId
  cancelled := outbox.cancelledAt.isSome
  dispatchedAt := outbox.dispatchedAt

namespace Database

variable {App : Type} {db db' db'' : Database App} {k : String} {job : BackgroundJob}
  {action : JobAction}

/-- What the machine sees of the job with an identifier. -/
def view (db : Database App) (id : String) : JobView where
  job := (db.job? id).map BackgroundJob.summary
  attempts := (db.attemptsOf id).map JobAttempt.summary
  outbox := (db.outboxOf id).map JobOutbox.summary

/-- **The invariant of the tables.** Every job is in a state that the machine
allows. -/
def Inv (db : Database App) : Prop := ∀ id, (db.view id).Inv

/-- Nothing that matters of any job has changed. -/
def SameViews (db db' : Database App) : Prop := ∀ id, db'.view id = db.view id

/-- One job has moved by an action of the machine, and no other job has. -/
def Moves (action : JobAction) (id : String) (db db' : Database App) : Prop :=
  JobStep action (db.view id) (db'.view id) ∧ ∀ other, other ≠ id → db'.view other = db.view other

theorem view_job (h : db.job? k = some job) :
    (db.view k).job = some job.summary := by
  simp [view, h]

theorem job?_of_view {summary : JobSummary} (h : (db.view k).job = some summary) :
    ∃ job, db.job? k = some job ∧ job.summary = summary := by
  simpa [view] using h

theorem SameViews.inv (h : db.SameViews db') (hinv : db.Inv) : db'.Inv := by
  intro id
  rw [h id]
  exact hinv id

theorem SameViews.refl : db.SameViews db := fun _ => rfl

theorem Moves.inv (h : db.Moves action k db') (hinv : db.Inv) : db'.Inv := by
  intro id
  by_cases hid : id = k
  · subst hid
    exact h.1.inv (hinv id)
  · rw [h.2 id hid]
    exact hinv id

theorem Moves.trans_same (h : db.Moves action k db')
    (hsame : db'.SameViews db'') : db.Moves action k db'' := by
  refine ⟨?_, fun other hother => (hsame other).trans (h.2 other hother)⟩
  rw [hsame k]
  exact h.1

theorem Moves.of_parts {job' : BackgroundJob}
    (hjob : db.job? k = some job)
    (hjobs : ∀ id, db'.job? id = if id = k then some job' else db.job? id)
    (hattempts : ∀ id, id ≠ k → (db'.view id).attempts = (db.view id).attempts)
    (houtbox : ∀ id, id ≠ k → (db'.view id).outbox = (db.view id).outbox)
    (hstep : JobStep action ⟨some job.summary, (db.view k).attempts, (db.view k).outbox⟩
      ⟨some job'.summary, (db'.view k).attempts, (db'.view k).outbox⟩) :
    db.Moves action k db' := by
  constructor
  · have hbefore : db.view k = ⟨some job.summary, (db.view k).attempts, (db.view k).outbox⟩ :=
      JobView.ext (view_job hjob) rfl rfl
    have hafter : db'.view k = ⟨some job'.summary, (db'.view k).attempts, (db'.view k).outbox⟩ :=
      JobView.ext (view_job (by rw [hjobs k, if_pos rfl])) rfl rfl
    rw [hbefore, hafter]
    exact hstep
  · intro other hother
    refine JobView.ext ?_ (hattempts other hother) (houtbox other hother)
    show Option.map _ (job? _ other) = Option.map _ (job? _ other)
    rw [hjobs other, if_neg hother]

/-- A job that is found under the invariant has an outbox row, and the two are
consistent. -/
theorem Inv.consistent (hinv : db.Inv) (hjob : db.job? k = some job) :
    ∃ outbox, db.outboxOf k = some outbox ∧
      JobConsistent job.summary ((db.attemptsOf k).map JobAttempt.summary) outbox.summary := by
  have hk := hinv k
  unfold view at hk
  rw [hjob] at hk
  obtain ⟨record, hrecord, h⟩ := JobView.Inv.present hk
  obtain ⟨outbox, houtbox, rfl⟩ := Option.map_eq_some_iff.mp hrecord
  exact ⟨outbox, houtbox, h⟩

theorem Inv.holder (hinv : db.Inv) (hjob : db.job? k = some job)
    {leaseId : String} (hlease : job.leaseId = some leaseId) :
    ∃ attempt ∈ db.jobAttempts.rows, attempt.leaseId = leaseId ∧ attempt.state = .active ∧
      attempt.backgroundJobId = k := by
  obtain ⟨outbox, -, h⟩ := hinv.consistent hjob
  obtain ⟨earlier, heq, -⟩ := h.held leaseId hlease
  have hmem : (⟨job.summary.attemptCount, leaseId, .active⟩ : AttemptSummary) ∈
      (db.attemptsOf k).map JobAttempt.summary := by
    rw [heq]
    exact mem_append_right _ (mem_singleton_self _)
  obtain ⟨attempt, hattempt, hsummary⟩ := mem_map.mp hmem
  obtain ⟨hrow, hjobId⟩ := mem_filter.mp hattempt
  refine ⟨attempt, hrow, congrArg AttemptSummary.leaseId hsummary,
    congrArg AttemptSummary.state hsummary, by simpa using hjobId⟩

theorem Inv.attempt_of_lease (hinv : db.Inv) (hjob : db.job? k = some job)
    {attempt : JobAttempt} (hattempt : attempt ∈ db.jobAttempts.rows)
    (hlease : job.leaseId = some attempt.leaseId) :
    attempt.backgroundJobId = k ∧ attempt.state = .active := by
  obtain ⟨holder, hholder, hsame, hactive, hid⟩ := hinv.holder hjob hlease
  obtain rfl : holder = attempt :=
    Table.eq_of_key jobAttemptSchema_keyedBy_leaseId hholder hattempt hsame
  exact ⟨hid, hactive⟩

section Updates

variable {selectsJob : BackgroundJob → Bool} {dataJob : BackgroundJob → BackgroundJob}
  {backgroundJobs : Table backgroundJobSchema} {jobAttempts : Table jobAttemptSchema}
  {jobOutbox : Table jobOutboxSchema} {leaseId : String} {selects : JobAttempt → Bool}
  {data : JobAttempt → JobAttempt} {attempt : JobAttempt}

theorem job?_update {job : BackgroundJob} (hjob : db.job? k = some job)
    (hselects : selectsJob job)
    (hrows : backgroundJobs.rows = db.backgroundJobs.rows.map fun row =>
      if row.id == k && selectsJob row then dataJob row else row)
    (hkeep : ∀ row, (dataJob row).id = row.id) (id : String) :
    (db.setBackgroundJobs backgroundJobs).job? id =
      if id = k then some (dataJob job) else db.job? id := by
  have hlookup := Table.lookup_map (k := id) hrows fun row _ => hkeep row
  unfold job? at hjob ⊢
  show backgroundJobs.lookup BackgroundJob.id id = _
  rw [hlookup]
  by_cases hid : id = k
  · subst hid
    rw [hjob]
    simp [(Table.lookup_spec hjob).2, hselects]
  · rw [if_neg hid]
    cases hother : db.backgroundJobs.lookup BackgroundJob.id id with
    | none => rfl
    | some row =>
      have hrow := (Table.lookup_spec hother).2
      simp [hrow, hid]

theorem view_update_other {job' : BackgroundJob}
    (hjobs : ∀ id, (db.setBackgroundJobs backgroundJobs).job? id =
      if id = k then some job' else db.job? id) {id : String} (hid : id ≠ k) :
    (db.setBackgroundJobs backgroundJobs).view id = db.view id := by
  refine JobView.ext ?_ rfl rfl
  show Option.map _ (job? _ id) = Option.map _ (job? _ id)
  rw [hjobs id, if_neg hid]

theorem sameViews_jobs
    (hrows : backgroundJobs.rows = db.backgroundJobs.rows.map fun row =>
      if selectsJob row then dataJob row else row)
    (hkeep : ∀ row, (dataJob row).id = row.id)
    (hsummary : ∀ row, (dataJob row).summary = row.summary) :
    db.SameViews (db.setBackgroundJobs backgroundJobs) := by
  intro id
  refine JobView.ext ?_ rfl rfl
  show Option.map _ (backgroundJobs.lookup _ id) = Option.map _ (Table.lookup _ _ id)
  rw [Table.lookup_map hrows fun row _ => hkeep row, Option.map_map]
  congr 1
  funext row
  simp only [Function.comp_apply]
  split
  · exact hsummary row
  · rfl

private theorem attemptsOf_update (hrows : jobAttempts.rows = db.jobAttempts.rows.map fun row =>
      if row.leaseId == leaseId && selects row then data row else row)
    (hkeep : ∀ row, (data row).backgroundJobId = row.backgroundJobId) (id : String) :
    (db.setJobAttempts jobAttempts).attemptsOf id =
      (db.attemptsOf id).map fun row =>
        if row.leaseId == leaseId && selects row then data row else row :=
  Table.filter_map hrows fun row _ => hkeep row

theorem sameViews_attempts (hrows : jobAttempts.rows = db.jobAttempts.rows.map fun row =>
      if row.leaseId == leaseId && selects row then data row else row)
    (hkeep : ∀ row, (data row).backgroundJobId = row.backgroundJobId)
    (hsummary : ∀ row, (data row).summary = row.summary) :
    db.SameViews (db.setJobAttempts jobAttempts) := by
  intro id
  have hattempts := attemptsOf_update hrows hkeep id
  refine JobView.ext rfl ?_ rfl
  show List.map _ (attemptsOf _ id) = List.map _ (attemptsOf _ id)
  rw [hattempts, map_map]
  refine map_congr_left fun row _ => ?_
  simp only [Function.comp_apply]
  split
  · exact hsummary row
  · rfl

theorem view_attempts_close {state : JobAttemptState}
    (hrows : jobAttempts.rows = db.jobAttempts.rows.map fun row =>
      if row.leaseId == leaseId && selects row then data row else row)
    (hkeep : ∀ row, (data row).backgroundJobId = row.backgroundJobId)
    (hsummary : ∀ row, (data row).summary = { row.summary with state })
    (hmem : attempt ∈ db.jobAttempts.rows)
    (hlease : attempt.leaseId = leaseId) (hselects : selects attempt)
    (hactive : attempt.state = .active) (id : String) :
    ((db.setJobAttempts jobAttempts).view id).attempts =
      closeAttempt leaseId state (db.view id).attempts := by
  have hattempts := attemptsOf_update hrows hkeep id
  show List.map _ (attemptsOf _ id) = closeAttempt _ _ (List.map _ (attemptsOf _ id))
  rw [hattempts, closeAttempt, map_map, map_map]
  refine map_congr_left fun row hrow => ?_
  simp only [Function.comp_apply]
  by_cases hrowLease : row.leaseId = leaseId
  · obtain rfl : attempt = row := Table.eq_of_key jobAttemptSchema_keyedBy_leaseId hmem
      (mem_filter.mp hrow).1 (hlease.trans hrowLease.symm)
    have hrowSelected : (attempt.leaseId == leaseId && selects attempt) = true := by
      simp [hlease, hselects]
    have hsummarySelected : (attempt.summary.leaseId == leaseId &&
        attempt.summary.state == .active) = true := by
      simp [JobAttempt.summary, hlease, hactive]
    rw [if_pos hrowSelected, hsummary, if_pos hsummarySelected]
  · simp [hrowLease, JobAttempt.summary]

theorem closeAttempt_other (hmem : attempt ∈ db.jobAttempts.rows)
    {state : JobAttemptState} {id : String} (hid : id ≠ attempt.backgroundJobId) :
    closeAttempt attempt.leaseId state (db.view id).attempts = (db.view id).attempts := by
  refine (map_congr_left fun summary hsummary => ?_).trans (map_id _)
  obtain ⟨row, hrow, rfl⟩ := mem_map.mp hsummary
  obtain ⟨hrowMem, hrowId⟩ := mem_filter.mp hrow
  have hne : row.leaseId ≠ attempt.leaseId := by
    intro heq
    obtain rfl : row = attempt :=
      Table.eq_of_key jobAttemptSchema_keyedBy_leaseId hrowMem hmem heq
    have hrowId' : row.backgroundJobId = id := by simpa using hrowId
    exact hid hrowId'.symm
  simp [JobAttempt.summary, hne]

theorem outboxOf_update {selects : JobOutbox → Bool} {data : JobOutbox → JobOutbox}
    (hrows : jobOutbox.rows = db.jobOutbox.rows.map fun row =>
      if selects row then data row else row)
    (hkeep : ∀ row, (data row).backgroundJobId = row.backgroundJobId) (id : String) :
    (db.setJobOutbox jobOutbox).outboxOf id =
      (db.outboxOf id).map fun row => if selects row then data row else row :=
  Table.lookup_map hrows fun row _ => hkeep row

theorem outboxOf_update_self {selects : JobOutbox → Bool} {data : JobOutbox → JobOutbox}
    {outbox : JobOutbox} (houtbox : db.outboxOf k = some outbox) (hselects : selects outbox)
    (hrows : jobOutbox.rows = db.jobOutbox.rows.map fun row =>
      if row.backgroundJobId == k && selects row then data row else row)
    (hkeep : ∀ row, (data row).backgroundJobId = row.backgroundJobId) (id : String) :
    (db.setJobOutbox jobOutbox).outboxOf id =
      if id = k then some (data outbox) else db.outboxOf id := by
  rw [outboxOf_update hrows hkeep id]
  by_cases hid : id = k
  · subst hid
    rw [houtbox]
    simp [(Table.lookup_spec houtbox).2, hselects]
  · rw [if_neg hid]
    cases hother : db.outboxOf id with
    | none => rfl
    | some row =>
      have hrow := (Table.lookup_spec hother).2
      simp [hrow, hid]

theorem sameViews_outbox {selects : JobOutbox → Bool} {data : JobOutbox → JobOutbox}
    (hrows : jobOutbox.rows = db.jobOutbox.rows.map fun row =>
      if selects row then data row else row)
    (hkeep : ∀ row, (data row).backgroundJobId = row.backgroundJobId)
    (hsummary : ∀ row, (data row).summary = row.summary) :
    db.SameViews (db.setJobOutbox jobOutbox) := by
  intro id
  refine JobView.ext rfl rfl ?_
  show Option.map _ (outboxOf _ id) = Option.map _ (outboxOf _ id)
  rw [outboxOf_update hrows hkeep id, Option.map_map]
  congr 1
  funext row
  simp only [Function.comp_apply]
  split
  · exact hsummary row
  · rfl

theorem attemptsOf_append {row : JobAttempt}
    (hrows : jobAttempts.rows = db.jobAttempts.rows ++ [row]) (id : String) :
    (db.setJobAttempts jobAttempts).attemptsOf id =
      db.attemptsOf id ++ if row.backgroundJobId = id then [row] else [] := by
  show List.filter _ jobAttempts.rows = _
  rw [hrows, filter_append]
  by_cases hid : row.backgroundJobId = id <;> simp [attemptsOf, hid]

theorem leaseId_ne_of_append {row : JobAttempt}
    (hrows : jobAttempts.rows = db.jobAttempts.rows ++ [row])
    (hmem : attempt ∈ db.jobAttempts.rows) : attempt.leaseId ≠ row.leaseId :=
  Table.lookup_eq_none.mp
    (Table.lookup_eq_none_of_append jobAttemptSchema_keyedBy_leaseId hrows) attempt hmem

theorem mem_of_view {summary : AttemptSummary} (h : summary ∈ (db.view k).attempts) :
    ∃ attempt ∈ db.jobAttempts.rows, attempt.backgroundJobId = k ∧
      attempt.summary = summary := by
  obtain ⟨attempt, hattempt, hsummary⟩ := mem_map.mp h
  obtain ⟨hmem, hid⟩ := mem_filter.mp hattempt
  exact ⟨attempt, hmem, by simpa using hid, hsummary⟩

end Updates

/-- Only the outbox table has changed, and what matters of one row by a function. -/
def OutboxMoves (db : Database App) (id : String) (change : OutboxSummary → OutboxSummary)
    (db' : Database App) : Prop :=
  ∃ jobOutbox, db' = db.setJobOutbox jobOutbox ∧ ∀ other, (db'.view other).outbox =
    if other = id then (db.view other).outbox.map change else (db.view other).outbox

end Database

theorem ensures_jobOutbox_moves {App : Type} {db : Database App} {k : String}
    {data : JobOutbox → JobOutbox} {selects : JobOutbox → Bool}
    {change : OutboxSummary → OutboxSummary}
    (haccepted : ∀ row, row.Accepted → selects row → (data row).Accepted)
    (hkeep : ∀ row, (data row).backgroundJobId = row.backgroundJobId)
    (hselected : ∀ row, selects row → (data row).summary = change row.summary)
    (hskipped : ∀ row, selects row = false → row.summary = change row.summary) :
    (jobOutbox.updateMany data fun row => row.backgroundJobId == k && selects row).Ensures
      (fun _ db' => db.OutboxMoves k change db') JobError.Unchecked db := by
  refine ensures_jobOutbox_updateMany (.inr unchecked_unique) (fun hnone => ?_) fun outbox houtbox hselects => ?_
  · refine ⟨db.jobOutbox, rfl, fun other => ?_⟩
    by_cases hother : other = k
    · subst hother
      rw [if_pos rfl]
      show Option.map _ (db.outboxOf other) = Option.map _ (Option.map _ (db.outboxOf other))
      cases houtbox : db.outboxOf other with
      | none => rfl
      | some outbox => exact congrArg some (hskipped outbox (hnone outbox houtbox))
    · rw [if_neg hother]
  · have hmem := (Table.lookup_spec houtbox).1
    refine ⟨haccepted _ (Database.accepted_of_mem_jobOutbox hmem) hselects, fun t hrows => ?_⟩
    have hupdate := Database.outboxOf_update_self houtbox hselects hrows hkeep
    refine ⟨t, rfl, fun other => ?_⟩
    show Option.map _ (Database.outboxOf _ other) = _
    rw [hupdate other]
    by_cases hother : other = k
    · subst hother
      rw [if_pos rfl, if_pos rfl]
      show _ = Option.map _ (Option.map _ (db.outboxOf other))
      rw [houtbox]
      exact congrArg some (hselected outbox hselects)
    · rw [if_neg hother, if_neg hother]
      rfl

end ContentAutomation
