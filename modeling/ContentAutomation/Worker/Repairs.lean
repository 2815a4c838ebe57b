import ContentAutomation.Library.Allowance
import ContentAutomation.Worker.Work

/-!
# Requests that may be sent once

The works of a system share an allowance for one request of some kind. A work takes it
with a statement, which spends the allowance in the database, and sends the request
afterwards. What is said here of one allowance holds for every script: a move keeps it,
unless it takes an allowance that is spent.
-/

namespace ContentAutomation

open Function

variable {App Request Answer Local : Type}

namespace WorkView

/-- The work of a handler has taken the allowance, and has not sent its request yet. The
states in which it has are told by the job and the period of the attempt. -/
def Holds (takes : String → ℕ → Local → Prop) (v : WorkView App Request Local) (pid : ℕ) : Prop :=
  ∃ attempt state, v.attempts pid = some attempt ∧ attempt.work = .running state ∧
    takes attempt.jobId attempt.period state

/-- The requests of one kind are under an allowance. -/
def Allowed (takes : String → ℕ → Local → Prop) (uses : SentRequest Request → Bool)
    (spent : Prop) (v : WorkView App Request Local) : Prop :=
  Allowance (v.Holds takes) (v.sent.countP uses) spent

/-- No work has begun and nothing was sent before the retries that were granted. -/
structure Timely (v : WorkView App Request Local) : Prop where
  attempts : ∀ pid attempt, v.attempts pid = some attempt →
    attempt.period ≤ v.retried.count attempt.jobId
  sent : ∀ entry ∈ v.sent, entry.period ≤ v.retried.count entry.jobId

end WorkView

section Moves

variable {script : Script App Request Answer Local}
  {others : List AnalysisJob × App → List AnalysisJob × App → Prop}
  {v v' : WorkView App Request Local} {event : WorkEvent App Answer}
  {takes : String → ℕ → Local → Prop} {uses : SentRequest Request → Bool} {spent spent' : Prop}
  {attempt : Attempt App Local}

/-- A work that goes on to a state which has not taken the allowance holds none, and the
others hold what they held. -/
theorem WorkView.holds_update {pid : ℕ}
    (hwork : ∀ state, attempt.work = .running state → ¬ takes attempt.jobId attempt.period state)
    (hattempts : v'.attempts = update v.attempts pid (some attempt)) (other : ℕ)
    (h : v'.Holds takes other) : v.Holds takes other ∧ other ≠ pid := by
  obtain ⟨held, state, hheld, hrunning, htakes⟩ := h
  rw [hattempts] at hheld
  by_cases hother : other = pid
  · subst hother
    rw [update_self] at hheld
    cases hheld
    exact absurd htakes (hwork state hrunning)
  · rw [update_of_ne hother] at hheld
    exact ⟨⟨held, state, hheld, hrunning, htakes⟩, hother⟩

private theorem WorkView.holds_update_or {pid : ℕ}
    (hattempts : v'.attempts = update v.attempts pid (some attempt)) (other : ℕ)
    (h : v'.Holds takes other) : v.Holds takes other ∨ other = pid := by
  obtain ⟨held, state, hheld, hrunning, htakes⟩ := h
  rw [hattempts] at hheld
  by_cases hother : other = pid
  · exact .inr hother
  · rw [update_of_ne hother] at hheld
    exact .inl ⟨held, state, hheld, hrunning, htakes⟩

/-- What the script of the works has to obey for its requests of one kind: it takes the
allowance only with a statement, and sends such a request only after it has. -/
structure Script.Obeys (script : Script App Request Answer Local)
    (takes : String → ℕ → Local → Prop) (uses : SentRequest Request → Bool) : Prop where
  start : ∀ delivery claim period,
    ¬ takes delivery.envelope.domainJobId period (script.start delivery claim)
  goOn : ∀ {work state}, LocalMove script work (.running state) →
    ∀ jobId period, ¬ takes jobId period state
  send : ∀ {state request resume}, script.next state = .request request resume →
    ∀ jobId period, uses ⟨jobId, period, request⟩ = true → takes jobId period state

/-- **Step lemma.** A move keeps an allowance, unless a statement takes one that is spent. -/
theorem WorkView.Allowed.move (hscript : script.Obeys takes uses)
    (h : v.Allowed takes uses spent) (hspent : spent → spent')
    (htake : ∀ {pid attempt state run db}, event = .statement pid → v.attempts pid = some attempt →
      attempt.work = .running state → script.next state = .statement run →
      db.contents = (v.analysisJobs, v.app) → takes attempt.jobId attempt.period (run db).2 →
      ¬ spent ∧ ((v'.analysisJobs, v'.app) = (run db).1 → spent'))
    (hmove : WorkMove script others event v v') : v'.Allowed takes uses spent' := by
  cases hmove with
  | idle | retry | commit | others => exact Allowance.mono h (fun _ hholds => hholds) hspent
  | begin hnew hperiod =>
    apply Allowance.mono h (fun other hholds => (holds_update ?_ rfl other hholds).1) hspent
    rintro state ⟨⟩
    exact hscript.start _ _ _
  | @goOn _ _ pid attempt work hattempt hmove =>
    apply Allowance.mono h (fun other hholds => (holds_update ?_ rfl other hholds).1) hspent
    rintro state hrunning
    have hrunning' : work = .running state := hrunning
    rw [hrunning'] at hmove
    exact hscript.goOn hmove _ _
  | @statement _ pid attempt state run db hattempt hwork hnext hcontents =>
    by_cases htakes : takes attempt.jobId attempt.period (run db).2
    · obtain ⟨hfree, hspends⟩ := htake rfl hattempt hwork hnext hcontents htakes
      exact Allowance.take h hfree (fun other hholds => holds_update_or rfl other hholds)
        (hspends rfl)
    · apply Allowance.mono h (fun other hholds => (holds_update ?_ rfl other hholds).1) hspent
      rintro state ⟨⟩
      exact htakes
  | @send _ pid attempt state request resume hattempt hwork hnext =>
    have hrest : ∀ other, WorkView.Holds takes
        { v with
          attempts := update v.attempts pid (some { attempt with work := .awaiting state })
          sent := ⟨attempt.jobId, attempt.period, request⟩ :: v.sent } other →
        v.Holds takes other ∧ other ≠ pid := fun other hholds =>
      holds_update (by rintro state ⟨⟩) rfl other hholds
    unfold WorkView.Allowed
    by_cases huses : uses ⟨attempt.jobId, attempt.period, request⟩ = true
    · rw [List.countP_cons_of_pos huses]
      exact Allowance.use h ⟨attempt, state, hattempt, hwork, hscript.send hnext _ _ huses⟩ hrest
        hspent
    · rw [List.countP_cons_of_neg huses]
      exact Allowance.mono h (fun other hholds => (hrest other hholds).1) hspent

/-- A move keeps the periods. -/
theorem WorkView.Timely.move (h : v.Timely) (hmove : WorkMove script others event v v') :
    v'.Timely := by
  -- a work that goes on keeps its period
  have hupdate : ∀ {pid : ℕ} {attempt held : Attempt App Local} {other : ℕ},
      attempt.period ≤ v.retried.count attempt.jobId →
      update v.attempts pid (some attempt) other = some held →
      held.period ≤ v.retried.count held.jobId := by
    intro pid attempt held other hperiod hheld
    by_cases hother : other = pid
    · subst hother
      rw [update_self] at hheld
      cases hheld
      exact hperiod
    · rw [update_of_ne hother] at hheld
      exact h.attempts other held hheld
  cases hmove with
  | idle | commit | others => exact ⟨h.attempts, h.sent⟩
  | @retry _ _ jobId workspaceId =>
    have hcount : ∀ other, v.retried.count other ≤ (jobId :: v.retried).count other := fun other =>
      List.count_le_count_cons
    constructor
    · intro pid attempt hattempt
      exact (h.attempts pid attempt hattempt).trans (hcount _)
    · intro entry hentry
      exact (h.sent entry hentry).trans (hcount _)
  | begin hnew hperiod => exact ⟨fun _ _ => hupdate hperiod, h.sent⟩
  | goOn hattempt | statement hattempt =>
    have hperiod := h.attempts _ _ hattempt
    exact ⟨fun _ _ => hupdate hperiod, h.sent⟩
  | send hattempt hwork hnext =>
    have hperiod := h.attempts _ _ hattempt
    refine ⟨fun _ _ => hupdate hperiod, ?_⟩
    intro entry hentry
    rcases List.mem_cons.mp hentry with rfl | hbefore
    · exact hperiod
    · exact h.sent entry hbefore

theorem WorkView.Timely.allowed (h : v.Timely)
    (htakes : ∀ {jobId period state}, takes jobId period state → v.retried.count jobId < period)
    (huses : ∀ entry, uses entry → v.retried.count entry.jobId < entry.period) :
    v.Allowed takes uses spent := by
  have hnone : v.sent.countP uses = 0 := by
    rw [List.countP_eq_zero]
    intro entry hentry hused
    have hlate := huses entry hused
    have hbound := h.sent entry hentry
    omega
  unfold WorkView.Allowed
  rw [hnone]
  apply Allowance.fresh
  rintro pid ⟨attempt, state, hattempt, -, hheld⟩
  have hlate := htakes hheld
  have hbound := h.attempts pid attempt hattempt
  omega

end Moves

end ContentAutomation
