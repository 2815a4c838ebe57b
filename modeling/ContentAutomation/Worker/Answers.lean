import ContentAutomation.Worker.Work

/-!
# What works know

What the work of a handler does depends on the answers of its providers and on what it has
read. A script tracks a relation between the tables of the application, the answers that a work
has received and where the work stands, up to its outcome, as long as everybody changes the
tables only in a way that the relation survives. What the tables satisfy may rest on what a
provider answers: then it holds in every run whose requests are answered suitably.
-/

namespace ContentAutomation

open Function

variable {App Request Answer Local : Type}

/-- A relation between answers and a work: one for its states, one for its outcomes. -/
def Work.Tracked (K : List Answer → Local → Prop)
    (D : List Answer → ExecutionOutcome App → Prop) (answers : List Answer) :
    Work App Local → Prop
  | .running state | .calling _ state | .awaiting state => K answers state
  | .done outcome => D answers outcome

/-- What the script has to obey for the tables to satisfy `J`, and for every work to know `K` or
`D` of them and of the answers it has received, if the answers to its requests are such as `A`
says: the tables change only as `R` says. -/
structure Script.Upholds (script : Script App Request Answer Local)
    (A : Request → Answer → Prop) (J : App → Prop) (R : App → App → Prop)
    (K : App → List Answer → Local → Prop)
    (D : App → List Answer → ExecutionOutcome App → Prop) : Prop where
  refl : ∀ app, R app app
  trans : ∀ {app app' app''}, R app app' → R app' app'' → R app app''
  mono : ∀ {app app' answers state}, R app app' → K app answers state → K app' answers state
  monoDone : ∀ {app app' answers outcome}, R app app' → D app answers outcome → D app' answers outcome
  start : ∀ app delivery claim, K app [] (script.start delivery claim)
  callback : ∀ {app answers state kind resume rescue},
    script.next state = .callback kind resume rescue → K app answers state →
      K app answers resume ∧ ∀ error, K app answers (rescue error)
  statement : ∀ {answers state run} (db : Database App), script.next state = .statement run →
    J db.app → K db.app answers state →
      J (run db).1.2 ∧ R db.app (run db).1.2 ∧ K (run db).1.2 answers (run db).2
  request : ∀ {app answers state request resume}, script.next state = .request request resume →
    K app answers state → ∀ answer, A request answer → K app (answer :: answers) (resume answer)
  finish : ∀ {app answers state outcome}, script.next state = .finish outcome → K app answers state →
    D app answers outcome
  commit : ∀ {answers result update} (db : Database App) (written : App),
    CommitEffect.write update ∈ result → update db = some written → J db.app →
      D db.app answers (.returned result) → J written ∧ R db.app written

/-- What the script has to obey whatever the tables satisfy, and whatever is answered. -/
abbrev Script.Tracks (script : Script App Request Answer Local) (R : App → App → Prop)
    (K : App → List Answer → Local → Prop)
    (D : App → List Answer → ExecutionOutcome App → Prop) : Prop :=
  script.Upholds (fun _ _ => True) (fun _ => True) R K D

namespace WorkSystem

/-- The answers that the work of a handler has received, once the event has happened. -/
def receivedAfter (pid : ℕ) (answers : List Answer) : WorkEvent App Answer → List Answer
  | .receive other answer => if other = pid then answer :: answers else answers
  | _ => answers

/-- The answers that the work of a handler has received, latest first. -/
def received (pid : ℕ) :
    List (WorkSystem App Request Local × WorkEvent App Answer) → List Answer
  | [] => []
  | visited :: history => receivedAfter pid (received pid history) visited.2

variable {history : List (WorkSystem App Request Local × WorkEvent App Answer)}
  {v : WorkView App Request Local}

theorem mem_of_received {pid : ℕ} {answer : Answer} (h : answer ∈ received pid history) :
    ∃ visited ∈ history, visited.2 = .receive pid answer := by
  induction history with
  | nil => cases h
  | cons visited history ih =>
    have hearlier : answer ∈ received pid history →
        ∃ earlier ∈ visited :: history, earlier.2 = .receive pid answer := by
      intro hmem
      obtain ⟨earlier, hearlier, hevent⟩ := ih hmem
      exact ⟨earlier, List.mem_cons_of_mem _ hearlier, hevent⟩
    rw [received] at h
    unfold receivedAfter at h
    split at h
    · next other brought hevent =>
      split at h
      · next hother =>
        rcases List.mem_cons.mp h with rfl | hmem
        · exact ⟨visited, List.mem_cons_self, by rw [hevent, hother]⟩
        · exact hearlier hmem
      · exact hearlier h
    · exact hearlier h

/-- If the event answers a request, the answer suits the request. -/
def Suits (script : Script App Request Answer Local) (A : Request → Answer → Prop)
    (s : WorkSystem App Request Local) (event : WorkEvent App Answer) : Prop :=
  ∀ pid answer, event = .receive pid answer → ∀ attempt state request resume,
    s.attempts pid = some attempt → attempt.work = .awaiting state →
      script.next state = .request request resume → A request answer

variable {environment : Environment App} {script : Script App Request Answer Local}
  {others : List AnalysisJob × App → List AnalysisJob × App → Prop}
  {s t : WorkSystem App Request Local} {event : WorkEvent App Answer} {A : Request → Answer → Prop}
  {J : App → Prop} {R : App → App → Prop}
  {K : App → List Answer → Local → Prop} {D : App → List Answer → ExecutionOutcome App → Prop}
  {answers answers' : ℕ → List Answer} {pid : ℕ} {attempt : Attempt App Local}
  {w : WorkView App Request Local}

/-- Every work stands where the answers it has received have brought it. -/
def Tracks (K : App → List Answer → Local → Prop)
    (D : App → List Answer → ExecutionOutcome App → Prop) (answers : ℕ → List Answer)
    (s : WorkSystem App Request Local) : Prop :=
  ∀ pid attempt, s.attempts pid = some attempt →
    attempt.work.Tracked (K s.system.db.app) (D s.system.db.app) (answers pid)

private theorem tracked_mono (hscript : script.Upholds A J R K D) {app app' : App}
    (happ : R app app') {answers : List Answer} {work : Work App Local}
    (h : work.Tracked (K app) (D app) answers) : work.Tracked (K app') (D app') answers := by
  cases work with
  | running | calling | awaiting => exact hscript.mono happ h
  | done => exact hscript.monoDone happ h

theorem Tracks.stay (hscript : script.Upholds A J R K D) (h : Tracks K D answers s)
    (happ : R s.system.db.app t.system.db.app) (hattempts : t.attempts = s.attempts) :
    Tracks K D answers t := by
  intro pid attempt hattempt
  rw [hattempts] at hattempt
  exact tracked_mono hscript happ (h pid attempt hattempt)

theorem Tracks.update (hscript : script.Upholds A J R K D) (h : Tracks K D answers s)
    (happ : R s.system.db.app t.system.db.app)
    (hsame : ∀ other, other ≠ pid → answers' other = answers other)
    (hattempts : t.attempts = update s.attempts pid (some attempt))
    (hattempt : attempt.work.Tracked (K t.system.db.app) (D t.system.db.app) (answers' pid)) :
    Tracks K D answers' t := by
  intro other held hheld
  rw [hattempts] at hheld
  by_cases hother : other = pid
  · subst hother
    rw [update_self] at hheld
    cases hheld
    exact hattempt
  · rw [update_of_ne hother] at hheld
    rw [hsame other hother]
    exact tracked_mono hscript happ (h other held hheld)

/-- Every move keeps the invariant of the tables, and changes them as the script and the others
may. -/
theorem Tracks.related (hscript : script.Upholds A J R K D)
    (hothers : ∀ {before after}, others before after → J before.2 → J after.2 ∧ R before.2 after.2)
    (hJ : J s.system.db.app) (h : Tracks K D answers s)
    (hmove : WorkMove script others event s.view v) : J v.app ∧ R s.system.db.app v.app := by
  cases hmove with
  | idle | retry | begin | goOn | send => exact ⟨hJ, hscript.refl _⟩
  | @commit _ _ app pid attempt result hattempt hwork hwrites =>
    have hdone := h pid attempt hattempt
    rw [hwork] at hdone
    -- one write after the other, each with what the outcome knows of the tables by then
    have hboth := hwrites (fun before after => J before → D before (answers pid) (.returned result) →
        J after ∧ R before after ∧ D after (answers pid) (.returned result))
      (fun app hJ hD => ⟨hJ, hscript.refl app, hD⟩)
      (fun first second hJ hD => by
        obtain ⟨hJ', hR, hD'⟩ := first hJ hD
        obtain ⟨hJ'', hR', hD''⟩ := second hJ' hD'
        exact ⟨hJ'', hscript.trans hR hR', hD''⟩)
      (fun update hupdate db written hwritten hJ hD => by
        obtain ⟨hJ', hR⟩ := hscript.commit db written hupdate hwritten hJ hD
        exact ⟨hJ', hR, hscript.monoDone hR hD⟩)
    obtain ⟨hJ', hR, -⟩ := hboth hJ hdone
    exact ⟨hJ', hR⟩
  | @statement _ pid attempt state run db hattempt hwork hnext hcontents =>
    have hstate := h pid attempt hattempt
    rw [hwork] at hstate
    have happ : db.app = s.system.db.app := congrArg Prod.snd hcontents
    have hstate' : K db.app (answers pid) state := happ ▸ hstate
    obtain ⟨hJ', hR, -⟩ := hscript.statement db hnext (happ ▸ hJ) hstate'
    rw [← happ]
    exact ⟨hJ', hR⟩
  | others hothers' => exact hothers hothers' hJ

private theorem attempts_eq_none_of_move (hmove : WorkMove script others event v w)
    (h : w.attempts pid = none) :
    v.attempts pid = none := by
  have hupdate {other : ℕ} {attempt : Attempt App Local}
      (h : update v.attempts other (some attempt) pid = none) :
      v.attempts pid = none := by
    by_cases hother : pid = other
    · subst hother
      rw [update_self] at h
      cases h
    · rwa [update_of_ne hother] at h
  cases hmove with
  | idle | retry | commit | others => exact h
  | begin | goOn | statement | send => exact hupdate h

private theorem attempts_eq_of_done (hmove : WorkMove script others event v w)
    {outcome : ExecutionOutcome App} (hattempt : v.attempts pid = some attempt)
    (hdone : attempt.work = .done outcome) :
    w.attempts pid = some attempt := by
  have hupdate {other : ℕ} {held after : Attempt App Local}
      (hheld : v.attempts other = some held) (hwork : held.work ≠ .done outcome) :
      update v.attempts other (some after) pid = some attempt := by
    have hother : pid ≠ other := by
      rintro rfl
      rw [hattempt] at hheld
      cases hheld
      exact hwork hdone
    rwa [update_of_ne hother]
  cases hmove with
  | idle | retry | commit | others => exact hattempt
  | @begin _ other delivery claim period hnew =>
    have hother : pid ≠ other := by
      rintro rfl
      rw [hattempt] at hnew
      cases hnew
    show update v.attempts other _ pid = some attempt
    rwa [update_of_ne hother]
  | goOn hheld hmove =>
    refine hupdate hheld ?_
    intro hwork
    rw [hwork] at hmove
    cases hmove
  | statement hheld hwork => exact hupdate hheld (by simp [hwork])
  | send hheld hwork => exact hupdate hheld (by simp [hwork])

private theorem receivedAfter_eq_nil (hmove : WorkMove script others event s.view t.view)
    (hstep : s.step environment script event = some t)
    (hfresh : ∀ pid, s.attempts pid = none → answers pid = []) (hnone : t.attempts pid = none) :
    receivedAfter pid (answers pid) event = [] := by
  have hbefore : s.attempts pid = none := attempts_eq_none_of_move hmove hnone
  unfold receivedAfter
  split
  · next other answer =>
    split_ifs with hother
    · subst hother
      simp [WorkSystem.step, attemptAt, hbefore] at hstep
    · exact hfresh pid hbefore
  · exact hfresh pid hbefore

/-- **Step lemma.** A step whose answer suits its request leaves every work with what it should
know. -/
theorem Tracks.step (hscript : script.Upholds A J R K D) (hJ : J s.system.db.app)
    (h : Tracks K D answers s) (hfresh : ∀ pid, s.attempts pid = none → answers pid = [])
    (happ : R s.system.db.app t.system.db.app) (hsuits : Suits script A s event)
    (hstep : s.step environment script event = some t) :
    Tracks K D (fun pid => receivedAfter pid (answers pid) event) t := by
  have hsame : ∀ pid other : ℕ, other ≠ pid → answers other = answers other := fun _ _ _ => rfl
  have hbefore : ∀ {pid attempt}, s.attemptAt pid = some attempt →
      attempt.work.Tracked (K s.system.db.app) (D s.system.db.app) (answers pid) :=
    fun hattempt => h _ _ (attemptAt_eq_some.mp hattempt).2
  cases event with
  | framework step =>
    simp only [WorkSystem.step] at hstep
    split at hstep
    · obtain ⟨system, -, rfl⟩ := Option.map_eq_some_iff.mp hstep
      exact h.stay hscript happ rfl
    · cases hstep
  | begin pid =>
    simp only [WorkSystem.step] at hstep
    split at hstep
    · next delivery claim _ hnone =>
      cases hstep
      refine h.update hscript happ (hsame pid) rfl ?_
      show K _ (answers pid) (script.start delivery claim)
      rw [hfresh pid hnone]
      exact hscript.start _ delivery claim
    · cases hstep
  | call pid callback calledAt =>
    simp only [WorkSystem.step] at hstep
    split at hstep
    · next jobId period state hattempt =>
      split at hstep
      · obtain ⟨system, -, rfl⟩ := Option.map_eq_some_iff.mp hstep
        exact h.update hscript happ (hsame pid) rfl (hscript.mono happ (hbefore hattempt))
      · cases hstep
    · cases hstep
  | resume pid =>
    simp only [WorkSystem.step] at hstep
    split at hstep
    · next jobId period callback state hattempt =>
      split at hstep
      · next hnext _ =>
        cases hstep
        exact h.update hscript happ (hsame pid) rfl (hscript.callback hnext (hbefore hattempt)).1
      · next hnext _ =>
        cases hstep
        exact h.update hscript happ (hsame pid) rfl
          ((hscript.callback hnext (hbefore hattempt)).2 _)
      · cases hstep
    · cases hstep
  | statement pid =>
    simp only [WorkSystem.step] at hstep
    split at hstep
    · next jobId period state hattempt =>
      split at hstep
      · next run hnext =>
        cases hstep
        exact h.update hscript happ (hsame pid) rfl
          (hscript.statement _ hnext hJ (hbefore hattempt)).2.2
      · cases hstep
    · cases hstep
  | send pid =>
    simp only [WorkSystem.step] at hstep
    split at hstep
    · next jobId period state hattempt =>
      have hstate := hbefore hattempt
      split at hstep
      · cases hstep
        exact h.update hscript happ (hsame pid) rfl hstate
      · cases hstep
    · cases hstep
  | receive pid answer =>
    simp only [WorkSystem.step] at hstep
    split at hstep
    · next jobId period state hattempt =>
      split at hstep
      · next request resume hnext =>
        cases hstep
        have hanswers : ∀ other, other ≠ pid →
            receivedAfter other (answers other) (.receive pid answer : WorkEvent App Answer) =
              answers other := fun other hother => if_neg hother.symm
        refine h.update hscript happ hanswers rfl ?_
        show K _ (receivedAfter pid (answers pid) (.receive pid answer : WorkEvent App Answer)) _
        rw [receivedAfter, if_pos rfl]
        exact hscript.request hnext (hbefore hattempt) answer
          (hsuits pid answer rfl _ state request resume (attemptAt_eq_some.mp hattempt).2 rfl hnext)
      · cases hstep
    · cases hstep
  | finish pid input =>
    simp only [WorkSystem.step] at hstep
    split at hstep
    · next jobId period state hattempt =>
      split at hstep
      · next outcome hnext =>
        cases hstep
        exact h.update hscript happ (hsame pid) rfl (hscript.finish hnext (hbefore hattempt))
      · cases hstep
    · obtain ⟨system, -, rfl⟩ := Option.map_eq_some_iff.mp hstep
      exact h.stay hscript happ rfl
    · cases hstep
  | others analysisJobs app =>
    cases hstep
    exact h.stay hscript happ rfl

/-- **The rule of works.** In every run whose requests are answered suitably, the tables satisfy
the invariant and every work knows what it should. -/
theorem Tracks.run (hscript : script.Upholds A J R K D)
    (hothers : ∀ {before after}, others before after → J before.2 → J after.2 ∧ R before.2 after.2)
    (hinv : s.Inv) (hJ : J s.system.db.app) (hinit : ∀ pid, s.attempts pid = none)
    (hrun : Transition.Run
      (Transition.Restricted (Step environment script others) (Suits script A)) s history t) :
    t.Inv ∧ J t.system.db.app ∧ Tracks K D (fun pid => received pid history) t := by
  suffices h : (t.Inv ∧ J t.system.db.app ∧ Tracks K D (fun pid => received pid history) t) ∧
      ∀ pid, t.attempts pid = none → received pid history = [] from h.1
  induction hrun with
  | refl =>
    refine ⟨⟨hinv, hJ, ?_⟩, fun _ _ => rfl⟩
    intro pid attempt hattempt
    rw [hinit pid] at hattempt
    cases hattempt
  | tail _ hstep ih =>
    obtain ⟨hsuits, hstep⟩ := hstep
    obtain ⟨⟨hinv, hJ, htracks⟩, hfresh⟩ := ih
    obtain ⟨hafter, hmove⟩ := hinv.step hstep
    obtain ⟨hJ', happ⟩ := htracks.related hscript hothers hJ hmove
    exact ⟨⟨hafter, hJ', htracks.step hscript hJ hfresh happ hsuits hstep.2⟩,
      fun pid => receivedAfter_eq_nil hmove hstep.2 hfresh⟩

/-- What the script tracks whatever is answered holds of every work in every run. -/
theorem Tracks.of_run (hscript : script.Tracks R K D)
    (hothers : ∀ {before after}, others before after → R before.2 after.2) (hinv : s.Inv)
    (hinit : ∀ pid, s.attempts pid = none)
    (hrun : Transition.Run (Step environment script others) s history t) :
    t.Inv ∧ Tracks K D (fun pid => received pid history) t := by
  obtain ⟨hinv, -, htracks⟩ := Tracks.run hscript (fun h _ => ⟨trivial, hothers h⟩) hinv trivial
    hinit (hrun.restricted fun _ _ _ _ _ _ _ _ _ _ _ _ => trivial)
  exact ⟨hinv, htracks⟩

section Rows

variable {Row : Type} {rows : App → List Row} {row : Row} {result : List (CommitEffect App)}

/-- A result brings a row: one of its writes does, on some tables. -/
def Brings (rows : App → List Row) (result : List (CommitEffect App)) (row : Row) : Prop :=
  ∃ update, CommitEffect.write update ∈ result ∧ ∃ (db : Database App) (written : App),
    update db = some written ∧ row ∈ rows written ∧ row ∉ rows db.app

/-- A work has returned a result that brings the row. -/
def BroughtBy (rows : App → List Row) (s : WorkSystem App Request Local) (pid : ℕ)
    (row : Row) : Prop :=
  ∃ attempt result, s.attempts pid = some attempt ∧ attempt.work = .done (.returned result) ∧
    Brings rows result row

theorem BroughtBy.stay (h : BroughtBy rows s pid row)
    (hmove : WorkMove script others event s.view t.view) : BroughtBy rows t pid row := by
  obtain ⟨attempt, result, hattempt, hwork, hbrings⟩ := h
  exact ⟨attempt, result, attempts_eq_of_done hmove hattempt hwork, hwork, hbrings⟩

/-- **Step lemma.** If statements and others bring no rows, a row that a step brings comes of
the result of a work. -/
theorem broughtBy_of_move
    (hothers : ∀ {before after}, others before after → rows after.2 ⊆ rows before.2)
    (hstatement : ∀ {state run} (db : Database App), script.next state = .statement run →
      rows (run db).1.2 ⊆ rows db.app) (hmove : WorkMove script others event s.view v)
    (hrow : row ∈ rows v.app) :
    row ∈ rows s.system.db.app ∨ ∃ pid, BroughtBy rows s pid row := by
  cases hmove with
  | idle | retry | begin | goOn | send => exact .inl hrow
  | others hothers' => exact .inl (hothers hothers' hrow)
  | @statement _ pid attempt state run db hattempt hwork hnext hcontents =>
    have happ : db.app = s.system.db.app := congrArg Prod.snd hcontents
    rw [← happ]
    exact .inl (hstatement db hnext hrow)
  | @commit _ _ app pid attempt result hattempt hwork hwrites =>
    have hall : ∀ row ∈ rows app, row ∈ rows s.system.db.app ∨ Brings rows result row := by
      apply hwrites fun before after =>
        ∀ row ∈ rows after, row ∈ rows before ∨ Brings rows result row
      · exact fun _ _ hmem => .inl hmem
      · intro app app' app'' h h' row hmem
        rcases h' row hmem with hmem | hbrings
        · exact h row hmem
        · exact .inr hbrings
      · intro update hupdate db written hwritten row hmem
        by_cases hold : row ∈ rows db.app
        · exact .inl hold
        · exact .inr ⟨update, hupdate, db, written, hwritten, hmem, hold⟩
    rcases hall row hrow with hold | hbrings
    · exact .inl hold
    · exact .inr ⟨pid, attempt, result, hattempt, hwork, hbrings⟩

/-- **The rule of rows.** If statements and others bring no rows, every row that a run has
brought comes of the result of a work. -/
theorem broughtBy_of_run
    (hothers : ∀ {before after}, others before after → rows after.2 ⊆ rows before.2)
    (hstatement : ∀ {state run} (db : Database App), script.next state = .statement run →
      rows (run db).1.2 ⊆ rows db.app)
    (hinv : s.Inv)
    (hrun : Transition.Run (Step environment script others) s history t) :
    t.Inv ∧ ∀ row ∈ rows t.system.db.app,
      row ∈ rows s.system.db.app ∨ ∃ pid, BroughtBy rows t pid row := by
  induction hrun with
  | refl => exact ⟨hinv, fun _ hrow => .inl hrow⟩
  | tail _ hstep ih =>
    obtain ⟨hinv, hbrought⟩ := ih
    obtain ⟨hafter, hmove⟩ := hinv.step hstep
    refine ⟨hafter, ?_⟩
    intro row hrow
    rcases broughtBy_of_move hothers hstatement hmove hrow with hold | ⟨pid, hpid⟩
    · rcases hbrought row hold with hfirst | ⟨pid, hpid⟩
      · exact .inl hfirst
      · exact .inr ⟨pid, hpid.stay hmove⟩
    · exact .inr ⟨pid, hpid.stay hmove⟩

end Rows

/-- One step in which the rest of the application writes nothing. -/
def quietStep (environment : Environment App) (script : Script App Request Answer Local)
    (s : WorkSystem App Request Local) :
    WorkEvent App Answer → Option (WorkSystem App Request Local)
  | .others _ _ => none
  | event => s.step environment script event

theorem Step.of_quiet (h : s.quietStep environment script event = some t) :
    Step environment script others s event t := by
  refine ⟨?_, ?_⟩
  · rintro analysisJobs app rfl
    cases h
  · cases event with
    | others => cases h
    | _ => exact h

theorem run_of_replay {events : List (WorkEvent App Answer)}
    (hreplay : Transition.replay (quietStep environment script) [] s events = some (history, t)) :
    Transition.Run (Step environment script others) s history t := by
  have hquiet := Transition.Run.replay .refl hreplay
  clear hreplay
  induction hquiet with
  | refl => exact .refl
  | tail _ hstep ih => exact ih.tail (Step.of_quiet hstep)

/-! ### Replays -/

/-- The event, in which the request of a work is answered by a function of it. -/
def answering (script : Script App Request Answer Local) (answer : Request → Answer)
    (s : WorkSystem App Request Local) : WorkEvent App Answer → WorkEvent App Answer
  | .receive pid given =>
    match s.attempts pid with
    | some ⟨_, _, .awaiting state⟩ =>
      match script.next state with
      | .request request _ => .receive pid (answer request)
      | _ => .receive pid given
    | _ => .receive pid given
  | event => event

/-- Take the given events one after the other, each request answered by a function of it. -/
def replayAnswering (environment : Environment App) (script : Script App Request Answer Local)
    (answer : Request → Answer) (s : WorkSystem App Request Local) :
    List (WorkEvent App Answer) → Option (WorkSystem App Request Local)
  | [] => some s
  | event :: events =>
    match s.quietStep environment script (s.answering script answer event) with
    | none => none
    | some t => replayAnswering environment script answer t events

private theorem suits_answering {answer : Request → Answer}
    (hanswer : ∀ request, A request (answer request))
    (event : WorkEvent App Answer) : Suits script A s (s.answering script answer event) := by
  rintro pid given hevent ⟨jobId, period, work⟩ state request resume hattempt rfl hnext
  cases event with
  | receive other brought =>
    dsimp only [answering] at hevent
    by_cases hother : other = pid
    · subst hother
      simp only [hattempt, hnext] at hevent
      cases hevent
      exact hanswer request
    · repeat' split at hevent
      all_goals
        injection hevent with hpid
        exact absurd hpid hother
  | _ => cases hevent

/-- **Replays are runs**, whose requests are answered suitably. -/
theorem reachable_of_replayAnswering {answer : Request → Answer}
    (hanswer : ∀ request, A request (answer request)) {events : List (WorkEvent App Answer)}
    (hrun : Transition.Reachable
      (Transition.Restricted (Step environment script others) (Suits script A)) s t)
    {u : WorkSystem App Request Local}
    (hreplay : t.replayAnswering environment script answer events = some u) :
    Transition.Reachable
      (Transition.Restricted (Step environment script others) (Suits script A)) s u := by
  induction events generalizing t with
  | nil =>
    cases hreplay
    exact hrun
  | cons event events ih =>
    unfold replayAnswering at hreplay
    split at hreplay
    · cases hreplay
    · next t' hstep =>
      exact ih (hrun.tail ⟨suits_answering hanswer event, Step.of_quiet hstep⟩) hreplay

end WorkSystem

end ContentAutomation
