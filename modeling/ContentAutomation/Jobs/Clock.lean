import ContentAutomation.Jobs.Frames

/-!
# The clock

No transaction moves the clock of the database: it moves only when time passes, and
never backwards.
-/

namespace ContentAutomation

open Relational Transaction

variable {App α : Type} {environment : Environment App} {s t : System App} {event : Event App}

namespace System

private theorem clock_perform (call : Call App α) : (s.perform call).2.db.clock = s.db.clock := by
  have hkeeps := (call.keeps (fun _ => inferInstance : _ → OutsideAnalyses Database.clock)
    fun _ => inferInstance).commit s.db
  unfold perform
  generalize call.body.commit s.db = result at hkeeps
  obtain ⟨answer, db⟩ := result
  cases answer <;> exact hkeeps

/-- **The clock.** It never goes back. -/
theorem Step.clock_le (hstep : Step environment s event t) : s.db.clock ≤ t.db.clock := by
  cases event with
  | tick elapsed =>
    cases hstep
    have hnonneg : (0 : ℤ) ≤ elapsed := Int.natCast_nonneg elapsed
    simp only
    omega
  | write internalUsers analysisJobs app =>
    cases hstep
    exact Int.le_refl _
  | command command =>
    obtain ⟨-, rfl⟩ := hstep.of_command
    exact (clock_perform _).ge
  | spawn pid birth =>
    simp only [Step, step] at hstep
    split at hstep <;> cases hstep
    exact Int.le_refl _
  | crash pid =>
    cases hstep
    exact Int.le_refl _
  | advance pid input =>
    simp only [Step, step, System.runIntent] at hstep
    split at hstep
    · cases hstep
    · split at hstep <;> cases hstep
      exact (clock_perform _).ge

end System

end ContentAutomation
