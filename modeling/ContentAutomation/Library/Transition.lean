import Mathlib.Logic.Relation
import Mathlib.Tactic.Common

/-!
# Labelled transition systems

A system is a step relation labelled by events. Runs are sequences of steps
that remember every state they leave, so that a property can speak about the
whole history of a run. The rules below turn facts about one step into facts
about every run.
-/

namespace Transition

variable {σ ε : Type*}

/-- A run from `s` to `t`, with the list of the states it left and of the
events it took, latest first. -/
inductive Run (step : σ → ε → σ → Prop) (s : σ) : List (σ × ε) → σ → Prop
  | refl : Run step s [] s
  | tail {history : List (σ × ε)} {t u : σ} {event : ε} :
      Run step s history t → step t event u → Run step s ((t, event) :: history) u

/-- A state that some run from `s` ends in. -/
def Reachable (step : σ → ε → σ → Prop) (s t : σ) : Prop := ∃ history, Run step s history t

/-- The steps of a system whose event is allowed by a condition on the state
before the step. -/
def Restricted (step : σ → ε → σ → Prop) (allowed : σ → ε → Prop) (s : σ) (event : ε) (t : σ) :
    Prop := allowed s event ∧ step s event t

section Rules

variable {step : σ → ε → σ → Prop} {s t u : σ} {history : List (σ × ε)}

theorem Reachable.refl : Reachable step s s := ⟨[], .refl⟩

theorem Reachable.tail {event : ε} (h : Reachable step s t) (hstep : step t event u) :
    Reachable step s u := by
  obtain ⟨history, hrun⟩ := h
  exact ⟨(t, event) :: history, .tail hrun hstep⟩

theorem Reachable.trans (h : Reachable step s t) (h' : Reachable step t u) :
    Reachable step s u := by
  obtain ⟨history, hrun⟩ := h'
  induction hrun with
  | refl => exact h
  | tail _ hstep ih => exact ih.tail hstep

/-- **The invariant rule.** What holds initially and is preserved by every
step holds in every reachable state. -/
theorem Reachable.invariant {I : σ → Prop} (h : Reachable step s t) (hinit : I s)
    (hstep : ∀ {t u event}, I t → step t event u → I u) : I t := by
  obtain ⟨history, hrun⟩ := h
  induction hrun with
  | refl => exact hinit
  | tail _ hlast ih => exact hstep ih hlast

theorem Reachable.of_restricted {allowed : σ → ε → Prop}
    (h : Reachable (Restricted step allowed) s t) : Reachable step s t := by
  refine h.invariant Reachable.refl ?_
  intro t u event ih hstep
  exact ih.tail hstep.2

theorem Run.restricted {allowed : σ → ε → Prop} (h : Run step s history t)
    (hallowed : ∀ visited ∈ history, allowed visited.1 visited.2) :
    Run (Restricted step allowed) s history t := by
  induction h with
  | refl => exact .refl
  | @tail history t u event hrun hlast ih =>
    have hearlier := ih fun visited hmem => hallowed visited (List.mem_cons_of_mem _ hmem)
    exact hearlier.tail ⟨hallowed (t, event) List.mem_cons_self, hlast⟩

/-- **The history rule.** Every entry of a history is a state that a run left by its
event, and the run went on from there. -/
theorem Run.mem_history (h : Run step s history t) {visited : σ × ε} (hmem : visited ∈ history) :
    Reachable step s visited.1 ∧ ∃ next, step visited.1 visited.2 next ∧ Reachable step next t := by
  induction h with
  | refl => cases hmem
  | @tail history t u event hrun hlast ih =>
    rcases List.mem_cons.mp hmem with rfl | hearlier
    · exact ⟨⟨history, hrun⟩, u, hlast, Reachable.refl⟩
    · obtain ⟨hbefore, next, hstep, hafter⟩ := ih hearlier
      exact ⟨hbefore, next, hstep, hafter.tail hlast⟩

end Rules

section Replay

variable {next : σ → ε → Option σ} {s t u : σ} {history history' : List (σ × ε)}

/-- Take the given events one after the other, and extend a history by the states
that are left. -/
def replay (next : σ → ε → Option σ) (history : List (σ × ε)) (s : σ) :
    List ε → Option (List (σ × ε) × σ)
  | [] => some (history, s)
  | event :: events =>
    match next s event with
    | none => none
    | some t => replay next ((s, event) :: history) t events

theorem replay_append (events events' : List ε) : replay next history s (events ++ events') =
    (replay next history s events).bind fun result => replay next result.1 result.2 events' := by
  induction events generalizing history s with
  | nil => rfl
  | cons event events ih =>
    rw [List.cons_append, replay, replay]
    cases next s event with
    | none => rfl
    | some t => exact ih

theorem Run.replay (h : Run (fun s event t => next s event = some t) s history t) {events : List ε}
    (hreplay : Transition.replay next history t events = some (history', u)) :
    Run (fun s event t => next s event = some t) s history' u := by
  induction events generalizing history t with
  | nil =>
    cases hreplay
    exact h
  | cons event events ih =>
    unfold Transition.replay at hreplay
    split at hreplay
    · cases hreplay
    · next t' hnext => exact ih (h.tail hnext) hreplay

variable {allowed : σ → ε → Prop} [∀ s event, Decidable (allowed s event)]

/-- Take the given events one after the other, as long as each is allowed. -/
def replayWithin (next : σ → ε → Option σ) (allowed : σ → ε → Prop)
    [∀ s event, Decidable (allowed s event)] (s : σ) : List ε → Option σ
  | [] => some s
  | event :: events =>
    if allowed s event then
      match next s event with
      | none => none
      | some t => replayWithin next allowed t events
    else none

/-- A replay of allowed events that comes to an end extends a restricted run. -/
theorem Reachable.replayWithin
    (h : Reachable (Restricted (fun s event t => next s event = some t) allowed) s t)
    {events : List ε} (hreplay : Transition.replayWithin next allowed t events = some u) :
    Reachable (Restricted (fun s event t => next s event = some t) allowed) s u := by
  induction events generalizing t with
  | nil =>
    cases hreplay
    exact h
  | cons event events ih =>
    unfold Transition.replayWithin at hreplay
    split at hreplay
    · next hallowed =>
      split at hreplay
      · cases hreplay
      · next t' hnext => exact ih (h.tail ⟨hallowed, hnext⟩) hreplay
    · cases hreplay

end Replay

end Transition
