import ContentAutomation.Library.Transition

/-!
# Current results

Results are published one after the other, and one of them is current for each owner. As long as
only a result that has just been published becomes current, none becomes current that had been
published before.
-/

namespace Transition

/-- What is current for each owner in a state, and what has been published. -/
structure Succession (σ κ α : Type*) where
  current : σ → κ → Option α
  published : σ → α → Prop

namespace Succession

variable {σ ε κ α : Type*} {S : Succession σ κ α} {s t u : σ}

/-- What is current has been published. -/
def Known (S : Succession σ κ α) (s : σ) : Prop :=
  ∀ k a, S.current s k = some a → S.published s a

/-- Nothing that was published is lost, and what has become current was published meanwhile. -/
structure Succeeds (S : Succession σ κ α) (s t : σ) : Prop where
  kept : ∀ a, S.published s a → S.published t a
  moved : ∀ k, S.current t k = S.current s k ∨
    ∃ b, S.current t k = some b ∧ ¬ S.published s b ∧ S.published t b

theorem Succeeds.refl : S.Succeeds s s := ⟨fun _ h => h, fun _ => Or.inl rfl⟩

theorem Succeeds.trans (h : S.Succeeds s t) (h' : S.Succeeds t u) : S.Succeeds s u := by
  refine ⟨fun a ha => h'.kept a (h.kept a ha), fun k => ?_⟩
  rcases h'.moved k with hsame | ⟨b, hb, hnew, hpublished⟩
  · rcases h.moved k with hsame' | ⟨b, hb, hnew, hpublished⟩
    · exact Or.inl (hsame.trans hsame')
    · exact Or.inr ⟨b, hsame.trans hb, hnew, h'.kept b hpublished⟩
  · exact Or.inr ⟨b, hb, fun hbefore => hnew (h.kept b hbefore), hpublished⟩

theorem Succeeds.of_current_eq (hkept : ∀ a, S.published s a → S.published t a)
    (hsame : ∀ k, S.current t k = S.current s k) : S.Succeeds s t :=
  ⟨hkept, fun k => Or.inl (hsame k)⟩

theorem Succeeds.known (h : S.Succeeds s t) (hknown : S.Known s) : S.Known t := by
  intro k a hcurrent
  rcases h.moved k with hsame | ⟨b, hb, -, hpublished⟩
  · exact h.kept a (hknown k a (hsame ▸ hcurrent))
  · rw [hb] at hcurrent
    cases hcurrent
    exact hpublished

/-- What is current is published, and what is current later is the same, or had not been
published yet. -/
def Forward (S : Succession σ κ α) (s t : σ) : Prop :=
  ∀ k a, S.current s k = some a → S.published s a ∧
    ∃ b, S.current t k = some b ∧ (b = a ∨ ¬ S.published s b)

/-- **No way back.** -/
theorem Succeeds.forward (h : S.Succeeds s t) (hknown : S.Known s) : S.Forward s t := by
  intro k a hcurrent
  refine ⟨hknown k a hcurrent, ?_⟩
  rcases h.moved k with hsame | ⟨b, hb, hnew, -⟩
  · exact ⟨a, hsame.trans hcurrent, Or.inl rfl⟩
  · exact ⟨b, hb, Or.inr hnew⟩

/-- **The rule of runs.** When every step moves the pointers forward, every run does. -/
theorem of_reachable {τ : Type*} (view : τ → σ) {step : τ → ε → τ → Prop} {I : τ → Prop}
    {s t : τ} (h : Reachable step s t) (hI : I s)
    (hstep : ∀ {t u event}, I t → step t event u → I u ∧ S.Succeeds (view t) (view u)) :
    I t ∧ S.Succeeds (view s) (view t) := by
  refine h.invariant (I := fun t => I t ∧ S.Succeeds (view s) (view t)) ⟨hI, .refl⟩ ?_
  rintro t u event ⟨hbefore, hsucceeds⟩ hlast
  obtain ⟨hafter, hmoves⟩ := hstep hbefore hlast
  exact ⟨hafter, hsucceeds.trans hmoves⟩

end Succession

end Transition
