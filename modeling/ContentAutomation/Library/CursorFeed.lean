import Mathlib.Tactic.Common

/-!
# Feeds that are read by cursor

A feed leads each cursor to a page, and a page may name the cursor behind it. A reader keeps the
cursor before which it has dealt with every page. If it stops at a page behind which nothing is
left to do, it has dealt with the whole feed, from wherever it went on.
-/

namespace ContentAutomation

/-- A feed, as its pages are asked for. -/
structure CursorFeed (Cursor Page : Type*) where
  page : Option Cursor → Page
  /-- The cursor behind a page. -/
  after : Page → Option Cursor
  /-- The page says that another one follows. -/
  hasNext : Page → Prop

namespace CursorFeed

variable {Cursor Page : Type*} (feed : CursorFeed Cursor Page)

/-- The cursor is that behind so many pages. -/
inductive At : ℕ → Option Cursor → Prop
  | start : At 0 none
  | next {n : ℕ} {cursor : Option Cursor} {successor : Cursor} (h : At n cursor)
      (hafter : feed.after (feed.page cursor) = some successor) : At (n + 1) (some successor)

/-- The cursor leads to a page of the feed: each page before it says that another one follows. -/
def Continues (n : ℕ) (cursor : Option Cursor) : Prop :=
  feed.At n cursor ∧ ∀ m < n, ∀ earlier, feed.At m earlier → feed.hasNext (feed.page earlier)

/-- Every page before the cursor is done. -/
def DoneBefore (done : Page → Prop) (cursor : Option Cursor) : Prop :=
  ∃ n, feed.At n cursor ∧ ∀ m < n, ∀ earlier, feed.At m earlier → done (feed.page earlier)

variable {feed} {done done' : Page → Prop} {cursor : Option Cursor} {n : ℕ}

theorem At.unique (h : feed.At n cursor) {other : Option Cursor} (hother : feed.At n other) :
    cursor = other := by
  induction h generalizing other with
  | start =>
    cases hother
    rfl
  | next _ hafter ih =>
    cases hother with
    | next hbefore hafter' =>
      rw [ih hbefore, hafter'] at hafter
      exact hafter.symm

theorem doneBefore_none : feed.DoneBefore done none :=
  ⟨0, .start, fun m hm => absurd hm (Nat.not_lt_zero m)⟩

theorem DoneBefore.next (h : feed.DoneBefore done cursor) (hdone : done (feed.page cursor))
    {successor : Cursor} (hafter : feed.after (feed.page cursor) = some successor) :
    feed.DoneBefore done (some successor) := by
  obtain ⟨n, hat, hbefore⟩ := h
  refine ⟨n + 1, hat.next hafter, ?_⟩
  intro m hm earlier hearlier
  rcases Nat.lt_succ_iff_lt_or_eq.mp hm with hless | rfl
  · exact hbefore m hless earlier hearlier
  · rw [hearlier.unique hat]
    exact hdone

theorem DoneBefore.advance (h : feed.DoneBefore done cursor) (hdone : done (feed.page cursor)) :
    feed.DoneBefore done ((feed.after (feed.page cursor)).or cursor) := by
  cases hafter : feed.after (feed.page cursor) with
  | none => exact h
  | some successor => exact h.next hdone hafter

theorem DoneBefore.mono (hmono : ∀ page, done page → done' page)
    (h : feed.DoneBefore done cursor) : feed.DoneBefore done' cursor := by
  obtain ⟨n, hat, hbefore⟩ := h
  exact ⟨n, hat, fun m hm earlier hearlier => hmono _ (hbefore m hm earlier hearlier)⟩

/-- **A reader that stops where nothing is left has dealt with every page.** -/
theorem DoneBefore.all (h : feed.DoneBefore done cursor) (hdone : done (feed.page cursor))
    (hrest : ∀ n m later, feed.At n cursor → n < m → feed.Continues m later →
      done (feed.page later)) {m : ℕ} {other : Option Cursor} (hother : feed.Continues m other) :
    done (feed.page other) := by
  obtain ⟨n, hat, hbefore⟩ := h
  rcases Nat.lt_trichotomy m n with hless | rfl | hgreater
  · exact hbefore m hless other hother.1
  · rw [hother.1.unique hat]
    exact hdone
  · exact hrest n m other hat hgreater hother

end CursorFeed

end ContentAutomation
