import ContentAutomation.Chat.PostDossier
import ContentAutomation.Library.FirstCopies
import ContentAutomation.Library.FirstFit
import Mathlib.Tactic.Linarith
import Mathlib.Tactic.Ring

/-!
# The context of a chat turn

Blocks of text are put together, in the order of their priority, as long as a budget of
tokens lasts. A block that does not fit is passed over and smaller ones after it are still
taken, and each block is estimated by itself, while the text has line feeds between them.
This file determines for which blocks only a tail is dropped and the text is within the
budget.
-/

namespace ContentAutomation

open Utf16 List

/-! ### Blocks -/

/-- `ChatContextBlock`. -/
structure ChatContextBlock where
  body : Utf16
  evidenceIds : List Utf16
  source : Utf16
  title : Utf16

/-- What `neutraliseFences` does to a line. -/
def neutraliseLine (line : Utf16) : Utf16 :=
  if ofString "<<<" <+: line then ofString " " ++ line else line

/-- `neutraliseFences`. -/
def neutraliseFences (body : Utf16) : Utf16 := joinLines ((lines body).map neutraliseLine)

/-- `renderBlock`. -/
def renderBlock (block : ChatContextBlock) : Utf16 :=
  ofString "## " ++ block.title ++ lineFeed :: neutraliseFences block.body

theorem lines_renderBlock {block : ChatContextBlock} (h : lineFeed ∉ block.title) :
    lines (renderBlock block) =
      (ofString "## " ++ block.title) :: (lines block.body).map neutraliseLine := by
  have htitle : lineFeed ∉ ofString "## " ++ block.title := by
    rw [mem_append, not_or]
    exact ⟨by decide, h⟩
  have hsome : (lines block.body).map neutraliseLine ≠ [] := by
    obtain ⟨first, others, hlines⟩ := exists_lines_eq_cons block.body
    simp [hlines]
  unfold renderBlock neutraliseFences
  rw [lines_append_lineFeed, lines_of_notMem htitle, lines_joinLines hsome, flatMap_map,
    singleton_append]
  congr 1
  rw [← flatMap_singleton' ((lines block.body).map neutraliseLine), flatMap_map]
  refine flatMap_congr fun line hline => lines_of_notMem ?_
  have hnone := lineFeed_notMem_of_mem_lines hline
  unfold neutraliseLine
  split_ifs
  · rw [mem_append, not_or]
    exact ⟨by decide, hnone⟩
  · exact hnone

/-! ### Assembling the blocks -/

/-- `charactersPerToken`. -/
def charactersPerToken : ℕ := 3

/-- `chatContextTokenBudget`. -/
def chatContextTokenBudget : ℚ := 150000

/-- `estimateChatTokens`: the length over `charactersPerToken`, rounded up. -/
def estimateChatTokens (text : Utf16) : ℕ :=
  (text.length + (charactersPerToken - 1)) / charactersPerToken

/-- The state of the loop in `assembleChatContext`. -/
structure ContextSelection where
  included : List ChatContextBlock
  dropped : List Utf16
  tokens : ℕ

/-- One pass of the loop in `assembleChatContext`. -/
def ContextSelection.consider (budget : ℚ) (selection : ContextSelection)
    (block : ChatContextBlock) : ContextSelection :=
  let cost := estimateChatTokens (renderBlock block)
  if 0 < selection.included.length ∧ budget < (selection.tokens + cost : ℕ) then
    { selection with dropped := selection.dropped ++ [block.source] }
  else
    { selection with
      included := selection.included ++ [block]
      tokens := selection.tokens + cost }

/-- The loop in `assembleChatContext`. -/
def selectBlocks (budget : ℚ) (blocks : List ChatContextBlock) : ContextSelection :=
  blocks.foldl (ContextSelection.consider budget) ⟨[], [], 0⟩

/-- `ChatContextAssembly`. -/
structure ChatContextAssembly where
  droppedSources : List Utf16
  evidenceIds : List Utf16
  hash : Utf16
  includedSources : List Utf16
  text : Utf16
  tokenEstimate : ℕ

/-- The lines before the text in `createChatContextHash`: the versions and the digests in
`chatContractArtifacts`. -/
def chatContractLines : List Utf16 :=
  [ofString "strategy-chat-v1.0.0",
    ofString "fc1913ff8666a4fcd4bf3935bda8754b8c1dd6eb52c31decabba1938e678eec4",
    ofString "strategy-chat-prompt-v2.0.0",
    ofString "b79adae9f8da392515def8569a5f2777016050b0addc734fda62fb2316fe7c85"]

/-- `createChatContextHash`. -/
def createChatContextHash (sha256 : Utf16 → Utf16) (text : Utf16) : Utf16 :=
  sha256 (joinLines (chatContractLines ++ [text]))

/-- The text of the included blocks. -/
def contextText (included : List ChatContextBlock) : Utf16 :=
  if included.length = 0 then ofString "(no context is available for this account yet)"
  else [lineFeed, lineFeed].intercalate (included.map renderBlock)

/-- `assembleChatContext`. -/
def assembleChatContext (sha256 : Utf16 → Utf16) (blocks : List ChatContextBlock)
    (tokenBudget : Option ℚ) : ChatContextAssembly :=
  let selection := selectBlocks (tokenBudget.getD chatContextTokenBudget) blocks
  let text := contextText selection.included
  { droppedSources := selection.dropped
    evidenceIds :=
      FirstCopies.firstCopies id (selection.included.flatMap ChatContextBlock.evidenceIds)
    hash := createChatContextHash sha256 text
    includedSources := selection.included.map ChatContextBlock.source
    text := text
    tokenEstimate := estimateChatTokens text }

/-! ### What the budget promises -/

/-- What a block costs. -/
def ChatContextBlock.cost (block : ChatContextBlock) : ℕ := estimateChatTokens (renderBlock block)

/-- The blocks before the first one that does not fit. The first block always does. -/
def fittingBlocks (budget : ℚ) : List ChatContextBlock → List ChatContextBlock
  | [] => []
  | first :: rest => first ::
    FirstFit.leading (fun tokens => (tokens : ℚ) ≤ budget) ChatContextBlock.cost first.cost rest

/-- **The tail is dropped**: the blocks before the first one that does not fit are included,
no source is lost, a text of several blocks is within the budget, and the evidence is that
of the included blocks, each identifier once and where it comes first. -/
structure TailDropped (sha256 : Utf16 → Utf16) (blocks : List ChatContextBlock)
    (tokenBudget : Option ℚ) : Prop where
  included : (selectBlocks (tokenBudget.getD chatContextTokenBudget) blocks).included =
    fittingBlocks (tokenBudget.getD chatContextTokenBudget) blocks
  sources : (assembleChatContext sha256 blocks tokenBudget).includedSources ++
    (assembleChatContext sha256 blocks tokenBudget).droppedSources =
      blocks.map ChatContextBlock.source
  estimate : 1 < (assembleChatContext sha256 blocks tokenBudget).includedSources.length →
    ((assembleChatContext sha256 blocks tokenBudget).tokenEstimate : ℚ) ≤
      tokenBudget.getD chatContextTokenBudget
  evidence : ∀ id, id ∈ (assembleChatContext sha256 blocks tokenBudget).evidenceIds ↔
    ∃ block ∈ fittingBlocks (tokenBudget.getD chatContextTokenBudget) blocks,
      id ∈ block.evidenceIds
  inOrder : (assembleChatContext sha256 blocks tokenBudget).evidenceIds.Pairwise
    fun first second =>
      ((fittingBlocks (tokenBudget.getD chatContextTokenBudget) blocks).flatMap
        ChatContextBlock.evidenceIds).idxOf first <
      ((fittingBlocks (tokenBudget.getD chatContextTokenBudget) blocks).flatMap
        ChatContextBlock.evidenceIds).idxOf second

/-- What the blocks before the first one that does not fit cost together. -/
def fittingTokens (budget : ℚ) (blocks : List ChatContextBlock) : ℕ :=
  ((fittingBlocks budget blocks).map ChatContextBlock.cost).sum

/-- No block after the first one that does not fit would fit in what is left. -/
def NothingFitsAfter (budget : ℚ) (blocks : List ChatContextBlock) : Prop :=
  ∀ block ∈ blocks.drop (fittingBlocks budget blocks).length,
    budget < (fittingTokens budget blocks + block.cost : ℕ)

/-- The blocks before the first one that does not fit are within the budget when the line
feeds between them are counted, unless there is only one. -/
def SeparatorsFit (budget : ℚ) (blocks : List ChatContextBlock) : Prop :=
  1 < (fittingBlocks budget blocks).length →
    (((((fittingBlocks budget blocks).map fun block => (renderBlock block).length).sum +
      2 * ((fittingBlocks budget blocks).length - 1) + (charactersPerToken - 1)) /
        charactersPerToken : ℕ) : ℚ) ≤ budget

instance (budget : ℚ) (blocks : List ChatContextBlock) :
    Decidable (NothingFitsAfter budget blocks) :=
  inferInstanceAs (Decidable (∀ _ ∈ _, _))

instance (budget : ℚ) (blocks : List ChatContextBlock) : Decidable (SeparatorsFit budget blocks) :=
  inferInstanceAs (Decidable (_ → _))

/-! ### The loop -/

private theorem length_intercalate (separator : Utf16) (parts : List Utf16) :
    (separator.intercalate parts).length =
      (parts.map List.length).sum + separator.length * (parts.length - 1) := by
  induction parts with
  | nil => rfl
  | cons part parts ih =>
    cases parts with
    | nil => simp
    | cons next parts =>
      rw [intercalate_cons_cons, length_append, length_append, ih]
      simp only [map_cons, sum_cons, length_cons, Nat.add_sub_cancel]
      ring

/-- Once a block is included, the loop takes what fits and passes over the rest. -/
theorem foldl_consider {budget : ℚ} (selection : ContextSelection)
    (h : 0 < selection.included.length) (blocks : List ChatContextBlock) :
    (blocks.foldl (ContextSelection.consider budget) selection).included =
        selection.included ++ FirstFit.taken (fun tokens => (tokens : ℚ) ≤ budget)
          ChatContextBlock.cost selection.tokens blocks ∧
      (blocks.foldl (ContextSelection.consider budget) selection).dropped =
        selection.dropped ++ (FirstFit.passed (fun tokens => (tokens : ℚ) ≤ budget)
          ChatContextBlock.cost selection.tokens blocks).map ChatContextBlock.source := by
  induction blocks generalizing selection with
  | nil => simp [FirstFit.taken, FirstFit.passed]
  | cons block blocks ih =>
    rw [foldl_cons, FirstFit.taken, FirstFit.passed]
    by_cases hfits : ((selection.tokens + block.cost : ℕ) : ℚ) ≤ budget
    · have hstep : selection.consider budget block = { selection with
          included := selection.included ++ [block]
          tokens := selection.tokens + block.cost } := by
        unfold ContextSelection.consider
        exact if_neg fun hover => absurd hfits (not_le.mpr hover.2)
      rw [hstep, if_pos hfits, if_pos hfits]
      obtain ⟨hincluded, hdropped⟩ := ih { selection with
        included := selection.included ++ [block]
        tokens := selection.tokens + block.cost } (by simp)
      rw [hincluded, hdropped, append_assoc, singleton_append]
      exact ⟨rfl, rfl⟩
    · have hstep : selection.consider budget block =
          { selection with dropped := selection.dropped ++ [block.source] } := by
        unfold ContextSelection.consider
        exact if_pos ⟨h, not_le.mp hfits⟩
      rw [hstep, if_neg hfits, if_neg hfits]
      obtain ⟨hincluded, hdropped⟩ :=
        ih { selection with dropped := selection.dropped ++ [block.source] } h
      rw [hincluded, hdropped, append_assoc, map_cons, singleton_append]
      exact ⟨rfl, rfl⟩

private theorem selectBlocks_cons (budget : ℚ) (first : ChatContextBlock)
    (rest : List ChatContextBlock) :
    (selectBlocks budget (first :: rest)).included =
        first :: FirstFit.taken (fun tokens => (tokens : ℚ) ≤ budget) ChatContextBlock.cost
          first.cost rest ∧
      (selectBlocks budget (first :: rest)).dropped =
        (FirstFit.passed (fun tokens => (tokens : ℚ) ≤ budget) ChatContextBlock.cost
          first.cost rest).map ChatContextBlock.source := by
  have hfirst : ContextSelection.consider budget ⟨[], [], 0⟩ first = ⟨[first], [], first.cost⟩ := by
    simp [ContextSelection.consider, ChatContextBlock.cost]
  unfold selectBlocks
  rw [foldl_cons, hfirst]
  exact foldl_consider ⟨[first], [], first.cost⟩ (by simp) rest

/-- The loop includes just the blocks before the first one that does not fit exactly when no
later one fits. -/
theorem included_eq_fittingBlocks_iff {budget : ℚ} {blocks : List ChatContextBlock} :
    (selectBlocks budget blocks).included = fittingBlocks budget blocks ↔
      NothingFitsAfter budget blocks := by
  cases blocks with
  | nil => exact iff_of_true rfl (by simp [NothingFitsAfter])
  | cons first rest =>
    rw [(selectBlocks_cons budget first rest).1, fittingBlocks, List.cons.injEq,
      FirstFit.taken_eq_leading_iff]
    simp only [true_and, NothingFitsAfter, fittingTokens, fittingBlocks, length_cons,
      drop_succ_cons, map_cons, sum_cons, not_le]

theorem included_sublist (budget : ℚ) (blocks : List ChatContextBlock) :
    (selectBlocks budget blocks).included.Sublist blocks := by
  cases blocks with
  | nil => exact List.Sublist.refl []
  | cons first rest =>
    rw [(selectBlocks_cons budget first rest).1]
    exact (FirstFit.taken_sublist first.cost rest).cons_cons first

private theorem sources_of_included {budget : ℚ} {blocks : List ChatContextBlock}
    (h : (selectBlocks budget blocks).included = fittingBlocks budget blocks) :
    (selectBlocks budget blocks).included.map ChatContextBlock.source ++
      (selectBlocks budget blocks).dropped = blocks.map ChatContextBlock.source := by
  cases blocks with
  | nil => rfl
  | cons first rest =>
    obtain ⟨hincluded, hdropped⟩ := selectBlocks_cons budget first rest
    rw [hincluded, fittingBlocks, List.cons.injEq] at h
    rw [hincluded, hdropped, h.2, map_cons, cons_append, ← map_append,
      FirstFit.leading_append_passed h.2, map_cons]

private theorem estimateChatTokens_contextText {included : List ChatContextBlock}
    (h : included ≠ []) : estimateChatTokens (contextText included) =
      ((included.map fun block => (renderBlock block).length).sum + 2 * (included.length - 1) +
        (charactersPerToken - 1)) / charactersPerToken := by
  have hlength : ¬ included.length = 0 := fun hnil => h (length_eq_zero_iff.mp hnil)
  unfold estimateChatTokens contextText
  rw [if_neg hlength, length_intercalate, map_map, length_map]
  rfl

/-- **Only a tail is dropped, within the budget**, exactly when nothing fits after the first
block that does not, and the line feeds fit too. -/
theorem assembleChatContext_tailDropped_iff {sha256 : Utf16 → Utf16}
    {blocks : List ChatContextBlock} {tokenBudget : Option ℚ} :
    TailDropped sha256 blocks tokenBudget ↔
      NothingFitsAfter (tokenBudget.getD chatContextTokenBudget) blocks ∧
        SeparatorsFit (tokenBudget.getD chatContextTokenBudget) blocks := by
  generalize hbudget : tokenBudget.getD chatContextTokenBudget = budget
  have hestimate (hsame : (selectBlocks budget blocks).included = fittingBlocks budget blocks) :
      (1 < (assembleChatContext sha256 blocks tokenBudget).includedSources.length →
        ((assembleChatContext sha256 blocks tokenBudget).tokenEstimate : ℚ) ≤ budget) ↔
      SeparatorsFit budget blocks := by
    unfold SeparatorsFit assembleChatContext
    simp only [hbudget, hsame, length_map]
    refine imp_congr_right fun hmany => ?_
    rw [estimateChatTokens_contextText fun hnil => by simp [hnil] at hmany]
  have hevidence (hsame : (selectBlocks budget blocks).included = fittingBlocks budget blocks) :
      (assembleChatContext sha256 blocks tokenBudget).evidenceIds = FirstCopies.firstCopies id
        ((fittingBlocks budget blocks).flatMap ChatContextBlock.evidenceIds) := by
    rw [← hsame, ← hbudget]
    rfl
  constructor
  · intro h
    have hsame := h.included
    have hfit := h.estimate
    rw [hbudget] at hsame hfit
    exact ⟨included_eq_fittingBlocks_iff.mp hsame, (hestimate hsame).mp hfit⟩
  · rintro ⟨hnothing, hseparators⟩
    have hsame := included_eq_fittingBlocks_iff.mpr hnothing
    refine ⟨by rw [hbudget, hsame], ?_, ?_, fun id => ?_, ?_⟩
    · simp only [assembleChatContext, hbudget]
      exact sources_of_included hsame
    · rw [hbudget]
      exact (hestimate hsame).mpr hseparators
    · rw [hbudget, hevidence hsame, FirstCopies.mem_firstCopies_id, mem_flatMap]
    · rw [hbudget, hevidence hsame]
      simpa using @FirstCopies.pairwise_idxOf_firstCopies _ _ _ id
        ((fittingBlocks budget blocks).flatMap ChatContextBlock.evidenceIds) _ _

namespace ContextSample

/-- A block of this source and body. -/
def block (source body : String) : ChatContextBlock where
  body := ofString body
  evidenceIds := []
  source := ofString source
  title := ofString source

/-- A short block is included after a longer one that did not fit. -/
theorem tail_is_kept : ¬ ∀ (sha256 : Utf16 → Utf16) (blocks : List ChatContextBlock)
    (tokenBudget : Option ℚ), TailDropped sha256 blocks tokenBudget := by
  intro h
  have hincluded := (h id
    [block "account" "One account.", block "strategy" "The plan for July.", block "trends" "Up."]
    (some 14)).included
  have hnothing := included_eq_fittingBlocks_iff.mp hincluded
  revert hnothing
  decide

/-- Two blocks that fit by themselves are over the budget with the line feeds between them. -/
example : ¬ SeparatorsFit 4 [block "a" "b", block "c" "d"] := by decide

end ContextSample

end ContentAutomation
