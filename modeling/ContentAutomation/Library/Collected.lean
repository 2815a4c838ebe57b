import Mathlib.Data.List.Nodup
import Mathlib.Data.List.TakeDrop

/-!
# Collected issues

A validation walks over lists and collects an issue wherever something is wrong. Each item is
checked at its place, with what came before it. Where nothing was collected, every item has passed
its check; where each of them was told apart from those before it, no two are the same.
-/

namespace Collected

open List

variable {α β κ : Type*}

/-- What is collected over a list, of each item with its index and the items before it. -/
def forEach (check : List α → ℕ → α → List β) (items : List α) : List β :=
  items.zipIdx.flatMap fun entry => check (items.take entry.2) entry.2 entry.1

variable {check : List α → ℕ → α → List β} {items : List α} {key : α → κ}

theorem forEach_eq_nil : forEach check items = [] ↔
    ∀ (index : ℕ) (h : index < items.length), check (items.take index) index items[index] = [] := by
  unfold forEach
  rw [flatMap_eq_nil_iff]
  constructor
  · intro hall index h
    exact hall (items[index], index) (mk_mem_zipIdx_iff_getElem?.mpr (List.getElem?_eq_getElem h))
  · rintro hall ⟨item, index⟩ hentry
    obtain ⟨h, rfl⟩ := List.getElem?_eq_some_iff.mp (mk_mem_zipIdx_iff_getElem?.mp hentry)
    exact hall index h

theorem exists_check_of_mem (hall : forEach check items = []) {item : α} (hitem : item ∈ items) :
    ∃ index, check (items.take index) index item = [] := by
  obtain ⟨index, h, rfl⟩ := mem_iff_getElem.mp hitem
  exact ⟨index, forEach_eq_nil.mp hall index h⟩

theorem nodup_of_take (h : ∀ (index : ℕ) (h : index < items.length),
    key items[index] ∉ (items.take index).map key) : (items.map key).Nodup := by
  rw [List.Nodup, pairwise_iff_getElem]
  intro first second hfirst hsecond hlt heq
  rw [length_map] at hfirst hsecond
  refine h second hsecond (mem_map.mpr ⟨items[first], ?_, ?_⟩)
  · rw [mem_take_iff_getElem]
    exact ⟨first, by omega, rfl⟩
  · simpa only [getElem_map] using heq

theorem not_mem_take_of_nodup (h : (items.map key).Nodup) (index : ℕ) (hindex : index < items.length) :
    key items[index] ∉ (items.take index).map key := by
  intro hmem
  obtain ⟨other, hother, heq⟩ := mem_map.mp hmem
  obtain ⟨earlier, hearlier, rfl⟩ := mem_take_iff_getElem.mp hother
  have hindices : earlier < items.length ∧ earlier < index := by omega
  have hearlier : earlier < (items.map key).length := by
    rw [length_map]
    exact hindices.1
  have hlater : index < (items.map key).length := by rwa [length_map]
  have hsame : (items.map key)[earlier] = (items.map key)[index] := by
    rw [getElem_map, getElem_map]
    exact heq
  have hindex := h.getElem_inj_iff.mp hsame
  omega

end Collected
