import Mathlib.Data.List.Sort
import OverlayStack.NodeMap

/-!
# Tables that are told by their look-ups

What is listed in ascending order of some nodes is listed in one way only.  So two tables that
answer all look-ups alike are the same.

## Main results

* `eq_of_pairwise_key` — a list in ascending order is told by its members.
* `NodeMap.eq_of_find?` — a table is told by its look-ups.
* `NodeMap.map_insert`, `NodeMap.map_modify` — what is made of each value of a changed table.
-/

namespace OverlayStack

universe u v

variable {α : Type u} {β : Type v}

/-- A list in ascending order of some keys is told by its members. -/
theorem eq_of_pairwise_key (key : α → NodeId) {l l' : List α}
    (hl : l.Pairwise fun a b => key a < key b) (hl' : l'.Pairwise fun a b => key a < key b)
    (hmem : ∀ a, a ∈ l ↔ a ∈ l') : l = l' := by
  have hnodup : ∀ {m : List α}, m.Pairwise (fun a b => key a < key b) → m.Nodup := by
    intro m hm
    refine hm.imp ?_
    intro a b hlt heq
    exact UInt32.lt_irrefl _ (heq ▸ hlt)
  apply List.Perm.eq_of_pairwise ?_ hl hl'
  · exact (List.perm_ext_iff_of_nodup (hnodup hl) (hnodup hl')).2 hmem
  · intro a b _ _ hab hba
    exact absurd (UInt32.lt_trans hab hba) (UInt32.lt_irrefl _)

namespace NodeMap

/-- **A table is told by its look-ups.** -/
theorem eq_of_find? {m n : NodeMap α} (h : ∀ k, m.find? k = n.find? k) : m = n := by
  have hentries : m.entries = n.entries := by
    apply eq_of_pairwise_key (·.1) m.ascending n.ascending
    rintro ⟨k, x⟩
    rw [mem_entries_iff, mem_entries_iff, h]
  obtain ⟨entries, ascending⟩ := m
  cases hentries
  rfl

theorem map_insert (m : NodeMap α) (f : α → β) (k : NodeId) (x : α) :
    (m.insert k x).map (fun _ x => f x) = (m.map fun _ x => f x).insert k (f x) := by
  apply eq_of_find?
  intro j
  by_cases hj : j = k <;> simp [hj]

/-- What does not depend on a change of a value remains the same. -/
theorem map_modify (m : NodeMap α) {f : α → β} (k : NodeId) {g : α → α} (h : ∀ x, f (g x) = f x) :
    (m.modify k g).map (fun _ x => f x) = m.map fun _ x => f x := by
  apply eq_of_find?
  intro j
  by_cases hj : j = k <;> simp [hj, h, Function.comp_def]

end NodeMap

end OverlayStack
