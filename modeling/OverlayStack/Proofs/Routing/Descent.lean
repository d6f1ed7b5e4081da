import Mathlib.Tactic.Common
import OverlayStack.Proofs.Routing.Walks

/-!
# Following next stops

Every node has a next stop on the way to a destination.  Following the next stops from node to node
arrives if the nodes are in an order in which each next stop comes before the node: it is cheaper by
the cost of the link at least, and if that is nothing, it has a lower rank.

## Main definitions

* `Leads next dest a stops` — following `next` from `a` arrives at `dest` after the nodes `stops`.
* `Topology.Descends` — the order of the nodes for a destination.

## Main results

* `Topology.Descends.exists_leads` — in such an order next stops arrive, along a walk that visits no
  node twice and costs no more than the first node says.
-/

namespace OverlayStack

/-- `Leads next dest a stops` says that following `next` from `a` enters the nodes `stops` one after
another and ends at `dest`. -/
inductive Leads (next : NodeId → Option NodeId) (dest : NodeId) : NodeId → List NodeId → Prop where
  | arrived : Leads next dest dest []
  | hop {a b : NodeId} {stops : List NodeId} (ha : a ≠ dest) (hb : next a = some b)
      (rest : Leads next dest b stops) : Leads next dest a (b :: stops)

/-- Costs and ranks, the costs first, as a single number. -/
theorem mul_add_lt_mul_add {c c' r r' bound : Nat} (hr : r < bound) (hle : c ≤ c')
    (hlow : c < c' ∨ r < r') : c * bound + r < c' * bound + r' := by
  rcases hlow with hlt | hlt
  · have hmul := Nat.mul_le_mul_right bound (Nat.succ_le_of_lt hlt)
    rw [Nat.succ_mul] at hmul
    omega
  · have hmul := Nat.mul_le_mul_right bound hle
    omega

namespace Topology

/-- Each node that is below the infinite cost goes on to a neighbor that comes before it. -/
def Descends (t : Topology) (gone : List NodeId) (dest : NodeId) (cost : NodeId → Nat)
    (next : NodeId → Option NodeId) : Prop :=
  ∃ (rank : NodeId → Nat) (bound : Nat), (∀ a, rank a < bound) ∧
    ∀ a, t.Alive gone a → a ≠ dest → cost a < infiniteCost.toNat →
      ∃ b, t.Alive gone b ∧ (t.link? a b).isSome = true ∧ next a = some b ∧
        cost b + (t.cost a b).toNat ≤ cost a ∧ (cost b < cost a ∨ rank b < rank a)

variable {t : Topology} {gone : List NodeId} {dest : NodeId} {cost : NodeId → Nat}
  {next : NodeId → Option NodeId}

/-- **Next stops arrive** where the nodes are in order: the key of a node, made of its cost and its
rank, falls with each stop. -/
theorem Descends.exists_leads (h : t.Descends gone dest cost next) {a : NodeId}
    (ha : t.Alive gone a) (hfin : cost a < infiniteCost.toNat) :
    ∃ stops w, Leads next dest a stops ∧ t.Walk gone a stops dest w ∧ w ≤ cost a ∧
      (a :: stops).Nodup := by
  obtain ⟨rank, bound, hbound, hdesc⟩ := h
  let key : NodeId → Nat := fun b => cost b * bound + rank b
  suffices hall : ∀ k a, t.Alive gone a → key a = k → cost a < infiniteCost.toNat →
      ∃ stops w, Leads next dest a stops ∧ t.Walk gone a stops dest w ∧ w ≤ cost a ∧
        (a :: stops).Nodup ∧ ∀ x ∈ stops, key x < k by
    obtain ⟨stops, w, hl, hw, hle, hnd, -⟩ := hall (key a) a ha rfl hfin
    exact ⟨stops, w, hl, hw, hle, hnd⟩
  -- strong induction on the key, with the node free
  intro k
  induction k using Nat.strongRecOn with
  | _ k ih =>
    intro a ha hk hfin
    by_cases had : a = dest
    · subst had
      refine ⟨[], 0, .arrived, .stay ha, Nat.zero_le _, List.nodup_singleton _, ?_⟩
      intro x hx
      exact absurd hx List.not_mem_nil
    · obtain ⟨b, hb, hlink, hnext, hle, hlow⟩ := hdesc a ha had hfin
      have hless : key b < k := by
        rw [← hk]
        exact mul_add_lt_mul_add (hbound b) (by omega) hlow
      obtain ⟨stops, w, hl, hw, hwle, hnd, hkeys⟩ := ih (key b) hless b hb rfl (by omega)
      have hstops : ∀ x ∈ b :: stops, key x < k := by
        intro x hx
        rcases List.mem_cons.1 hx with rfl | hx
        · exact hless
        · exact Nat.lt_trans (hkeys x hx) hless
      refine ⟨b :: stops, _, .hop had hnext hl, .step ha hlink hw, by omega, ?_, hstops⟩
      -- all stops have a smaller key than the node
      apply List.nodup_cons.2
      refine ⟨?_, hnd⟩
      intro hmem
      have := hstops a hmem
      omega

end Topology

end OverlayStack
