import Mathlib.Data.List.Nodup
import Mathlib.Data.List.Perm.Subperm
import Mathlib.Order.Bounds.Defs
import OverlayStack.Topology.Basic

/-!
# Walks in a topology

A walk goes from node to node over links.  It is written as the list of the nodes that it enters, so
that the number of its links is the length of the list, and its cost is the plain sum of the link
costs, which has no greatest value.  Nodes can have failed; a walk touches none of them.

## Main definitions

* `Topology.Alive` — a node of the topology that has not failed.
* `Topology.Walk` — a walk between two nodes, with its stops and its cost.
* `Topology.Cheapest` — the least cost of the walks between two nodes, or the infinite cost.

## Main results

* `Walk.exists_nodup` — leaving out detours gives a walk that visits no node twice.
* `Walk.exists_length_lt` — a walk never needs as many links as there are nodes.
-/

namespace OverlayStack

namespace Topology

variable {t : Topology} {gone : List NodeId}

/-- The node belongs to the topology and has not failed. -/
def Alive (t : Topology) (gone : List NodeId) (a : NodeId) : Prop :=
  a ∈ t.nodeIds ∧ a ∉ gone

instance (t : Topology) (gone : List NodeId) (a : NodeId) : Decidable (t.Alive gone a) :=
  inferInstanceAs (Decidable (a ∈ t.nodeIds ∧ a ∉ gone))

/-- `Walk t gone a stops b w` is a walk from `a` that enters the nodes `stops` one after another,
ends in `b` and costs `w`. -/
inductive Walk (t : Topology) (gone : List NodeId) :
    NodeId → List NodeId → NodeId → Nat → Prop where
  /-- Staying at a node. -/
  | stay {a : NodeId} (ha : t.Alive gone a) : Walk t gone a [] a 0
  /-- Crossing a link first. -/
  | step {a b c : NodeId} {stops : List NodeId} {w : Nat} (ha : t.Alive gone a)
      (hl : (t.link? a b).isSome = true) (rest : Walk t gone b stops c w) :
      Walk t gone a (b :: stops) c ((t.cost a b).toNat + w)

/-- `Cheapest t gone a b c` says that `c` is the least cost of a walk from `a` to `b`, or the
infinite cost if there is none below it. -/
def Cheapest (t : Topology) (gone : List NodeId) (a b : NodeId) (c : Nat) : Prop :=
  IsLeast {w | w = infiniteCost.toNat ∨ ∃ stops, t.Walk gone a stops b w} c

namespace Walk

theorem alive_left {a b : NodeId} {stops : List NodeId} {w : Nat}
    (h : t.Walk gone a stops b w) : t.Alive gone a := by
  cases h with
  | stay ha => exact ha
  | step ha _ _ => exact ha

theorem alive_right {a b : NodeId} {stops : List NodeId} {w : Nat}
    (h : t.Walk gone a stops b w) : t.Alive gone b := by
  induction h with
  | stay ha => exact ha
  | step _ _ _ ih => exact ih

/-- Every node on a walk is alive. -/
theorem alive_of_mem {a b x : NodeId} {stops : List NodeId} {w : Nat}
    (h : t.Walk gone a stops b w) (hx : x ∈ a :: stops) : t.Alive gone x := by
  induction h with
  | stay ha =>
    rw [List.mem_singleton] at hx
    exact hx ▸ ha
  | step ha _ _ ih =>
    rcases List.mem_cons.1 hx with rfl | hx
    · exact ha
    · exact ih hx

/-- The walk over a single link. -/
theorem link {a b : NodeId} (ha : t.Alive gone a) (hb : t.Alive gone b)
    (hl : (t.link? a b).isSome = true) : t.Walk gone a [b] b (t.cost a b).toNat := by
  have h := Walk.step ha hl (.stay hb)
  rwa [Nat.add_zero] at h

/-- The end of a walk from a node that lies on it. -/
theorem exists_suffix {a b x : NodeId} {stops : List NodeId} {w : Nat}
    (h : t.Walk gone a stops b w) (hx : x ∈ a :: stops) :
    ∃ rest v, t.Walk gone x rest b v ∧ v ≤ w ∧ (x :: rest) <:+ (a :: stops) := by
  induction h with
  | stay ha =>
    rw [List.mem_singleton] at hx
    subst hx
    exact ⟨[], 0, .stay ha, Nat.le_refl _, List.suffix_refl _⟩
  | step ha hl hrest ih =>
    rcases List.mem_cons.1 hx with rfl | hx
    · exact ⟨_, _, .step ha hl hrest, Nat.le_refl _, List.suffix_refl _⟩
    · obtain ⟨rest, v, hv, hle, hsuf⟩ := ih hx
      exact ⟨rest, v, hv, by omega, hsuf.trans (List.suffix_cons _ _)⟩

/-- A walk can be shortened until it visits no node twice. -/
theorem exists_nodup {a b : NodeId} {stops : List NodeId} {w : Nat}
    (h : t.Walk gone a stops b w) :
    ∃ stops' w', t.Walk gone a stops' b w' ∧ w' ≤ w ∧ (a :: stops').Nodup := by
  induction h with
  | stay ha => exact ⟨[], 0, .stay ha, Nat.le_refl _, List.nodup_singleton _⟩
  | @step a b c stops w ha hl _ ih =>
    obtain ⟨stops', w', hw', hle, hnd⟩ := ih
    by_cases hmem : a ∈ b :: stops'
    -- the walk comes back to its start: what lies between is left out
    · obtain ⟨rest, v, hv, hvw, hsuf⟩ := hw'.exists_suffix hmem
      exact ⟨rest, v, hv, by omega, hnd.sublist hsuf.sublist⟩
    · exact ⟨b :: stops', _, .step ha hl hw', by omega, List.nodup_cons.2 ⟨hmem, hnd⟩⟩

/-- A walk without repeated nodes has fewer links than there are nodes. -/
theorem length_lt_of_nodup {a b : NodeId} {stops : List NodeId} {w : Nat}
    (h : t.Walk gone a stops b w) (hnd : (a :: stops).Nodup) : stops.length < t.nodeIds.length := by
  have hsub : (a :: stops) ⊆ t.nodeIds := fun x hx => (h.alive_of_mem hx).1
  have := (hnd.subperm hsub).length_le
  simpa [Nat.succ_le_iff] using this

/-- A walk never needs as many links as there are nodes. -/
theorem exists_length_lt {a b : NodeId} {stops : List NodeId} {w : Nat}
    (h : t.Walk gone a stops b w) :
    ∃ stops' w', t.Walk gone a stops' b w' ∧ w' ≤ w ∧ stops'.length < t.nodeIds.length := by
  obtain ⟨stops', w', hw', hle, hnd⟩ := h.exists_nodup
  exact ⟨stops', w', hw', hle, hw'.length_lt_of_nodup hnd⟩

end Walk

/-! ### The cheapest walk -/

theorem Cheapest.le_infiniteCost {a b : NodeId} {c : Nat} (h : t.Cheapest gone a b c) :
    c ≤ infiniteCost.toNat :=
  h.2 (.inl rfl)

theorem Cheapest.le_walk {a b : NodeId} {stops : List NodeId} {c w : Nat}
    (h : t.Cheapest gone a b c) (hw : t.Walk gone a stops b w) : c ≤ w :=
  h.2 (.inr ⟨stops, hw⟩)

/-- A cost below the infinite one is that of a walk. -/
theorem Cheapest.exists_walk {a b : NodeId} {c : Nat} (h : t.Cheapest gone a b c)
    (hc : c < infiniteCost.toNat) : ∃ stops, t.Walk gone a stops b c := by
  rcases h.1 with rfl | hw
  · omega
  · exact hw

/-- Going over a link first costs no less than the cheapest walk. -/
theorem Cheapest.le_link_add {a b c : NodeId} {v w : Nat} (hac : t.Cheapest gone a c v)
    (hbc : t.Cheapest gone b c w) (ha : t.Alive gone a) (hl : (t.link? a b).isSome = true) :
    v ≤ (t.cost a b).toNat + w := by
  rcases Nat.lt_or_ge w infiniteCost.toNat with hw | hw
  · obtain ⟨stops, hwalk⟩ := hbc.exists_walk hw
    exact hac.le_walk (.step ha hl hwalk)
  · have := hac.le_infiniteCost
    omega

/-! ### Small topologies -/

/-- Four nodes in a line of links at cost one, and a link at cost five between its ends. -/
def chordedLine : Topology where
  hosts := ⟨[(1, ⟨"north", ⟨10, 0, 0, 1⟩⟩), (2, ⟨"east", ⟨10, 0, 0, 2⟩⟩),
    (3, ⟨"south", ⟨10, 0, 0, 3⟩⟩), (4, ⟨"west", ⟨10, 0, 0, 4⟩⟩)], by decide⟩
  links := [⟨1, 4, 5, by decide⟩, ⟨3, 4, 1, by decide⟩, ⟨2, 3, 1, by decide⟩,
    ⟨1, 2, 1, by decide⟩]
  keyed := by decide

/-- Three nodes in a line of links without cost, and a dear link between its ends. -/
def freeLine : Topology where
  hosts := ⟨[(1, ⟨"north", ⟨10, 0, 0, 1⟩⟩), (2, ⟨"east", ⟨10, 0, 0, 2⟩⟩),
    (3, ⟨"south", ⟨10, 0, 0, 3⟩⟩)], by decide⟩
  links := [⟨1, 3, 2000, by decide⟩, ⟨2, 3, 0, by decide⟩, ⟨1, 2, 0, by decide⟩]
  keyed := by decide

/-- Three nodes that are joined to each other, two of them by a dear link. -/
def detour : Topology where
  hosts := ⟨[(1, ⟨"north", ⟨10, 0, 0, 1⟩⟩), (2, ⟨"east", ⟨10, 0, 0, 2⟩⟩),
    (3, ⟨"south", ⟨10, 0, 0, 3⟩⟩)], by decide⟩
  links := [⟨3, 2, 1, by decide⟩, ⟨1, 3, 1, by decide⟩, ⟨1, 2, 9, by decide⟩]
  keyed := by decide

/-- Eight nodes in a line, and a ninth one that joins the second to the eighth. -/
def bridgedLine : Topology where
  hosts := ⟨[(1, ⟨"first", ⟨10, 0, 0, 1⟩⟩), (2, ⟨"second", ⟨10, 0, 0, 2⟩⟩),
    (3, ⟨"third", ⟨10, 0, 0, 3⟩⟩), (4, ⟨"fourth", ⟨10, 0, 0, 4⟩⟩),
    (5, ⟨"fifth", ⟨10, 0, 0, 5⟩⟩), (6, ⟨"sixth", ⟨10, 0, 0, 6⟩⟩),
    (7, ⟨"seventh", ⟨10, 0, 0, 7⟩⟩), (8, ⟨"eighth", ⟨10, 0, 0, 8⟩⟩),
    (9, ⟨"bridge", ⟨10, 0, 0, 9⟩⟩)], by decide⟩
  links := [⟨2, 9, 1, by decide⟩, ⟨8, 9, 1, by decide⟩, ⟨7, 8, 1, by decide⟩, ⟨6, 7, 1, by decide⟩,
    ⟨5, 6, 1, by decide⟩, ⟨4, 5, 1, by decide⟩, ⟨3, 4, 1, by decide⟩, ⟨2, 3, 1, by decide⟩,
    ⟨1, 2, 1, by decide⟩]
  keyed := by decide

end Topology

end OverlayStack
