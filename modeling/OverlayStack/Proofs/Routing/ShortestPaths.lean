import OverlayStack.Proofs.Routing.Walks
import OverlayStack.Routing.LinkGraph

/-!
# The paths of a link graph are shortest paths

Paths are found by allowing one node after another as a stop.  After some nodes were allowed, the
table of paths holds the least cost of the routes whose inner stops are among them; once all nodes
are allowed, these are the walks of the topology.  Costs are compared as natural numbers: a sum is
only taken of two costs below the infinite one, so that it never wraps around.

## Main definitions

* `PathTable.way?` — the entry of a table for two nodes.
* `Topology.Route` — a walk whose inner stops are among given nodes.
* `PathTable.Shows` — the table holds the least costs of such routes.

## Main results

* `shows_shortestPaths` — the paths of a topology with failures are the shortest ones.
-/

namespace OverlayStack

open OverlayStack.Topology

/-! ### Entries of a table of paths -/

/-- The way between two nodes in a table, if both have a place in it. -/
def PathTable.way? (paths : PathTable) (a b : NodeId) : Option Path :=
  (paths.find? a).bind fun row => row.find? b

theorem PathTable.way?_eq_some_iff {paths : PathTable} {a b : NodeId} {p : Path} :
    paths.way? a b = some p ↔ ∃ row, paths.find? a = some row ∧ row.find? b = some p := by
  rw [PathTable.way?, Option.bind_eq_some_iff]

theorem way?_directPaths {t : Topology} {gone : List NodeId} {a b : NodeId} (ha : a ∈ t.nodeIds)
    (hb : b ∈ t.nodeIds) : (t.directPaths gone).way? a b = some (t.directPath gone a b) := by
  obtain ⟨_, ha⟩ := mem_nodeIds_iff.1 ha
  obtain ⟨_, hb⟩ := mem_nodeIds_iff.1 hb
  simp [PathTable.way?, directPaths, ha, hb]

theorem Path.improve_of_not_exists {p first second : Path} (h : first.exists = false) :
    p.improve first second = p := by
  simp [Path.improve, h]

/-- Allowing a stop improves every entry by the ways to and from the stop. -/
theorem way?_improveThrough {paths : PathTable} {stop a b : NodeId} {p first second : Path}
    (hp : paths.way? a b = some p) (hfirst : paths.way? a stop = some first)
    (hsecond : paths.way? stop b = some second) :
    (improveThrough paths stop).way? a b = some (p.improve first second) := by
  obtain ⟨row, hrow, hp⟩ := PathTable.way?_eq_some_iff.1 hp
  obtain ⟨row', hrow', hfirst⟩ := PathTable.way?_eq_some_iff.1 hfirst
  obtain ⟨onward, honward, hsecond⟩ := PathTable.way?_eq_some_iff.1 hsecond
  obtain rfl : row = row' := Option.some.inj (hrow.symm.trans hrow')
  have hfind : (improveRow stop onward row).find? b = some (p.improve first second) := by
    rw [improveRow, hfirst]
    dsimp only
    split
    · simp [hp, hsecond]
    · next h => rw [hp, Path.improve_of_not_exists (by simpa using h)]
  simp [PathTable.way?, improveThrough, honward, hrow, hfind]

/-! ### Costs -/

theorem infiniteCost_toNat : infiniteCost.toNat = 999 := rfl

theorem Path.exists_iff {p : Path} : p.exists = true ↔ p.cost.toNat < infiniteCost.toNat := by
  rw [Path.exists, decide_eq_true_iff, UInt32.lt_iff_toNat_lt]

/-- The costs of two ways that exist can be added without wrapping around. -/
theorem Path.toNat_cost_add {p q : Path} (hp : p.exists = true) (hq : q.exists = true) :
    (p.cost + q.cost).toNat = p.cost.toNat + q.cost.toNat := by
  have hp := Path.exists_iff.1 hp
  have hq := Path.exists_iff.1 hq
  rw [infiniteCost_toNat] at hp hq
  rw [UInt32.toNat_add, Nat.mod_eq_of_lt (by omega)]

/-- Improving a way takes the least of two costs. -/
theorem Path.toNat_cost_improve {p first second : Path} (h : p.cost.toNat ≤ infiniteCost.toNat) :
    (p.improve first second).cost.toNat =
      min p.cost.toNat (first.cost.toNat + second.cost.toNat) := by
  by_cases hf : first.exists = true
  · by_cases hs : second.exists = true
    · have hadd := Path.toNat_cost_add hf hs
      rw [Path.improve, hf, hs]
      simp only [Bool.true_and, decide_eq_true_eq, UInt32.lt_iff_toNat_lt, hadd]
      split
      · next hlt => rw [Path.through, hadd, Nat.min_eq_right (Nat.le_of_lt hlt)]
      · next hge => rw [Nat.min_eq_left (Nat.le_of_not_lt hge)]
    · have hge := mt Path.exists_iff.2 hs
      rw [Path.improve, if_neg (by simp [hs])]
      omega
  · have hge := mt Path.exists_iff.2 hf
    rw [Path.improve, if_neg (by simp [hf])]
    omega

/-! ### Routes over allowed stops -/

/-- `Route t gone via a b w` is a walk from `a` to `b` that costs `w` and has all its inner stops
among the nodes `via`. -/
inductive Topology.Route (t : Topology) (gone via : List NodeId) :
    NodeId → NodeId → Nat → Prop where
  /-- Staying at a node. -/
  | stay {a : NodeId} (ha : t.Alive gone a) : Route t gone via a a 0
  /-- A single link. -/
  | direct {a b : NodeId} (ha : t.Alive gone a) (hb : t.Alive gone b)
      (hl : (t.link? a b).isSome = true) : Route t gone via a b (t.cost a b).toNat
  /-- A link to an allowed stop, and a route from there. -/
  | through {a b c : NodeId} {w : Nat} (ha : t.Alive gone a) (hl : (t.link? a b).isSome = true)
      (hb : b ∈ via) (rest : Route t gone via b c w) :
      Route t gone via a c ((t.cost a b).toNat + w)

namespace Topology.Route

variable {t : Topology} {gone via : List NodeId}

theorem alive_left {a b : NodeId} {w : Nat} (h : t.Route gone via a b w) : t.Alive gone a := by
  cases h with
  | stay ha => exact ha
  | direct ha _ _ => exact ha
  | through ha _ _ _ => exact ha

/-- A route stays one when more stops are allowed. -/
theorem mono {via' : List NodeId} (hsub : via ⊆ via') {a b : NodeId} {w : Nat}
    (h : t.Route gone via a b w) : t.Route gone via' a b w := by
  induction h with
  | stay ha => exact .stay ha
  | direct ha hb hl => exact .direct ha hb hl
  | through ha hl hb _ ih => exact .through ha hl (hsub hb) ih

/-- Two routes that meet at an allowed stop are one route. -/
theorem append {a b c : NodeId} {v w : Nat} (h : t.Route gone via a b v) (hb : b ∈ via)
    (h' : t.Route gone via b c w) : t.Route gone via a c (v + w) := by
  induction h with
  | stay _ => rwa [Nat.zero_add]
  | direct ha _ hl => exact .through ha hl hb h'
  | through ha hl hx _ ih =>
    rw [Nat.add_assoc]
    exact .through ha hl hx (ih hb h')

/-- A route that may stop at one more node either does not, or is no cheaper than a route to that
node followed by one from there. -/
theorem split {k a b : NodeId} {w : Nat} (h : t.Route gone (k :: via) a b w) :
    t.Route gone via a b w ∨
      ∃ v v', t.Route gone via a k v ∧ t.Route gone via k b v' ∧ v + v' ≤ w := by
  induction h with
  | stay ha => exact .inl (.stay ha)
  | direct ha hb hl => exact .inl (.direct ha hb hl)
  | @through a b c w ha hl hb hrest ih =>
    have halive := hrest.alive_left
    rcases List.mem_cons.1 hb with rfl | hb
    -- the first stop is the new one; a later visit to it is left out
    · refine .inr ?_
      rcases ih with h | ⟨v, v', _, h, hle⟩
      · exact ⟨_, w, .direct ha halive hl, h, Nat.le_refl _⟩
      · exact ⟨_, v', .direct ha halive hl, h, by omega⟩
    · rcases ih with h | ⟨v, v', h, h', hle⟩
      · exact .inl (.through ha hl hb h)
      · exact .inr ⟨_, v', .through ha hl hb h, h', by omega⟩

/-- Routes are walks. -/
theorem exists_walk {a b : NodeId} {w : Nat} (h : t.Route gone via a b w) :
    ∃ stops, t.Walk gone a stops b w := by
  induction h with
  | stay ha => exact ⟨[], .stay ha⟩
  | direct ha hb hl => exact ⟨_, .link ha hb hl⟩
  | through ha hl _ _ ih =>
    obtain ⟨stops, hwalk⟩ := ih
    exact ⟨_, .step ha hl hwalk⟩

end Topology.Route

/-- Walks are routes once every node is allowed as a stop. -/
theorem Topology.Walk.route {t : Topology} {gone via : List NodeId} (hvia : t.nodeIds ⊆ via)
    {a b : NodeId} {stops : List NodeId} {w : Nat} (h : t.Walk gone a stops b w) :
    t.Route gone via a b w := by
  induction h with
  | stay ha => exact .stay ha
  | step ha hl hrest ih => exact .through ha hl (hvia hrest.alive_left.1) ih

/-! ### What a table shows -/

/-- The least cost of a route over allowed stops, or the infinite cost. -/
def Topology.CheapestVia (t : Topology) (gone via : List NodeId) (a b : NodeId) (c : Nat) : Prop :=
  IsLeast {w | w = infiniteCost.toNat ∨ t.Route gone via a b w} c

/-- Allowing one more stop: the cheapest route goes through it or does not. -/
theorem Topology.CheapestVia.allow {t : Topology} {gone via : List NodeId} {k a b : NodeId}
    {c v v' : Nat} (h : t.CheapestVia gone via a b c) (hto : t.CheapestVia gone via a k v)
    (hfrom : t.CheapestVia gone via k b v') :
    t.CheapestVia gone (k :: via) a b (min c (v + v')) := by
  have hc : c ≤ infiniteCost.toNat := h.2 (.inl rfl)
  have hsub : via ⊆ k :: via := List.subset_cons_self k via
  constructor
  · rcases Nat.le_total c (v + v') with hle | hle
    · rw [Nat.min_eq_left hle]
      exact h.1.imp_right (Route.mono hsub)
    · rw [Nat.min_eq_right hle]
      rcases hto.1 with rfl | hv
      · exact .inl (by omega)
      · rcases hfrom.1 with rfl | hv'
        · exact .inl (by omega)
        · exact .inr ((hv.mono hsub).append List.mem_cons_self (hv'.mono hsub))
  · rintro w (rfl | hw)
    · omega
    · rcases hw.split with hw | ⟨u, u', hu, hu', hle⟩
      · have := h.2 (.inr hw)
        omega
      · have := hto.2 (.inr hu)
        have := hfrom.2 (.inr hu')
        omega

/-- The table has an entry for any two nodes of the topology, which holds the least cost of a route
between them over allowed stops. -/
def PathTable.Shows (t : Topology) (gone via : List NodeId) (paths : PathTable) : Prop :=
  ∀ a ∈ t.nodeIds, ∀ b ∈ t.nodeIds, ∃ p, paths.way? a b = some p ∧
    t.CheapestVia gone via a b p.cost.toNat

/-- Without a stop, routes are single links. -/
theorem shows_directPaths (t : Topology) (gone : List NodeId) :
    (t.directPaths gone).Shows t gone [] := by
  intro a ha b hb
  refine ⟨_, way?_directPaths ha hb, ?_⟩
  rw [directPath]
  by_cases hgone : a ∈ gone ∨ b ∈ gone
  · rw [if_pos (by simpa using hgone)]
    refine ⟨.inl rfl, ?_⟩
    rintro w (rfl | hw)
    · exact Nat.le_refl _
    -- no route begins or ends at a node that has failed
    · obtain ⟨_, hwalk⟩ := hw.exists_walk
      rcases hgone with h | h
      · exact absurd h hwalk.alive_left.2
      · exact absurd h hwalk.alive_right.2
  · rw [not_or] at hgone
    rw [if_neg (by simpa using hgone)]
    by_cases hab : a = b
    · subst hab
      rw [if_pos rfl]
      exact ⟨.inr (.stay ⟨ha, hgone.1⟩), fun w _ => Nat.zero_le w⟩
    · rw [if_neg hab]
      have hlow : ∀ w, t.Route gone [] a b w → w = (t.cost a b).toNat := by
        intro w hw
        cases hw with
        | stay _ => exact absurd rfl hab
        | direct _ _ _ => rfl
        | through _ _ hx _ => exact absurd hx List.not_mem_nil
      dsimp only
      split
      · next hlt =>
        have hlink := isSome_link?_of_cost_lt hab hlt
        refine ⟨.inr (.direct ⟨ha, hgone.1⟩ ⟨hb, hgone.2⟩ hlink), ?_⟩
        rintro w (rfl | hw)
        · exact Nat.le_of_lt (UInt32.lt_iff_toNat_lt.1 hlt)
        · exact Nat.le_of_eq (hlow w hw).symm
      · next hge =>
        refine ⟨.inl rfl, ?_⟩
        rintro w (rfl | hw)
        · exact Nat.le_refl _
        · rw [hlow w hw]
          exact UInt32.le_iff_toNat_le.1 (UInt32.not_lt.1 hge)

/-- Allowing one more stop. -/
theorem PathTable.Shows.improveThrough {t : Topology} {gone via : List NodeId} {paths : PathTable}
    (h : paths.Shows t gone via) {stop : NodeId} (hstop : stop ∈ t.nodeIds) :
    PathTable.Shows t gone (stop :: via) (improveThrough paths stop) := by
  intro a ha b hb
  obtain ⟨p, hp, hc⟩ := h a ha b hb
  obtain ⟨first, hfirst, hto⟩ := h a ha stop hstop
  obtain ⟨second, hsecond, hfrom⟩ := h stop hstop b hb
  refine ⟨_, way?_improveThrough hp hfirst hsecond, ?_⟩
  rw [Path.toNat_cost_improve (hc.2 (.inl rfl))]
  exact hc.allow hto hfrom

/-- Allowing a list of stops one after another. -/
theorem PathTable.Shows.foldl {t : Topology} {gone : List NodeId} (stops : List NodeId) :
    ∀ {via : List NodeId} {paths : PathTable}, paths.Shows t gone via → stops ⊆ t.nodeIds →
      PathTable.Shows t gone (stops.reverse ++ via)
        (stops.foldl OverlayStack.improveThrough paths) := by
  induction stops with
  | nil => intro via paths h _; exact h
  | cons k stops ih =>
    intro via paths h hsub
    rw [List.foldl_cons, List.reverse_cons, List.append_assoc]
    exact ih (h.improveThrough (hsub List.mem_cons_self))
      (List.subset_of_cons_subset hsub)

/-- **The paths of a topology with failures are the shortest ones.** -/
theorem shows_shortestPaths (t : Topology) (gone : List NodeId) {a b : NodeId}
    (ha : a ∈ t.nodeIds) (hb : b ∈ t.nodeIds) :
    ∃ p, (t.shortestPaths gone).way? a b = some p ∧ t.Cheapest gone a b p.cost.toNat := by
  obtain ⟨p, hp, hc⟩ :=
    (shows_directPaths t gone).foldl t.nodeIds (List.Subset.refl _) a ha b hb
  refine ⟨p, hp, hc.1.imp_right Route.exists_walk, ?_⟩
  rintro w (rfl | ⟨stops, hw⟩)
  · exact hc.2 (.inl rfl)
  · refine hc.2 (.inr (hw.route fun x hx => ?_))
    simpa using hx

end OverlayStack
