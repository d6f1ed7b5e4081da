import OverlayStack.Proofs.Routing.LostNeighbors

/-!
# Updates from strangers

A node takes route updates from those nodes whose vectors have a place in its table.  These are its
neighbors and the node itself, since its own vector stands in the same table.  All other updates are
refused and change nothing.

An update that comes under the node's own number is written over its own vector.  This is the only
way in which what a node announces as its distance to itself can change.

## Main definitions

* `DistanceVector.Admits` — which vectors a node has a place for.
* `DistanceVector.selfCost` — what an update makes of the distance of a node to itself.

## Main results

* `DistanceVector.Admits.afterUpdate` — no update changes from whom updates are taken.
* `DistanceVector.refuses_strangers` — which updates are refused, and what a node announces as its
  distance to itself.
* `DistanceVector.unreachable_to_itself` — a node that announces itself as out of reach.
-/

namespace OverlayStack

namespace DistanceVector

/-- What an entry makes of the distance of a node to itself. -/
def selfCostEntry (me : NodeId) (cost : Cost) (entry : NodeId × Cost) : Cost :=
  if entry.1 = me then min entry.2 infiniteCost else cost

/-- What an update makes of the distance of a node to itself: nothing, unless it comes under the
number of the node. -/
def selfCost (me : NodeId) (cost : Cost) (update : NodeId × RouteUpdate) : Cost :=
  if update.1 = me then update.2.entries.foldl (selfCostEntry me) cost else cost

/-- A node has places for the vectors of its neighbors and for its own, and no route to itself. -/
structure Admits (t : Topology) (me : NodeId) (s : DistanceVector) : Prop where
  me_eq : s.me = me
  hasRow_iff : ∀ x, s.table.hasRow x = true ↔ x ∈ t.neighborIds me ∨ x = me
  tidy : s.routes.Tidy
  unrouted : s.routes.next? me = none

variable {t : Topology} {me source : NodeId} {s : DistanceVector}

theorem admits_start (t : Topology) (me : NodeId) (slots : Nat) :
    (start t me slots).Admits t me where
  me_eq := rfl
  hasRow_iff := by
    intro x
    by_cases hx : x = me
    · simp [start, DistanceTable.start, DistanceTable.hasRow, DistanceTable.row?, hx]
    · rw [← Network.mem_keys_linkCosts_iff, NodeMap.mem_keys_iff]
      simp [start, DistanceTable.start, DistanceTable.hasRow, DistanceTable.row?, hx,
        NodeMap.contains]
  tidy := RoutingTable.tidy_ofNeighbors _ _
  unrouted := by
    rw [next?_start, if_neg (t.not_mem_neighborIds_self me)]

/-! ### Writing down a vector -/

/-- Whoever a vector comes from, the places of the table stay.  The distance of the node to itself
is only written over if the vector comes under the number of the node. -/
theorem foldl_set (source : NodeId) (entries : List (NodeId × Cost)) :
    ∀ (d : DistanceTable) (cost : Cost), d.own.find? d.me = some cost →
      let d' := entries.foldl (fun d e => d.set source e.1 e.2) d
      d'.me = d.me ∧ (∀ x, d'.hasRow x = d.hasRow x) ∧
        d'.own.find? d.me = some (selfCost d.me cost (source, ⟨entries⟩)) := by
  induction entries with
  | nil =>
    intro d cost hown
    refine ⟨rfl, fun _ => rfl, ?_⟩
    rw [selfCost]
    split <;> exact hown
  | cons e entries ih =>
    intro d cost hown
    have hme := d.me_set source e.1 e.2
    have hstep : (d.set source e.1 e.2).own.find? d.me =
        some (if source = d.me then selfCostEntry d.me cost e else cost) := by
      rw [DistanceTable.find?_own_set, hown]
      by_cases hsource : source = d.me
      · by_cases hdest : e.1 = d.me
        · rw [if_pos ⟨hsource, hdest.symm⟩, if_pos hsource, selfCostEntry, if_pos hdest]
          rfl
        · rw [if_neg (fun h => hdest h.2.symm), if_pos hsource, selfCostEntry, if_neg hdest]
      · rw [if_neg (fun h => hsource h.1), if_neg hsource]
    rw [← hme] at hstep
    obtain ⟨hme', hrow', hown'⟩ := ih _ _ hstep
    refine ⟨hme'.trans hme, fun x => (hrow' x).trans (d.hasRow_set source e.1 e.2 x), ?_⟩
    rw [hme] at hown'
    rw [List.foldl_cons, hown', selfCost, selfCost]
    by_cases hsource : source = d.me
    · simp only [hsource, if_true, List.foldl_cons]
    · simp only [hsource, if_false]

theorem Admits.learn (hs : s.Admits t me) {cost : Cost} (hown : s.table.own.find? me = some cost)
    (source : NodeId) (entries : List (NodeId × Cost)) :
    (s.learn source entries).Admits t me ∧
      (s.learn source entries).table.own.find? me =
        some (selfCost me cost (source, ⟨entries⟩)) := by
  obtain rfl := hs.me_eq
  obtain ⟨hme, hrow, hown'⟩ := foldl_set source entries s.table cost hown
  refine ⟨⟨hme, ?_, hs.tidy, hs.unrouted⟩, hown'⟩
  intro x
  show (List.foldl _ s.table entries).hasRow x = true ↔ _
  rw [hrow x]
  exact hs.hasRow_iff x

/-! ### Considering its entries -/

theorem Admits.of_sameFrame {s' : DistanceVector} (hs : s.Admits t me) (hframe : SameFrame s s')
    (htidy : s'.routes.Tidy) (hroute : s'.routes.next? me = none) : s'.Admits t me where
  me_eq := hframe.me_eq.trans hs.me_eq
  hasRow_iff := fun x => by
    rw [hframe.hasRow_eq]
    exact hs.hasRow_iff x
  tidy := htidy
  unrouted := hroute

/-- The entries of an update say nothing to a node about itself. -/
theorem Admits.consider (hs : s.Admits t me) (source : NodeId) (link : Cost)
    (entry : NodeId × Cost) :
    (s.consider source link entry).Admits t me ∧
      (s.consider source link entry).table.own.find? me = s.table.own.find? me := by
  obtain ⟨dest, cost⟩ := entry
  rcases s.consider_cases source link dest cost with heq | ⟨hme, hdest, heq⟩ | ⟨hme, -, -, heq⟩
  · rw [heq]
    exact ⟨hs, rfl⟩
  · rw [hs.me_eq, hdest] at hme
    have hlose := without_lose s source
    -- no route leads to the node itself, so the loss of a neighbor does not take one away
    have hvia : me ∉ s.routes.via source := by
      intro hmem
      rw [RoutingTable.mem_via_iff hs.tidy, hs.unrouted] at hmem
      cases hmem
    rw [heq]
    constructor
    · apply hs.of_sameFrame ((sameFrame_setCost s source infiniteCost s.routes).trans
        hlose.sameFrame) (hlose.tidy hs.tidy)
      rw [hlose.next?_eq, if_neg hvia]
      exact hs.unrouted
    · rw [hlose.own_eq me hvia]
      exact own_setCost_of_ne (Ne.symm hme) _
  · rw [hs.me_eq] at hme
    rw [heq]
    constructor
    · apply hs.of_sameFrame (sameFrame_setCost s dest _ _) (hs.tidy.set dest source)
      show (s.routes.set dest source).next? me = none
      rw [RoutingTable.next?_set, if_neg (Ne.symm hme)]
      exact hs.unrouted
    · exact own_setCost_of_ne (Ne.symm hme) _

theorem Admits.foldl_consider (source : NodeId) (link : Cost) (entries : List (NodeId × Cost)) :
    ∀ s : DistanceVector, s.Admits t me →
      (entries.foldl (DistanceVector.consider source link) s).Admits t me ∧
        (entries.foldl (DistanceVector.consider source link) s).table.own.find? me =
          s.table.own.find? me := by
  induction entries with
  | nil => exact fun s hs => ⟨hs, rfl⟩
  | cons entry entries ih =>
    intro s hs
    obtain ⟨hstep, hown⟩ := hs.consider source link entry
    obtain ⟨hrest, hown'⟩ := ih _ hstep
    exact ⟨hrest, hown'.trans hown⟩

/-! ### Updates -/

/-- An update from a node without a place in the table is refused. -/
theorem Admits.handle_eq_error (hs : s.Admits t me) (hneighbor : source ∉ t.neighborIds me)
    (hme : source ≠ me) (u : RouteUpdate) :
    s.handle source u = .error (.notNeighbor source) := by
  rw [handle, if_neg]
  rw [hs.hasRow_iff, not_or]
  exact ⟨hneighbor, hme⟩

/-- An update from a neighbor is taken, and so is one that comes under the node's own number. -/
theorem Admits.handle_eq_ok (hs : s.Admits t me) (hsource : source ∈ t.neighborIds me ∨ source = me)
    (u : RouteUpdate) : ∃ s', s.handle source u = .ok s' := by
  rw [handle, if_pos ((hs.hasRow_iff source).2 hsource)]
  exact ⟨_, rfl⟩

/-- **No update changes from whom a node takes updates.** -/
theorem Admits.afterUpdate (hs : s.Admits t me) {cost : Cost}
    (hown : s.table.own.find? me = some cost) (update : NodeId × RouteUpdate) :
    (s.afterUpdate update).Admits t me ∧
      (s.afterUpdate update).table.own.find? me = some (selfCost me cost update) := by
  obtain ⟨source, u⟩ := update
  by_cases hsource : source ∈ t.neighborIds me ∨ source = me
  · obtain ⟨hlearn, hown'⟩ := hs.learn hown source u.entries
    obtain ⟨hconsider, hown''⟩ :=
      Admits.foldl_consider source (linkCost s.links source) u.entries _ hlearn
    rw [DistanceVector.afterUpdate, handle, if_pos ((hs.hasRow_iff source).2 hsource)]
    exact ⟨hconsider, hown''.trans hown'⟩
  · rw [not_or] at hsource
    rw [DistanceVector.afterUpdate, hs.handle_eq_error hsource.1 hsource.2 u, selfCost,
      if_neg hsource.2]
    exact ⟨hs, hown⟩

theorem Admits.afterUpdates (updates : List (NodeId × RouteUpdate)) :
    ∀ (s : DistanceVector) (cost : Cost), s.Admits t me → s.table.own.find? me = some cost →
      (s.afterUpdates updates).Admits t me ∧
        (s.afterUpdates updates).table.own.find? me = some (updates.foldl (selfCost me) cost) := by
  induction updates with
  | nil => exact fun s cost hs hown => ⟨hs, hown⟩
  | cons update updates ih =>
    intro s cost hs hown
    obtain ⟨hstep, hown'⟩ := hs.afterUpdate hown update
    exact ih _ _ hstep hown'

/-- Without updates under its own number a node is at no distance from itself. -/
theorem foldl_selfCost_of_ne {updates : List (NodeId × RouteUpdate)}
    (h : ∀ update ∈ updates, update.1 ≠ me) (cost : Cost) :
    updates.foldl (selfCost me) cost = cost := by
  induction updates with
  | nil => rfl
  | cons update updates ih =>
    rw [List.foldl_cons, selfCost, if_neg (h update List.mem_cons_self)]
    exact ih fun update' hmem => h update' (List.mem_cons_of_mem _ hmem)

/-- **Updates from strangers are refused and change nothing**, whatever updates came before.  An
update is refused exactly if it comes neither from a neighbor nor under the number of the node.  The
node announces itself at what the updates under its own number made of its distance to itself, and
at no cost if there were none. -/
theorem refuses_strangers (t : Topology) (me : NodeId) (slots : Nat)
    (updates : List (NodeId × RouteUpdate)) (hme : me ∈ t.nodeIds) :
    (∀ source, source ∉ t.neighborIds me → source ≠ me → ∀ u,
      ((start t me slots).afterUpdates updates).handle source u =
          .error (.notNeighbor source) ∧
        (start t me slots).afterUpdates (updates ++ [(source, u)]) =
          (start t me slots).afterUpdates updates) ∧
    (∀ source, source ∈ t.neighborIds me ∨ source = me → ∀ u,
      ∃ s', ((start t me slots).afterUpdates updates).handle source u = .ok s') ∧
    (∀ cost, (me, cost) ∈ ((start t me slots).afterUpdates updates).advertisement.entries ↔
      cost = updates.foldl (selfCost me) 0) ∧
    ((∀ update ∈ updates, update.1 ≠ me) → updates.foldl (selfCost me) 0 = 0) := by
  have hown : (start t me slots).table.own.find? me = some 0 :=
    (Network.fits_start slots hme).own_self
  obtain ⟨hs, hself⟩ := Admits.afterUpdates updates _ 0 (admits_start t me slots) hown
  refine ⟨?_, ?_, ?_, ?_⟩
  · intro source hneighbor hsource u
    have hrefused := hs.handle_eq_error hneighbor hsource u
    refine ⟨hrefused, ?_⟩
    rw [afterUpdates, List.foldl_append]
    show ((start t me slots).afterUpdates updates).afterUpdate (source, u) = _
    rw [DistanceVector.afterUpdate, hrefused]
  · intro source hsource u
    exact hs.handle_eq_ok hsource u
  · intro cost
    show (me, cost) ∈ ((start t me slots).afterUpdates updates).table.own.entries ↔ _
    rw [NodeMap.mem_entries_iff, hself, Option.some_inj, eq_comm]
  · intro hothers
    exact foldl_selfCost_of_ne hothers 0

open OverlayStack.Topology (chordedLine)

/-- The third node of a line is a stranger to the first. -/
theorem refuses_strangers_line :
    (start chordedLine 1 10).handle 3 ⟨[(3, 0)]⟩ = .error (.notNeighbor 3) ∧
      (1, 0) ∈ (start chordedLine 1 10).advertisement.entries := by
  obtain ⟨hrefused, -, hself, -⟩ := refuses_strangers chordedLine 1 10 [] (by decide)
  exact ⟨(hrefused 3 (by decide) (by decide) _).1, (hself 0).2 rfl⟩

/-- A node is no neighbor of itself.  It takes an update under its own number all the same, and then
announces itself as out of reach. -/
theorem unreachable_to_itself :
    1 ∉ chordedLine.neighborIds 1 ∧
      (∃ s', (start chordedLine 1 10).handle 1 ⟨[(1, 999)]⟩ = .ok s') ∧
      ((start chordedLine 1 10).afterUpdates [(1, ⟨[(1, 999)]⟩)]).advertisement.entries =
        [(1, infiniteCost), (2, 1), (3, infiniteCost), (4, 5)] :=
  ⟨by decide, ⟨_, rfl⟩, by decide⟩

end DistanceVector

end OverlayStack
