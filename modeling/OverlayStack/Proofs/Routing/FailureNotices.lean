import OverlayStack.Proofs.Routing.Pointers
import OverlayStack.Proofs.Routing.RouteListing
import OverlayStack.Routing.LinkState

/-!
# What failure notices do to a node

A node that routes by link states hears of failures in any order, some of them more than once, and
some of nodes that do not exist or of itself.  Its routes are patched with each notice that makes a
difference.  They are always the first steps of the paths in its graph, and the graph only depends
on which nodes of the topology were named.

## Main definitions

* `LinkState.afterUpdates` — a node after route updates, one after another.
* `LinkState.named` — the nodes whose failures the updates report.
* `LinkState.Current` — the routes of a node are the first steps of the paths in its graph.

## Main results

* `LinkState.graph_afterUpdates` — the graph of a node after some updates.
* `LinkState.current_afterUpdates` — routes are current after every update.
* `LinkGraph.paths_afterRemovals_congr` — paths depend on the set of removed nodes only.
-/

namespace OverlayStack

/-! ### Patching a table -/

/-- The table with the route of one destination set, or removed if there is none. -/
def RoutingTable.put (t : RoutingTable) (dest : NodeId) : Option NodeId → RoutingTable
  | some next => t.set dest next
  | none => t.remove dest

namespace RoutingTable

theorem next?_put (t : RoutingTable) (dest : NodeId) (next : Option NodeId) (x : NodeId) :
    (t.put dest next).next? x = if x = dest then next else t.next? x := by
  cases next with
  | none => exact next?_remove t dest x
  | some next => exact next?_set t dest next x

theorem Tidy.put {t : RoutingTable} (h : t.Tidy) (dest : NodeId) (next : Option NodeId) :
    (t.put dest next).Tidy := by
  cases next with
  | none => exact h.remove dest
  | some next => exact h.set dest next

theorem next?_foldl_put (next : NodeId → Option NodeId) (x : NodeId) (dests : List NodeId) :
    ∀ t : RoutingTable, (dests.foldl (fun t dest => t.put dest (next dest)) t).next? x =
      if x ∈ dests then next x else t.next? x := by
  induction dests with
  | nil => intro t; simp
  | cons dest dests ih =>
    intro t
    rw [List.foldl_cons, ih, next?_put]
    by_cases hx : x = dest <;> simp [hx]

theorem Tidy.foldl_put (next : NodeId → Option NodeId) (dests : List NodeId) :
    ∀ t : RoutingTable, t.Tidy → (dests.foldl (fun t dest => t.put dest (next dest)) t).Tidy := by
  induction dests with
  | nil => intro t h; exact h
  | cons dest dests ih =>
    intro t h
    exact ih _ (h.put dest (next dest))

end RoutingTable

/-! ### Paths and the set of failures -/

theorem Topology.shortestPaths_congr (t : Topology) {gone gone' : List NodeId}
    (h : ∀ x, x ∈ gone ↔ x ∈ gone') : t.shortestPaths gone = t.shortestPaths gone' := by
  have hcontains : ∀ x, gone.contains x = gone'.contains x := by
    intro x
    rw [Bool.eq_iff_iff, List.contains_iff_mem, List.contains_iff_mem, h]
  have hdirect : t.directPath gone = t.directPath gone' := by
    funext a b
    rw [directPath, directPath, hcontains, hcontains]
  rw [shortestPaths, shortestPaths, directPaths, directPaths, hdirect]

namespace LinkGraph

theorem remove_of_not_canRemove {g : LinkGraph} {node : NodeId} (h : ¬ g.canRemove node = true) :
    g.remove node = g := by
  rw [remove, if_neg h]

/-- **Paths depend on the set of removed nodes only**, not on the order of the removals and not on
names that do not occur in the topology. -/
theorem paths_afterRemovals_congr {t : Topology} {removals removals' : List NodeId}
    (h : ∀ x ∈ t.nodeIds, x ∈ removals ↔ x ∈ removals') :
    (afterRemovals t removals).paths = (afterRemovals t removals').paths := by
  rw [(afterRemovals t removals).paths_eq, (afterRemovals t removals').paths_eq,
    topology_afterRemovals, topology_afterRemovals]
  apply t.shortestPaths_congr
  intro x
  rw [afterRemovals, afterRemovals, mem_removed_foldl_iff, mem_removed_foldl_iff, removed_start,
    topology_start]
  by_cases hx : x ∈ t.nodeIds
  · rw [h x hx]
  · simp [hx]

theorem path_congr {g g' : LinkGraph} (h : g.paths = g'.paths) (a b : NodeId) :
    g.path a b = g'.path a b := by
  rw [path, path, h]

end LinkGraph

namespace LinkState

open LinkGraph

/-! ### A node after updates -/

/-- The node after a route update from a source.  Updates that it cannot apply change nothing. -/
def afterUpdate (s : LinkState) (update : NodeId × RouteUpdate) : LinkState :=
  match s.handle update.1 update.2 with
  | .ok (s, _) => s
  | .error _ => s

/-- The node after some route updates. -/
def afterUpdates (s : LinkState) (updates : List (NodeId × RouteUpdate)) : LinkState :=
  updates.foldl afterUpdate s

/-- The nodes whose failures some updates report. -/
def named (updates : List (NodeId × RouteUpdate)) : List NodeId :=
  updates.filterMap fun update => update.2.failedNode?

theorem afterUpdates_cons (s : LinkState) (update : NodeId × RouteUpdate)
    (updates : List (NodeId × RouteUpdate)) :
    s.afterUpdates (update :: updates) = (s.afterUpdate update).afterUpdates updates := rfl

theorem named_cons (update : NodeId × RouteUpdate) (updates : List (NodeId × RouteUpdate)) :
    named (update :: updates) = update.2.failedNode?.toList ++ named updates := by
  rw [named, List.filterMap_cons]
  cases update.2.failedNode? <;> rfl

/-- All that an update can do is to report the failure of another node. -/
theorem afterUpdate_cases (s : LinkState) (update : NodeId × RouteUpdate) :
    (s.afterUpdate update = s ∧ ∀ node ∈ update.2.failedNode?, node = s.me) ∨
      ∃ node, update.2.failedNode? = some node ∧ node ≠ s.me ∧
        s.afterUpdate update = s.fail node := by
  rw [afterUpdate, handle]
  cases hnode : update.2.failedNode? with
  | none =>
    refine .inl ⟨rfl, ?_⟩
    intro node hmem
    exact absurd hmem (Option.not_mem_none node)
  | some node =>
    dsimp only
    by_cases hme : node = s.me
    · rw [if_pos hme]
      refine .inl ⟨rfl, ?_⟩
      intro node' hmem
      rw [← hme]
      exact (Option.mem_some.1 hmem).symm
    · rw [if_neg hme]
      exact .inr ⟨node, rfl, hme, rfl⟩

@[simp] theorem me_fail (s : LinkState) (node : NodeId) : (s.fail node).me = s.me := by
  rw [fail]
  split <;> rfl

@[simp] theorem graph_fail (s : LinkState) (node : NodeId) :
    (s.fail node).graph = s.graph.remove node := by
  rw [fail]
  split
  · rfl
  · next h => rw [remove_of_not_canRemove h]

theorem me_afterUpdate (s : LinkState) (update : NodeId × RouteUpdate) :
    (s.afterUpdate update).me = s.me := by
  rcases s.afterUpdate_cases update with ⟨heq, -⟩ | ⟨node, -, -, heq⟩
  · rw [heq]
  · rw [heq, me_fail]

/-- The graph of a node has lost the nodes that were named, apart from the node itself. -/
theorem graph_foldl_afterUpdate (updates : List (NodeId × RouteUpdate)) :
    ∀ s : LinkState, (s.afterUpdates updates).graph =
      ((named updates).filter (· != s.me)).foldl remove s.graph := by
  induction updates with
  | nil => intro s; rfl
  | cons update updates ih =>
    intro s
    rw [afterUpdates_cons, ih, me_afterUpdate, named_cons, List.filter_append]
    rcases s.afterUpdate_cases update with ⟨heq, hme⟩ | ⟨node, hnode, hne, heq⟩
    · have hnil : update.2.failedNode?.toList.filter (· != s.me) = [] := by
        apply List.filter_eq_nil_iff.2
        intro node hmem
        have := hme node (Option.mem_toList.1 hmem)
        simpa using this
      rw [heq, hnil, List.nil_append]
    · rw [heq, graph_fail, hnode, Option.toList_some,
        List.filter_cons_of_pos (by simpa using hne), List.filter_nil, List.singleton_append,
        List.foldl_cons]

theorem graph_afterUpdates (t : Topology) (me : NodeId) (slots : Nat)
    (updates : List (NodeId × RouteUpdate)) :
    ((start t me slots).afterUpdates updates).graph =
      afterRemovals t ((named updates).filter (· != me)) :=
  graph_foldl_afterUpdate updates (start t me slots)

/-! ### Routes are current -/

/-- The routes of a node are the first steps of the paths in its graph. -/
structure Current (t : Topology) (me : NodeId) (s : LinkState) : Prop where
  me_eq : s.me = me
  topology_eq : s.graph.topology = t
  tidy : s.routes.Tidy
  next?_eq : ∀ x, s.routes.next? x =
    if x ∈ t.nodeIds ∧ x ≠ me then s.graph.nextHop me x else none

theorem refresh_eq (me : NodeId) (g : LinkGraph) (routes : RoutingTable) :
    refresh me g routes =
      (g.nodeIds.filter (· != me)).foldl (fun r dest => r.put dest (g.nextHop me dest)) routes :=
  rfl

theorem next?_refresh (me : NodeId) (g : LinkGraph) (routes : RoutingTable) (x : NodeId) :
    (refresh me g routes).next? x =
      if x ∈ g.topology.nodeIds ∧ x ≠ me then g.nextHop me x else routes.next? x := by
  rw [refresh_eq, RoutingTable.next?_foldl_put]
  simp [LinkGraph.nodeIds]

theorem tidy_refresh {routes : RoutingTable} (h : routes.Tidy) (me : NodeId) (g : LinkGraph) :
    (refresh me g routes).Tidy := by
  rw [refresh_eq]
  exact RoutingTable.Tidy.foldl_put _ _ _ h

theorem current_start (t : Topology) (me : NodeId) (slots : Nat) :
    (start t me slots).Current t me where
  me_eq := rfl
  topology_eq := rfl
  tidy := tidy_refresh (RoutingTable.tidy_withSlots slots) me _
  next?_eq := by
    intro x
    rw [start, next?_refresh, RoutingTable.next?_withSlots, topology_start]

/-- A failure does not leave old routes behind. -/
theorem Current.fail {t : Topology} {me : NodeId} {s : LinkState} (h : s.Current t me)
    (node : NodeId) : (s.fail node).Current t me := by
  constructor
  · rw [me_fail, h.me_eq]
  · rw [graph_fail, topology_remove, h.topology_eq]
  · rw [LinkState.fail]
    split
    · exact tidy_refresh h.tidy _ _
    · exact h.tidy
  · intro x
    by_cases hcan : s.graph.canRemove node = true
    · rw [LinkState.fail, if_pos hcan, next?_refresh, topology_remove, h.topology_eq, h.me_eq]
      split
      · rfl
      -- no route is added for other numbers
      · next hx => rw [h.next?_eq, if_neg hx]
    · rw [LinkState.fail, if_neg hcan]
      exact h.next?_eq x

theorem Current.afterUpdates {t : Topology} {me : NodeId} (updates : List (NodeId × RouteUpdate)) :
    ∀ s : LinkState, s.Current t me → (s.afterUpdates updates).Current t me := by
  induction updates with
  | nil => intro s h; exact h
  | cons update updates ih =>
    intro s h
    apply ih
    rcases s.afterUpdate_cases update with ⟨heq, -⟩ | ⟨node, -, -, heq⟩
    · rw [heq]
      exact h
    · rw [heq]
      exact h.fail node

/-- **Routes are current after every update.** -/
theorem current_afterUpdates (t : Topology) (me : NodeId) (slots : Nat)
    (updates : List (NodeId × RouteUpdate)) :
    ((start t me slots).afterUpdates updates).Current t me :=
  Current.afterUpdates updates _ (current_start t me slots)

/-! ### Nodes that have heard of the same failures -/

variable {t : Topology} {me : NodeId} {updates : List (NodeId × RouteUpdate)}

/-- A node that has heard of just the given failures of others has the paths of the topology without
these nodes. -/
theorem paths_of_named {failed : List NodeId} (slots : Nat) (hme : me ∉ failed)
    (h : ∀ x ∈ t.nodeIds, x ≠ me → (x ∈ named updates ↔ x ∈ failed)) :
    ((start t me slots).afterUpdates updates).graph.paths = (afterRemovals t failed).paths := by
  rw [graph_afterUpdates]
  apply paths_afterRemovals_congr
  intro x hx
  rw [List.mem_filter, bne_iff_ne]
  by_cases hxme : x = me
  · subst hxme
    simp [hme]
  · rw [← h x hx hxme]
    simp [hxme]

/-- Such nodes list the same routes, also if their tables do not have the same number of
buckets. -/
theorem routes_eq_of_paths {s s' : LinkState} (h : s.Current t me) (h' : s'.Current t me)
    (hpaths : s.graph.paths = s'.graph.paths) : s.routes.routes = s'.routes.routes := by
  apply RoutingTable.routes_eq_of_next? h.tidy h'.tidy
  intro x
  rw [h.next?_eq, h'.next?_eq, nextHop, nextHop, path_congr hpaths]

end LinkState

end OverlayStack
