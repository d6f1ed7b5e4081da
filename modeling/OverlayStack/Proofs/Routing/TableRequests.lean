import OverlayStack.Proofs.Routing.RouteListing

/-!
# What a routing table answers

The buckets of a routing table are nobody's business: whatever is asked of a table, it answers like
the finite map from destinations to neighbors that was changed in the same way.  So tables with
different numbers of buckets cannot be told apart by their answers, and it does not matter in which
order requests about different destinations come.

Requests are served one after another, and changes to the table are requests like any other.  The
table and the map are related by `RoutingTable.Shows`, which every request keeps, and under which
both give the same answer.

## Main definitions

* `TableRequest`, `TableAnswer` — what can be asked of a table, and the answers.
* `RoutingTable.serve`, `RouteMap.serve` — how a table and a map serve a request.
* `TableRequest.answers` — the answers to some requests, one after another.
* `RoutingTable.Shows` — a table has just the routes of a map.

## Main results

* `RoutingTable.Shows.serve` — a request is answered alike, and the table goes on to show the map.
* `RoutingTable.Shows.answers_eq` — so are all requests.
* `RoutingTable.refines_routeMap` — where the routes of any table are, and what it answers.
-/

namespace OverlayStack

/-! ### Requests -/

/-- What can be asked of a routing table. -/
inductive TableRequest where
  /-- Sets the route of a destination. -/
  | set (dest next : NodeId)
  /-- Removes the route of a destination, and asks whether there was one. -/
  | remove (dest : NodeId)
  /-- Asks where packets for a destination go next. -/
  | next (dest : NodeId)
  /-- Asks for the destinations that are reached through a neighbor. -/
  | via (next : NodeId)
  /-- Asks for all routes. -/
  | routes
  /-- Asks for the number of routes. -/
  | size
  /-- Asks whether there are no routes. -/
  | isEmpty
  /-- Asks for the text of the table. -/
  | text
  deriving DecidableEq, Repr

/-- What is answered to a request. -/
inductive TableAnswer where
  /-- The request asks nothing. -/
  | done
  | flag (yes : Bool)
  | node (next : Option NodeId)
  | nodes (dests : List NodeId)
  | routes (routes : List Route)
  | count (n : Nat)
  | text (text : String)
  deriving DecidableEq, Repr

namespace TableRequest

/-- The destination that a request is about, if it is about one. -/
def dest? : TableRequest → Option NodeId
  | set dest _ => some dest
  | remove dest => some dest
  | next dest => some dest
  | _ => none

/-- What a request about a destination makes of its route. -/
def routeAfter : TableRequest → Option NodeId → Option NodeId
  | set _ hop, _ => some hop
  | remove _, _ => none
  | _, route => route

variable {σ : Type}

/-- The state after some requests. -/
def after (serve : σ → TableRequest → σ × TableAnswer) (s : σ) (requests : List TableRequest) : σ :=
  requests.foldl (fun s request => (serve s request).1) s

/-- The answers to some requests, one after another. -/
def answers (serve : σ → TableRequest → σ × TableAnswer) : σ → List TableRequest → List TableAnswer
  | _, [] => []
  | s, request :: rest => (serve s request).2 :: answers serve (serve s request).1 rest

end TableRequest

namespace RoutingTable

/-- The table after a request, and the answer. -/
def serve (t : RoutingTable) : TableRequest → RoutingTable × TableAnswer
  | .set dest next => (t.set dest next, .done)
  | .remove dest => (t.remove dest, .flag (t.contains dest))
  | .next dest => (t, .node (t.next? dest))
  | .via next => (t, .nodes (t.via next))
  | .routes => (t, .routes t.routes)
  | .size => (t, .count t.size)
  | .isEmpty => (t, .flag t.isEmpty)
  | .text => (t, .text t.text)

end RoutingTable

/-! ### Finite maps -/

/-- What a routing table stands for: the neighbor on the way to each of some destinations. -/
abbrev RouteMap := NodeMap NodeId

namespace RouteMap

/-- The map in which every neighbor is reached directly. -/
def ofNeighbors (neighbors : List NodeId) : RouteMap :=
  neighbors.foldl (fun m n => m.insert n n) NodeMap.empty

/-- The routes of a map, in ascending order of their destinations. -/
def routes (m : RouteMap) : List Route :=
  m.entries.map fun e => ⟨e.1, e.2⟩

/-- The map after a request, and the answer. -/
def serve (m : RouteMap) : TableRequest → RouteMap × TableAnswer
  | .set dest next => (m.insert dest next, .done)
  | .remove dest => (m.erase dest, .flag (m.contains dest))
  | .next dest => (m, .node (m.find? dest))
  | .via next => (m, .nodes (m.filter fun _ n => n == next).keys)
  | .routes => (m, .routes m.routes)
  | .size => (m, .count m.size)
  | .isEmpty => (m, .flag (m.size == 0))
  | .text => (m, .text (routesText m.routes))

theorem pairwise_routes (m : RouteMap) : m.routes.Pairwise fun r s => r.dest < s.dest :=
  List.pairwise_map.2 m.ascending

theorem mem_routes_iff {m : RouteMap} {r : Route} :
    r ∈ m.routes ↔ m.find? r.dest = some r.next := by
  rw [← NodeMap.mem_entries_iff, routes, List.mem_map]
  constructor
  · rintro ⟨e, he, rfl⟩
    exact he
  · intro h
    exact ⟨(r.dest, r.next), h, rfl⟩

/-- A request about a destination changes its route only, and does so without looking at others. -/
theorem find?_serve (m : RouteMap) {request : TableRequest} {dest : NodeId}
    (h : request.dest? = some dest) (x : NodeId) :
    (m.serve request).1.find? x =
      if x = dest then request.routeAfter (m.find? dest) else m.find? x := by
  cases request with
  | set _ hop => cases h; exact m.find?_insert dest hop x
  | remove _ => cases h; exact m.find?_erase dest x
  | next _ =>
    cases h
    by_cases hx : x = dest
    · rw [if_pos hx, ← hx]
      rfl
    · rw [if_neg hx]
      rfl
  | _ => cases h

/-- The answer to a request about a destination only depends on its route. -/
theorem answer_serve {m m' : RouteMap} {request : TableRequest} {dest : NodeId}
    (h : request.dest? = some dest) (hsame : m.find? dest = m'.find? dest) :
    (m.serve request).2 = (m'.serve request).2 := by
  cases request with
  | set => rfl
  | remove _ =>
    cases h
    exact congrArg (fun route => TableAnswer.flag (Option.isSome route)) hsame
  | next _ =>
    cases h
    exact congrArg TableAnswer.node hsame
  | _ => cases h

/-- Requests about different destinations do not heed each other. -/
theorem serve_comm (m : RouteMap) {a b : TableRequest} {d d' : NodeId} (ha : a.dest? = some d)
    (hb : b.dest? = some d') (hne : d ≠ d') :
    ((m.serve a).1.serve b).2 = (m.serve b).2 ∧
      ∀ x, ((m.serve a).1.serve b).1.find? x = ((m.serve b).1.serve a).1.find? x := by
  have hkept : (m.serve a).1.find? d' = m.find? d' := by
    rw [find?_serve m ha, if_neg (Ne.symm hne)]
  have hkept' : (m.serve b).1.find? d = m.find? d := by
    rw [find?_serve m hb, if_neg hne]
  refine ⟨answer_serve hb hkept, fun x => ?_⟩
  rw [find?_serve _ hb, hkept, find?_serve m ha, find?_serve _ ha, hkept', find?_serve m hb]
  by_cases hx : x = d'
  · rw [if_pos hx, if_neg (hx ▸ Ne.symm hne), if_pos hx]
  · rw [if_neg hx, if_neg hx]

end RouteMap

namespace RoutingTable

/-! ### Tables and maps -/

/-- A table has its routes in their places, and they are those of a map. -/
structure Shows (t : RoutingTable) (m : RouteMap) : Prop where
  tidy : t.Tidy
  next?_eq : ∀ x, t.next? x = m.find? x

/-- A destination is in its bucket exactly if it has a route. -/
theorem contains_eq (t : RoutingTable) (dest : NodeId) :
    t.contains dest = (t.next? dest).isSome := by
  rw [contains, next?, Option.isSome_map, List.isSome_find?]

namespace Shows

variable {t : RoutingTable} {m : RouteMap}

theorem set (h : t.Shows m) (dest next : NodeId) :
    (t.set dest next).Shows (m.insert dest next) where
  tidy := h.tidy.set dest next
  next?_eq := fun x => by rw [next?_set, h.next?_eq, NodeMap.find?_insert]

theorem remove (h : t.Shows m) (dest : NodeId) : (t.remove dest).Shows (m.erase dest) where
  tidy := h.tidy.remove dest
  next?_eq := fun x => by rw [next?_remove, h.next?_eq, NodeMap.find?_erase]

theorem ofNeighbors (slots : Nat) (neighbors : List NodeId) :
    (ofNeighbors slots neighbors).Shows (RouteMap.ofNeighbors neighbors) := by
  have hfold : ∀ (t : RoutingTable) (m : RouteMap), t.Shows m →
      (neighbors.foldl (fun t n => t.set n n) t).Shows
        (neighbors.foldl (fun m n => m.insert n n) m) := by
    induction neighbors with
    | nil => exact fun t m h => h
    | cons n neighbors ih => exact fun t m h => ih _ _ (h.set n n)
  exact hfold _ _ ⟨tidy_withSlots slots, next?_withSlots slots⟩

theorem contains_eq (h : t.Shows m) (dest : NodeId) : t.contains dest = m.contains dest := by
  rw [RoutingTable.contains_eq, h.next?_eq, NodeMap.contains]

theorem routes_eq (h : t.Shows m) : t.routes = m.routes := by
  apply eq_of_pairwise_key (·.dest) (pairwise_routes h.tidy) m.pairwise_routes
  intro r
  rw [mem_routes_iff_next? h.tidy, h.next?_eq, RouteMap.mem_routes_iff]

theorem size_eq (h : t.Shows m) : t.size = m.size := by
  rw [← length_routes, h.routes_eq, RouteMap.routes, List.length_map, NodeMap.size]

theorem via_eq (h : t.Shows m) (next : NodeId) :
    t.via next = (m.filter fun _ n => n == next).keys := by
  rw [via, h.routes_eq, RouteMap.routes, List.filter_map, List.map_map]
  rfl

/-- **A request is answered as by the map**, and the table goes on to show the map. -/
theorem serve (h : t.Shows m) (request : TableRequest) :
    (t.serve request).2 = (m.serve request).2 ∧ (t.serve request).1.Shows (m.serve request).1 := by
  cases request with
  | set dest next => exact ⟨rfl, h.set dest next⟩
  | remove dest => exact ⟨congrArg TableAnswer.flag (h.contains_eq dest), h.remove dest⟩
  | next dest => exact ⟨congrArg TableAnswer.node (h.next?_eq dest), h⟩
  | via next => exact ⟨congrArg TableAnswer.nodes (h.via_eq next), h⟩
  | routes => exact ⟨congrArg TableAnswer.routes h.routes_eq, h⟩
  | size => exact ⟨congrArg TableAnswer.count h.size_eq, h⟩
  | isEmpty => exact ⟨congrArg (fun n => TableAnswer.flag (n == 0)) h.size_eq, h⟩
  | text => exact ⟨congrArg (fun routes => TableAnswer.text (routesText routes)) h.routes_eq, h⟩

/-- **All requests are answered as by the map.** -/
theorem answers_eq (h : t.Shows m) (requests : List TableRequest) :
    TableRequest.answers RoutingTable.serve t requests =
      TableRequest.answers RouteMap.serve m requests := by
  induction requests generalizing t m with
  | nil => rfl
  | cons request rest ih =>
    obtain ⟨hanswer, hnext⟩ := h.serve request
    rw [TableRequest.answers, TableRequest.answers, hanswer, ih hnext]

theorem after (h : t.Shows m) (requests : List TableRequest) :
    (TableRequest.after RoutingTable.serve t requests).Shows
      (TableRequest.after RouteMap.serve m requests) := by
  induction requests generalizing t m with
  | nil => exact h
  | cons request rest ih => exact ih (h.serve request).2

/-- Requests about different destinations are answered alike in either order, and so is everything
that is asked after them. -/
theorem answers_comm (h : t.Shows m) {a b : TableRequest} {d d' : NodeId} (ha : a.dest? = some d)
    (hb : b.dest? = some d') (hne : d ≠ d') (rest : List TableRequest) :
    ∃ x y zs, TableRequest.answers RoutingTable.serve t (a :: b :: rest) = x :: y :: zs ∧
      TableRequest.answers RoutingTable.serve t (b :: a :: rest) = y :: x :: zs := by
  obtain ⟨hsecond, hstate⟩ := m.serve_comm ha hb hne
  obtain ⟨hfirst, -⟩ := m.serve_comm hb ha (Ne.symm hne)
  -- the table shows the same map after the two requests, whichever comes first
  have hab := ((h.serve a).2.serve b).2
  have hba := ((h.serve b).2.serve a).2
  have hsame : ((t.serve b).1.serve a).1.Shows ((m.serve a).1.serve b).1 :=
    ⟨hba.tidy, fun x => (hba.next?_eq x).trans (hstate x).symm⟩
  refine ⟨(m.serve a).2, (m.serve b).2,
    TableRequest.answers RouteMap.serve ((m.serve a).1.serve b).1 rest, ?_, ?_⟩
  · rw [TableRequest.answers, TableRequest.answers, hab.answers_eq, (h.serve a).1,
      ((h.serve a).2.serve b).1, hsecond]
  · rw [TableRequest.answers, TableRequest.answers, hsame.answers_eq, (h.serve b).1,
      ((h.serve b).2.serve a).1, hfirst]

end Shows

/-! ### Places of the routes -/

@[simp] theorem length_buckets_set (t : RoutingTable) (dest next : NodeId) :
    (t.set dest next).buckets.length = t.buckets.length :=
  List.length_modify _ _ _

@[simp] theorem length_buckets_remove (t : RoutingTable) (dest : NodeId) :
    (t.remove dest).buckets.length = t.buckets.length :=
  List.length_modify _ _ _

/-- No request changes the number of buckets. -/
theorem length_buckets_after (t : RoutingTable) (requests : List TableRequest) :
    (TableRequest.after serve t requests).buckets.length = t.buckets.length := by
  have hstep : ∀ (t : RoutingTable) request,
      (t.serve request).1.buckets.length = t.buckets.length := by
    intro t request
    cases request <;> simp [serve]
  induction requests generalizing t with
  | nil => rfl
  | cons request rest ih => exact (ih _).trans (hstep t request)

theorem length_buckets_ofNeighbors (slots : Nat) (neighbors : List NodeId) :
    (ofNeighbors slots neighbors).buckets.length = max slots 1 := by
  have hfold : ∀ t : RoutingTable,
      (neighbors.foldl (fun t n => t.set n n) t).buckets.length = t.buckets.length := by
    induction neighbors with
    | nil => exact fun t => rfl
    | cons n neighbors ih => exact fun t => (ih _).trans (length_buckets_set t n n)
  rw [ofNeighbors, hfold, withSlots, List.length_replicate]

/-- No destination is in two places. -/
theorem Tidy.nodup_dests {t : RoutingTable} (h : t.Tidy) :
    (t.buckets.flatten.map (·.dest)).Nodup := by
  have hperm : (t.routes.map (·.dest)).Perm (t.buckets.flatten.map (·.dest)) :=
    (List.mergeSort_perm _ _).map _
  have hroutes : (t.routes.map (·.dest)).Nodup := by
    apply List.pairwise_map.2
    refine (pairwise_routes h).imp ?_
    intro r s hlt
    exact UInt32.ne_of_lt hlt
  exact hperm.nodup_iff.1 hroutes

/-- The destinations that are reached through a neighbor are in ascending order. -/
theorem pairwise_via {t : RoutingTable} (h : t.Tidy) (next : NodeId) :
    (t.via next).Pairwise (· < ·) :=
  List.pairwise_map.2 ((pairwise_routes h).filter _)

/-- There was a route to remove exactly if removing it leaves fewer routes in its bucket. -/
theorem contains_iff_length_bucket (t : RoutingTable) (dest : NodeId) :
    t.contains dest = true ↔ ((t.remove dest).bucket dest).length ≠ (t.bucket dest).length := by
  rw [remove, bucket_modifyBucket, if_pos rfl, removeIn, contains, ne_eq,
    List.length_filter_eq_length_iff, List.any_eq_true]
  simp

/-- **A routing table is a finite map**, whatever the number of its buckets.  After any requests,
every destination is in one place at most, in the bucket that its number modulo the number of
buckets names.  All requests are answered as by the map that was changed in the same way; in
particular the answers do not depend on the number of buckets.  Routes and destinations are listed
in ascending order.  A removal tells whether the bucket has shrunk.  Requests about different
destinations can change places, with no difference to any answer. -/
theorem refines_routeMap (slots : Nat) (neighbors : List NodeId) (requests : List TableRequest) :
    let t := TableRequest.after serve (ofNeighbors slots neighbors) requests
    (t.buckets.length = max slots 1 ∧ (t.buckets.flatten.map (·.dest)).Nodup ∧
      ∀ i (hi : i < t.buckets.length), ∀ r ∈ t.buckets[i], r.dest.toNat % max slots 1 = i) ∧
    TableRequest.answers serve (ofNeighbors slots neighbors) requests =
      TableRequest.answers RouteMap.serve (RouteMap.ofNeighbors neighbors) requests ∧
    (∀ slots', TableRequest.answers serve (ofNeighbors slots' neighbors) requests =
      TableRequest.answers serve (ofNeighbors slots neighbors) requests) ∧
    (t.routes.Pairwise fun r s => r.dest < s.dest) ∧
    (∀ next, (t.via next).Pairwise (· < ·)) ∧
    (∀ dest, t.contains dest = true ↔
      ((t.remove dest).bucket dest).length ≠ (t.bucket dest).length) ∧
    ∀ a b d d', a.dest? = some d → b.dest? = some d' → d ≠ d' → ∀ rest,
      ∃ x y zs, TableRequest.answers serve t (a :: b :: rest) = x :: y :: zs ∧
        TableRequest.answers serve t (b :: a :: rest) = y :: x :: zs := by
  intro t
  have hstart := Shows.ofNeighbors slots neighbors
  have hshows := hstart.after requests
  have hlen : t.buckets.length = max slots 1 :=
    (length_buckets_after _ requests).trans (length_buckets_ofNeighbors slots neighbors)
  refine ⟨⟨hlen, hshows.tidy.nodup_dests, ?_⟩, hstart.answers_eq requests, ?_,
    pairwise_routes hshows.tidy, pairwise_via hshows.tidy, contains_iff_length_bucket t, ?_⟩
  · intro i hi r hr
    rw [← hlen]
    exact hshows.tidy.placed i hi r hr
  · intro slots'
    rw [hstart.answers_eq, (Shows.ofNeighbors slots' neighbors).answers_eq]
  · intro a b d d' ha hb hne rest
    exact hshows.answers_comm ha hb hne rest

/-- The requests of a table in whose ten buckets the destinations 5, 15 and 25 share one. -/
def collidingRequests : List TableRequest :=
  [.set 15 2, .set 25 3, .set 15 9, .remove 5, .remove 5, .via 9, .routes]

/-- They are answered as by a map, and a route that is set then can as well be set after the removal
of another one. -/
theorem refines_routeMap_colliding :
    TableRequest.answers serve (ofNeighbors 10 [5]) collidingRequests =
        [.done, .done, .done, .flag true, .flag false, .nodes [15], .routes [⟨15, 9⟩, ⟨25, 3⟩]] ∧
      ∃ x y zs,
        TableRequest.answers serve
            (TableRequest.after serve (ofNeighbors 10 [5]) collidingRequests)
            [.set 5 2, .remove 15, .routes] = x :: y :: zs ∧
          TableRequest.answers serve
            (TableRequest.after serve (ofNeighbors 10 [5]) collidingRequests)
            [.remove 15, .set 5 2, .routes] = y :: x :: zs := by
  obtain ⟨-, hanswers, -, -, -, -, hcomm⟩ := refines_routeMap 10 [5] collidingRequests
  constructor
  · rw [hanswers]
    decide
  · exact hcomm (.set 5 2) (.remove 15) 5 15 rfl rfl (by decide) [.routes]

end RoutingTable

end OverlayStack
