import Mathlib.Data.List.Induction
import Mathlib.Tactic.Common
import OverlayStack.Overlay.Neighbors
import OverlayStack.Proofs.Splits

/-!
# The links of a neighbor table over time

Listeners, dialers and senders all use the table of the neighbors of a node, in any order.  Whatever
they do, a neighbor gets at most one link, and none once it was removed; and which neighbors have a
link can be told from what was done so far.

Requests are served one after another.  In between a neighbor may hang up, which nobody is told
until something is sent to it, so that this is a request like any other.

## Main definitions

* `LinkRequest`, `LinkAnswer`, `Served` — what can be asked, what is answered, and what is written.
* `NeighborTable.serve`, `NeighborTable.after` — how a table serves one request, and some.
* `NeighborTable.LinkedSince` — a link was attached, and nothing has ended it since.
* `NeighborTable.takers` — the neighbors that take what is sent to them.
* `NeighborTable.Lawful` — what holds of a table after some requests.

## Main results

* `NeighborTable.find?_serve` — what a request makes of a neighbor.
* `NeighborTable.mem_connected_after`, `NeighborTable.mem_takers_after` — the neighbors that have a
  link, and those that take what is sent.
* `NeighborTable.attached_once` — no neighbor gets a second link.
* `NeighborTable.lawful_start` — what holds of the table of a node after any requests.
-/

namespace OverlayStack

/-! ### Requests -/

/-- What can be asked of a neighbor table, and what can happen to its links. -/
inductive LinkRequest where
  /-- Adds a link to a node, if it is a neighbor without one. -/
  | attach (id : NodeId)
  /-- Removes a neighbor, and asks whether it was there. -/
  | remove (id : NodeId)
  /-- Sends a packet to a neighbor. -/
  | send (id : NodeId) (p : Packet)
  /-- Sends a packet to all neighbors, and asks how many took it. -/
  | broadcast (p : Packet)
  /-- A neighbor hangs up. -/
  | hangUp (id : NodeId)

/-- What is answered to a request. -/
inductive LinkAnswer where
  /-- It is done. -/
  | done
  | flag (yes : Bool)
  | count (n : Nat)
  /-- Nothing was sent. -/
  | failed (e : FrameError)

/-- What serving a request does. -/
structure Served where
  /-- The table after it. -/
  table : NeighborTable
  answer : LinkAnswer
  /-- What was written on the links. -/
  written : List (NodeId × Bytes) := []

/-- The neighbor with a link. -/
def Neighbor.linked (n : Neighbor) : Neighbor :=
  { n with link := n.link.or (some {}) }

/-- The neighbor after it has hung up. -/
def Neighbor.gone (n : Neighbor) : Neighbor :=
  { n with link := n.link.map fun l => { l with hungUp := true } }

/-- Whether a neighbor takes what is sent to it. -/
def Neighbor.takes (n : Neighbor) : Bool :=
  n.link.any fun l => !l.hungUp

namespace NeighborTable

variable {t : NeighborTable} {id : NodeId} {requests : List LinkRequest}

/-- The table after a request, with the answer and what was written. -/
def serve (t : NeighborTable) : LinkRequest → Served
  | .attach id => ⟨t.attach id, .flag (t.canAttach id), []⟩
  | .remove id => ⟨t.remove id, .flag (t.contains id), []⟩
  | .send id p =>
    match t.send id p with
    | .ok bs => ⟨t, .done, [(id, bs)]⟩
    | .error e => ⟨t, .failed e, []⟩
  | .broadcast p => ⟨t, .count (t.broadcast p).length, t.broadcast p⟩
  | .hangUp id => ⟨t.hangUp id, .done, []⟩

/-- The table after some requests. -/
def after (t : NeighborTable) (requests : List LinkRequest) : NeighborTable :=
  requests.foldl (fun t r => (t.serve r).table) t

theorem after_append (t : NeighborTable) (first second : List LinkRequest) :
    t.after (first ++ second) = (t.after first).after second :=
  List.foldl_append

theorem after_concat (t : NeighborTable) (requests : List LinkRequest) (r : LinkRequest) :
    t.after (requests ++ [r]) = ((t.after requests).serve r).table := by
  rw [after_append]
  rfl

/-- The neighbors that take what is sent to them, in ascending order. -/
def takers (t : NeighborTable) : List NodeId :=
  (t.filter fun _ n => n.takes).keys

/-- A link to a node was attached in some requests, and none of those behind ends it. -/
def LinkedSince (t : NeighborTable) (requests : List LinkRequest) (id : NodeId)
    (ends : LinkRequest → Prop) : Prop :=
  ∃ before r after, requests = before ++ r :: after ∧ r = .attach id ∧
    ((t.after before).serve r).answer = .flag true ∧ ∀ r' ∈ after, ¬ ends r'

/-! ### One request -/

theorem find?_attach (t : NeighborTable) (id j : NodeId) :
    (t.attach id).find? j = if j = id then (t.find? j).map Neighbor.linked else t.find? j := by
  by_cases hj : j = id
  · subst hj
    rw [if_pos rfl, attach, canAttach]
    cases hfind : t.find? j with
    | none => rw [if_neg Bool.false_ne_true, hfind]; rfl
    | some n =>
      obtain ⟨address, link⟩ := n
      cases link <;> simp [Neighbor.isConnected, Neighbor.linked, hfind]
  · rw [if_neg hj, attach]
    split
    · rw [NodeMap.find?_modify, if_neg hj]
    · rfl

/-- **What a request makes of a neighbor.** -/
theorem find?_serve (t : NeighborTable) (r : LinkRequest) (j : NodeId) :
    (t.serve r).table.find? j =
      match r with
      | .attach id => if j = id then (t.find? j).map Neighbor.linked else t.find? j
      | .remove id => if j = id then none else t.find? j
      | .hangUp id => if j = id then (t.find? j).map Neighbor.gone else t.find? j
      | .send _ _ | .broadcast _ => t.find? j := by
  cases r with
  | attach id => exact t.find?_attach id j
  | remove id => exact NodeMap.find?_erase t id j
  | send id p =>
    rw [serve]
    split <;> rfl
  | broadcast p => rfl
  | hangUp id => exact NodeMap.find?_modify t id Neighbor.gone j

/-- No request brings a neighbor. -/
theorem sublist_keys_serve (t : NeighborTable) (r : LinkRequest) :
    (t.serve r).table.keys.Sublist t.keys := by
  cases r with
  | attach id =>
    rw [serve, attach]
    split
    · exact (NodeMap.keys_map t _).symm ▸ List.Sublist.refl _
    · exact List.Sublist.refl _
  | remove id => exact (List.filter_sublist).map _
  | send id p =>
    rw [serve]
    split <;> exact List.Sublist.refl _
  | broadcast p => exact List.Sublist.refl _
  | hangUp id => exact (NodeMap.keys_map t _).symm ▸ List.Sublist.refl _

theorem mem_keys_filter_iff {α : Type} {m : NodeMap α} {p : NodeId → α → Bool} :
    id ∈ (m.filter p).keys ↔ ∃ x, m.find? id = some x ∧ p id x = true := by
  rw [NodeMap.mem_keys_iff, NodeMap.contains, NodeMap.find?_filter]
  cases m.find? id <;> simp [Option.filter]

theorem mem_connected_iff : id ∈ t.connected ↔ ∃ n, t.find? id = some n ∧ n.isConnected = true :=
  mem_keys_filter_iff

theorem mem_takers_iff : id ∈ t.takers ↔ ∃ n, t.find? id = some n ∧ n.takes = true :=
  mem_keys_filter_iff

theorem mem_keys_iff : id ∈ t.keys ↔ ∃ n, t.find? id = some n := by
  rw [NodeMap.mem_keys_iff, NodeMap.contains, Option.isSome_iff_exists]

theorem canAttach_iff : t.canAttach id = true ↔ id ∈ t.keys ∧ id ∉ t.connected := by
  rw [mem_keys_iff, mem_connected_iff, canAttach]
  cases t.find? id with
  | none => simp
  | some n => simp

/-- A link is added exactly to a neighbor that has none. -/
theorem answer_attach_iff :
    (t.serve (.attach id)).answer = .flag true ↔ id ∈ t.keys ∧ id ∉ t.connected := by
  rw [serve, LinkAnswer.flag.injEq, canAttach_iff]

theorem isConnected_gone (n : Neighbor) : n.gone.isConnected = n.isConnected := by
  rw [Neighbor.isConnected, Neighbor.isConnected, Neighbor.gone, Option.isSome_map]

theorem takes_gone (n : Neighbor) : n.gone.takes = false := by
  obtain ⟨address, link⟩ := n
  cases link <;> rfl

theorem isConnected_of_takes {n : Neighbor} (h : n.takes = true) : n.isConnected = true := by
  obtain ⟨address, link⟩ := n
  cases link with
  | none => cases h
  | some l => rfl

/-- A neighbor has a link after a request if it gets one, or had one that is not removed. -/
theorem mem_connected_serve (t : NeighborTable) (r : LinkRequest) :
    id ∈ (t.serve r).table.connected ↔
      r = .attach id ∧ t.canAttach id = true ∨ id ∈ t.connected ∧ r ≠ .remove id := by
  rw [mem_connected_iff, find?_serve, canAttach_iff, mem_keys_iff, mem_connected_iff]
  cases r with
  | attach j =>
    by_cases hj : id = j
    · subst hj
      cases t.find? id with
      | none => simp
      | some n =>
        obtain ⟨address, link⟩ := n
        cases link <;> simp [Neighbor.linked, Neighbor.isConnected]
    · simp [hj, Ne.symm hj]
  | remove j =>
    by_cases hj : id = j
    · simp [hj]
    · simp [hj, Ne.symm hj]
  | hangUp j =>
    by_cases hj : id = j
    · cases t.find? id <;> simp [hj, isConnected_gone]
    · simp [hj]
  | send | broadcast => simp

/-- A neighbor takes what is sent after a request if it gets a link, or took it before and neither
is removed nor hangs up. -/
theorem mem_takers_serve (t : NeighborTable) (r : LinkRequest) :
    id ∈ (t.serve r).table.takers ↔
      r = .attach id ∧ t.canAttach id = true ∨
        id ∈ t.takers ∧ ¬ (r = .remove id ∨ r = .hangUp id) := by
  rw [mem_takers_iff, find?_serve, canAttach_iff, mem_keys_iff, mem_connected_iff, mem_takers_iff]
  cases r with
  | attach j =>
    by_cases hj : id = j
    · subst hj
      cases t.find? id with
      | none => simp
      | some n =>
        obtain ⟨address, link⟩ := n
        cases link <;> simp [Neighbor.linked, Neighbor.isConnected, Neighbor.takes]
    · simp [hj, Ne.symm hj]
  | remove j =>
    by_cases hj : id = j
    · simp [hj]
    · simp [hj, Ne.symm hj]
  | hangUp j =>
    by_cases hj : id = j
    · cases t.find? id <;> simp [hj, takes_gone]
    · simp [hj, Ne.symm hj]
  | send | broadcast => simp

theorem mem_keys_serve (t : NeighborTable) (r : LinkRequest) :
    id ∈ (t.serve r).table.keys ↔ id ∈ t.keys ∧ r ≠ .remove id := by
  rw [mem_keys_iff, find?_serve, mem_keys_iff]
  cases r with
  | attach j => by_cases hj : id = j <;> cases t.find? id <;> simp [hj]
  | remove j =>
    by_cases hj : id = j
    · simp [hj]
    · simp [hj, Ne.symm hj]
  | hangUp j => by_cases hj : id = j <;> cases t.find? id <;> simp [hj]
  | send | broadcast => simp

/-! ### Some requests -/

/-- The last request attaches a link, or one was attached before and it does not end it. -/
theorem linkedSince_concat {ends : LinkRequest → Prop} {r : LinkRequest} :
    t.LinkedSince (requests ++ [r]) id ends ↔
      r = .attach id ∧ (t.after requests).canAttach id = true ∨
        t.LinkedSince requests id ends ∧ ¬ ends r := by
  rw [LinkedSince, exists_split_concat_iff]
  refine or_congr ?_ ?_
  · constructor
    · rintro ⟨rfl, hanswer, -⟩
      exact ⟨rfl, canAttach_iff.2 (answer_attach_iff.1 hanswer)⟩
    · rintro ⟨rfl, hcan⟩
      exact ⟨rfl, answer_attach_iff.2 (canAttach_iff.1 hcan), nofun⟩
  · constructor
    · rintro ⟨before, r', after, hsplit, hattach, hanswer, hlasts⟩
      exact ⟨⟨before, r', after, hsplit, hattach, hanswer,
        fun r hr => hlasts r (List.mem_append_left _ hr)⟩,
        hlasts r (List.mem_append_right _ List.mem_cons_self)⟩
    · rintro ⟨⟨before, r', after, hsplit, hattach, hanswer, hlasts⟩, hgoes⟩
      refine ⟨before, r', after, hsplit, hattach, hanswer, fun r'' hr => ?_⟩
      rcases List.mem_append.1 hr with hr | hr
      · exact hlasts r'' hr
      · rwa [List.mem_singleton.1 hr]

theorem not_linkedSince_nil {ends : LinkRequest → Prop} : ¬ t.LinkedSince [] id ends :=
  not_exists_split_nil

/-- **The neighbors that have a link** are those that got one and were not removed since. -/
theorem mem_connected_after (h : id ∉ t.connected) (requests : List LinkRequest) :
    id ∈ (t.after requests).connected ↔ t.LinkedSince requests id (· = .remove id) := by
  induction requests using List.reverseRecOn with
  | nil => exact iff_of_false h not_linkedSince_nil
  | append_singleton requests r ih =>
    rw [after_concat, mem_connected_serve, linkedSince_concat, ih]

/-- **The neighbors that take what is sent** got a link, and were not removed and have not hung up
since. -/
theorem mem_takers_after (h : id ∉ t.takers) (requests : List LinkRequest) :
    id ∈ (t.after requests).takers ↔
      t.LinkedSince requests id fun r => r = .remove id ∨ r = .hangUp id := by
  induction requests using List.reverseRecOn with
  | nil => exact iff_of_false h not_linkedSince_nil
  | append_singleton requests r ih =>
    rw [after_concat, mem_takers_serve, linkedSince_concat, ih]

/-- **The neighbors that are left** are those that were not removed. -/
theorem mem_keys_after (requests : List LinkRequest) :
    id ∈ (t.after requests).keys ↔ id ∈ t.keys ∧ .remove id ∉ requests := by
  induction requests using List.reverseRecOn with
  | nil => simp [after]
  | append_singleton requests r ih =>
    rw [after_concat, mem_keys_serve, ih, List.mem_append, List.mem_singleton, not_or, and_assoc,
      ne_comm]

/-- No request brings a neighbor back. -/
theorem sublist_keys_after (t : NeighborTable) (requests : List LinkRequest) :
    (t.after requests).keys.Sublist t.keys := by
  induction requests generalizing t with
  | nil => exact List.Sublist.refl _
  | cons r requests ih => exact (ih (t.serve r).table).trans (t.sublist_keys_serve r)

/-- What cannot get a link never can. -/
theorem canAttach_after (h : t.canAttach id = false) (requests : List LinkRequest) :
    (t.after requests).canAttach id = false := by
  induction requests generalizing t with
  | nil => exact h
  | cons r requests ih =>
    refine ih ?_
    rw [← Bool.not_eq_true, canAttach_iff] at h ⊢
    rw [mem_keys_serve, mem_connected_serve, canAttach_iff]
    tauto

theorem canAttach_serve_attach (t : NeighborTable) (id : NodeId) :
    (t.serve (.attach id)).table.canAttach id = false := by
  rw [← Bool.not_eq_true, canAttach_iff, mem_keys_serve, mem_connected_serve, canAttach_iff]
  tauto

/-- A node that was to get a link gets none later. -/
theorem answer_attach_later (t : NeighborTable) (before between : List LinkRequest) :
    ((t.after (before ++ .attach id :: between)).serve (.attach id)).answer ≠ .flag true := by
  have hlater := canAttach_after (canAttach_serve_attach (t.after before) id) between
  rw [ne_eq, answer_attach_iff, ← canAttach_iff, after_append, Bool.not_eq_true]
  exact hlater

/-- **No neighbor gets a second link.** -/
theorem attached_once {before after before' after' : List LinkRequest}
    (hsplit : before ++ .attach id :: after = before' ++ .attach id :: after')
    (h : ((t.after before).serve (.attach id)).answer = .flag true)
    (h' : ((t.after before').serve (.attach id)).answer = .flag true) : before = before' := by
  rcases List.append_eq_append_iff.1 hsplit with ⟨between, rfl, hrest⟩ | ⟨between, rfl, hrest⟩
  · cases between with
    | nil => exact (List.append_nil _).symm
    | cons r between =>
      cases hrest
      exact absurd h' (t.answer_attach_later before between)
  · cases between with
    | nil => exact List.append_nil _
    | cons r between =>
      cases hrest
      exact absurd h (t.answer_attach_later before' between)

/-! ### What is sent -/

theorem send_of_mem_takers (h : id ∈ t.takers) (p : Packet) :
    t.send id p = .ok (Frame.write none p) := by
  obtain ⟨⟨address, link⟩, hfind, htakes⟩ := mem_takers_iff.1 h
  rw [send, hfind]
  cases link with
  | none => cases htakes
  | some l =>
    rw [Neighbor.takes, Option.any_some, Bool.not_eq_true'] at htakes
    simp [htakes]

/-- A neighbor that does not take what is sent has hung up, or has no link. -/
theorem send_of_not_mem_takers (h : id ∉ t.takers) (p : Packet) :
    t.send id p = .error (.closed (if id ∈ t.connected then .hungUp else .absent)) := by
  rw [mem_takers_iff] at h
  simp only [send, mem_connected_iff]
  cases hfind : t.find? id with
  | none => simp
  | some n =>
    obtain ⟨address, link⟩ := n
    cases link with
    | none => simp [Neighbor.isConnected]
    | some l => simp_all [Neighbor.isConnected, Neighbor.takes]

/-- A packet for some neighbors is taken by those that take what is sent. -/
theorem filterMap_send (p : Packet) {es : List (NodeId × Neighbor)} (h : es ⊆ t.entries) :
    ((es.filter (·.2.isConnected)).map (·.1)).filterMap
        (fun id => (t.send id p).toOption.map fun bs => (id, bs)) =
      ((es.filter (·.2.takes)).map (·.1)).map fun id => (id, Frame.write none p) := by
  induction es with
  | nil => rfl
  | cons e es ih =>
    obtain ⟨hmem, hrest⟩ := List.cons_subset.1 h
    have hfind : t.find? e.1 = some e.2 := NodeMap.mem_entries_iff.1 hmem
    have htaken := ih hrest
    by_cases htakes : e.2.takes = true
    · have hsend : (t.send e.1 p).toOption = some (Frame.write none p) := by
        rw [send_of_mem_takers (mem_takers_iff.2 ⟨e.2, hfind, htakes⟩)]
        rfl
      simp only [List.filter_cons, isConnected_of_takes htakes, htakes, if_true, List.map_cons,
        List.filterMap_cons, hsend, Option.map_some, htaken]
    · have hrefused : (t.send e.1 p).toOption = none := by
        rw [send_of_not_mem_takers fun hmem => ?_]
        · rfl
        · obtain ⟨n, hn, hyes⟩ := mem_takers_iff.1 hmem
          cases hfind.symm.trans hn
          exact htakes hyes
      by_cases hlinked : e.2.isConnected = true
      · simp only [List.filter_cons, hlinked, htakes, if_true, Bool.false_eq_true, if_false,
          List.map_cons, List.filterMap_cons, hrefused, Option.map_none, htaken]
      · simp only [List.filter_cons, hlinked, htakes, Bool.false_eq_true, if_false, htaken]

/-- **A packet for all neighbors** is taken once by each one that takes what is sent. -/
theorem broadcast_eq (t : NeighborTable) (p : Packet) :
    t.broadcast p = t.takers.map fun id => (id, Frame.write none p) :=
  filterMap_send p (List.Subset.refl t.entries)

theorem allConnected_iff : t.allConnected = true ↔ t.connected = t.keys := by
  rw [allConnected, List.all_eq_true]
  constructor
  · intro hall
    exact congrArg (List.map (·.1)) (List.filter_eq_self.2 hall)
  · intro hsame
    have hlength := congrArg List.length hsame
    rw [connected, NodeMap.keys, NodeMap.keys, List.length_map, List.length_map] at hlength
    exact List.length_filter_eq_length_iff.1 hlength

/-! ### The table of a node -/

variable {g : Topology} {me : NodeId}

theorem mem_keys_start : id ∈ (start g me).keys ↔ id ∈ g.neighborIds me := by
  rw [start, NodeMap.keys_map, mem_keys_filter_iff, Topology.mem_neighborIds_iff,
    Topology.mem_nodeIds_iff, exists_and_right]

theorem not_mem_connected_start : id ∉ (start g me).connected := by
  rw [mem_connected_iff, start]
  rintro ⟨n, hn, hlinked⟩
  rw [NodeMap.find?_map] at hn
  obtain ⟨host, -, rfl⟩ := Option.map_eq_some_iff.1 hn
  cases hlinked

theorem not_mem_takers_start : id ∉ (start g me).takers := by
  rw [mem_takers_iff]
  rintro ⟨n, hn, htakes⟩
  exact not_mem_connected_start (mem_connected_iff.2 ⟨n, hn, isConnected_of_takes htakes⟩)

/-- What holds of the table of a node after some requests. -/
structure Lawful (g : Topology) (me : NodeId) (requests : List LinkRequest) (t : NeighborTable) :
    Prop where
  /-- Those neighbors are left that were not removed. -/
  mem_keys_iff : ∀ id, id ∈ t.keys ↔ id ∈ g.neighborIds me ∧ .remove id ∉ requests
  /-- No neighbor comes back. -/
  keys_after : ∀ more, (t.after more).keys.Sublist t.keys
  /-- A link is added to a neighbor that is left and has none. -/
  attach_iff : ∀ id, (t.serve (.attach id)).answer = .flag true ↔ id ∈ t.keys ∧ id ∉ t.connected
  /-- No neighbor gets a second link. -/
  attached_once : ∀ id before after before' after',
    requests = before ++ .attach id :: after → requests = before' ++ .attach id :: after' →
      (((start g me).after before).serve (.attach id)).answer = .flag true →
      (((start g me).after before').serve (.attach id)).answer = .flag true → before = before'
  /-- No neighbor gets a link after it was removed. -/
  attach_removed : ∀ id, .remove id ∈ requests →
    ∀ more, ((t.after more).serve (.attach id)).answer = .flag false
  connected_ascending : t.connected.Pairwise (· < ·)
  mem_connected_iff : ∀ id,
    id ∈ t.connected ↔ (start g me).LinkedSince requests id (· = .remove id)
  allConnected_iff : t.allConnected = true ↔ t.connected = t.keys
  /-- Of the neighbors that have a link, those take what is sent that have not hung up. -/
  takers_connected : t.takers.Sublist t.connected
  mem_takers_iff : ∀ id, id ∈ t.takers ↔
    (start g me).LinkedSince requests id fun r => r = .remove id ∨ r = .hangUp id
  broadcast_written : ∀ p, (t.serve (.broadcast p)).written =
    t.takers.map fun id => (id, Frame.write none p)
  broadcast_answer : ∀ p, (t.serve (.broadcast p)).answer = .count t.takers.length
  send_taken : ∀ id ∈ t.takers, ∀ p,
    t.serve (.send id p) = ⟨t, .done, [(id, Frame.write none p)]⟩
  /-- Without a link, or on one that the neighbor has hung up, nothing is written. -/
  send_refused : ∀ id, id ∉ t.takers → ∀ p, t.serve (.send id p) =
    ⟨t, .failed (.closed (if id ∈ t.connected then .hungUp else .absent)), []⟩

theorem sublist_takers_connected (t : NeighborTable) : t.takers.Sublist t.connected := by
  refine List.Sublist.map _ ?_
  exact List.monotone_filter_right _ fun e htakes => isConnected_of_takes htakes

/-- **The links of a node over time.**  After any requests those neighbors of the topology are left
that were not removed, and nobody ever comes back.  A link is added exactly to a neighbor that is
left and has none, so that no neighbor gets a second link, or one after it was removed.  The
neighbors with a link, in ascending order, are those that got one and were not removed since, and
all are connected if these are all that are left.  A packet for all is written once to each neighbor
with a link that has not hung up, and to nobody else, and their number is the answer; without a link
nothing is written. -/
theorem lawful_start (g : Topology) (me : NodeId) (requests : List LinkRequest) :
    ((start g me).after requests).Lawful g me requests where
  mem_keys_iff id := by rw [mem_keys_after, mem_keys_start]
  keys_after more := sublist_keys_after _ more
  attach_iff id := answer_attach_iff
  attached_once id before after before' after' hsplit hsplit' :=
    attached_once (hsplit.symm.trans hsplit')
  attach_removed id hremoved more := by
    have hcannot : ((start g me).after (requests ++ more)).canAttach id = false := by
      rw [← Bool.not_eq_true, canAttach_iff, mem_keys_after]
      exact fun hcan => hcan.1.2 (List.mem_append_left _ hremoved)
    rw [← after_append, serve, hcannot]
  connected_ascending := NodeMap.pairwise_keys _
  mem_connected_iff id := mem_connected_after not_mem_connected_start requests
  allConnected_iff := allConnected_iff
  takers_connected := sublist_takers_connected _
  mem_takers_iff id := mem_takers_after not_mem_takers_start requests
  broadcast_written p := broadcast_eq _ p
  broadcast_answer p := by rw [serve, broadcast_eq, List.length_map]
  send_taken id hid p := by rw [serve, send_of_mem_takers hid]
  send_refused id hid p := by rw [serve, send_of_not_mem_takers hid]

end NeighborTable

end OverlayStack
