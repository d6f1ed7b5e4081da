import OverlayStack.Address
import OverlayStack.NodeMap
import OverlayStack.Text.Quoted

/-!
# Topologies

A topology says which hosts take part in the overlay and which of them are joined by a link.  Links
have no direction, and a link that is added later replaces one between the same hosts.

The main statements are about direct costs: `cost_comm` says that they do not depend on the
direction, and `mem_neighborIds_iff` that the neighbors of a node are the other nodes it is joined
to.

## Main definitions

* `Host`, `Link`, `Topology` — what a topology consists of.
* `Topology.addHost`, `Topology.addLink` — how it grows.
* `Topology.cost`, `Topology.neighborIds` — the direct costs and the neighbors of a node.
* `Topology.nodeByHost` — the node of a host.
* `Topology.Error` — what can be wrong with the description of a topology.
-/

namespace OverlayStack

/-- A host that takes part in the overlay. -/
structure Host where
  /-- The name under which it first occurred. -/
  name : String
  address : Address
  deriving DecidableEq

/-- A link between two different nodes. -/
structure Link where
  /-- One end. -/
  near : NodeId
  /-- The other end. -/
  far : NodeId
  /-- The cost of crossing the link, in either direction. -/
  cost : Cost
  /-- No link joins a node to itself. -/
  distinct : near ≠ far

/-- Whether a link joins two nodes. -/
def Link.joins (l : Link) (a b : NodeId) : Bool :=
  (l.near == a && l.far == b) || (l.near == b && l.far == a)

theorem Link.joins_comm (l : Link) (a b : NodeId) : l.joins a b = l.joins b a :=
  Bool.or_comm _ _

theorem Link.joins_self (l : Link) (a : NodeId) : l.joins a a = false := by
  have := l.distinct
  by_cases h : l.near = a
  · have hf : l.far ≠ a := fun hf => this (h.trans hf.symm)
    simp [joins, hf]
  · simp [joins, h]

/-- The hosts of an overlay and the links between them. -/
structure Topology where
  /-- The host of each node. -/
  hosts : NodeMap Host
  /-- The links, the newest one first. -/
  links : List Link
  /-- The number of a node is the last number of its address. -/
  keyed : ∀ e ∈ hosts.entries, e.1 = e.2.address.nodeId

namespace Topology

/-- What can be wrong with the file that describes a topology. -/
inductive FileFault where
  /-- There is no such file. -/
  | missing
  /-- The bytes of the file are not text. -/
  | notText

/-- What can be wrong with the description of a topology. -/
inductive Error where
  /-- The file cannot be read. -/
  | unreadable (fault : FileFault)
  /-- A line does not name two different nodes and a cost.  Lines are counted from one. -/
  | badLine (number : Nat) (content : String)
  /-- A host has no address. -/
  | unresolved (host : String)
  /-- Two hosts with different addresses have the same number. -/
  | sharedId (id : NodeId) (first second : String)
  /-- A host does not occur in the topology. -/
  | unknownHost (host : String)

/-- The wording of a file fault. -/
def FileFault.message : FileFault → String
  | missing => "No such file or directory (os error 2)"
  | notText => "stream did not contain valid UTF-8"

/-- The wording of an error. -/
def Error.message : Error → String
  | unreadable fault => s!"Failed to read topology file. Err: {fault.message}"
  | badLine number content =>
    s!"Bad topology line {number}: {Text.quoted content.toList}. Expected \"host1 host2 cost\"."
  | unresolved host => s!"Cannot resolve host {host} to an IPv4 address."
  | sharedId id first second => s!"Hosts {first} and {second} share node id {id}."
  | unknownHost host => s!"Host {host} is not part of the topology."

/-! ### Growing a topology -/

/-- The topology without hosts. -/
def empty : Topology :=
  ⟨NodeMap.empty, [], fun _ h => nomatch h⟩

/-- The topology with one more host.  A host that has the name or the address of the host already
known for its node is taken for that host. -/
def addHost (t : Topology) (name : String) (address : Address) : Except Error Topology :=
  match t.hosts.find? address.nodeId with
  | some known =>
    if known.name ≠ name ∧ known.address ≠ address then
      .error (.sharedId address.nodeId known.name name)
    else .ok t
  | none =>
    .ok ⟨t.hosts.insert address.nodeId ⟨name, address⟩, t.links, fun e he => by
      rcases NodeMap.mem_insertEntry he with rfl | he
      · rfl
      · exact t.keyed e he⟩

/-- The topology with one more link. -/
def addLink (t : Topology) (l : Link) : Topology :=
  ⟨t.hosts, l :: t.links, t.keyed⟩

/-! ### Looking at a topology -/

/-- The nodes, in ascending order. -/
def nodeIds (t : Topology) : List NodeId :=
  t.hosts.keys

/-- The link between two nodes that was added last. -/
def link? (t : Topology) (a b : NodeId) : Option Link :=
  t.links.find? (·.joins a b)

/-- The cost of going from one node to another directly. -/
def cost (t : Topology) (a b : NodeId) : Cost :=
  if a = b then 0 else ((t.link? a b).map (·.cost)).getD infiniteCost

/-- The nodes that are joined to a node, in ascending order. -/
def neighborIds (t : Topology) (a : NodeId) : List NodeId :=
  t.nodeIds.filter fun b => (t.link? a b).isSome

/-- The node of a host, which is given by the name it has in the topology or by its address. -/
def nodeByHost (t : Topology) (name : String) : Except Error NodeId :=
  let named := t.hosts.entries.find? fun e => e.2.name == name
  let addressed := (Address.parse? name).bind fun address =>
    t.hosts.entries.find? fun e => e.2.address == address
  match named.or addressed with
  | some e => .ok e.1
  | none => .error (.unknownHost name)

theorem mem_nodeIds_iff {t : Topology} {a : NodeId} :
    a ∈ t.nodeIds ↔ ∃ host, t.hosts.find? a = some host := by
  rw [nodeIds, NodeMap.mem_keys_iff, NodeMap.contains, Option.isSome_iff_exists]

/-- Nodes have numbers below 256. -/
theorem toNat_lt_of_mem_nodeIds {t : Topology} {a : NodeId} (h : a ∈ t.nodeIds) :
    a.toNat < 256 := by
  obtain ⟨e, he, rfl⟩ := List.mem_map.1 h
  rw [t.keyed e he]
  exact e.2.address.toNat_nodeId_lt

theorem link?_comm (t : Topology) (a b : NodeId) : t.link? a b = t.link? b a := by
  simp only [link?, Link.joins_comm _ a b]

theorem link?_self (t : Topology) (a : NodeId) : t.link? a a = none := by
  simp [link?, List.find?_eq_none, Link.joins_self]

/-- Links have the same cost in both directions. -/
theorem cost_comm (t : Topology) (a b : NodeId) : t.cost a b = t.cost b a := by
  simp only [cost, t.link?_comm a b, eq_comm (a := a)]

@[simp] theorem cost_self (t : Topology) (a : NodeId) : t.cost a a = 0 := by
  simp [cost]

/-- Different nodes at a finite cost from each other are joined by a link. -/
theorem isSome_link?_of_cost_lt {t : Topology} {a b : NodeId} (hab : a ≠ b)
    (h : t.cost a b < infiniteCost) : (t.link? a b).isSome = true := by
  rw [cost, if_neg hab] at h
  cases hl : t.link? a b with
  | none =>
    rw [hl] at h
    exact absurd h (by decide)
  | some _ => rfl

/-- The neighbors of a node are the nodes that a link joins to it. -/
theorem mem_neighborIds_iff {t : Topology} {a b : NodeId} :
    b ∈ t.neighborIds a ↔ b ∈ t.nodeIds ∧ (t.link? a b).isSome = true := by
  simp [neighborIds, List.mem_filter]

/-- No node is its own neighbor. -/
theorem not_mem_neighborIds_self (t : Topology) (a : NodeId) : a ∉ t.neighborIds a := by
  simp [mem_neighborIds_iff, link?_self]

/-- Neighbors are listed in ascending order. -/
theorem pairwise_neighborIds (t : Topology) (a : NodeId) : (t.neighborIds a).Pairwise (· < ·) :=
  t.hosts.pairwise_keys.filter _

end Topology

end OverlayStack
