import OverlayStack.Proofs.NodeMaps
import OverlayStack.Proofs.Topology.Loading

/-!
# Links that are kept on both sides

Each host can keep its own links, with their costs, under the nodes at the other ends.  Then nothing
in the shape of the table says that a link is kept on both sides at the same cost, that no host has
a link to itself, or that there is a host at the other end.  It is the reading of a topology file
that sees to this: a link is entered on both sides, after its hosts.

Such a table shows a topology if it has the same hosts, and each of them keeps the links that the
topology has for it.  Reading a file goes wrong in the same way for tables and for topologies, and
otherwise ends with a table that shows the topology.

## Main definitions

* `LinkedHost`, `LinkedHosts` — hosts that keep their links.
* `LinkedHosts.addHost`, `LinkedHosts.addLink`, `LinkedHosts.parse` — how a table is read from a
  text.
* `LinkedHosts.cost`, `LinkedHosts.neighborIds`, `LinkedHosts.nodeByHost` — what a table answers.
* `LinkedHosts.TwoSided` — every link is kept on both sides.
* `LinkedHosts.Shows`, `LinkedHosts.Agree` — a table shows a topology, also if something goes wrong.

## Main results

* `LinkedHosts.Shows.agree_addHost`, `LinkedHosts.Shows.addLink` — one host and one link.
* `LinkedHosts.Shows.agree_addLine`, `LinkedHosts.agree_parse` — one line, and a whole text.
* `LinkedHosts.Shows.twoSided` — what shows a topology is kept on both sides.
* `LinkedHosts.simulates_topology` — what is read from a text, and what it answers.
-/

namespace OverlayStack

open OverlayStack.Topology (Resolver Error isSilent entryOf?)

/-- A host with the links that it keeps. -/
structure LinkedHost where
  host : Host
  /-- The costs of its links, under the nodes at their other ends. -/
  links : NodeMap Cost := .empty

/-- The hosts of an overlay, each of which keeps its own links. -/
abbrev LinkedHosts := NodeMap LinkedHost

namespace LinkedHosts

/-! ### Growing a table -/

/-- The table with one more host, unless it is already there. -/
def addHost (m : LinkedHosts) (name : String) (address : Address) : Except Error LinkedHosts :=
  match m.find? address.nodeId with
  | some known =>
    if known.host.name ≠ name ∧ known.host.address ≠ address then
      .error (.sharedId address.nodeId known.host.name name)
    else .ok m
  | none => .ok (m.insert address.nodeId { host := ⟨name, address⟩ })

/-- The table with a link on one side, if there is a host. -/
def addEnd (m : LinkedHosts) (a b : NodeId) (cost : Cost) : LinkedHosts :=
  m.modify a fun h => { h with links := h.links.insert b cost }

/-- The table with a link on both sides. -/
def addLink (m : LinkedHosts) (a b : NodeId) (cost : Cost) : LinkedHosts :=
  (m.addEnd a b cost).addEnd b a cost

/-- The table with what a line says. -/
def addLine (resolve : Resolver) (m : LinkedHosts) (number : Nat) (line : List Char) :
    Except Error LinkedHosts :=
  let bad := Error.badLine number (String.ofList line)
  if isSilent line then .ok m
  else match entryOf? line with
    | none => .error bad
    | some e => do
      let a ← resolve e.near
      let m ← m.addHost e.near a
      let b ← resolve e.far
      let m ← m.addHost e.far b
      if a.nodeId = b.nodeId then .error bad else .ok (m.addLink a.nodeId b.nodeId e.cost)

/-- The table with what some lines say, the first of which has the given number. -/
def addLines (resolve : Resolver) (m : LinkedHosts) (number : Nat) :
    List (List Char) → Except Error LinkedHosts
  | [] => .ok m
  | line :: rest => do
    let m ← addLine resolve m number line
    addLines resolve m (number + 1) rest

/-- The table that is read from a text. -/
def parse (resolve : Resolver) (text : String) : Except Error LinkedHosts :=
  addLines resolve .empty 1 (Text.lines text.toList)

/-! ### Looking at a table -/

/-- The cost under which a host keeps its link to another one. -/
def link? (m : LinkedHosts) (a b : NodeId) : Option Cost :=
  (m.find? a).bind fun h => h.links.find? b

/-- The cost of going from one node to another directly. -/
def cost (m : LinkedHosts) (a b : NodeId) : Cost :=
  if a = b then 0 else (m.link? a b).getD infiniteCost

/-- The nodes to which a host keeps links, in ascending order. -/
def neighborIds (m : LinkedHosts) (a : NodeId) : List NodeId :=
  ((m.find? a).map fun h => h.links.keys).getD []

/-- The number of links that a host keeps. -/
def neighborCount (m : LinkedHosts) (a : NodeId) : Nat :=
  ((m.find? a).map fun h => h.links.size).getD 0

/-- The node of a host, which is given by its name or by its address. -/
def nodeByHost (m : LinkedHosts) (name : String) : Except Error NodeId :=
  let named := m.entries.find? fun e => e.2.host.name == name
  let addressed := (Address.parse? name).bind fun address =>
    m.entries.find? fun e => e.2.host.address == address
  match named.or addressed with
  | some e => .ok e.1
  | none => .error (.unknownHost name)

/-- Every link is kept on both sides at the same cost, joins two hosts, and no host to itself. -/
structure TwoSided (m : LinkedHosts) : Prop where
  comm : ∀ a b, m.link? a b = m.link? b a
  self : ∀ a, m.link? a a = none
  closed : ∀ a b, (m.link? a b).isSome = true → b ∈ m.keys

variable {m : LinkedHosts} {a b : NodeId}

theorem mem_keys_of_link? (h : (m.link? a b).isSome = true) : a ∈ m.keys := by
  rw [NodeMap.mem_keys_iff, NodeMap.contains]
  unfold link? at h
  cases hfind : m.find? a with
  | none => simp [hfind] at h
  | some host => rfl

theorem mem_neighborIds_iff (m : LinkedHosts) (a b : NodeId) :
    b ∈ m.neighborIds a ↔ (m.link? a b).isSome = true := by
  unfold neighborIds link?
  cases m.find? a with
  | none => simp
  | some host => simp [NodeMap.mem_keys_iff, NodeMap.contains]

theorem link?_insert_empty (m : LinkedHosts) {id : NodeId} (hnone : m.find? id = none) (host : Host)
    (a b : NodeId) : link? (m.insert id { host }) a b = m.link? a b := by
  by_cases ha : a = id
  · subst ha
    simp [link?, hnone]
  · simp [link?, ha]

/-- A host is there after it was added, and so are the others. -/
theorem mem_keys_of_addHost {m' : LinkedHosts} {name : String} {address : Address}
    (h : m.addHost name address = .ok m') {id : NodeId} (hid : id = address.nodeId ∨ id ∈ m.keys) :
    id ∈ m'.keys := by
  unfold addHost at h
  rw [NodeMap.mem_keys_iff, NodeMap.contains]
  rw [NodeMap.mem_keys_iff, NodeMap.contains] at hid
  cases hfind : m.find? address.nodeId with
  | none =>
    simp only [hfind, Except.ok.injEq] at h
    subst h
    by_cases heq : id = address.nodeId
    · subst heq
      simp
    · simpa [heq] using hid.resolve_left heq
  | some known =>
    simp only [hfind] at h
    split at h
    · cases h
    · cases h
      rcases hid with rfl | hid
      · simp [hfind]
      · exact hid

theorem map_host_addEnd (m : LinkedHosts) (a b : NodeId) (cost : Cost) :
    ((m.addEnd a b cost).map fun _ h => h.host) = m.map fun _ h => h.host :=
  NodeMap.map_modify m a fun _ => rfl

theorem keys_addEnd (m : LinkedHosts) (a b : NodeId) (cost : Cost) :
    (m.addEnd a b cost).keys = m.keys :=
  NodeMap.keys_map _ _

/-- A link is entered on one side, if there is a host. -/
theorem link?_addEnd (m : LinkedHosts) (a b : NodeId) (cost : Cost) (x y : NodeId) :
    (m.addEnd a b cost).link? x y =
      if x = a ∧ y = b ∧ a ∈ m.keys then some cost else m.link? x y := by
  simp only [NodeMap.mem_keys_iff, NodeMap.contains]
  by_cases hx : x = a
  · subst hx
    by_cases hy : y = b <;> cases hfind : m.find? x <;> simp [link?, addEnd, hy, hfind]
  · simp [link?, addEnd, hx]

/-- **A link is entered on both sides**, if both hosts are there. -/
theorem link?_addLink {l : Link} (hnear : l.near ∈ m.keys) (hfar : l.far ∈ m.keys) (a b : NodeId) :
    (m.addLink l.near l.far l.cost).link? a b =
      if l.joins a b then some l.cost else m.link? a b := by
  have hjoins : l.joins a b = true ↔ (a = l.far ∧ b = l.near) ∨ a = l.near ∧ b = l.far := by
    simp only [Link.joins, Bool.or_eq_true, Bool.and_eq_true, beq_iff_eq, eq_comm (a := a),
      eq_comm (a := b), and_comm (a := l.near = b), or_comm]
  simp only [addLink, link?_addEnd, keys_addEnd, hnear, hfar, and_true, hjoins]
  by_cases hback : a = l.far ∧ b = l.near <;> simp [hback]

/-! ### Tables and topologies -/

/-- A table has the hosts of a topology, and each of them keeps the links that the topology has for
it. -/
structure Shows (m : LinkedHosts) (t : Topology) : Prop where
  hosts_eq : (m.map fun _ h => h.host) = t.hosts
  link?_eq : ∀ a b, m.link? a b = (t.link? a b).map (·.cost)

/-- A table and a topology, or the same error in place of either. -/
inductive Agree : Except Error LinkedHosts → Except Error Topology → Prop where
  | ok {m : LinkedHosts} {t : Topology} (h : m.Shows t) : Agree (.ok m) (.ok t)
  | error (e : Error) : Agree (.error e) (.error e)

namespace Agree

/-- What follows a table and a topology agrees if it does after all that show the same. -/
theorem bind {x : Except Error LinkedHosts} {y : Except Error Topology} (h : Agree x y)
    {f : LinkedHosts → Except Error LinkedHosts} {g : Topology → Except Error Topology}
    (hnext : ∀ m t, m.Shows t → x = .ok m → Agree (f m) (g t)) : Agree (x >>= f) (y >>= g) := by
  cases h with
  | ok h => exact hnext _ _ h rfl
  | error e => exact .error e

/-- What follows a computation that is the same for both. -/
theorem after {α : Type} (x : Except Error α) {f : α → Except Error LinkedHosts}
    {g : α → Except Error Topology} (hnext : ∀ a, Agree (f a) (g a)) :
    Agree (x >>= f) (x >>= g) := by
  cases x with
  | ok a => exact hnext a
  | error e => exact .error e

end Agree

namespace Shows

variable {t : Topology}

theorem empty : Shows .empty Topology.empty :=
  ⟨rfl, fun _ _ => rfl⟩

theorem find?_eq (h : m.Shows t) (id : NodeId) :
    (m.find? id).map (·.host) = t.hosts.find? id := by
  rw [← h.hosts_eq, NodeMap.find?_map]

theorem nodeIds_eq (h : m.Shows t) : m.keys = t.nodeIds := by
  rw [Topology.nodeIds, ← h.hosts_eq, NodeMap.keys_map]

theorem isSome_link?_iff (h : m.Shows t) :
    (m.link? a b).isSome = true ↔ (t.link? a b).isSome = true := by
  rw [h.link?_eq, Option.isSome_map]

/-- **A host is added alike.** -/
theorem agree_addHost (h : m.Shows t) (name : String) (address : Address) :
    Agree (m.addHost name address) (t.addHost name address) := by
  have hknown := h.find?_eq address.nodeId
  unfold LinkedHosts.addHost Topology.addHost
  cases hfind : m.find? address.nodeId with
  | none =>
    rw [hfind, Option.map_none] at hknown
    simp only [← hknown]
    refine .ok ⟨?_, fun a b => ?_⟩
    · rw [NodeMap.map_insert, h.hosts_eq]
    · rw [link?_insert_empty m hfind, h.link?_eq]
      rfl
  | some known =>
    rw [hfind, Option.map_some] at hknown
    simp only [← hknown]
    split
    · exact .error _
    · exact .ok h

/-- **A link is added alike**, if both of its hosts are there. -/
theorem addLink (h : m.Shows t) {l : Link} (hnear : l.near ∈ m.keys) (hfar : l.far ∈ m.keys) :
    Shows (m.addLink l.near l.far l.cost) (t.addLink l) where
  hosts_eq := by
    rw [LinkedHosts.addLink, map_host_addEnd, map_host_addEnd]
    exact h.hosts_eq
  link?_eq a b := by
    rw [link?_addLink hnear hfar, Topology.link?_addLink, h.link?_eq]
    split <;> rfl

/-- **A line is read alike.**  A link is entered when both of its hosts have been added. -/
theorem agree_addLine (h : m.Shows t) (resolve : Resolver) (number : Nat) (line : List Char) :
    Agree (m.addLine resolve number line) (t.addLine resolve number line) := by
  rw [Topology.addLine_eq]
  unfold LinkedHosts.addLine
  by_cases hsilent : isSilent line
  · rw [if_pos hsilent, if_pos hsilent]
    exact .ok h
  · rw [if_neg hsilent, if_neg hsilent]
    cases entryOf? line with
    | none => exact .error _
    | some e =>
      simp only [Topology.addNamed, bind_assoc, pure_bind]
      refine Agree.after _ fun a => ?_
      refine (h.agree_addHost e.near a).bind fun m₁ t₁ h₁ hnear => ?_
      refine Agree.after _ fun b => ?_
      refine (h₁.agree_addHost e.far b).bind fun m₂ t₂ h₂ hfar => ?_
      by_cases hid : a.nodeId = b.nodeId
      · rw [if_pos hid, dif_pos hid]
        exact .error _
      · have hthere : a.nodeId ∈ m₁.keys := mem_keys_of_addHost hnear (.inl rfl)
        rw [if_neg hid, dif_neg hid]
        exact .ok (h₂.addLink (l := ⟨a.nodeId, b.nodeId, e.cost, hid⟩)
          (mem_keys_of_addHost hfar (.inr hthere)) (mem_keys_of_addHost hfar (.inl rfl)))

theorem agree_addLines (h : m.Shows t) (resolve : Resolver) (number : Nat)
    (lines : List (List Char)) :
    Agree (m.addLines resolve number lines) (t.addLines resolve number lines) := by
  induction lines generalizing m t number with
  | nil => exact .ok h
  | cons line rest ih =>
    exact (h.agree_addLine resolve number line).bind fun _ _ hnext _ => ih hnext (number + 1)

/-! ### Answers -/

/-- **What shows a topology is kept on both sides.** -/
theorem twoSided (h : m.Shows t) : m.TwoSided where
  comm a b := by rw [h.link?_eq, h.link?_eq, t.link?_comm]
  self a := by rw [h.link?_eq, t.link?_self, Option.map_none]
  closed a b hlink := by
    apply mem_keys_of_link? (b := a)
    rwa [h.link?_eq, t.link?_comm, ← h.link?_eq]

theorem cost_eq (h : m.Shows t) (a b : NodeId) : m.cost a b = t.cost a b := by
  rw [LinkedHosts.cost, Topology.cost, h.link?_eq]

theorem neighborIds_eq (h : m.Shows t) (a : NodeId) : m.neighborIds a = t.neighborIds a := by
  apply eq_of_pairwise_key id
  · unfold neighborIds
    cases m.find? a with
    | none => exact List.Pairwise.nil
    | some host => exact host.links.pairwise_keys
  · exact t.pairwise_neighborIds a
  · intro b
    rw [mem_neighborIds_iff, Topology.mem_neighborIds_iff, ← h.isSome_link?_iff, ← h.nodeIds_eq]
    exact ⟨fun hlink => ⟨h.twoSided.closed a b hlink, hlink⟩, fun hboth => hboth.2⟩

theorem neighborCount_eq (h : m.Shows t) (a : NodeId) :
    m.neighborCount a = (t.neighborIds a).length := by
  rw [← h.neighborIds_eq, neighborCount, neighborIds]
  cases m.find? a with
  | none => rfl
  | some host => simp [NodeMap.keys, NodeMap.size]

theorem nodeByHost_eq (h : m.Shows t) (name : String) : m.nodeByHost name = t.nodeByHost name := by
  have hfind : ∀ p : Host → Bool, (t.hosts.entries.find? fun e => p e.2) =
      (m.entries.find? fun e => p e.2.host).map fun e => (e.1, e.2.host) := by
    intro p
    rw [← h.hosts_eq, NodeMap.map, List.find?_map]
    rfl
  have haddressed : ∀ address, (t.hosts.entries.find? fun e => e.2.address == address) =
      (m.entries.find? fun e => e.2.host.address == address).map fun e => (e.1, e.2.host) :=
    fun address => hfind (·.address == address)
  unfold LinkedHosts.nodeByHost Topology.nodeByHost
  simp only [hfind (·.name == name), haddressed]
  cases m.entries.find? fun e => e.2.host.name == name with
  | some e => rfl
  | none =>
    cases Address.parse? name with
    | none => rfl
    | some address =>
      simp only [Option.bind_some, Option.map_none, Option.none_or]
      cases m.entries.find? fun e => e.2.host.address == address <;> rfl

end Shows

/-- **A text is read alike** by a table and a topology. -/
theorem agree_parse (resolve : Resolver) (text : String) :
    Agree (parse resolve text) (Topology.parse resolve text) :=
  Shows.empty.agree_addLines resolve 1 _

/-- **Links that are kept on both sides make a topology.**  A text is refused for hosts that keep
their links exactly as it is refused for a topology.  Otherwise every link is kept on both sides at
the same cost, joins two hosts, and joins no host to itself; and the hosts, the costs, the neighbors
and the nodes of hosts are those of the topology. -/
theorem simulates_topology (resolve : Resolver) (text : String) :
    (∀ error, parse resolve text = .error error ↔ Topology.parse resolve text = .error error) ∧
    ∀ m, parse resolve text = .ok m → m.TwoSided ∧ ∃ t, Topology.parse resolve text = .ok t ∧
      m.keys = t.nodeIds ∧ (∀ a b, m.cost a b = t.cost a b) ∧
      (∀ a, m.neighborIds a = t.neighborIds a ∧
        m.neighborCount a = (t.neighborIds a).length) ∧
      ∀ name, m.nodeByHost name = t.nodeByHost name := by
  have hagree := agree_parse resolve text
  generalize parse resolve text = x at hagree ⊢
  generalize Topology.parse resolve text = y at hagree ⊢
  cases hagree with
  | error e =>
    refine ⟨fun error => ?_, nofun⟩
    rw [Except.error.injEq, Except.error.injEq]
  | @ok m t h =>
    refine ⟨fun error => ⟨nofun, nofun⟩, ?_⟩
    rintro _ ⟨⟩
    exact ⟨h.twoSided, t, rfl, h.nodeIds_eq, h.cost_eq,
      fun a => ⟨h.neighborIds_eq a, h.neighborCount_eq a⟩, h.nodeByHost_eq⟩

end LinkedHosts

end OverlayStack
