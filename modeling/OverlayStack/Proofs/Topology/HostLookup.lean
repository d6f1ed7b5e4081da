import OverlayStack.Proofs.Topology.Loading

/-!
# Finding the hosts of a topology file

A node keeps the name under which it first occurred, so that a host is found by its name only if no
other host with the same address came before it.  A host with a second name is found if this name is
the dotted form of its address, and otherwise it is said not to be part of the topology.

## Main definitions

* `Topology.IsFirst` — a host is the first with its node.

## Main results

* `Topology.Houses.nodeByHost_of_isFirst`, `Topology.Houses.nodeByHost_literal`,
  `Topology.Houses.nodeByHost_unknown` — what is found under any name.
* `Topology.parse_nodeByHost` — whether a host of a file is found.
-/

namespace OverlayStack

namespace Topology

variable {resolve : Resolver}

/-- A host is the first of some hosts with its node, which is why the node has its name. -/
def IsFirst (resolve : Resolver) (names : List String) (name : String) : Prop :=
  ∃ a, holder? resolve names a.nodeId = some (name, a)

/-- The only member of a list that passes a test is the one that is found. -/
theorem find?_eq_some_of_unique {α : Type} {p : α → Bool} {xs : List α} {x : α} (hx : x ∈ xs)
    (hp : p x = true) (hunique : ∀ y ∈ xs, p y = true → y = x) : xs.find? p = some x := by
  cases hfind : xs.find? p with
  | none => exact absurd hp (List.find?_eq_none.1 hfind x hx)
  | some y => rw [hunique y (List.mem_of_find?_eq_some hfind) (List.find?_some hfind)]

namespace Houses

variable {names : List String} {t : Topology} {name : String}

/-- The nodes with their hosts are those of the first hosts. -/
theorem mem_entries_iff (h : Houses resolve names t) {id : NodeId} {host : Host} :
    (id, host) ∈ t.hosts.entries ↔ holder? resolve names id = some (host.name, host.address) := by
  rw [NodeMap.mem_entries_iff, h.find?_eq]
  constructor
  · intro hmap
    obtain ⟨holder, hholder, rfl⟩ := Option.map_eq_some_iff.1 hmap
    exact hholder
  · intro hholder
    rw [hholder]
    rfl

/-- A node that has a name is that of the first host, which has this name. -/
theorem isFirst_of_mem (h : Houses resolve names t) {e : NodeId × Host}
    (he : e ∈ t.hosts.entries) : IsFirst resolve names e.2.name := by
  have hholder := h.mem_entries_iff.1 he
  obtain ⟨-, -, hid⟩ := of_holder? hholder
  exact ⟨e.2.address, hid ▸ hholder⟩

/-- No two nodes have the same name, since a name has one address. -/
theorem find?_name (h : Houses resolve names t) {a : Address}
    (hfirst : holder? resolve names a.nodeId = some (name, a)) :
    t.hosts.entries.find? (fun e => e.2.name == name) = some (a.nodeId, ⟨name, a⟩) := by
  refine find?_eq_some_of_unique (h.mem_entries_iff.2 hfirst) (beq_self_eq_true name) ?_
  rintro ⟨id, host⟩ he hname
  obtain ⟨-, haddress, hid⟩ := of_holder? (h.mem_entries_iff.1 he)
  dsimp only at hname
  rw [eq_of_beq hname, (of_holder? hfirst).2.1] at haddress
  obtain rfl := Except.ok.inj haddress
  rw [← hid, ← eq_of_beq hname]

/-- No two nodes have the same address, since it has their number. -/
theorem find?_address (h : Houses resolve names t) {first : String} {b : Address}
    (hfirst : holder? resolve names b.nodeId = some (first, b)) :
    t.hosts.entries.find? (fun e => e.2.address == b) = some (b.nodeId, ⟨first, b⟩) := by
  refine find?_eq_some_of_unique (h.mem_entries_iff.2 hfirst) (beq_self_eq_true b) ?_
  rintro ⟨id, host⟩ he haddress
  have hholder := h.mem_entries_iff.1 he
  obtain ⟨-, -, hid⟩ := of_holder? hholder
  dsimp only at haddress
  rw [eq_of_beq haddress] at hid hholder
  rw [← hid, hfirst] at hholder
  obtain ⟨hname, -⟩ := Prod.mk.inj (Option.some.inj hholder)
  rw [← hid, hname, ← eq_of_beq haddress]

theorem find?_name_eq_none (h : Houses resolve names t) (hnot : ¬ IsFirst resolve names name) :
    t.hosts.entries.find? (fun e => e.2.name == name) = none :=
  List.find?_eq_none.2 fun _ he hname => hnot (eq_of_beq hname ▸ h.isFirst_of_mem he)

/-- A node is found under its name. -/
theorem nodeByHost_of_isFirst (h : Houses resolve names t) {a : Address}
    (hfirst : holder? resolve names a.nodeId = some (name, a)) :
    t.nodeByHost name = .ok a.nodeId := by
  simp only [nodeByHost, h.find?_name hfirst, Option.some_or]

/-- A node is found under the dotted form of its address, which is not the name of another node. -/
theorem nodeByHost_literal (h : Houses resolve names t) (hnot : ¬ IsFirst resolve names name)
    {first : String} {b : Address} (hliteral : Address.parse? name = some b)
    (hfirst : holder? resolve names b.nodeId = some (first, b)) :
    t.nodeByHost name = .ok b.nodeId := by
  simp only [nodeByHost, h.find?_name_eq_none hnot, hliteral, Option.bind_some,
    h.find?_address hfirst, Option.none_or]

/-- Nothing else is found. -/
theorem nodeByHost_unknown (h : Houses resolve names t) (hnot : ¬ IsFirst resolve names name)
    (hno : ∀ b first, Address.parse? name = some b →
      holder? resolve names b.nodeId ≠ some (first, b)) :
    t.nodeByHost name = .error (.unknownHost name) := by
  have haddressed : ((Address.parse? name).bind fun address =>
      t.hosts.entries.find? fun e => e.2.address == address) = none := by
    cases hliteral : Address.parse? name with
    | none => rfl
    | some b =>
      refine List.find?_eq_none.2 fun e he haddress => ?_
      have hholder := h.mem_entries_iff.1 he
      obtain ⟨-, -, hid⟩ := of_holder? hholder
      rw [eq_of_beq haddress] at hid hholder
      exact hno b e.2.name hliteral (hid ▸ hholder)
  simp only [nodeByHost, h.find?_name_eq_none hnot, haddressed, Option.none_or]

end Houses

/-- **A host of a topology file is found under the first name of its node and under the dotted form
of its address, and under no other name**, as long as its name is not the dotted form of another
address in the file. -/
theorem parse_nodeByHost {text : String} {t : Topology} (hparse : parse resolve text = .ok t)
    (name : String) {a : Address} (hname : name ∈ named (entries (Text.lines text.toList)))
    (ha : resolve name = .ok a)
    (hown : ∀ b, Address.parse? name = some b →
      (∃ other ∈ named (entries (Text.lines text.toList)), resolve other = .ok b) → b = a) :
    (IsFirst resolve (named (entries (Text.lines text.toList))) name ∨
        Address.parse? name = some a → t.nodeByHost name = .ok a.nodeId) ∧
      (¬ IsFirst resolve (named (entries (Text.lines text.toList))) name →
        Address.parse? name ≠ some a → t.nodeByHost name = .error (.unknownHost name)) := by
  have hhouses : Houses resolve (named (entries (Text.lines text.toList))) t :=
    (Loaded.empty.addLines hparse).1.houses
  generalize named (entries (Text.lines text.toList)) = names at *
  have hfirst : IsFirst resolve names name → t.nodeByHost name = .ok a.nodeId := by
    rintro ⟨b, hb⟩
    obtain rfl := Except.ok.inj ((of_holder? hb).2.1.symm.trans ha)
    exact hhouses.nodeByHost_of_isFirst hb
  refine ⟨?_, fun hnot hliteral => hhouses.nodeByHost_unknown hnot fun b first hb hholder => ?_⟩
  · rintro (h | hliteral)
    · exact hfirst h
    · by_cases h : IsFirst resolve names name
      · exact hfirst h
      · obtain ⟨b, first, hb, hholder⟩ := hhouses.settled name hname
        obtain rfl := Except.ok.inj (hb.symm.trans ha)
        exact hhouses.nodeByHost_literal h hliteral hholder
  · -- the literal belongs to a host of the file, which is then the host itself
    obtain ⟨hmem, hfirst, -⟩ := of_holder? hholder
    exact hliteral (hown b hb ⟨first, hmem, hfirst⟩ ▸ hb)

theorem named_renamedText : named (entries (Text.lines renamedText.toList)) =
    ["green", "red", "red", "verde"] := by
  rw [entries_renamedText]
  rfl

theorem isFirst_renamed : IsFirst renamed ["green", "red", "red", "verde"] "green" ∧
    ¬ IsFirst renamed ["green", "red", "red", "verde"] "verde" := by
  have hgreen : holder? renamed ["green", "red", "red", "verde"] 1 =
      some ("green", ⟨10, 0, 0, 1⟩) := by decide +kernel
  refine ⟨⟨⟨10, 0, 0, 1⟩, hgreen⟩, ?_⟩
  rintro ⟨a, hverde⟩
  obtain ⟨-, ha, -⟩ := of_holder? hverde
  obtain rfl : (⟨10, 0, 0, 1⟩ : Address) = a := Except.ok.inj ha
  obtain ⟨hname, -⟩ := Prod.mk.inj (Option.some.inj (hgreen.symm.trans hverde))
  exact absurd hname (by decide)

theorem parse?_renamed : Address.parse? "green" = none ∧ Address.parse? "verde" = none := by
  decide +kernel

/-- Of two names of one host, the first is found and the second is not. -/
theorem parse_nodeByHost_renamed : ∃ t, parse renamed renamedText = .ok t ∧
    t.nodeByHost "green" = .ok 1 ∧ t.nodeByHost "verde" = .error (.unknownHost "verde") := by
  obtain ⟨t, hparse⟩ := exists_parse_renamedText
  obtain ⟨hgreen, hverde⟩ := parse?_renamed
  obtain ⟨hfound, -⟩ := parse_nodeByHost hparse "green" (a := ⟨10, 0, 0, 1⟩)
    (by rw [named_renamedText]; decide) rfl fun b hb => by cases hgreen.symm.trans hb
  obtain ⟨-, hunknown⟩ := parse_nodeByHost hparse "verde" (a := ⟨10, 0, 0, 1⟩)
    (by rw [named_renamedText]; decide) rfl fun b hb => by cases hverde.symm.trans hb
  rw [named_renamedText] at hfound hunknown
  exact ⟨t, hparse, hfound (.inl isFirst_renamed.1),
    hunknown isFirst_renamed.2 (by rw [hverde]; exact nofun)⟩

/-- A name that stands in an accepted file, and is no dotted address, is not found. -/
theorem second_name_unknown : ∃ t, parse renamed renamedText = .ok t ∧
    "verde" ∈ named (entries (Text.lines renamedText.toList)) ∧
    renamed "verde" = .ok ⟨10, 0, 0, 1⟩ ∧ Address.parse? "verde" = none ∧
    t.nodeByHost "verde" ≠ .ok 1 := by
  obtain ⟨t, hparse⟩ := exists_parse_renamedText
  have hhouses : Houses renamed (named (entries (Text.lines renamedText.toList))) t :=
    (Loaded.empty.addLines hparse).1.houses
  rw [named_renamedText] at hhouses ⊢
  have hunknown := hhouses.nodeByHost_unknown isFirst_renamed.2 fun b first hb => by
    cases parse?_renamed.2.symm.trans hb
  refine ⟨t, hparse, by decide, rfl, parse?_renamed.2, ?_⟩
  rw [hunknown]
  exact nofun

end Topology

end OverlayStack
