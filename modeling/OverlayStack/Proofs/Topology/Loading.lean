import OverlayStack.Proofs.Topology.Lines

/-!
# What a topology file describes

A topology file is accepted exactly if none of its lines is faulty, and otherwise the error is that
of the first faulty line.  If the file is accepted, nodes, costs and neighbors can be told from what
its lines say, without the topology.

The loop over the lines keeps `Topology.Loaded`, which relates the topology to what the lines so far
say.  Under it a line is refused exactly with the errors of `Topology.LineError`, which are found in
the order in which a line is checked.

## Main definitions

* `Topology.Houses` — the nodes are those of some hosts, each under the name of the first.
* `Topology.Loaded` — the topology after some lines.
* `Topology.Describes` — a topology is the one that some lines describe.

## Main results

* `Topology.Houses.addNamed_eq_error_iff`, `Topology.Houses.addNamed` — one host.
* `Topology.Loaded.addLine_eq_error_iff`, `Topology.Loaded.addLine` — one line.
* `Topology.Loaded.addLines_eq_error_iff`, `Topology.Loaded.addLines` — all lines.
* `Topology.parse_describes` — what is read from a text.
-/

namespace OverlayStack

namespace Topology

variable {resolve : Resolver}

/-! ### One host -/

/-- The topology with a host that is named, and the address of the host. -/
def addNamed (resolve : Resolver) (t : Topology) (name : String) :
    Except Error (Address × Topology) := do
  let a ← resolve name
  let t ← t.addHost name a
  return (a, t)

/-- The nodes of a topology are those of some hosts, each under the name of the first. -/
structure Houses (resolve : Resolver) (names : List String) (t : Topology) : Prop where
  find?_eq : ∀ id, t.hosts.find? id = (holder? resolve names id).map fun h => ⟨h.1, h.2⟩
  settled : ∀ name ∈ names, ∃ a first, resolve name = .ok a ∧
    holder? resolve names a.nodeId = some (first, a)

namespace Houses

variable {names : List String} {t t' : Topology} {name : String} {a : Address}

theorem empty : Houses resolve [] empty :=
  ⟨fun _ => rfl, nofun⟩

/-- The node of a host that is named is there, with the address of the host. -/
theorem exists_find? (h : Houses resolve names t) (hname : name ∈ names)
    (ha : resolve name = .ok a) : ∃ first, t.hosts.find? a.nodeId = some ⟨first, a⟩ := by
  obtain ⟨a', first, ha', hfirst⟩ := h.settled name hname
  cases ha.symm.trans ha'
  exact ⟨first, by rw [h.find?_eq, hfirst]; rfl⟩

/-- Hosts with the same node have the same address. -/
theorem address_eq (h : Houses resolve names t) {other : String} {b : Address}
    (hname : name ∈ names) (ha : resolve name = .ok a) (hother : other ∈ names)
    (hb : resolve other = .ok b) (hid : a.nodeId = b.nodeId) : a = b := by
  obtain ⟨first, hfind⟩ := h.exists_find? hname ha
  obtain ⟨first', hfind'⟩ := h.exists_find? hother hb
  rw [← hid, hfind] at hfind'
  cases hfind'
  rfl

/-- A host gets its node if it is the first there, or has the address of the first. -/
theorem of_insert (h : Houses resolve names t) (ha : resolve name = .ok a)
    (hnone : holder? resolve names a.nodeId = none)
    (hfind : ∀ id, t'.hosts.find? id = if id = a.nodeId then some ⟨name, a⟩ else t.hosts.find? id) :
    Houses resolve (names ++ [name]) t' where
  find?_eq id := by
    rw [hfind, h.find?_eq, holder?_concat, holder?_singleton ha]
    by_cases hid : id = a.nodeId
    · subst hid
      rw [if_pos rfl, if_pos rfl, hnone]
      rfl
    · rw [if_neg hid, if_neg (Ne.symm hid), Option.or_none]
  settled other hother := by
    rcases List.mem_append.1 hother with hother | hother
    · obtain ⟨b, first, hb, hfirst⟩ := h.settled other hother
      exact ⟨b, first, hb, by rw [holder?_concat, hfirst]; rfl⟩
    · rw [List.mem_singleton.1 hother]
      exact ⟨a, name, ha, by rw [holder?_concat, hnone, holder?_singleton ha, if_pos rfl]; rfl⟩

theorem of_known (h : Houses resolve names t) (ha : resolve name = .ok a) {first : String}
    (hfirst : holder? resolve names a.nodeId = some (first, a)) :
    Houses resolve (names ++ [name]) t where
  find?_eq id := by
    rw [h.find?_eq, holder?_concat, holder?_singleton ha]
    by_cases hid : a.nodeId = id
    · subst hid
      rw [hfirst]
      rfl
    · rw [if_neg hid, Option.or_none]
  settled other hother := by
    rcases List.mem_append.1 hother with hother | hother
    · obtain ⟨b, first, hb, hfirst⟩ := h.settled other hother
      exact ⟨b, first, hb, by rw [holder?_concat, hfirst]; rfl⟩
    · rw [List.mem_singleton.1 hother]
      exact ⟨a, first, ha, by rw [holder?_concat, hfirst]; rfl⟩

/-- A host with an address is refused if its node belongs to another address, and gets its node
otherwise. -/
theorem addHost_cases (h : Houses resolve names t) (ha : resolve name = .ok a) :
    (∃ first b, holder? resolve names a.nodeId = some (first, b) ∧ b ≠ a ∧
      t.addHost name a = .error (.sharedId a.nodeId first name)) ∨
    (∀ first b, holder? resolve names a.nodeId = some (first, b) → b = a) ∧
      ∃ t', t.addHost name a = .ok t' ∧ Houses resolve (names ++ [name]) t' ∧
        t'.links = t.links := by
  have hknown := h.find?_eq a.nodeId
  cases hholder : holder? resolve names a.nodeId with
  | none =>
    rw [hholder] at hknown
    refine .inr ⟨nofun, ?_⟩
    unfold Topology.addHost
    split
    · next known hfind => cases hknown.symm.trans hfind
    · exact ⟨_, rfl, h.of_insert ha hholder fun id => NodeMap.find?_insert _ _ _ id, rfl⟩
  | some holder =>
    obtain ⟨first, b⟩ := holder
    rw [hholder] at hknown
    unfold Topology.addHost
    split
    · next known hfind =>
      obtain rfl := Option.some.inj (hknown.symm.trans hfind)
      by_cases hne : b = a
      · subst hne
        rw [if_neg fun hboth => hboth.2 rfl]
        exact .inr ⟨by rintro _ _ ⟨⟩; rfl, t, rfl, h.of_known ha hholder, rfl⟩
      · -- hosts of the same name have the same address, so that the names differ, too
        have hnames : first ≠ name := by
          rintro rfl
          cases ha.symm.trans (of_holder? hholder).2.1
          exact hne rfl
        rw [if_pos ⟨hnames, hne⟩]
        exact .inl ⟨first, b, rfl, hne, rfl⟩
    · next hfind => cases hknown.symm.trans hfind

/-- **A host is refused** if it has no address or if its node belongs to another one. -/
theorem addNamed_eq_error_iff (h : Houses resolve names t) {error : Error} :
    addNamed resolve t name = .error error ↔ HostError resolve names name error := by
  unfold addNamed
  cases hname : resolve name with
  | error error' =>
    constructor
    · rintro ⟨⟩
      exact .unresolved hname
    · intro herror
      cases herror with
      | unresolved h =>
        cases hname.symm.trans h
        rfl
      | taken h => cases hname.symm.trans h
  | ok a =>
    simp only [bind, Except.bind]
    rcases h.addHost_cases hname with ⟨first, b, hfirst, hne, hhost⟩ | ⟨hfirst, t', hhost, -⟩
    · rw [hhost]
      constructor
      · rintro ⟨⟩
        exact .taken hname hfirst hne
      · intro herror
        cases herror with
        | unresolved h => cases hname.symm.trans h
        | taken h hfirst' =>
          cases hname.symm.trans h
          cases hfirst.symm.trans hfirst'
          rfl
    · rw [hhost]
      refine ⟨nofun, fun herror => ?_⟩
      cases herror with
      | unresolved h => cases hname.symm.trans h
      | taken h hfirst' hne =>
        cases hname.symm.trans h
        exact absurd (hfirst _ _ hfirst') hne

/-- A host that is not refused gets its node. -/
theorem addNamed (h : Houses resolve names t) (hok : addNamed resolve t name = .ok (a, t')) :
    resolve name = .ok a ∧ Houses resolve (names ++ [name]) t' ∧ t'.links = t.links := by
  unfold Topology.addNamed at hok
  cases hname : resolve name with
  | error error =>
    rw [hname] at hok
    cases hok
  | ok b =>
    rw [hname] at hok
    simp only [bind, Except.bind] at hok
    rcases h.addHost_cases hname with ⟨first, b, -, -, hhost⟩ | ⟨-, t₁, hhost, hhouses, hlinks⟩
    · rw [hhost] at hok
      cases hok
    · rw [hhost] at hok
      cases hok
      exact ⟨rfl, hhouses, hlinks⟩

end Houses

/-! ### One line -/

/-- What follows a computation only succeeds if it does. -/
theorem of_bind_eq_ok {α β : Type} {x : Except Error α} {f : α → Except Error β} {r : β}
    (h : x >>= f = .ok r) : ∃ a, x = .ok a ∧ f a = .ok r := by
  cases x with
  | error e => cases h
  | ok a => exact ⟨a, rfl, h⟩

/-- **What one line adds**: nothing, or two hosts, one after the other, and their link. -/
theorem addLine_eq (t : Topology) (number : Nat) (line : List Char) :
    addLine resolve t number line =
      if isSilent line then .ok t
      else match entryOf? line with
        | none => .error (.badLine number (String.ofList line))
        | some e => (do
          let (a, t) ← addNamed resolve t e.near
          let (b, t) ← addNamed resolve t e.far
          if h : a.nodeId = b.nodeId then .error (.badLine number (String.ofList line))
          else .ok (t.addLink ⟨a.nodeId, b.nodeId, e.cost, h⟩)) := by
  rcases Text.trimmed_cases line with ⟨htrim, hwords⟩ | ⟨c, tail, rest, more, htrim, hwords⟩
  · rw [addLine, hwords, isSilent, htrim]
    rfl
  · have hsilent : isSilent line = (c == '#') := by rw [isSilent, htrim]
    unfold addLine entryOf?
    rw [hsilent, hwords]
    by_cases hc : c = '#'
    · subst hc
      rfl
    · rw [beq_eq_false_iff_ne.2 hc, if_neg Bool.false_ne_true, if_neg Bool.false_ne_true]
      split
      · next hnil => cases hnil
      · next hcomment =>
        cases hcomment
        exact absurd rfl hc
      · next near far price _ hfields =>
        cases hfields
        dsimp only
        cases Text.word32? price with
        | none => rfl
        | some cost => simp only [Option.map_some, addNamed, bind_assoc, pure_bind]
      · next hfields =>
        split
        · next hnone => rfl
        · next e hsome =>
          split at hsome
          · next near far price heq => exact absurd heq (hfields near far price)
          · cases hsome

/-- The topology after some lines is the one that they describe. -/
structure Loaded (resolve : Resolver) (lines : List (List Char)) (t : Topology) : Prop where
  houses : Houses resolve (named (entries lines)) t
  link?_iff : ∀ a b c, (∃ l, t.link? a b = some l ∧ l.cost = c) ↔
    LastJoins resolve (entries lines) a b c

/-- A link joins the nodes that its line joins. -/
theorem entry_joins_iff {e : Entry} {x y : Address} (hx : resolve e.near = .ok x)
    (hy : resolve e.far = .ok y) (c : Cost) (hne : x.nodeId ≠ y.nodeId) {a b : NodeId} :
    e.Joins resolve a b ↔ Link.joins ⟨x.nodeId, y.nodeId, c, hne⟩ a b = true := by
  simp only [Entry.Joins, hx, hy, Except.ok.injEq, exists_and_left, exists_eq_left', Link.joins,
    Bool.or_eq_true, Bool.and_eq_true, beq_iff_eq]

theorem link?_addLink (t : Topology) (l : Link) (a b : NodeId) :
    (t.addLink l).link? a b = if l.joins a b then some l else t.link? a b := by
  rw [link?, addLink, List.find?_cons]
  split <;> simp_all [link?]

namespace Loaded

variable {earlier : List (List Char)} {line : List Char} {t t' : Topology} {error : Error}

theorem empty : Loaded resolve [] empty where
  houses := .empty
  link?_iff a b c := by
    constructor
    · rintro ⟨l, hl, -⟩
      cases hl
    · rintro ⟨before, e, after, hes, -⟩
      exact absurd hes.symm (List.append_ne_nil_of_right_ne_nil _ (List.cons_ne_nil _ _))

/-- **A line is refused with its error.** -/
theorem addLine_eq_error_iff (h : Loaded resolve earlier t) :
    addLine resolve t (earlier.length + 1) line = .error error ↔
      LineError resolve earlier line error := by
  rw [addLine_eq]
  cases hline : entryOf? line with
  | none =>
    rw [lineError_iff_of_none hline]
    cases isSilent line with
    | true => simp
    | false => simp [eq_comm]
  | some e =>
    rw [(fields_of_entryOf? hline).1, if_neg Bool.false_ne_true, lineError_iff hline]
    simp only [← h.houses.addNamed_eq_error_iff]
    cases hnear : addNamed resolve t e.near with
    | error e₁ => simp [bind, Except.bind]
    | ok first =>
      obtain ⟨a, t₁⟩ := first
      obtain ⟨ha, hhouses, -⟩ := h.houses.addNamed hnear
      simp only [← hhouses.addNamed_eq_error_iff]
      cases hfar : addNamed resolve t₁ e.far with
      | error e₁ => simp [bind, Except.bind, hfar]
      | ok second =>
        obtain ⟨b, t₂⟩ := second
        obtain ⟨hb, -, -⟩ := hhouses.addNamed hfar
        by_cases hid : a.nodeId = b.nodeId
        · simp [bind, Except.bind, hfar, ha, hb, hid, eq_comm]
        · simp [bind, Except.bind, hfar, ha, hb, hid]

/-- A line that is not refused joins its hosts, which are different nodes. -/
theorem addLine (h : Loaded resolve earlier t)
    (hok : addLine resolve t (earlier.length + 1) line = .ok t') :
    Loaded resolve (earlier ++ [line]) t' ∧ ∀ e, entryOf? line = some e →
      ∃ a b, resolve e.near = .ok a ∧ resolve e.far = .ok b ∧ a.nodeId ≠ b.nodeId := by
  rw [addLine_eq] at hok
  cases hsilent : isSilent line with
  | true =>
    rw [hsilent, if_pos rfl] at hok
    cases hok
    have hline := entryOf?_of_silent hsilent
    have hentries : entries (earlier ++ [line]) = entries earlier := by
      rw [entries_concat, hline, Option.toList_none, List.append_nil]
    refine ⟨⟨hentries ▸ h.houses, hentries ▸ h.link?_iff⟩, fun e hsome => ?_⟩
    cases hline.symm.trans hsome
  | false =>
    rw [hsilent, if_neg Bool.false_ne_true] at hok
    cases hline : entryOf? line with
    | none =>
      rw [hline] at hok
      cases hok
    | some e =>
      rw [hline] at hok
      obtain ⟨⟨a, t₁⟩, hnear, hok⟩ := of_bind_eq_ok hok
      obtain ⟨⟨b, t₂⟩, hfar, hok⟩ := of_bind_eq_ok hok
      obtain ⟨ha, hhouses₁, hlinks₁⟩ := h.houses.addNamed hnear
      obtain ⟨hb, hhouses₂, hlinks₂⟩ := hhouses₁.addNamed hfar
      dsimp only at hok
      split at hok
      · cases hok
      · next hid =>
        cases hok
        have hentries : entries (earlier ++ [line]) = entries earlier ++ [e] := by
          rw [entries_concat, hline, Option.toList_some]
        refine ⟨⟨?_, fun x y c => ?_⟩, ?_⟩
        · rw [hentries, named_concat]
          exact ⟨hhouses₂.find?_eq, hhouses₂.settled⟩
        · have hlink : t₂.link? x y = t.link? x y := by rw [link?, link?, hlinks₂, hlinks₁]
          rw [hentries, lastJoins_concat, ← h.link?_iff, link?_addLink, hlink,
            entry_joins_iff ha hb e.cost hid]
          by_cases hjoins : Link.joins ⟨a.nodeId, b.nodeId, e.cost, hid⟩ x y = true
          · simp [hjoins]
          · simp [hjoins]
        · rintro _ ⟨⟩
          exact ⟨a, b, ha, hb, hid⟩

/-- Behind lines that were accepted, a faulty line has an error. -/
theorem exists_lineError (h : Loaded resolve earlier t) (hfaulty : Faulty resolve earlier line) :
    ∃ error, LineError resolve earlier line error := by
  by_contra hno
  -- the line is accepted, so that none of the faults can be there
  obtain ⟨t', hok⟩ : ∃ t', Topology.addLine resolve t (earlier.length + 1) line = .ok t' := by
    cases hline : Topology.addLine resolve t (earlier.length + 1) line with
    | error error => exact absurd ⟨error, h.addLine_eq_error_iff.1 hline⟩ hno
    | ok t' => exact ⟨t', rfl⟩
  obtain ⟨hloaded, hdistinct⟩ := h.addLine hok
  have hnames : ∀ {e}, entryOf? line = some e →
      named (entries (earlier ++ [line])) = named (entries earlier) ++ e.names := fun hline => by
    rw [entries_concat, hline, Option.toList_some, named_concat, List.append_assoc]
    rfl
  cases hfaulty with
  | fields hspeaks hlen => exact hno ⟨_, .fields hspeaks hlen⟩
  | price hspeaks hwords hprice => exact hno ⟨_, .price hspeaks hwords hprice⟩
  | unresolved hline hname herror =>
    have hmem := List.mem_append_right (named (entries earlier)) hname
    rw [← hnames hline] at hmem
    obtain ⟨a, -, ha, -⟩ := hloaded.houses.settled _ hmem
    cases herror.symm.trans ha
  | taken hline hname ha hother hb hid hne =>
    have hmem := List.mem_append_right (named (entries earlier)) hname
    rw [← hnames hline] at hmem hother
    exact hne (hloaded.houses.address_eq hother hb hmem ha hid)
  | loop hline ha hb hid =>
    obtain ⟨a, b, ha', hb', hne⟩ := hdistinct _ hline
    cases ha.symm.trans ha'
    cases hb.symm.trans hb'
    exact hne hid

end Loaded

/-! ### All lines -/

namespace Loaded

variable {earlier : List (List Char)} {line : List Char} {t t' : Topology} {error : Error}

theorem not_faulty (h : Loaded resolve earlier t)
    (hline : Topology.addLine resolve t (earlier.length + 1) line = .ok t') :
    ¬ Faulty resolve earlier line := fun hfaulty => by
  obtain ⟨error, herror⟩ := h.exists_lineError hfaulty
  cases hline.symm.trans (h.addLine_eq_error_iff.2 herror)

/-- **Reading stops at the first faulty line**, with its error. -/
theorem addLines_eq_error_iff (h : Loaded resolve earlier t) {rest : List (List Char)} :
    addLines resolve t (earlier.length + 1) rest = .error error ↔
      ∃ before line after, rest = before ++ line :: after ∧
        Sound resolve earlier before ∧ LineError resolve (earlier ++ before) line error := by
  induction rest generalizing earlier t with
  | nil => exact ⟨nofun, fun hsplit => absurd hsplit not_exists_split_nil⟩
  | cons line rest ih =>
    rw [exists_split_cons_iff, List.append_nil]
    simp only [sound_cons_iff, sound_nil, true_and]
    rw [addLines, ← h.addLine_eq_error_iff]
    cases hline : Topology.addLine resolve t (earlier.length + 1) line with
    | error error' =>
      have hfaulty := (h.addLine_eq_error_iff.1 hline).faulty
      simp [bind, Except.bind, hfaulty]
    | ok t' =>
      have hfine := h.not_faulty hline
      have hrest := ih (h.addLine hline).1
      rw [List.length_append, List.length_singleton] at hrest
      simp only [bind, Except.bind, reduceCtorEq, false_or, hfine, not_false_eq_true, true_and,
        hrest, List.append_assoc, List.singleton_append]

/-- Lines that are all accepted are described, and none of them is faulty. -/
theorem addLines (h : Loaded resolve earlier t) {rest : List (List Char)}
    (hok : addLines resolve t (earlier.length + 1) rest = .ok t') :
    Loaded resolve (earlier ++ rest) t' ∧ Sound resolve earlier rest := by
  induction rest generalizing earlier t with
  | nil =>
    cases hok
    exact ⟨by rwa [List.append_nil], sound_nil earlier⟩
  | cons line rest ih =>
    obtain ⟨t₁, hline, hrest⟩ := of_bind_eq_ok hok
    have hloaded := (h.addLine hline).1
    rw [← List.length_singleton (a := line), ← List.length_append] at hrest
    obtain ⟨hall, hsound⟩ := ih hloaded hrest
    rw [List.append_assoc, List.singleton_append] at hall
    exact ⟨hall, sound_cons_iff.2 ⟨h.not_faulty hline, hsound⟩⟩

end Loaded

/-! ### What is described -/

/-- A topology is the one that some lines describe. -/
structure Describes (resolve : Resolver) (es : List Entry) (t : Topology) : Prop where
  /-- All hosts that are named have addresses. -/
  resolved : ∀ name ∈ named es, ∃ a, resolve name = .ok a
  /-- The nodes are the last numbers of the addresses. -/
  mem_nodeIds_iff : ∀ id, id ∈ t.nodeIds ↔
    ∃ name ∈ named es, ∃ a, resolve name = .ok a ∧ a.nodeId = id
  /-- The address of a node is that of every host with its number. -/
  address_eq : ∀ id host, t.hosts.find? id = some host →
    ∀ name ∈ named es, ∀ a, resolve name = .ok a → a.nodeId = id → host.address = a
  /-- The cost between two nodes is that on the last line that joins them. -/
  cost_joined : ∀ a b c, a ≠ b → LastJoins resolve es a b c → t.cost a b = c
  /-- Nodes that no line joins are as far apart as can be. -/
  cost_apart : ∀ a b, a ≠ b → (∀ e ∈ es, ¬ e.Joins resolve a b) → t.cost a b = infiniteCost
  cost_comm : ∀ a b, t.cost a b = t.cost b a
  cost_self : ∀ a, t.cost a a = 0
  /-- The neighbors are listed in ascending order. -/
  ascending : ∀ a, (t.neighborIds a).Pairwise (· < ·)
  /-- The neighbors of a node are those that some line joins to it. -/
  mem_neighborIds_iff : ∀ a b, b ∈ t.neighborIds a ↔ ∃ e ∈ es, e.Joins resolve a b
  not_mem_neighborIds : ∀ a, a ∉ t.neighborIds a

namespace Loaded

variable {lines : List (List Char)} {t : Topology}

theorem mem_nodeIds_iff (h : Loaded resolve lines t) {id : NodeId} :
    id ∈ t.nodeIds ↔ ∃ name ∈ named (entries lines), ∃ a, resolve name = .ok a ∧ a.nodeId = id := by
  rw [Topology.mem_nodeIds_iff]
  constructor
  · rintro ⟨host, hhost⟩
    rw [h.houses.find?_eq] at hhost
    obtain ⟨⟨first, a⟩, hfirst, -⟩ := Option.map_eq_some_iff.1 hhost
    obtain ⟨hmem, ha, hid⟩ := of_holder? hfirst
    exact ⟨first, hmem, a, ha, hid⟩
  · rintro ⟨name, hmem, a, ha, rfl⟩
    obtain ⟨first, hfind⟩ := h.houses.exists_find? hmem ha
    exact ⟨_, hfind⟩

/-- Nodes are linked if some line joins them. -/
theorem isSome_link?_iff (h : Loaded resolve lines t) {a b : NodeId} :
    (t.link? a b).isSome = true ↔ ∃ e ∈ entries lines, e.Joins resolve a b := by
  rw [← exists_lastJoins_iff]
  simp only [← h.link?_iff, Option.isSome_iff_exists]
  constructor
  · rintro ⟨l, hl⟩
    exact ⟨l.cost, l, hl, rfl⟩
  · rintro ⟨_, l, hl, -⟩
    exact ⟨l, hl⟩

/-- Nodes that a line joins belong to the topology. -/
theorem mem_nodeIds_of_joins (h : Loaded resolve lines t) {e : Entry} (he : e ∈ entries lines)
    {a b : NodeId} (hjoins : e.Joins resolve a b) : b ∈ t.nodeIds := by
  obtain ⟨x, y, hx, hy, hends⟩ := hjoins
  rw [h.mem_nodeIds_iff]
  rcases hends with ⟨-, hb⟩ | ⟨hb, -⟩
  · exact ⟨e.far, mem_named_iff.2 ⟨e, he, .inr rfl⟩, y, hy, hb⟩
  · exact ⟨e.near, mem_named_iff.2 ⟨e, he, .inl rfl⟩, x, hx, hb⟩

theorem describes (h : Loaded resolve lines t) : Describes resolve (entries lines) t where
  resolved name hname := by
    obtain ⟨a, -, ha, -⟩ := h.houses.settled name hname
    exact ⟨a, ha⟩
  mem_nodeIds_iff _ := h.mem_nodeIds_iff
  address_eq id host hhost name hname a ha hid := by
    obtain ⟨first, hfind⟩ := h.houses.exists_find? hname ha
    rw [hid, hhost] at hfind
    cases hfind
    rfl
  cost_joined a b c hne hlast := by
    obtain ⟨l, hl, hcost⟩ := (h.link?_iff a b c).2 hlast
    rw [cost, if_neg hne, hl]
    exact hcost
  cost_apart a b hne hno := by
    have hnone : t.link? a b = none := by
      rw [← Option.not_isSome_iff_eq_none, h.isSome_link?_iff]
      rintro ⟨e, he, hjoins⟩
      exact hno e he hjoins
    rw [cost, if_neg hne, hnone]
    rfl
  cost_comm := t.cost_comm
  cost_self := t.cost_self
  ascending := t.pairwise_neighborIds
  mem_neighborIds_iff a b := by
    rw [Topology.mem_neighborIds_iff, h.isSome_link?_iff]
    exact ⟨fun hboth => hboth.2, fun hjoined => ⟨h.mem_nodeIds_of_joins hjoined.choose_spec.1
      hjoined.choose_spec.2, hjoined⟩⟩
  not_mem_neighborIds := t.not_mem_neighborIds_self

end Loaded

/-- **What a topology file describes.**  A text is refused exactly if some line is faulty: it is
neither blank nor a comment, and does not have three fields, or has no cost, or names a host that
has no address or whose node has another address by the lines so far, or joins a node to itself.
The error is that of the first faulty line.  If the text is accepted, its topology is the one that
its lines describe. -/
theorem parse_describes (resolve : Resolver) (text : String) :
    ((∃ error, parse resolve text = .error error) ↔ ∃ before line after,
      Text.lines text.toList = before ++ line :: after ∧ Faulty resolve before line) ∧
    (∀ error, parse resolve text = .error error ↔ ∃ before line after,
      Text.lines text.toList = before ++ line :: after ∧ Sound resolve [] before ∧
        LineError resolve before line error) ∧
    ∀ t, parse resolve text = .ok t →
      Describes resolve (entries (Text.lines text.toList)) t := by
  have hstart : Loaded resolve [] Topology.empty := .empty
  have herror : ∀ error, parse resolve text = .error error ↔ ∃ before line after,
      Text.lines text.toList = before ++ line :: after ∧ Sound resolve [] before ∧
        LineError resolve before line error := fun error => hstart.addLines_eq_error_iff
  refine ⟨⟨?_, fun hfaulty => ?_⟩, herror, fun t ht => (hstart.addLines ht).1.describes⟩
  · rintro ⟨error, hparse⟩
    obtain ⟨before, line, after, hsplit, -, hline⟩ := (herror error).1 hparse
    exact ⟨before, line, after, hsplit, hline.faulty⟩
  · cases hparse : parse resolve text with
    | error error => exact ⟨error, rfl⟩
    | ok t => exact absurd hfaulty (hstart.addLines hparse).2

/-- Two hosts, one of which has two names. -/
def renamed : Resolver :=
  withHosts [("green", "10.0.0.1"), ("verde", "10.0.0.1"), ("red", "10.0.0.4")]

/-- A link that is described twice, under different names. -/
def renamedText : String :=
  "# green has two names\ngreen red 4\n\nred verde 7\n"

theorem entries_renamedText : entries (Text.lines renamedText.toList) =
    [⟨"green", "red", 4⟩, ⟨"red", "verde", 7⟩] := by
  decide +kernel

theorem exists_parse_renamedText : ∃ t, parse renamed renamedText = .ok t := by
  have hok : (parse renamed renamedText).toOption.isSome = true := by decide +kernel
  cases hparse : parse renamed renamedText with
  | error error =>
    rw [hparse] at hok
    cases hok
  | ok t => exact ⟨t, rfl⟩

/-- The link has the cost of its last line, and one more line with a single host is refused. -/
theorem parse_describes_renamed :
    (∃ t, parse renamed renamedText = .ok t ∧ t.cost 1 4 = 7 ∧ t.cost 4 1 = 7 ∧
      4 ∈ t.neighborIds 1) ∧
    parse renamed (renamedText ++ "verde\n") = .error (.badLine 5 "verde") := by
  obtain ⟨hfails, -, hloaded⟩ := parse_describes renamed renamedText
  obtain ⟨-, herror, -⟩ := parse_describes renamed (renamedText ++ "verde\n")
  obtain ⟨t, hparse⟩ := exists_parse_renamedText
  constructor
  · have hdescribes := hloaded t hparse
    rw [entries_renamedText] at hdescribes
    have hjoins : Entry.Joins renamed ⟨"red", "verde", 7⟩ 1 4 :=
      ⟨⟨10, 0, 0, 4⟩, ⟨10, 0, 0, 1⟩, rfl, rfl, .inr ⟨rfl, rfl⟩⟩
    have hcost := hdescribes.cost_joined 1 4 7 (by decide)
      ⟨[⟨"green", "red", 4⟩], _, [], rfl, hjoins, rfl, nofun⟩
    exact ⟨t, hparse, hcost, (hdescribes.cost_comm 4 1).trans hcost,
      (hdescribes.mem_neighborIds_iff 1 4).2
        ⟨_, List.mem_cons_of_mem _ List.mem_cons_self, hjoins⟩⟩
  · -- the first four lines are accepted, so that none of them is faulty
    have hsound : Sound renamed [] (Text.lines renamedText.toList) := fun hfaulty => by
      obtain ⟨error, hrefused⟩ := hfails.2 hfaulty
      cases hparse.symm.trans hrefused
    exact (herror _).2 ⟨_, "verde".toList, [], by decide +kernel, hsound,
      .fields (by decide +kernel) (by decide +kernel)⟩

end Topology

end OverlayStack
