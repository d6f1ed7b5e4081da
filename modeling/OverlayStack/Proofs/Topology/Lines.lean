import Mathlib.Data.List.DropRight
import Mathlib.Tactic.Common
import OverlayStack.Proofs.Splits
import OverlayStack.Topology.File

/-!
# Lines of topology files

What the lines of a topology file say, and what can be wrong with them, is told without a topology.
Whether a line is faulty depends on the lines before it, since a node belongs to the first address
that a line gives to it.

## Main definitions

* `Text.trimmed` — a line without the blanks at its ends.
* `Topology.Entry`, `Topology.entryOf?`, `Topology.entries` — what lines say.
* `Topology.holder?` — the host to which a node belongs.
* `Topology.Faulty`, `Topology.Sound` — faulty lines, and lines of which none is faulty.
* `Topology.LineError` — the error of a faulty line.
* `Topology.LastJoins` — the cost on the last line that joins two nodes.

## Main results

* `Text.trimmed_cases` — a trimmed line begins like its first word.
* `Topology.LineError.faulty` — a line with an error is faulty.
* `Topology.lastJoins_concat`, `Topology.exists_lastJoins_iff` — the last line that joins two nodes.
-/

namespace OverlayStack

/-! ### Blank lines and comments -/

namespace Text

/-- A line without the blanks at its ends. -/
def trimmed (line : List Char) : List Char :=
  (line.dropWhile isBlank).rdropWhile isBlank

theorem words_dropWhile (line : List Char) : words (line.dropWhile isBlank) = words line := by
  induction line with
  | nil => rfl
  | cons c cs ih =>
    by_cases hc : isBlank c = true
    · rw [List.dropWhile_cons_of_pos hc, ih, words, words, wordsFrom, if_pos hc]
      rfl
    · rw [List.dropWhile_cons_of_neg hc]

/-- The characters that are collected begin the first word. -/
theorem exists_wordsFrom {current : List Char} (h : current ≠ []) (line : List Char) :
    ∃ rest more, wordsFrom current line = (current.reverse ++ rest) :: more := by
  have hcollected : collected current = [current.reverse] := by
    cases current with
    | nil => exact absurd rfl h
    | cons => rfl
  induction line generalizing current with
  | nil => exact ⟨[], [], by rw [wordsFrom, hcollected, List.append_nil]⟩
  | cons c cs ih =>
    by_cases hc : isBlank c = true
    · exact ⟨[], wordsFrom [] cs, by
        rw [wordsFrom, if_pos hc, hcollected, List.append_nil, List.singleton_append]⟩
    · obtain ⟨rest, more, hwords⟩ := ih (List.cons_ne_nil c current) rfl
      refine ⟨c :: rest, more, ?_⟩
      rw [wordsFrom, if_neg hc, hwords, List.reverse_cons, List.append_assoc]
      rfl

/-- **A trimmed line is empty if the line has no words**, and otherwise begins like the first. -/
theorem trimmed_cases (line : List Char) :
    trimmed line = [] ∧ words line = [] ∨
      ∃ c tail rest more, trimmed line = c :: tail ∧ words line = (c :: rest) :: more := by
  rw [← words_dropWhile, trimmed]
  cases hdrop : line.dropWhile isBlank with
  | nil => exact .inl ⟨rfl, rfl⟩
  | cons c cs =>
    have hc : ¬ isBlank c = true := by
      have hhead := List.head_dropWhile_not isBlank (l := line)
        (by rw [hdrop]; exact List.cons_ne_nil _ _)
      simpa only [hdrop, List.head_cons, Bool.not_eq_true] using hhead
    -- the first character is no blank, so that it is kept at the other end as well
    obtain ⟨rest, more, hwords⟩ := exists_wordsFrom (List.cons_ne_nil c []) cs
    have hne : (c :: cs).rdropWhile isBlank ≠ [] := fun hnil =>
      hc (List.rdropWhile_eq_nil_iff.1 hnil c List.mem_cons_self)
    obtain ⟨d, tail, htrim⟩ := List.exists_cons_of_ne_nil hne
    obtain ⟨behind, hbehind⟩ := List.rdropWhile_prefix isBlank (l := c :: cs)
    rw [htrim, List.cons_append] at hbehind
    obtain ⟨rfl, -⟩ := List.cons.inj hbehind
    refine .inr ⟨d, tail, rest, more, htrim, ?_⟩
    rw [words, wordsFrom, if_neg hc, hwords]
    rfl

end Text

namespace Topology

/-- Whether a line is blank or a comment. -/
def isSilent (line : List Char) : Bool :=
  match Text.trimmed line with
  | [] => true
  | c :: _ => c == '#'

/-! ### What lines say -/

/-- What a line says. -/
structure Entry where
  /-- One of the hosts. -/
  near : String
  /-- The other host. -/
  far : String
  /-- The cost of the link between them. -/
  cost : Cost
  deriving DecidableEq, Repr

/-- The hosts that a line names. -/
def Entry.names (e : Entry) : List String :=
  [e.near, e.far]

/-- What a line says, if it has two hosts and a cost. -/
def entryOf? (line : List Char) : Option Entry :=
  if isSilent line then none
  else match Text.words line with
    | [near, far, price] =>
      (Text.word32? price).map fun cost => ⟨String.ofList near, String.ofList far, cost⟩
    | _ => none

/-- What some lines say, in their order. -/
def entries (lines : List (List Char)) : List Entry :=
  lines.filterMap entryOf?

theorem entryOf?_of_silent {line : List Char} (h : isSilent line = true) : entryOf? line = none :=
  if_pos h

/-- A line that is not silent says something, or its fields are wrong. -/
theorem speaks_cases {line : List Char} (h : isSilent line = false) :
    (∃ near far price cost, Text.words line = [near, far, price] ∧
      Text.word32? price = some cost ∧
      entryOf? line = some ⟨String.ofList near, String.ofList far, cost⟩) ∨
    entryOf? line = none ∧ ((Text.words line).length ≠ 3 ∨
      ∃ near far price, Text.words line = [near, far, price] ∧ Text.word32? price = none) := by
  unfold entryOf?
  rw [if_neg (by rw [h]; exact Bool.false_ne_true)]
  split
  · next near far price hwords =>
    cases hprice : Text.word32? price with
    | none => exact .inr ⟨rfl, .inr ⟨near, far, price, hwords, hprice⟩⟩
    | some cost => exact .inl ⟨near, far, price, cost, hwords, hprice, rfl⟩
  · next hwords =>
    refine .inr ⟨rfl, .inl fun hlen => ?_⟩
    obtain ⟨near, far, price, heq⟩ := List.length_eq_three.1 hlen
    exact hwords near far price heq

theorem entries_concat (lines : List (List Char)) (line : List Char) :
    entries (lines ++ [line]) = entries lines ++ (entryOf? line).toList := by
  rw [entries, entries, List.filterMap_append]
  cases hline : entryOf? line with
  | none => rw [List.filterMap_cons_none hline]; rfl
  | some e => rw [List.filterMap_cons_some hline]; rfl

/-- A line with an entry does not have wrong fields. -/
theorem fields_of_entryOf? {line : List Char} {e : Entry} (hline : entryOf? line = some e) :
    isSilent line = false ∧ (Text.words line).length = 3 ∧
      ∀ near far price, Text.words line = [near, far, price] → Text.word32? price ≠ none := by
  cases hsilent : isSilent line with
  | true =>
    rw [entryOf?_of_silent hsilent] at hline
    cases hline
  | false =>
    rcases speaks_cases hsilent with ⟨near, far, price, cost, hwords, hprice, -⟩ | ⟨hnone, -⟩
    · rw [hwords]
      refine ⟨rfl, rfl, ?_⟩
      rintro _ _ _ ⟨⟩
      rw [hprice]
      exact Option.some_ne_none cost
    · cases hline.symm.trans hnone

/-- The hosts that are named, in their order. -/
def named (entries : List Entry) : List String :=
  entries.flatMap Entry.names

theorem mem_named_iff {es : List Entry} {name : String} :
    name ∈ named es ↔ ∃ e ∈ es, name = e.near ∨ name = e.far := by
  simp only [named, Entry.names, List.mem_flatMap, List.mem_cons, List.not_mem_nil, or_false]

theorem named_concat (es : List Entry) (e : Entry) :
    named (es ++ [e]) = named es ++ [e.near] ++ [e.far] := by
  simp [named, Entry.names]

variable {resolve : Resolver}

/-- The first host that has an address with the number of a node, and this address. -/
def holder? (resolve : Resolver) (names : List String) (id : NodeId) : Option (String × Address) :=
  names.findSome? fun name =>
    match resolve name with
    | .ok address => if address.nodeId = id then some (name, address) else none
    | .error _ => none

theorem holder?_concat (names : List String) (name : String) (id : NodeId) :
    holder? resolve (names ++ [name]) id =
      (holder? resolve names id).or (holder? resolve [name] id) :=
  List.findSome?_append

theorem holder?_singleton {name : String} {a : Address} (h : resolve name = .ok a) (id : NodeId) :
    holder? resolve [name] id = if a.nodeId = id then some (name, a) else none := by
  simp only [holder?, List.findSome?_cons, List.findSome?_nil, h]
  split <;> simp_all

theorem of_holder? {names : List String} {id : NodeId} {first : String} {a : Address}
    (h : holder? resolve names id = some (first, a)) :
    first ∈ names ∧ resolve first = .ok a ∧ a.nodeId = id := by
  obtain ⟨name, hmem, hname⟩ := List.exists_of_findSome?_eq_some h
  split at hname
  · next b hb =>
    split at hname
    · next hid =>
      cases hname
      exact ⟨hmem, hb, hid⟩
    · cases hname
  · cases hname

/-! ### Faults -/

/-- A line is faulty, behind some others. -/
inductive Faulty (resolve : Resolver) (earlier : List (List Char)) (line : List Char) : Prop where
  /-- It does not have three fields. -/
  | fields (hspeaks : isSilent line = false) (h : (Text.words line).length ≠ 3)
  /-- Its third field is no cost. -/
  | price {near far price : List Char} (hspeaks : isSilent line = false)
      (hwords : Text.words line = [near, far, price]) (h : Text.word32? price = none)
  /-- It names a host that has no address. -/
  | unresolved {e : Entry} {name : String} {error : Error} (hline : entryOf? line = some e)
      (hname : name ∈ e.names) (h : resolve name = .error error)
  /-- It names a host whose node has another address, by the lines so far. -/
  | taken {e : Entry} {name other : String} {a b : Address} (hline : entryOf? line = some e)
      (hname : name ∈ e.names) (ha : resolve name = .ok a)
      (hother : other ∈ named (entries earlier) ++ e.names) (hb : resolve other = .ok b)
      (hid : b.nodeId = a.nodeId) (hne : b ≠ a)
  /-- It joins a node to itself. -/
  | loop {e : Entry} {a b : Address} (hline : entryOf? line = some e) (ha : resolve e.near = .ok a)
      (hb : resolve e.far = .ok b) (hid : a.nodeId = b.nodeId)

/-- None of some lines is faulty, behind others and those of them that come before it. -/
def Sound (resolve : Resolver) (earlier lines : List (List Char)) : Prop :=
  ¬ ∃ before line after, lines = before ++ line :: after ∧ Faulty resolve (earlier ++ before) line

/-- What is wrong with a host that is named behind others. -/
inductive HostError (resolve : Resolver) (names : List String) (name : String) : Error → Prop where
  /-- The host has no address. -/
  | unresolved {error : Error} (h : resolve name = .error error) :
      HostError resolve names name error
  /-- The node of the host belongs to another address. -/
  | taken {first : String} {a b : Address} (h : resolve name = .ok a)
      (hfirst : holder? resolve names a.nodeId = some (first, b)) (hne : b ≠ a) :
      HostError resolve names name (.sharedId a.nodeId first name)

/-- The error of a faulty line.  The fields are checked first, then one host after the other, and
then that the two are different nodes. -/
inductive LineError (resolve : Resolver) (earlier : List (List Char)) (line : List Char) :
    Error → Prop where
  | fields (hspeaks : isSilent line = false) (h : (Text.words line).length ≠ 3) :
      LineError resolve earlier line (.badLine (earlier.length + 1) (String.ofList line))
  | price {near far price : List Char} (hspeaks : isSilent line = false)
      (hwords : Text.words line = [near, far, price]) (h : Text.word32? price = none) :
      LineError resolve earlier line (.badLine (earlier.length + 1) (String.ofList line))
  | near {e : Entry} {error : Error} (hline : entryOf? line = some e)
      (h : HostError resolve (named (entries earlier)) e.near error) :
      LineError resolve earlier line error
  | far {e : Entry} {error : Error} (hline : entryOf? line = some e)
      (hnear : ∀ error, ¬ HostError resolve (named (entries earlier)) e.near error)
      (h : HostError resolve (named (entries earlier) ++ [e.near]) e.far error) :
      LineError resolve earlier line error
  | loop {e : Entry} {a b : Address} (hline : entryOf? line = some e)
      (hnear : ∀ error, ¬ HostError resolve (named (entries earlier)) e.near error)
      (hfar : ∀ error, ¬ HostError resolve (named (entries earlier) ++ [e.near]) e.far error)
      (ha : resolve e.near = .ok a) (hb : resolve e.far = .ok b) (hid : a.nodeId = b.nodeId) :
      LineError resolve earlier line (.badLine (earlier.length + 1) (String.ofList line))

/-- The errors of a line with two hosts and a cost. -/
theorem lineError_iff {earlier : List (List Char)} {line : List Char} {e : Entry} {error : Error}
    (hline : entryOf? line = some e) :
    LineError resolve earlier line error ↔
      HostError resolve (named (entries earlier)) e.near error ∨
      (∀ error, ¬ HostError resolve (named (entries earlier)) e.near error) ∧
        (HostError resolve (named (entries earlier) ++ [e.near]) e.far error ∨
        (∀ error, ¬ HostError resolve (named (entries earlier) ++ [e.near]) e.far error) ∧
          (∃ a b, resolve e.near = .ok a ∧ resolve e.far = .ok b ∧ a.nodeId = b.nodeId) ∧
            error = .badLine (earlier.length + 1) (String.ofList line)) := by
  obtain ⟨-, hlen, hprice⟩ := fields_of_entryOf? hline
  constructor
  · intro h
    cases h with
    | fields _ hwrong => exact absurd hlen hwrong
    | price _ hwords hwrong => exact absurd hwrong (hprice _ _ _ hwords)
    | near hline' h =>
      cases hline.symm.trans hline'
      exact .inl h
    | far hline' hnear h =>
      cases hline.symm.trans hline'
      exact .inr ⟨hnear, .inl h⟩
    | loop hline' hnear hfar ha hb hid =>
      cases hline.symm.trans hline'
      exact .inr ⟨hnear, .inr ⟨hfar, ⟨_, _, ha, hb, hid⟩, rfl⟩⟩
  · rintro (h | ⟨hnear, h | ⟨hfar, ⟨a, b, ha, hb, hid⟩, rfl⟩⟩)
    · exact .near hline h
    · exact .far hline hnear h
    · exact .loop hline hnear hfar ha hb hid

/-- A line without an entry has at most one error, which is that of its fields. -/
theorem lineError_iff_of_none {earlier : List (List Char)} {line : List Char} {error : Error}
    (hline : entryOf? line = none) :
    LineError resolve earlier line error ↔
      isSilent line = false ∧ error = .badLine (earlier.length + 1) (String.ofList line) := by
  constructor
  · intro h
    cases h with
    | fields hspeaks => exact ⟨hspeaks, rfl⟩
    | price hspeaks => exact ⟨hspeaks, rfl⟩
    | near hsome => cases hline.symm.trans hsome
    | far hsome => cases hline.symm.trans hsome
    | loop hsome => cases hline.symm.trans hsome
  · rintro ⟨hspeaks, rfl⟩
    rcases speaks_cases hspeaks with
      ⟨_, _, _, _, -, -, hsome⟩ | ⟨-, hlen | ⟨_, _, _, hwords, hprice⟩⟩
    · cases hline.symm.trans hsome
    · exact .fields hspeaks hlen
    · exact .price hspeaks hwords hprice

/-- A line with an error is faulty. -/
theorem LineError.faulty {earlier : List (List Char)} {line : List Char} {error : Error}
    (herror : LineError resolve earlier line error) : Faulty resolve earlier line := by
  cases herror with
  | fields hspeaks hlen => exact .fields hspeaks hlen
  | price hspeaks hwords hprice => exact .price hspeaks hwords hprice
  | near hline herror =>
    cases herror with
    | unresolved ha => exact .unresolved hline List.mem_cons_self ha
    | taken ha hfirst hne =>
      obtain ⟨hmem, hb, hid⟩ := of_holder? hfirst
      exact .taken hline List.mem_cons_self ha (List.mem_append_left _ hmem) hb hid hne
  | @far e _ hline _ herror =>
    have hname : e.far ∈ e.names := List.mem_cons_of_mem _ List.mem_cons_self
    cases herror with
    | unresolved ha => exact .unresolved hline hname ha
    | taken ha hfirst hne =>
      obtain ⟨hmem, hb, hid⟩ := of_holder? hfirst
      refine .taken hline hname ha ?_ hb hid hne
      rcases List.mem_append.1 hmem with hmem | hmem
      · exact List.mem_append_left _ hmem
      · rw [List.mem_singleton.1 hmem]
        exact List.mem_append_right _ List.mem_cons_self
  | loop hline _ _ ha hb hid => exact .loop hline ha hb hid

/-! ### The first faulty line -/

theorem sound_nil (earlier : List (List Char)) : Sound resolve earlier [] :=
  not_exists_split_nil

theorem sound_cons_iff {earlier : List (List Char)} {line : List Char} {rest : List (List Char)} :
    Sound resolve earlier (line :: rest) ↔
      ¬ Faulty resolve earlier line ∧ Sound resolve (earlier ++ [line]) rest := by
  simp only [Sound, exists_split_cons_iff, not_or, List.append_nil, List.append_assoc,
    List.singleton_append]

/-! ### Links -/

/-- A line joins two nodes, in one direction or the other. -/
def Entry.Joins (resolve : Resolver) (e : Entry) (a b : NodeId) : Prop :=
  ∃ x y, resolve e.near = .ok x ∧ resolve e.far = .ok y ∧
    (x.nodeId = a ∧ y.nodeId = b ∨ x.nodeId = b ∧ y.nodeId = a)

/-- The cost on the last line that joins two nodes. -/
def LastJoins (resolve : Resolver) (es : List Entry) (a b : NodeId) (c : Cost) : Prop :=
  ∃ before e after, es = before ++ e :: after ∧ e.Joins resolve a b ∧ e.cost = c ∧
    ∀ e' ∈ after, ¬ e'.Joins resolve a b

theorem lastJoins_concat {es : List Entry} {e : Entry} {a b : NodeId} {c : Cost} :
    LastJoins resolve (es ++ [e]) a b c ↔
      e.Joins resolve a b ∧ e.cost = c ∨ ¬ e.Joins resolve a b ∧ LastJoins resolve es a b c := by
  rw [LastJoins, exists_split_concat_iff]
  constructor
  · rintro (⟨hjoins, hcost, -⟩ | ⟨before, e₀, after, rfl, hjoins, hcost, hlast⟩)
    · exact .inl ⟨hjoins, hcost⟩
    · exact .inr ⟨hlast e (List.mem_append_right _ List.mem_cons_self), before, e₀, after, rfl,
        hjoins, hcost, fun e' he' => hlast e' (List.mem_append_left _ he')⟩
  · rintro (⟨hjoins, hcost⟩ | ⟨hnot, before, e₀, after, rfl, hjoins, hcost, hlast⟩)
    · exact .inl ⟨hjoins, hcost, nofun⟩
    · refine .inr ⟨before, e₀, after, rfl, hjoins, hcost, fun e' he' => ?_⟩
      rcases List.mem_append.1 he' with he' | he'
      · exact hlast e' he'
      · rwa [List.mem_singleton.1 he']

/-- If any line joins two nodes, then there is a last one. -/
theorem exists_lastJoins_iff {es : List Entry} {a b : NodeId} :
    (∃ c, LastJoins resolve es a b c) ↔ ∃ e ∈ es, e.Joins resolve a b := by
  constructor
  · rintro ⟨c, before, e, after, rfl, hjoins, -⟩
    exact ⟨e, List.mem_append_right _ List.mem_cons_self, hjoins⟩
  · intro h
    induction es using List.reverseRecOn with
    | nil => simp at h
    | append_singleton es e ih =>
      by_cases hjoins : e.Joins resolve a b
      · exact ⟨e.cost, lastJoins_concat.2 (.inl ⟨hjoins, rfl⟩)⟩
      · obtain ⟨e', he', hjoins'⟩ := h
        have hmem : e' ∈ es := by
          rcases List.mem_append.1 he' with he' | he'
          · exact he'
          · exact absurd (List.mem_singleton.1 he' ▸ hjoins') hjoins
        obtain ⟨c, hlast⟩ := ih ⟨e', hmem, hjoins'⟩
        exact ⟨c, lastJoins_concat.2 (.inr ⟨hjoins, hlast⟩)⟩

end Topology

end OverlayStack
