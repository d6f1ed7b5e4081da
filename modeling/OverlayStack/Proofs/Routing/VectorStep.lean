import Mathlib.Tactic.Common
import OverlayStack.Proofs.Routing.RouteLookup
import OverlayStack.Routing.DistanceVector

/-!
# One route update

What a node that routes by distance vectors makes of the vector of a neighbor.  The vector names
every destination once and does not report a failure, so that each destination is considered by
itself: either the way through the neighbor is cheaper, and its cost and the neighbor are written
down, or nothing changes.

## Main definitions

* `DistanceVector.ownCost` — the cost of a destination in the node's own vector.
* `DistanceVector.Heard` — what hearing of one destination does.
* `DistanceVector.Fits` — the tables of a node have their places as the topology says.

## Main results

* `DistanceVector.heard_foldl_consider` — a list of entries acts on each destination by itself.
* `DistanceVector.handle_eq_ok` — an update from a neighbor is taken, and acts like that.
-/

namespace OverlayStack

/-! ### Writing into a distance table -/

namespace DistanceTable

variable (d : DistanceTable) (source dest : NodeId) (cost : Cost)

theorem me_set : (d.set source dest cost).me = d.me := by
  unfold set
  split <;> rfl

theorem hasRow_set (x : NodeId) : (d.set source dest cost).hasRow x = d.hasRow x := by
  unfold set hasRow row?
  split
  · dsimp only
    split <;> rfl
  · dsimp only
    rw [NodeMap.find?_modify]
    split
    · rfl
    · split
      · rw [Option.isSome_map]
      · rfl

theorem find?_own_set (x : NodeId) :
    (d.set source dest cost).own.find? x =
      if source = d.me ∧ x = dest then (d.own.find? x).map fun _ => min cost infiniteCost
      else d.own.find? x := by
  unfold set
  by_cases hsource : source = d.me
  · simp only [hsource, if_true, true_and, NodeMap.find?_modify]
  · simp only [hsource, if_false, false_and]

end DistanceTable

namespace DistanceVector

/-- The cost of a destination in the node's own vector. -/
def ownCost (s : DistanceVector) (dest : NodeId) : Cost :=
  (s.table.own.find? dest).getD infiniteCost

/-- What the node `s` becomes as `s'` for one destination when a neighbor behind a link says what
the destination costs it, if it says anything. -/
inductive Heard (source : NodeId) (link : Cost) (advertised : Option Cost) (s s' : DistanceVector)
    (dest : NodeId) : Prop where
  /-- The way through the neighbor is no better. -/
  | kept (hown : s'.table.own.find? dest = s.table.own.find? dest)
      (hnext : s'.routes.next? dest = s.routes.next? dest)
      (hge : ∀ c, advertised = some c → dest ≠ s.me → s.table.hasNode dest = true →
        s.ownCost dest ≤ addCost c link)
  /-- The way through the neighbor is better and is taken. -/
  | improved (c : Cost) (hadv : advertised = some c) (hne : dest ≠ s.me)
      (hlt : addCost c link < s.ownCost dest)
      (hown : s'.table.own.find? dest = some (min (addCost c link) infiniteCost))
      (hnext : s'.routes.next? dest = some source)

theorem find?_own_setCost (s : DistanceVector) (dest : NodeId) (cost : Cost) (x : NodeId) :
    (s.setCost dest cost).table.own.find? x =
      if x = dest then (s.table.own.find? x).map fun _ => min cost infiniteCost
      else s.table.own.find? x := by
  unfold setCost me
  rw [DistanceTable.find?_own_set]
  simp only [true_and]

theorem setCost_me (s : DistanceVector) (dest : NodeId) (cost : Cost) :
    (s.setCost dest cost).me = s.me :=
  s.table.me_set s.me dest cost

theorem hasRow_setCost (s : DistanceVector) (dest : NodeId) (cost : Cost) (x : NodeId) :
    (s.setCost dest cost).table.hasRow x = s.table.hasRow x :=
  s.table.hasRow_set s.me dest cost x

theorem cost_me_eq_ownCost {s : DistanceVector} {dest : NodeId} (h : dest ≠ s.me) :
    s.table.cost s.me dest = s.ownCost dest := by
  have hne : s.table.me ≠ dest := Ne.symm h
  unfold DistanceTable.cost DistanceTable.row? ownCost me
  simp [hne]

theorem hasNode_iff {s : DistanceVector} {dest : NodeId} :
    s.table.hasNode dest = true ↔ ∃ c, s.table.own.find? dest = some c := by
  rw [DistanceTable.hasNode, NodeMap.contains, Option.isSome_iff_exists]

/-- The two states have the same places in their tables. -/
structure SameFrame (s s' : DistanceVector) : Prop where
  me_eq : s'.me = s.me
  links_eq : s'.links = s.links
  hasRow_eq : ∀ x, s'.table.hasRow x = s.table.hasRow x
  hasNode_eq : ∀ x, s'.table.hasNode x = s.table.hasNode x

theorem SameFrame.refl (s : DistanceVector) : SameFrame s s :=
  ⟨rfl, rfl, fun _ => rfl, fun _ => rfl⟩

theorem SameFrame.trans {s s' s'' : DistanceVector} (h : SameFrame s s') (h' : SameFrame s' s'') :
    SameFrame s s'' :=
  ⟨h'.me_eq.trans h.me_eq, h'.links_eq.trans h.links_eq,
    fun x => (h'.hasRow_eq x).trans (h.hasRow_eq x),
    fun x => (h'.hasNode_eq x).trans (h.hasNode_eq x)⟩

theorem sameFrame_setCost (s : DistanceVector) (dest : NodeId) (cost : Cost)
    (routes : RoutingTable) : SameFrame s { s.setCost dest cost with routes } where
  me_eq := setCost_me s dest cost
  links_eq := rfl
  hasRow_eq := hasRow_setCost s dest cost
  hasNode_eq := fun x => by
    have h := find?_own_setCost s dest cost x
    unfold DistanceTable.hasNode NodeMap.contains
    dsimp only
    rw [h]
    split <;> simp

/-- Hearing of a destination is the same from a state that agrees about the destination. -/
theorem Heard.of_agree {source dest : NodeId} {link : Cost} {advertised : Option Cost}
    {s s₀ s' : DistanceVector} (h : Heard source link advertised s₀ s' dest)
    (hframe : SameFrame s s₀) (hown : s₀.table.own.find? dest = s.table.own.find? dest)
    (hnext : s₀.routes.next? dest = s.routes.next? dest) :
    Heard source link advertised s s' dest := by
  have hcost : s₀.ownCost dest = s.ownCost dest := by
    unfold ownCost
    rw [hown]
  cases h with
  | kept hown' hnext' hge =>
    rw [hcost, hframe.me_eq, hframe.hasNode_eq] at hge
    exact .kept (hown'.trans hown) (hnext'.trans hnext) hge
  | improved c hadv hne hlt hown' hnext' =>
    rw [hcost] at hlt
    rw [hframe.me_eq] at hne
    exact .improved c hadv hne hlt hown' hnext'

/-! ### One entry -/

/-- Considering an entry that does not report a failure. -/
theorem consider_eq (s : DistanceVector) (source : NodeId) (link : Cost) {dest : NodeId} {c : Cost}
    (h : dest = source → c < infiniteCost) :
    s.consider source link (dest, c) =
      if dest ≠ s.me ∧ s.table.hasNode dest = true ∧ addCost c link < s.ownCost dest then
        { s.setCost dest (addCost c link) with routes := s.routes.set dest source }
      else s := by
  unfold consider
  dsimp only
  by_cases hskip : dest = s.me ∨ s.table.hasNode dest = false
  · rw [if_pos (by simpa using hskip), if_neg]
    rintro ⟨hne, hnode, -⟩
    rcases hskip with heq | hno
    · exact hne heq
    · simp [hno] at hnode
  · rw [not_or] at hskip
    obtain ⟨hne, hnode⟩ := hskip
    have hnode : s.table.hasNode dest = true := by simpa using hnode
    rw [if_neg (by simp [hne, hnode])]
    rw [if_neg, cost_me_eq_ownCost hne]
    · simp only [ne_eq, hne, not_false_eq_true, hnode, true_and]
    · rw [Bool.and_eq_true, decide_eq_true_iff, decide_eq_true_iff]
      rintro ⟨heq, hle⟩
      exact UInt32.not_lt.2 hle (h heq)

theorem sameFrame_consider (s : DistanceVector) (source : NodeId) (link : Cost) {dest : NodeId}
    {c : Cost} (h : dest = source → c < infiniteCost) :
    SameFrame s (s.consider source link (dest, c)) := by
  rw [consider_eq s source link h]
  split
  · exact sameFrame_setCost s dest _ _
  · exact SameFrame.refl s

/-- The destination of the entry hears of it. -/
theorem heard_consider (s : DistanceVector) (source : NodeId) (link : Cost) {dest : NodeId}
    {c : Cost} (h : dest = source → c < infiniteCost) :
    Heard source link (some c) s (s.consider source link (dest, c)) dest := by
  rw [consider_eq s source link h]
  split
  · next hbetter =>
    obtain ⟨hne, hnode, hlt⟩ := hbetter
    obtain ⟨k, hk⟩ := hasNode_iff.1 hnode
    refine .improved c rfl hne hlt ?_ (by simp)
    rw [find?_own_setCost, if_pos rfl, hk]
    rfl
  · next hno =>
    refine .kept rfl rfl ?_
    rintro c' hc' hne hnode
    obtain rfl : c = c' := Option.some.inj hc'
    exact UInt32.not_lt.1 fun hlt => hno ⟨hne, hnode, hlt⟩

/-- The other destinations do not. -/
theorem consider_of_ne (s : DistanceVector) (source : NodeId) (link : Cost) {dest x : NodeId}
    {c : Cost} (h : dest = source → c < infiniteCost) (hx : x ≠ dest) :
    (s.consider source link (dest, c)).table.own.find? x = s.table.own.find? x ∧
      (s.consider source link (dest, c)).routes.next? x = s.routes.next? x := by
  rw [consider_eq s source link h]
  split
  · constructor
    · rw [find?_own_setCost, if_neg hx]
    · simp [hx]
  · exact ⟨rfl, rfl⟩

/-! ### A whole vector -/

/-- The entries of a vector act each on its own destination. -/
theorem heard_foldl_consider (source : NodeId) (link : Cost) (entries : List (NodeId × Cost)) :
    ∀ s : DistanceVector, (entries.Pairwise fun a b => a.1 < b.1) →
      (∀ e ∈ entries, e.1 = source → e.2 < infiniteCost) →
      SameFrame s (entries.foldl (consider source link) s) ∧
        ∀ x, Heard source link (NodeMap.lookupEntry x entries) s
          (entries.foldl (consider source link) s) x := by
  induction entries with
  | nil =>
    intro s _ _
    refine ⟨SameFrame.refl s, fun x => .kept rfl rfl ?_⟩
    intro c hc
    simp [NodeMap.lookupEntry] at hc
  | cons e entries ih =>
    obtain ⟨dest, c⟩ := e
    intro s hasc hself
    obtain ⟨hlt, hasc⟩ := List.pairwise_cons.1 hasc
    have hself0 : dest = source → c < infiniteCost := hself (dest, c) List.mem_cons_self
    obtain ⟨hframe, hheard⟩ := ih (s.consider source link (dest, c)) hasc
      fun e he => hself e (List.mem_cons_of_mem _ he)
    have hframe0 := sameFrame_consider s source link hself0
    refine ⟨hframe0.trans hframe, fun x => ?_⟩
    rw [List.foldl_cons]
    by_cases hx : x = dest
    · subst hx
      -- later entries are about greater destinations
      have hnone : NodeMap.lookupEntry x entries = none :=
        NodeMap.lookupEntry_eq_none_of_lt hlt
      have hrest := hheard x
      rw [hnone] at hrest
      simp only [NodeMap.lookupEntry, if_true]
      rcases hrest with ⟨hown, hnext, -⟩ | ⟨_, hadv, _⟩
      · rcases heard_consider s source link hself0 with
          ⟨hown0, hnext0, hge0⟩ | ⟨c', hc', hne, hlt', hown0, hnext0⟩
        · exact .kept (hown.trans hown0) (hnext.trans hnext0) hge0
        · exact .improved c' hc' hne hlt' (hown.trans hown0) (hnext.trans hnext0)
      · simp at hadv
    · obtain ⟨hown0, hnext0⟩ := consider_of_ne s source link hself0 hx
      simp only [NodeMap.lookupEntry, hx, if_false]
      exact (hheard x).of_agree hframe0 hown0 hnext0

/-! ### Updates -/

theorem foldl_set_of_ne {source : NodeId} (entries : List (NodeId × Cost)) :
    ∀ d : DistanceTable, source ≠ d.me →
      let d' := entries.foldl (fun d e => d.set source e.1 e.2) d
      d'.me = d.me ∧ d'.own = d.own ∧ ∀ x, d'.hasRow x = d.hasRow x := by
  induction entries with
  | nil => intro d _; exact ⟨rfl, rfl, fun _ => rfl⟩
  | cons e entries ih =>
    intro d hne
    have hme := d.me_set source e.1 e.2
    have hown : (d.set source e.1 e.2).own = d.own := by
      unfold DistanceTable.set
      rw [if_neg hne]
    obtain ⟨hme', hown', hrow'⟩ := ih (d.set source e.1 e.2) (by rwa [hme])
    exact ⟨hme'.trans hme, hown'.trans hown,
      fun x => (hrow' x).trans (d.hasRow_set source e.1 e.2 x)⟩

/-- Writing down the vector of a neighbor changes neither the places of the tables nor the node's
own vector. -/
theorem sameFrame_learn (s : DistanceVector) {source : NodeId} (entries : List (NodeId × Cost))
    (h : source ≠ s.me) :
    SameFrame s (s.learn source entries) ∧ (s.learn source entries).table.own = s.table.own := by
  obtain ⟨hme, hown, hrow⟩ := foldl_set_of_ne entries s.table h
  refine ⟨⟨hme, rfl, hrow, fun x => ?_⟩, hown⟩
  show NodeMap.contains (entries.foldl _ s.table).own x = s.table.own.contains x
  rw [hown]

/-- The tables of a node have their places as the topology says, and the node is at no cost from
itself. -/
structure Fits (t : Topology) (me : NodeId) (s : DistanceVector) : Prop where
  me_eq : s.me = me
  links_eq : s.links = t.linkCosts me
  hasNode_iff : ∀ x, s.table.hasNode x = true ↔ x ∈ t.nodeIds
  hasRow : ∀ x ∈ t.neighborIds me, s.table.hasRow x = true
  own_self : s.table.own.find? me = some 0

theorem Fits.of_sameFrame {t : Topology} {me : NodeId} {s s' : DistanceVector} (h : s.Fits t me)
    (hframe : SameFrame s s') (hown : s'.table.own.find? me = some 0) : s'.Fits t me where
  me_eq := hframe.me_eq.trans h.me_eq
  links_eq := hframe.links_eq.trans h.links_eq
  hasNode_iff := fun x => by
    rw [hframe.hasNode_eq]
    exact h.hasNode_iff x
  hasRow := fun x hx => (hframe.hasRow_eq x).trans (h.hasRow x hx)
  own_self := hown

theorem find?_linkCosts {t : Topology} {me x : NodeId} (h : x ∈ t.neighborIds me) :
    (t.linkCosts me).find? x = some (t.cost me x) := by
  obtain ⟨hx, hl⟩ := Topology.mem_neighborIds_iff.1 h
  obtain ⟨_, hhost⟩ := Topology.mem_nodeIds_iff.1 hx
  unfold Topology.linkCosts
  simp [hhost, Option.filter, hl]

theorem Fits.linkCost_eq {t : Topology} {me source : NodeId} {s : DistanceVector}
    (h : s.Fits t me) (hs : source ∈ t.neighborIds me) :
    linkCost s.links source = t.cost me source := by
  unfold linkCost
  rw [h.links_eq, find?_linkCosts hs]
  rfl

/-- **An update from a neighbor is taken**, and acts on each destination by itself. -/
theorem handle_eq_ok {t : Topology} {me source : NodeId} {s : DistanceVector} (h : s.Fits t me)
    (hs : source ∈ t.neighborIds me) (advert : NodeMap Cost)
    (hself : ∀ c, advert.find? source = some c → c < infiniteCost) :
    ∃ s', s.handle source ⟨advert.entries⟩ = .ok s' ∧ s'.Fits t me ∧
      ∀ x, Heard source (t.cost me source) (advert.find? x) s s' x := by
  have hne : source ≠ s.me := by
    rintro rfl
    rw [h.me_eq] at hs
    exact t.not_mem_neighborIds_self me hs
  obtain ⟨hlearn, hown⟩ := sameFrame_learn s advert.entries hne
  obtain ⟨hframe, hheard⟩ := heard_foldl_consider source (linkCost s.links source) advert.entries
    (s.learn source advert.entries) advert.ascending fun e he hsource =>
      hself e.2 (hsource ▸ NodeMap.mem_entries_iff.1 he)
  -- what the node has written down does not matter to what it hears
  have hheard' : ∀ x, Heard source (t.cost me source) (advert.find? x) s
      (advert.entries.foldl (consider source (linkCost s.links source))
        (s.learn source advert.entries)) x := by
    intro x
    rw [← h.linkCost_eq hs]
    exact (hheard x).of_agree hlearn (by rw [hown]) rfl
  refine ⟨_, by unfold handle; rw [if_pos (h.hasRow source hs)], ?_, hheard'⟩
  refine h.of_sameFrame (hlearn.trans hframe) ?_
  -- a node hears nothing about itself
  cases hheard' me with
  | kept hown' _ _ => exact hown'.trans h.own_self
  | improved _ _ hme _ _ _ => exact absurd h.me_eq.symm hme

end DistanceVector

end OverlayStack
