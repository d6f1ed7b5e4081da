import OverlayStack.Proofs.Routing.ShortestPaths

/-!
# Shortest paths in place

A table of paths can be improved one entry after another, each time with the entries that are there
by then.  While a stop is being allowed, the ways to it and from it do not change, because the way
from the stop to itself costs nothing or does not exist.  So the order of the entries makes no
difference, and the result is that of improving all of them at once.

## Main definitions

* `Cell`, `Topology.cells` — the entries in the order in which they are improved.
* `improveCell`, `Topology.improvedInPlace` — one entry, and some entries, improved in place.

## Main results

* `agrees_improvedInPlace` — working in place ends with the shortest paths.
-/

namespace OverlayStack

open OverlayStack.Topology

/-- An entry that is to be improved, and the stop through which it may be. -/
structure Cell where
  stop : NodeId
  /-- The start of the way. -/
  source : NodeId
  /-- The end of the way. -/
  dest : NodeId
  deriving DecidableEq

/-- The entries in the order in which they are improved through one stop. -/
def Topology.cellsThrough (t : Topology) (stop : NodeId) : List Cell :=
  t.nodeIds.flatMap fun source => t.nodeIds.map fun dest => ⟨stop, source, dest⟩

/-- The entries in the order in which they are improved. -/
def Topology.cells (t : Topology) : List Cell :=
  t.nodeIds.flatMap t.cellsThrough

/-- The table with one entry improved by the ways to and from the stop that it has now. -/
def improveCell (paths : PathTable) (c : Cell) : PathTable :=
  match paths.way? c.source c.stop, paths.way? c.stop c.dest with
  | some first, some second =>
    paths.modify c.source fun row => row.modify c.dest fun p => p.improve first second
  | _, _ => paths

/-- The paths of a topology with failures after some entries were improved in place. -/
def Topology.improvedInPlace (t : Topology) (gone : List NodeId) (done : List Cell) : PathTable :=
  done.foldl improveCell (t.directPaths gone)

theorem Topology.mem_cellsThrough_iff {t : Topology} {stop : NodeId} {c : Cell} :
    c ∈ t.cellsThrough stop ↔ c.stop = stop ∧ c.source ∈ t.nodeIds ∧ c.dest ∈ t.nodeIds := by
  simp only [cellsThrough, List.mem_flatMap, List.mem_map]
  constructor
  · rintro ⟨a, ha, b, hb, rfl⟩
    exact ⟨rfl, ha, hb⟩
  · rintro ⟨rfl, ha, hb⟩
    exact ⟨c.source, ha, c.dest, hb, rfl⟩

/-- Improving one entry leaves the others alone. -/
theorem way?_improveCell {paths : PathTable} {c : Cell} {first second : Path}
    (hfirst : paths.way? c.source c.stop = some first)
    (hsecond : paths.way? c.stop c.dest = some second) (a b : NodeId) :
    (improveCell paths c).way? a b =
      if a = c.source ∧ b = c.dest then (paths.way? a b).map fun p => p.improve first second
      else paths.way? a b := by
  rw [improveCell, hfirst, hsecond]
  dsimp only
  rw [PathTable.way?, PathTable.way?, NodeMap.find?_modify]
  by_cases ha : a = c.source
  · by_cases hb : b = c.dest <;> cases paths.find? a <;> simp [ha, hb]
  · simp [ha]

/-! ### Improvements that change nothing -/

/-- Improving twice by the same ways is improving once. -/
theorem Path.improve_improve (p first second : Path) :
    (p.improve first second).improve first second = p.improve first second := by
  by_cases h : (first.exists && second.exists && first.cost + second.cost < p.cost) = true
  · have heq : p.improve first second = first.through second := by rw [Path.improve, if_pos h]
    rw [heq, Path.improve, if_neg]
    simp [Path.through]
  · have heq : p.improve first second = p := by rw [Path.improve, if_neg h]
    rw [heq, heq]

/-- A way that is no detour: it does not exist or costs nothing. -/
def Path.Idle (p : Path) : Prop :=
  p.exists = false ∨ p.cost = 0

/-- Going nowhere first improves nothing. -/
theorem Path.Idle.improve_left {p first : Path} (h : first.Idle) : p.improve first p = p := by
  rcases h with h | h
  · exact Path.improve_of_not_exists h
  · rw [Path.improve, if_neg]
    simp [h]

/-- Going nowhere afterwards improves nothing. -/
theorem Path.Idle.improve_right {p second : Path} (h : second.Idle) : p.improve p second = p := by
  rcases h with h | h
  · rw [Path.improve, if_neg]
    simp [h]
  · rw [Path.improve, if_neg]
    simp [h]

/-- The way from a node to itself costs nothing, or does not exist if the node has failed. -/
theorem PathTable.Shows.idle {t : Topology} {gone via : List NodeId} {paths : PathTable}
    (h : paths.Shows t gone via) {a : NodeId} (ha : a ∈ t.nodeIds) {p : Path}
    (hp : paths.way? a a = some p) : p.Idle := by
  obtain ⟨q, hq, hc⟩ := h a ha a ha
  obtain rfl : p = q := Option.some.inj (hp.symm.trans hq)
  by_cases hgone : a ∈ gone
  · refine .inl ?_
    rcases hc.1 with hinf | hroute
    · rw [Bool.eq_false_iff, Ne, Path.exists_iff, hinf]
      exact Nat.lt_irrefl _
    · exact absurd hgone hroute.alive_left.2
  · refine .inr ?_
    have := hc.2 (.inr (.stay ⟨ha, hgone⟩))
    rw [← UInt32.toNat_inj]
    exact Nat.le_zero.1 this

/-! ### One stop -/

/-- Two tables have the same entries for the nodes of a topology. -/
def PathTable.Agrees (t : Topology) (paths paths' : PathTable) : Prop :=
  ∀ a ∈ t.nodeIds, ∀ b ∈ t.nodeIds, paths.way? a b = paths'.way? a b

/-- `Partway t stop done paths paths'` says that `paths'` is the table `paths` in which just the
entries `done` are improved through a stop. -/
def PathTable.Partway (t : Topology) (stop : NodeId) (done : List Cell)
    (paths paths' : PathTable) : Prop :=
  ∀ a ∈ t.nodeIds, ∀ b ∈ t.nodeIds, paths'.way? a b =
    if ⟨stop, a, b⟩ ∈ done then (improveThrough paths stop).way? a b else paths.way? a b

/-- Improving entries through a stop does not change the ways to the stop and from it. -/
theorem way?_improveThrough_of_stop {t : Topology} {gone via : List NodeId} {paths : PathTable}
    (h : paths.Shows t gone via) {stop a : NodeId} (hstop : stop ∈ t.nodeIds)
    (ha : a ∈ t.nodeIds) :
    (improveThrough paths stop).way? a stop = paths.way? a stop ∧
      (improveThrough paths stop).way? stop a = paths.way? stop a := by
  obtain ⟨p, hp, -⟩ := h a ha stop hstop
  obtain ⟨q, hq, -⟩ := h stop hstop a ha
  obtain ⟨d, hd, -⟩ := h stop hstop stop hstop
  have hidle := h.idle hstop hd
  rw [way?_improveThrough hp hp hd, way?_improveThrough hq hd hq, hidle.improve_right,
    hidle.improve_left]
  exact ⟨hp.symm, hq.symm⟩

theorem PathTable.Partway.way?_of_stop {t : Topology} {gone via : List NodeId}
    {paths paths' : PathTable} (h : paths.Shows t gone via) {stop : NodeId} {done : List Cell}
    (hpart : PathTable.Partway t stop done paths paths') {a : NodeId} (hstop : stop ∈ t.nodeIds)
    (ha : a ∈ t.nodeIds) :
    paths'.way? a stop = paths.way? a stop ∧ paths'.way? stop a = paths.way? stop a := by
  obtain ⟨hto, hfrom⟩ := way?_improveThrough_of_stop h hstop ha
  rw [hpart a ha stop hstop, hpart stop hstop a ha, hto, hfrom, ite_self, ite_self]
  exact ⟨rfl, rfl⟩

theorem PathTable.Partway.cons {t : Topology} {gone via : List NodeId} {paths paths' : PathTable}
    (h : paths.Shows t gone via) {stop : NodeId} (hstop : stop ∈ t.nodeIds) {done : List Cell}
    (hpart : PathTable.Partway t stop done paths paths') {c : Cell}
    (hc : c ∈ t.cellsThrough stop) :
    PathTable.Partway t stop (c :: done) paths (improveCell paths' c) := by
  obtain ⟨rfl, hsource, hdest⟩ := mem_cellsThrough_iff.1 hc
  obtain ⟨first, hfirst, -⟩ := h c.source hsource c.stop hstop
  obtain ⟨second, hsecond, -⟩ := h c.stop hstop c.dest hdest
  have hfirst' := (hpart.way?_of_stop h hstop hsource).1.trans hfirst
  have hsecond' := (hpart.way?_of_stop h hstop hdest).2.trans hsecond
  intro a ha b hb
  rw [way?_improveCell hfirst' hsecond', hpart a ha b hb]
  by_cases hab : a = c.source ∧ b = c.dest
  · obtain ⟨rfl, rfl⟩ := hab
    obtain ⟨p, hp, -⟩ := h c.source hsource c.dest hdest
    rw [if_pos ⟨rfl, rfl⟩, if_pos List.mem_cons_self, way?_improveThrough hp hfirst hsecond]
    -- the entry may already have been improved, which makes no difference
    split
    · rw [Option.map_some, Path.improve_improve]
    · rw [hp, Option.map_some]
  · have hne : (⟨c.stop, a, b⟩ : Cell) ≠ c := by
      intro heq
      exact hab ⟨congrArg Cell.source heq, congrArg Cell.dest heq⟩
    rw [if_neg hab]
    simp only [List.mem_cons, hne, false_or]

/-- Improving some entries one after another through one stop. -/
theorem PathTable.Partway.foldl {t : Topology} {gone via : List NodeId} {paths : PathTable}
    (h : paths.Shows t gone via) {stop : NodeId} (hstop : stop ∈ t.nodeIds) (cells : List Cell) :
    ∀ {done : List Cell} {paths' : PathTable}, PathTable.Partway t stop done paths paths' →
      cells ⊆ t.cellsThrough stop →
      PathTable.Partway t stop (cells.reverse ++ done) paths (cells.foldl improveCell paths') := by
  induction cells with
  | nil => intro done paths' hpart _; exact hpart
  | cons c cells ih =>
    intro done paths' hpart hsub
    rw [List.foldl_cons, List.reverse_cons, List.append_assoc]
    exact ih (hpart.cons h hstop (hsub List.mem_cons_self)) (List.subset_of_cons_subset hsub)

/-- Improving every entry in place through one stop is improving all entries at once. -/
theorem agrees_foldl_cellsThrough {t : Topology} {gone via : List NodeId}
    {paths paths' : PathTable} (h : paths.Shows t gone via)
    (hagree : PathTable.Agrees t paths' paths) {stop : NodeId} (hstop : stop ∈ t.nodeIds) :
    PathTable.Agrees t ((t.cellsThrough stop).foldl improveCell paths')
      (improveThrough paths stop) := by
  have hstart : PathTable.Partway t stop [] paths paths' := fun a ha b hb => by
    rw [if_neg List.not_mem_nil, hagree a ha b hb]
  intro a ha b hb
  have hmem : (⟨stop, a, b⟩ : Cell) ∈ (t.cellsThrough stop).reverse ++ [] := by
    simpa using mem_cellsThrough_iff.2 ⟨rfl, ha, hb⟩
  rw [hstart.foldl h hstop _ (List.Subset.refl _) a ha b hb, if_pos hmem]

/-! ### All stops -/

theorem agrees_foldl_flatMap_cellsThrough {t : Topology} {gone : List NodeId}
    (stops : List NodeId) :
    ∀ {via : List NodeId} {paths paths' : PathTable}, paths.Shows t gone via →
      PathTable.Agrees t paths' paths → stops ⊆ t.nodeIds →
      PathTable.Agrees t ((stops.flatMap t.cellsThrough).foldl improveCell paths')
        (stops.foldl improveThrough paths) := by
  induction stops with
  | nil => intro via paths paths' _ hagree _; exact hagree
  | cons k stops ih =>
    intro via paths paths' h hagree hsub
    have hk := hsub List.mem_cons_self
    rw [List.flatMap_cons, List.foldl_append, List.foldl_cons]
    exact ih (h.improveThrough hk) (agrees_foldl_cellsThrough h hagree hk)
      (List.subset_of_cons_subset hsub)

/-- **Working in place ends with the shortest paths.** -/
theorem agrees_improvedInPlace (t : Topology) (gone : List NodeId) :
    PathTable.Agrees t (t.improvedInPlace gone t.cells) (t.shortestPaths gone) :=
  agrees_foldl_flatMap_cellsThrough t.nodeIds (shows_directPaths t gone)
    (fun _ _ _ _ => rfl) (List.Subset.refl _)

end OverlayStack
