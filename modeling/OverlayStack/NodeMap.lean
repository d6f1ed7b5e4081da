import OverlayStack.Node

/-!
# Tables indexed by nodes

A finite map from nodes to values, kept as a list of pairs in ascending order of the nodes.  What a
table holds is seen through `NodeMap.find?`: `find?_insert`, `find?_erase`, `find?_map` and
`find?_zip` say what each operation does to it, and `mem_entries_iff` says that the list of pairs
shows the same.

## Main definitions

* `NodeMap` — the table, with its order as a proof.
* `NodeMap.find?`, `NodeMap.insert`, `NodeMap.erase`, `NodeMap.map`, `NodeMap.filter`,
  `NodeMap.zip` — its operations.
* `NodeMap.keys` — the nodes that have a value.
-/

namespace OverlayStack

universe u v w

variable {α : Type u} {β : Type v}

/-- A table of values for some nodes, in ascending order of the nodes. -/
structure NodeMap (α : Type u) where
  /-- The nodes with their values. -/
  entries : List (NodeId × α)
  /-- The nodes are in ascending order, so that none occurs twice. -/
  ascending : entries.Pairwise fun a b => a.1 < b.1

namespace NodeMap

/-! ### Operations on ordered lists of pairs -/

/-- The list with the value of one node set, and the node put in its place if it is new. -/
def insertEntry (k : NodeId) (x : α) : List (NodeId × α) → List (NodeId × α)
  | [] => [(k, x)]
  | e :: es =>
    if k < e.1 then (k, x) :: e :: es
    else if k = e.1 then (k, x) :: es
    else e :: insertEntry k x es

/-- The value of a node. -/
def lookupEntry (k : NodeId) : List (NodeId × α) → Option α
  | [] => none
  | e :: es => if k = e.1 then some e.2 else lookupEntry k es

theorem mem_insertEntry {k : NodeId} {x : α} {es : List (NodeId × α)} {p : NodeId × α}
    (h : p ∈ insertEntry k x es) : p = (k, x) ∨ p ∈ es := by
  induction es with
  | nil => simpa [insertEntry] using h
  | cons e es ih =>
    rw [insertEntry] at h
    split at h
    · simpa using h
    · split at h
      · rcases List.mem_cons.1 h with h | h
        · exact .inl h
        · exact .inr (List.mem_cons_of_mem _ h)
      · rcases List.mem_cons.1 h with h | h
        · exact .inr (h ▸ List.mem_cons_self)
        · exact (ih h).imp_right (List.mem_cons_of_mem _)

theorem pairwise_insertEntry {k : NodeId} {x : α} {es : List (NodeId × α)}
    (h : es.Pairwise fun a b => a.1 < b.1) :
    (insertEntry k x es).Pairwise fun a b => a.1 < b.1 := by
  induction es with
  | nil => simp [insertEntry]
  | cons e es ih =>
    have ⟨he, hes⟩ := List.pairwise_cons.1 h
    rw [insertEntry]
    split
    · next hk =>
      refine List.pairwise_cons.2 ⟨fun p hp => ?_, h⟩
      rcases List.mem_cons.1 hp with rfl | hp
      · exact hk
      · exact UInt32.lt_trans hk (he p hp)
    · split
      · next hk => exact List.pairwise_cons.2 ⟨fun p hp => hk ▸ he p hp, hes⟩
      · next hlt hne =>
        refine List.pairwise_cons.2 ⟨fun p hp => ?_, ih hes⟩
        rcases mem_insertEntry hp with rfl | hp
        · exact UInt32.lt_of_le_of_ne (UInt32.not_lt.1 hlt) (Ne.symm hne)
        · exact he p hp

theorem lookupEntry_eq_none_of_lt {k : NodeId} {es : List (NodeId × α)} (h : ∀ e ∈ es, k < e.1) :
    lookupEntry k es = none := by
  induction es with
  | nil => rfl
  | cons e es ih =>
    rw [lookupEntry, if_neg (UInt32.ne_of_lt (h e List.mem_cons_self))]
    exact ih fun p hp => h p (List.mem_cons_of_mem _ hp)

theorem lookupEntry_insertEntry {k : NodeId} {x : α} {es : List (NodeId × α)} (j : NodeId) :
    lookupEntry j (insertEntry k x es) = if j = k then some x else lookupEntry j es := by
  induction es with
  | nil => simp [insertEntry, lookupEntry]
  | cons e es ih =>
    rw [insertEntry]
    split
    · simp [lookupEntry]
    · split
      · next hk => by_cases hj : j = k <;> simp [lookupEntry, hj, ← hk]
      · next hne =>
        by_cases hj : j = e.1
        · have : j ≠ k := fun h => hne (h ▸ hj)
          simp [lookupEntry, this, ← hj]
        · simp [lookupEntry, hj, ih]

theorem mem_iff_lookupEntry {k : NodeId} {x : α} {es : List (NodeId × α)}
    (h : es.Pairwise fun a b => a.1 < b.1) : (k, x) ∈ es ↔ lookupEntry k es = some x := by
  induction es with
  | nil => simp [lookupEntry]
  | cons e es ih =>
    have ⟨he, hes⟩ := List.pairwise_cons.1 h
    by_cases hk : k = e.1
    · subst hk
      have : (e.1, x) ∉ es := fun hm => UInt32.lt_irrefl e.1 (he (e.1, x) hm)
      simp [lookupEntry, this, Prod.ext_iff, eq_comm]
    · simp [lookupEntry, hk, ih hes, Prod.ext_iff]

theorem lookupEntry_filter {k : NodeId} {p : NodeId → α → Bool} {es : List (NodeId × α)}
    (h : es.Pairwise fun a b => a.1 < b.1) :
    lookupEntry k (es.filter fun e => p e.1 e.2) = (lookupEntry k es).filter (p k) := by
  induction es with
  | nil => rfl
  | cons e es ih =>
    have ⟨he, hes⟩ := List.pairwise_cons.1 h
    by_cases hk : k = e.1
    · subst hk
      have hnone : lookupEntry e.1 (es.filter fun e => p e.1 e.2) = none :=
        lookupEntry_eq_none_of_lt fun e' he' => he e' (List.mem_filter.1 he').1
      by_cases hp : p e.1 e.2
      · rw [List.filter_cons, if_pos hp]
        simp [lookupEntry, hp, Option.filter]
      · rw [List.filter_cons, if_neg hp, hnone]
        simp [lookupEntry, hp, Option.filter]
    · by_cases hp : p e.1 e.2 <;> simp [lookupEntry, hp, hk, ih hes]

theorem lookupEntry_map {k : NodeId} {f : NodeId → α → β} {es : List (NodeId × α)} :
    lookupEntry k (es.map fun e => (e.1, f e.1 e.2)) = (lookupEntry k es).map (f k) := by
  induction es with
  | nil => rfl
  | cons e es ih =>
    by_cases hk : k = e.1
    · simp [lookupEntry, hk]
    · simp [lookupEntry, hk, ih]

/-- The value of a node that is the first of a list. -/
def valueAtHead? (k : NodeId) : List (NodeId × β) → Option β
  | [] => none
  | d :: _ => if k = d.1 then some d.2 else none

/-- The values of one list combined with those of another, in one pass over both. -/
def zipEntries {γ : Type w} (f : NodeId → α → Option β → γ) :
    List (NodeId × α) → List (NodeId × β) → List (NodeId × γ)
  | [], _ => []
  | e :: es, ds =>
    let ds := ds.dropWhile fun d => d.1 < e.1
    (e.1, f e.1 e.2 (valueAtHead? e.1 ds)) :: zipEntries f es ds

theorem lookupEntry_dropWhile {k j : NodeId} {ds : List (NodeId × β)} (h : k ≤ j) :
    lookupEntry j (ds.dropWhile fun d => d.1 < k) = lookupEntry j ds := by
  induction ds with
  | nil => rfl
  | cons d ds ih =>
    by_cases hd : d.1 < k
    · have hne : j ≠ d.1 := (UInt32.ne_of_lt (UInt32.lt_of_lt_of_le hd h)).symm
      simp [hd, lookupEntry, hne, ih]
    · simp [hd]

theorem valueAtHead?_dropWhile {k : NodeId} {ds : List (NodeId × β)}
    (h : ds.Pairwise fun a b => a.1 < b.1) :
    valueAtHead? k (ds.dropWhile fun d => d.1 < k) = lookupEntry k ds := by
  induction ds with
  | nil => rfl
  | cons d ds ih =>
    have ⟨hd, hds⟩ := List.pairwise_cons.1 h
    by_cases hk : d.1 < k
    · simp [hk, lookupEntry, (UInt32.ne_of_lt hk).symm, ih hds]
    · simp only [List.dropWhile_cons, hk, decide_false, Bool.false_eq_true, if_false, valueAtHead?,
        lookupEntry]
      split
      · rfl
      · next hne =>
        refine (lookupEntry_eq_none_of_lt fun d' hd' => ?_).symm
        exact UInt32.lt_trans (UInt32.lt_of_le_of_ne (UInt32.not_lt.1 hk) hne) (hd d' hd')

theorem lookupEntry_zipEntries {γ : Type w} {f : NodeId → α → Option β → γ} {j : NodeId}
    {es : List (NodeId × α)} {ds : List (NodeId × β)}
    (hes : es.Pairwise fun a b => a.1 < b.1) (hds : ds.Pairwise fun a b => a.1 < b.1) :
    lookupEntry j (zipEntries f es ds) =
      (lookupEntry j es).map fun x => f j x (lookupEntry j ds) := by
  induction es generalizing ds with
  | nil => rfl
  | cons e es ih =>
    have ⟨he, hes⟩ := List.pairwise_cons.1 hes
    have hdrop := hds.sublist (List.dropWhile_sublist fun d => d.1 < e.1)
    rw [zipEntries]
    by_cases hj : j = e.1
    · subst hj
      simp [lookupEntry, valueAtHead?_dropWhile hds]
    · simp only [lookupEntry, hj, if_false]
      rw [ih hes hdrop]
      cases hx : lookupEntry j es with
      | none => rfl
      | some x =>
        have hlt : e.1 < j := he _ ((mem_iff_lookupEntry hes).2 hx)
        simp only [Option.map_some]
        rw [lookupEntry_dropWhile (UInt32.le_of_lt hlt)]

theorem fst_zipEntries {γ : Type w} (f : NodeId → α → Option β → γ) (es : List (NodeId × α))
    (ds : List (NodeId × β)) : (zipEntries f es ds).map (·.1) = es.map (·.1) := by
  induction es generalizing ds with
  | nil => rfl
  | cons e es ih => simp [zipEntries, ih]

/-! ### Tables -/

/-- The table without values. -/
def empty : NodeMap α := ⟨[], List.Pairwise.nil⟩

instance : Inhabited (NodeMap α) := ⟨empty⟩

/-- The nodes that have a value, in ascending order. -/
def keys (m : NodeMap α) : List NodeId :=
  m.entries.map (·.1)

/-- The number of nodes that have a value. -/
def size (m : NodeMap α) : Nat :=
  m.entries.length

/-- The value of a node. -/
def find? (m : NodeMap α) (k : NodeId) : Option α :=
  lookupEntry k m.entries

/-- Whether a node has a value. -/
def contains (m : NodeMap α) (k : NodeId) : Bool :=
  (m.find? k).isSome

/-- The table with the value of one node set. -/
def insert (m : NodeMap α) (k : NodeId) (x : α) : NodeMap α :=
  ⟨insertEntry k x m.entries, pairwise_insertEntry m.ascending⟩

/-- The table with only those values that pass a test. -/
def filter (p : NodeId → α → Bool) (m : NodeMap α) : NodeMap α :=
  ⟨m.entries.filter fun e => p e.1 e.2, m.ascending.filter _⟩

/-- The table without the value of one node. -/
def erase (m : NodeMap α) (k : NodeId) : NodeMap α :=
  m.filter fun j _ => j != k

/-- The table with another value for each node that has one. -/
def map (f : NodeId → α → β) (m : NodeMap α) : NodeMap β :=
  ⟨m.entries.map fun e => (e.1, f e.1 e.2), List.pairwise_map.2 m.ascending⟩

/-- The table with the value of one node changed, if it has one. -/
def modify (m : NodeMap α) (k : NodeId) (f : α → α) : NodeMap α :=
  m.map fun j x => if j = k then f x else x

/-- The table of the values of one table combined with those that another has for the same nodes. -/
def zip {γ : Type w} (f : NodeId → α → Option β → γ) (m : NodeMap α) (n : NodeMap β) : NodeMap γ :=
  ⟨zipEntries f m.entries n.entries, by
    have h := m.ascending
    rw [← List.pairwise_map (f := Prod.fst)] at h ⊢
    rwa [fst_zipEntries]⟩

@[simp] theorem find?_empty (k : NodeId) : (empty : NodeMap α).find? k = none := rfl

@[simp] theorem find?_insert (m : NodeMap α) (k : NodeId) (x : α) (j : NodeId) :
    (m.insert k x).find? j = if j = k then some x else m.find? j :=
  lookupEntry_insertEntry j

@[simp] theorem find?_filter (m : NodeMap α) (p : NodeId → α → Bool) (k : NodeId) :
    (m.filter p).find? k = (m.find? k).filter (p k) :=
  lookupEntry_filter m.ascending

@[simp] theorem find?_erase (m : NodeMap α) (k j : NodeId) :
    (m.erase k).find? j = if j = k then none else m.find? j := by
  rw [erase, find?_filter]
  by_cases hj : j = k
  · subst hj; cases m.find? j <;> simp [Option.filter]
  · cases m.find? j <;> simp [Option.filter, hj]

@[simp] theorem find?_map (m : NodeMap α) (f : NodeId → α → β) (k : NodeId) :
    (m.map f).find? k = (m.find? k).map (f k) :=
  lookupEntry_map

@[simp] theorem find?_modify (m : NodeMap α) (k : NodeId) (f : α → α) (j : NodeId) :
    (m.modify k f).find? j = if j = k then (m.find? j).map f else m.find? j := by
  rw [modify, find?_map]
  by_cases hj : j = k <;> cases m.find? j <;> simp [hj]

@[simp] theorem find?_zip {γ : Type w} (f : NodeId → α → Option β → γ) (m : NodeMap α)
    (n : NodeMap β) (k : NodeId) :
    (m.zip f n).find? k = (m.find? k).map fun x => f k x (n.find? k) :=
  lookupEntry_zipEntries m.ascending n.ascending

/-- The pairs of a table are the nodes with their values. -/
theorem mem_entries_iff {m : NodeMap α} {k : NodeId} {x : α} :
    (k, x) ∈ m.entries ↔ m.find? k = some x :=
  mem_iff_lookupEntry m.ascending

/-- The keys of a table are the nodes that have a value. -/
theorem mem_keys_iff {m : NodeMap α} {k : NodeId} : k ∈ m.keys ↔ m.contains k = true := by
  simp only [keys, List.mem_map, Prod.exists, exists_and_right, exists_eq_right, contains,
    Option.isSome_iff_exists, mem_entries_iff]

@[simp] theorem keys_map (m : NodeMap α) (f : NodeId → α → β) : (m.map f).keys = m.keys := by
  simp [keys, map, Function.comp_def]

/-- The keys of a table are in ascending order. -/
theorem pairwise_keys (m : NodeMap α) : m.keys.Pairwise (· < ·) :=
  List.pairwise_map.2 m.ascending

end NodeMap

end OverlayStack
