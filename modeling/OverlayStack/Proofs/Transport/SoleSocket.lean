import Mathlib.Tactic.Common
import OverlayStack.Transport.Client
import OverlayStack.Transport.Server

/-!
# Tables with a single socket

A socket table in which one place is taken and all others are free.  Look-ups find that socket or
nothing, and changes at another place change nothing.

## Main definitions

* `SocketTable.Sole` — the table has one socket.

## Main results

* `Sole.find?_eq`, `Sole.require_self` — look-ups.
* `Sole.set`, `Sole.set_of_ne`, `Sole.map` — changes.
* `SocketTable.sole_openSocket` — the first socket that is opened.
-/

namespace OverlayStack.Transport

universe u

variable {σ : Type u}

namespace SocketTable

/-- The sockets of a table are those that are found at a place. -/
theorem mem_socketsFrom_iff {slots : List (Option (Socket σ))} {j : Nat} {s : Socket σ} :
    ∀ {first : Nat}, (j, s) ∈ socketsFrom first slots ↔
      first ≤ j ∧ slots[j - first]? = some (some s) := by
  induction slots with
  | nil => simp [socketsFrom]
  | cons slot slots ih =>
    intro first
    have hrest : (j, s) ∈ socketsFrom (first + 1) slots ↔
        first ≤ j ∧ first ≠ j ∧ (slot :: slots)[j - first]? = some (some s) := by
      rw [ih]
      constructor
      · rintro ⟨hle, hs⟩
        have hsub : j - first = j - (first + 1) + 1 := by omega
        exact ⟨by omega, by omega, by rwa [hsub, List.getElem?_cons_succ]⟩
      · rintro ⟨hle, hne, hs⟩
        have hsub : j - first = j - (first + 1) + 1 := by omega
        rw [hsub, List.getElem?_cons_succ] at hs
        exact ⟨by omega, hs⟩
    have hfirst : first = j → ((slot :: slots)[j - first]? = some (some s) ↔ slot = some s) := by
      rintro rfl
      rw [Nat.sub_self, List.getElem?_cons_zero, Option.some_inj]
    cases slot with
    | none =>
      rw [socketsFrom, hrest]
      refine ⟨fun ⟨hle, _, hs⟩ => ⟨hle, hs⟩, fun ⟨hle, hs⟩ => ⟨hle, fun heq => ?_, hs⟩⟩
      simpa using (hfirst heq).1 hs
    | some s' =>
      rw [socketsFrom, List.mem_cons, hrest, Prod.mk.injEq]
      constructor
      · rintro (⟨rfl, rfl⟩ | ⟨hle, -, hs⟩)
        · exact ⟨Nat.le_refl _, (hfirst rfl).2 rfl⟩
        · exact ⟨hle, hs⟩
      · rintro ⟨hle, hs⟩
        by_cases heq : first = j
        · exact .inl ⟨heq.symm, Option.some.inj ((hfirst heq).1 hs).symm⟩
        · exact .inr ⟨hle, heq, hs⟩

theorem mem_sockets_iff {t : SocketTable σ} {j : SocketId} {s : Socket σ} :
    (j, s) ∈ t.sockets ↔ t.socket? j = some s := by
  rw [sockets, mem_socketsFrom_iff, socket?, Option.join_eq_some_iff]
  exact ⟨fun h => h.2, fun h => ⟨Nat.zero_le _, h⟩⟩

theorem socket?_map (t : SocketTable σ) (f : σ → σ) (j : SocketId) :
    (t.map f).socket? j = (t.socket? j).map fun s => { s with state := f s.state } := by
  simp only [socket?, map, List.getElem?_map]
  cases t.slots[j]? with
  | none => rfl
  | some slot => rfl

/-- The table has one socket, which has a given place. -/
def Sole (t : SocketTable σ) (id : SocketId) (s : Socket σ) : Prop :=
  ∀ j, t.socket? j = if j = id then some s else none

namespace Sole

variable {t : SocketTable σ} {id : SocketId} {s : Socket σ}

theorem require_self (h : t.Sole id s) : t.require id = .ok s := by
  rw [require, h, if_pos rfl]

theorem require_of_ne (h : t.Sole id s) {j : SocketId} (hj : j ≠ id) :
    t.require j = .error (.noSuchSocket j) := by
  rw [require, h, if_neg hj]

/-- A search finds the one socket, if it passes the test. -/
theorem find?_eq (h : t.Sole id s) (p : Socket σ → Bool) :
    t.find? p = if p s = true then some (id, s) else none := by
  have hall : ∀ e ∈ t.sockets, e = (id, s) := by
    rintro ⟨j, s'⟩ he
    have hs := mem_sockets_iff.1 he
    rw [h] at hs
    by_cases hj : j = id
    · rw [if_pos hj, Option.some_inj] at hs
      rw [hj, hs]
    · rw [if_neg hj] at hs
      cases hs
  have hmem : (id, s) ∈ t.sockets := mem_sockets_iff.2 (by rw [h, if_pos rfl])
  rw [find?]
  cases hfound : t.sockets.find? fun e => p e.2 with
  | none =>
    have := List.find?_eq_none.1 hfound (id, s) hmem
    rw [if_neg this]
  | some e =>
    have hp := List.find?_some hfound
    have he := hall e (List.mem_of_find?_eq_some hfound)
    subst he
    rw [if_pos hp]

theorem set (h : t.Sole id s) (x : σ) : (t.set id x).Sole id { s with state := x } := by
  intro j
  rw [socket?_set, h]
  split <;> rfl

theorem set_of_ne (h : t.Sole id s) {j : SocketId} (hj : j ≠ id) (x : σ) :
    (t.set j x).Sole id s := by
  intro k
  rw [socket?_set, h]
  by_cases hk : k = j
  · rw [if_pos hk, if_neg (hk ▸ hj)]
    rfl
  · rw [if_neg hk]

theorem map (h : t.Sole id s) (f : σ → σ) : (t.map f).Sole id { s with state := f s.state } := by
  intro j
  rw [socket?_map, h]
  split <;> rfl

end Sole

/-- The first socket of a table is its only one. -/
theorem sole_openSocket {slots : Nat} {port : UInt32} {start : σ} {id : SocketId}
    {t : SocketTable σ} (h : (free slots).openSocket port start = .ok (id, t)) :
    t.Sole id ⟨port, start⟩ := by
  have hnone : ∀ j : Nat, (free (σ := σ) slots).slots[j]?.join = none := by
    intro j
    rw [free, List.getElem?_replicate]
    split <;> rfl
  unfold openSocket at h
  split at h
  · cases h
  · split at h
    · cases h
    · next place hplace =>
      cases h
      obtain ⟨hlt, -⟩ := List.findIdx?_eq_some_iff_getElem.1 hplace
      intro j
      rw [socket?, List.getElem?_set]
      by_cases hj : id = j
      · rw [if_pos hj, if_pos (hj ▸ hlt), if_pos hj.symm]
        rfl
      · rw [if_neg hj, if_neg (Ne.symm hj)]
        exact hnone j

end SocketTable

end OverlayStack.Transport
