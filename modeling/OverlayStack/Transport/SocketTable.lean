import OverlayStack.Transport.Status

/-!
# Socket tables

A client or a server has a fixed number of places for sockets.  A socket is known by its place, and
no two sockets have the same port.

## Main definitions

* `Transport.Socket` — a port and the state of its connection.
* `Transport.SocketTable` — the places.
* `SocketTable.openSocket`, `SocketTable.close` — taking a place and giving it up.
* `SocketTable.socket?`, `SocketTable.set`, `SocketTable.find?` — look-ups and changes.
-/

namespace OverlayStack.Transport

universe u

variable {σ : Type u}

/-- A port and the state of its connection. -/
structure Socket (σ : Type u) where
  /-- The port at this end. -/
  port : UInt32
  /-- The state of the connection. -/
  state : σ

/-- The places for sockets. -/
structure SocketTable (σ : Type u) where
  /-- The places, of which some are free. -/
  slots : List (Option (Socket σ))

namespace SocketTable

/-- A number of free places. -/
def free (slots : Nat) : SocketTable σ :=
  ⟨List.replicate slots none⟩

/-- The socket at a place. -/
def socket? (t : SocketTable σ) (id : SocketId) : Option (Socket σ) :=
  t.slots[id]?.join

/-- The sockets from a place on, with their places. -/
def socketsFrom (id : SocketId) : List (Option (Socket σ)) → List (SocketId × Socket σ)
  | [] => []
  | none :: rest => socketsFrom (id + 1) rest
  | some s :: rest => (id, s) :: socketsFrom (id + 1) rest

/-- The sockets in the order of their places. -/
def sockets (t : SocketTable σ) : List (SocketId × Socket σ) :=
  socketsFrom 0 t.slots

/-- The first socket that passes a test. -/
def find? (t : SocketTable σ) (p : Socket σ → Bool) : Option (SocketId × Socket σ) :=
  t.sockets.find? fun e => p e.2

/-- The table with the state of a socket set, if there is one at the place. -/
def set (t : SocketTable σ) (id : SocketId) (x : σ) : SocketTable σ :=
  ⟨t.slots.modify id fun slot => slot.map fun s => { s with state := x }⟩

/-- The table with the state of every socket changed. -/
def map (f : σ → σ) (t : SocketTable σ) : SocketTable σ :=
  ⟨t.slots.map fun slot => slot.map fun s => { s with state := f s.state }⟩

/-- Takes the first free place for a socket with a given port, which no other socket may have. -/
def openSocket (t : SocketTable σ) (port : UInt32) (start : σ) :
    Except Error (SocketId × SocketTable σ) :=
  match t.find? fun s => s.port == port with
  | some (id, _) => .error (.portInUse port id)
  | none =>
    match t.slots.findIdx? Option.isNone with
    | none => .error (.noSlotAvailable t.slots.length)
    | some id => .ok (id, ⟨t.slots.set id (some ⟨port, start⟩)⟩)

/-- Gives up a place. -/
def close (t : SocketTable σ) (id : SocketId) : SocketTable σ :=
  ⟨t.slots.set id none⟩

/-- The socket at a place, which is to exist. -/
def require (t : SocketTable σ) (id : SocketId) : Except Error (Socket σ) :=
  match t.socket? id with
  | none => .error (.noSuchSocket id)
  | some s => .ok s

@[simp] theorem length_set (t : SocketTable σ) (id : SocketId) (x : σ) :
    (t.set id x).slots.length = t.slots.length := by
  simp [set]

@[simp] theorem length_map (t : SocketTable σ) (f : σ → σ) :
    (t.map f).slots.length = t.slots.length := by
  simp [map]

@[simp] theorem length_close (t : SocketTable σ) (id : SocketId) :
    (t.close id).slots.length = t.slots.length := by
  simp [close]

/-- Setting the state of one socket does not change the others. -/
theorem socket?_set (t : SocketTable σ) (id : SocketId) (x : σ) (j : SocketId) :
    (t.set id x).socket? j =
      if j = id then (t.socket? j).map fun s => { s with state := x } else t.socket? j := by
  simp only [socket?, set, List.getElem?_modify]
  by_cases h : j = id
  · subst h
    cases hs : t.slots[j]? with
    | none => simp
    | some slot => cases slot <;> simp
  · cases t.slots[j]? <;> simp [h, Ne.symm h]

end SocketTable

end OverlayStack.Transport
