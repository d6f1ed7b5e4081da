import OverlayStack.Transport.SendBuffer
import OverlayStack.Transport.Status

/-!
# The link below the transport layer

Clients and servers hand segments to a link, which may stop taking them.

## Main definitions

* `Transport.Outgoing` — segments with the nodes they go to.
* `Transport.Uplink` — how many more segments a link takes.
* `Uplink.refusal`, `Uplink.after`, `Uplink.lose` — its answers, and what becomes of it.
* `Transport.Effect` — what an operation does: the new state, the segments it sends, and its result.
-/

namespace OverlayStack.Transport

/-- Segments with the nodes they go to, in the order in which they were sent. -/
abbrev Outgoing := List (NodeId × Segment)

/-- How many more segments a link takes. -/
structure Uplink where
  /-- The number of segments, or nothing if there is no limit. -/
  allowance : Option Nat := none
  /-- Whether the link is there at all. -/
  isUp : Bool := true
  /-- Why it does not take more. -/
  reason : String

namespace Uplink

/-- The number of segments that the link takes, or nothing if there is no limit. -/
def limit? (u : Uplink) : Option Nat :=
  if u.isUp then u.allowance else some 0

/-- What the link says to the segments of the next operation. -/
def refusal (u : Uplink) : Refusal Error := fun n _ =>
  match u.limit? with
  | none => none
  | some limit => if n < limit then none else some (.transportClosed u.reason)

/-- The link after it has taken some segments. -/
def after (u : Uplink) (sent : Nat) : Uplink :=
  { u with allowance := u.allowance.map (· - sent) }

/-- The link after its loss, which is for good. -/
def lose (u : Uplink) : Uplink :=
  { u with isUp := false }

end Uplink

/-- What an operation on a client or a server does. -/
structure Effect (σ ρ : Type) where
  /-- The state after it. -/
  state : σ
  /-- The segments that it has sent. -/
  sent : Outgoing
  /-- What it returns. -/
  result : Except Error ρ

namespace Effect

variable {σ ρ : Type}

/-- An operation that sends nothing. -/
def quiet (state : σ) (result : Except Error ρ) : Effect σ ρ :=
  ⟨state, [], result⟩

/-- An operation that fails without doing anything. -/
def fail (state : σ) (e : Error) : Effect σ ρ :=
  quiet state (.error e)

end Effect

end OverlayStack.Transport
