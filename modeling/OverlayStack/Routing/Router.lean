import OverlayStack.Routing.DistanceVector
import OverlayStack.Routing.LinkState

/-!
# Routers

A router keeps the routes of one node in one of two ways, by distance vectors or by link states.

## Main definitions

* `RoutingMode`, `RoutingMode.parse` — the two ways, and how they are asked for.
* `Router` — the state of a router.
* `Router.handle` — what a router does about a route update.
-/

namespace OverlayStack

/-- The ways of keeping routes. -/
inductive RoutingMode where
  /-- Neighbors tell each other their costs. -/
  | distanceVector
  /-- Every node computes its routes from the topology and the known failures. -/
  | linkState
  deriving DecidableEq, Repr

namespace RoutingMode

/-- The short name of a mode. -/
def name : RoutingMode → String
  | distanceVector => "dv"
  | linkState => "ls"

/-- The long name of a mode. -/
def longName : RoutingMode → String
  | distanceVector => "distance-vector"
  | linkState => "link-state"

/-- A text that names no mode, with its letters in lower case. -/
structure Unknown where
  text : String

/-- The wording of the error. -/
def Unknown.message (e : Unknown) : String :=
  s!"Unknown routing mode {Text.quoted e.text.toList}, expected dv or ls."

/-- The mode of a given name, short or long.  ASCII letters may be in upper case. -/
def parse (text : String) : Except Unknown RoutingMode :=
  let lower := String.ofList (text.toList.map Char.toLower)
  match [distanceVector, linkState].find? fun m => m.name == lower || m.longName == lower with
  | some mode => .ok mode
  | none => .error ⟨lower⟩

end RoutingMode

/-- The state of a router. -/
inductive Router where
  /-- It exchanges distance vectors. -/
  | distanceVector (s : DistanceVector)
  /-- It computes routes from the topology. -/
  | linkState (s : LinkState)

namespace Router

/-- A router at the start. -/
def start (mode : RoutingMode) (t : Topology) (me : NodeId) (slots : Nat) : Router :=
  match mode with
  | .distanceVector => distanceVector (DistanceVector.start t me slots)
  | .linkState => linkState (LinkState.start t me slots)

/-- The way in which a router keeps its routes. -/
def mode : Router → RoutingMode
  | distanceVector _ => .distanceVector
  | linkState _ => .linkState

/-- The routes of a router. -/
def routes : Router → RoutingTable
  | distanceVector s => s.routes
  | linkState s => s.routes

/-- Where packets for a destination go next. -/
def nextHop (r : Router) (dest : NodeId) : Option NodeId :=
  r.routes.next? dest

/-- What a router tells its neighbors from time to time, if it tells them anything. -/
def advertisement? : Router → Option RouteUpdate
  | distanceVector s => some s.advertisement
  | linkState _ => none

/-- The router after a route update, and the packets that it sends to all neighbors. -/
def handle (r : Router) (source : NodeId) (u : RouteUpdate) :
    Except RoutingError (Router × List Packet) :=
  match r with
  | distanceVector s => (s.handle source u).map fun s => (distanceVector s, [])
  | linkState s => (s.handle source u).map fun (s, replies) => (linkState s, replies)

/-- The text of everything that a router knows. -/
def text : Router → String
  | distanceVector s => s.text
  | linkState s => s.text

end Router

end OverlayStack
