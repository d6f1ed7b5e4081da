import OverlayStack.Wire.Packet

/-!
# Errors of route updates

## Main definitions

* `RoutingError` — why a route update is not applied.
-/

namespace OverlayStack

/-- Why a route update is not applied. -/
inductive RoutingError where
  /-- The node that it comes from is no neighbor. -/
  | notNeighbor (source : NodeId)
  /-- It does not report a failure, and only failures are expected. -/
  | noFailure (source : NodeId) (entries : List (NodeId × Cost))
  deriving DecidableEq, Repr

namespace RoutingError

/-- One entry of an update in a message. -/
def entryText (e : NodeId × Cost) : String :=
  s!"RouteUpdateEntry \x7b node_id: {e.1}, cost: {e.2} \x7d"

/-- The wording of a routing error. -/
def message : RoutingError → String
  | notNeighbor source => s!"Route update from node {source} which is not a neighbor."
  | noFailure source entries =>
    s!"Malformed route update from node {source}. expected one failure entry, got [" ++
      ", ".intercalate (entries.map entryText) ++ "]"

end RoutingError

end OverlayStack
