import OverlayStack.Bytes
import OverlayStack.Topology.Basic

/-!
# Topology files

A topology file has a line for each link, with the names of two hosts and a cost.  Empty lines and
lines that start with `#` are skipped.  Reading stops at the first line that is wrong.

## Main definitions

* `Topology.Resolver` — where the addresses of hosts come from.
* `Topology.literal`, `Topology.withHosts` — the resolver that knows dotted addresses alone, and one
  that also knows some hosts.
* `Topology.addLine` — what one line adds to a topology.
* `Topology.parse` — the topology that a text describes.
* `Topology.load` — the topology that a file describes.
-/

namespace OverlayStack.Topology

/-- Finds the address of a host. -/
abbrev Resolver := String → Except Error Address

/-- Resolves the names that are dotted addresses. -/
def literal : Resolver := fun host =>
  match Address.parse? host with
  | some address => .ok address
  | none => .error (.unresolved host)

/-- Resolves the names of known hosts to their dotted addresses, and other names as they are. -/
def withHosts (hosts : List (String × String)) : Resolver := fun host =>
  match hosts.find? (·.1 == host) with
  | none => literal host
  | some (_, address) => (literal address).mapError fun _ => .unresolved host

/-- The topology with what a line says: nothing, or a link between two hosts. -/
def addLine (resolve : Resolver) (t : Topology) (number : Nat) (line : List Char) :
    Except Error Topology :=
  let bad := Error.badLine number (String.ofList line)
  match Text.words line with
  | [] => .ok t
  | ('#' :: _) :: _ => .ok t
  | [near, far, price] =>
    match Text.word32? price with
    | none => .error bad
    | some cost => do
      let a ← resolve (String.ofList near)
      let t ← t.addHost (String.ofList near) a
      let b ← resolve (String.ofList far)
      let t ← t.addHost (String.ofList far) b
      if h : a.nodeId = b.nodeId then .error bad
      else .ok (t.addLink ⟨a.nodeId, b.nodeId, cost, h⟩)
  | _ => .error bad

/-- The topology with what some lines say, the first of which has the given number. -/
def addLines (resolve : Resolver) (t : Topology) (number : Nat) :
    List (List Char) → Except Error Topology
  | [] => .ok t
  | line :: rest => do
    let t ← addLine resolve t number line
    addLines resolve t (number + 1) rest

/-- The topology that a text describes. -/
def parse (resolve : Resolver) (text : String) : Except Error Topology :=
  addLines resolve empty 1 (Text.lines text.toList)

/-- The topology that a file describes, which may be missing. -/
def load (resolve : Resolver) : Option Bytes → Except Error Topology
  | none => .error (.unreadable .missing)
  | some content =>
    match String.fromUTF8? ⟨content.toArray⟩ with
    | none => .error (.unreadable .notText)
    | some text => parse resolve text

end OverlayStack.Topology
