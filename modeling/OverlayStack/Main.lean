import OverlayStack.Routing.Network
import OverlayStack.Topology.File
import OverlayStack.Transport.Transfer

/-!
# The command line

* `routes FILE HOST MODE` prints the routes of a node of a topology once they have settled.
* `transfer INPUT OUTPUT` sends a file over a connection and writes what arrives.  With a number as
  third argument, the link loses and damages segments.
-/

namespace OverlayStack.Main

open Transport

/-- Reports an error and fails. -/
def fail (message : String) : IO UInt32 := do
  IO.eprintln s!"Error: {message}"
  return 1

/-- The bytes of a file, if there is one. -/
def readBytes? (path : String) : IO (Option Bytes) := do
  try
    let data ← IO.FS.readBinFile path
    return some data.toList
  catch _ => return none

/-- The network after every node has advertised its routes as often as there are nodes. -/
def settled (mode : RoutingMode) (t : Topology) : Network :=
  Nat.repeat Network.round t.hosts.size (Network.start mode t RoutingTable.defaultSlots)

/-- Prints the routes of a node. -/
def routes (path host mode : String) : IO UInt32 := do
  match RoutingMode.parse mode, Topology.load Topology.literal (← readBytes? path) with
  | .error e, _ => fail e.message
  | _, .error e => fail e.message
  | .ok mode, .ok t =>
    match t.nodeByHost host with
    | .error e => fail e.message
    | .ok me =>
      IO.println s!"Node {me} ({mode.name})"
      match (settled mode t).routers.find? me with
      | none => return 1
      | some router =>
        IO.print router.routes.text
        return 0

/-- Sends a file whose length goes first, and writes what arrives. -/
def transfer (source target : String) (seed : Option Nat) : IO UInt32 := do
  match ← readBytes? source with
  | none => fail s!"Failed to read {source}."
  | some data =>
    let plan : TransferPlan := {
      sends := [Bytes.ofWord32 (UInt32.ofNat data.length), data]
      reads := [4, data.length]
      seed := seed.map UInt64.ofNat }
    match Transfer.report {} plan with
    | .error e => fail e.message
    | .ok report =>
      match report.serverCalls with
      | [.ok _, .ok _, .ok (.received received)] =>
        IO.FS.writeBinFile target (ByteArray.mk received.toArray)
        IO.println s!"Received {received.length} bytes!"
        return 0
      | _ => fail "The data did not arrive."

/-- Says how the program is used. -/
def usage : IO UInt32 := do
  IO.eprintln "routes FILE HOST MODE"
  IO.eprintln "transfer INPUT OUTPUT [SEED]"
  return 2

end OverlayStack.Main

/-- Runs one command. -/
def main (args : List String) : IO UInt32 :=
  match args with
  | ["routes", path, host, mode] => OverlayStack.Main.routes path host mode
  | ["transfer", source, target] => OverlayStack.Main.transfer source target none
  | ["transfer", source, target, seed] =>
    match seed.toNat? with
    | some seed => OverlayStack.Main.transfer source target (some seed)
    | none => OverlayStack.Main.usage
  | _ => OverlayStack.Main.usage
