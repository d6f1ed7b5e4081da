import OverlayStack.Node
import OverlayStack.Text.Blank
import OverlayStack.Text.Number

/-!
# Network addresses

A node of the overlay is known by the address of its host, four numbers below 256, of which the last
is the number of the node.

## Main definitions

* `Address` — the four numbers.
* `Address.nodeId` — the node at an address.
* `Address.text`, `Address.parse?` — the dotted form of an address.
-/

namespace OverlayStack

/-- The address of a host. -/
structure Address where
  /-- The first number of the dotted form. -/
  first : UInt8
  /-- The second number. -/
  second : UInt8
  /-- The third number. -/
  third : UInt8
  /-- The last number, which names the node. -/
  last : UInt8
  deriving DecidableEq, Repr, Inhabited

namespace Address

/-- The node at an address. -/
def nodeId (a : Address) : NodeId :=
  a.last.toUInt32

/-- Nodes have numbers below 256. -/
theorem toNat_nodeId_lt (a : Address) : a.nodeId.toNat < 256 := by
  rw [nodeId, UInt8.toNat_toUInt32]
  exact a.last.toNat_lt

/-- The dotted form of an address. -/
def text (a : Address) : String :=
  ".".intercalate ([a.first, a.second, a.third, a.last].map fun b => toString b.toNat)

/-- The address with a given dotted form. -/
def parse? (text : String) : Option Address :=
  match (Text.fields '.' text.toList).map Text.octet? with
  | [some a, some b, some c, some d] => some ⟨a, b, c, d⟩
  | _ => none

end Address

end OverlayStack
