import LedgerWallet.Address.Text

/-! Addresses as they are stored: a network and a node id, whose first byte stands for the kind. -/
namespace LedgerWallet

def EntityKind.ofByte? (byte : UInt8) : Option EntityKind := all.find? (·.byte == byte)

namespace Address

/-- The kind that the first byte of a node id stands for, if it stands for one. -/
def kindOf? (nodeId : List UInt8) : Option EntityKind := nodeId.head?.bind EntityKind.ofByte?

/-- A node id that stands for no kind passes for a component. -/
def kindOf (nodeId : List UInt8) : EntityKind := (kindOf? nodeId).getD .component

/-- The text of a node id on a network, if there is one. -/
def display? (network : Network) (nodeId : List UInt8) : Option String :=
  (Bech32.encode? ((kindOf nodeId).name.toList ++ '_' :: network.suffix) nodeId).map String.ofList

end Address

end LedgerWallet
