import LedgerWallet.Address.Text
import LedgerWallet.Key

/-! The addresses that every network has, and those that a key has before anything is stored there. -/
namespace LedgerWallet.Address

/-- A body of zeros that ends in `index`. -/
def wellKnownBody (index : UInt8) : Bytes 29 where
  toList := List.replicate 28 0 ++ [index]
  length_toList := rfl

def faucet (network : Network) : Address := ⟨.component, network, wellKnownBody 1⟩

def nativeToken (network : Network) : Address := ⟨.resource, network, wellKnownBody 2⟩

def accountPackage (network : Network) : Address := ⟨.package, network, wellKnownBody 3⟩

def ofKey (kind : EntityKind) (key : PublicKey) (network : Network) : Address :=
  ⟨kind, network, shortHash key.bytes.toList⟩

def accountOf (key : PublicKey) (network : Network) : Address := ofKey .account key network

def identityOf (key : PublicKey) (network : Network) : Address := ofKey .identity key network

end LedgerWallet.Address
