import LedgerWallet.Bytes
import LedgerWallet.Network

/-! Addresses of ledger entities. -/
namespace LedgerWallet

inductive EntityKind where
  | account
  | identity
  | resource
  | component
  | package
  | validator
deriving DecidableEq, Repr, Inhabited

namespace EntityKind

def all : List EntityKind := [account, identity, resource, component, package, validator]

/-- The first byte of a node id. -/
def byte : EntityKind → UInt8
  | account => 0x51
  | identity => 0x52
  | resource => 0x5d
  | component => 0xc0
  | package => 0x0d
  | validator => 0x83

def name : EntityKind → String
  | account => "account"
  | identity => "identity"
  | resource => "resource"
  | component => "component"
  | package => "package"
  | validator => "validator"

def ofName? (name : String) : Option EntityKind := all.find? (·.name == name)

end EntityKind

/-- An entity on a network. The body is its node id without the kind byte. -/
structure Address where
  kind : EntityKind
  network : Network
  body : Bytes 29
deriving DecidableEq, Inhabited

namespace Address

def nodeIdLength : Nat := 30

def nodeId (address : Address) : List UInt8 := address.kind.byte :: address.body.toList

def isAccount (address : Address) : Bool := address.kind = .account

/-- Networks in numeric order, and on one network node ids byte by byte. -/
def order (a b : Address) : Ordering :=
  (compare a.network.id.toNat b.network.id.toNat).then (Bytes.compareLists a.nodeId b.nodeId)

end Address

end LedgerWallet
