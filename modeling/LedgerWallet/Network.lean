import LedgerWallet.Bytes.Hex

/-! Ledger networks and the suffix that names one in an address. -/
namespace LedgerWallet

structure Network where
  id : UInt8
deriving DecidableEq, Repr, Inhabited

namespace Network

def mainnet : Network := ⟨1⟩
def stokenet : Network := ⟨2⟩
def simulator : Network := ⟨242⟩

def name (network : Network) : String :=
  if network = mainnet then "mainnet"
  else if network = stokenet then "stokenet"
  else if network = simulator then "simulator"
  else s!"network-{network.id}"

/-- Test networks are named by their number in base sixteen. -/
def suffix (network : Network) : List Char :=
  if network = mainnet then ['r', 'd', 'x']
  else if network = simulator then ['s', 'i', 'm']
  else ['t', 'd', 'x', '_'] ++ Nat.toDigits 16 network.id.toNat ++ ['_']

/-- Only the suffix that a network is written with names it. -/
def ofSuffix? (text : List Char) : Option Network :=
  let candidate? := match text with
    | ['r', 'd', 'x'] => some mainnet
    | ['s', 'i', 'm'] => some simulator
    | ['t', 'd', 'x', '_', low, '_'] => (Hex.value? low).map fun low => ⟨UInt8.ofNat low⟩
    | ['t', 'd', 'x', '_', high, low, '_'] => do
      return ⟨UInt8.ofNat (16 * (← Hex.value? high) + (← Hex.value? low))⟩
    | _ => none
  candidate?.filter fun network => network.suffix == text

end Network

end LedgerWallet
