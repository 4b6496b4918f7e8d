import LedgerWallet.Key
import LedgerWallet.Network

/-! Transaction headers: network, window of epochs, nonce and notary. -/
namespace LedgerWallet

structure Header where
  version : UInt8
  network : Network
  startEpoch : UInt64
  /-- The first epoch in which the transaction is no longer valid. -/
  endEpoch : UInt64
  nonce : UInt64
  notary : PublicKey
  notaryIsSignatory : Bool
  costUnitLimit : UInt32
  tipPercentage : UInt16
deriving DecidableEq

namespace Header

def currentVersion : UInt8 := 1

/-- How many epochs a transaction stays valid. -/
def epochWindow : Nat := 10

def defaultCostUnitLimit : UInt32 := 100000000

def defaultTip : UInt16 := 0

/-- The notary of a new header signs as notary only. -/
def notarySigns : Bool := false

/-- How many bytes make a nonce. -/
def nonceLength : Nat := 8

/-- The end of the window that starts in an epoch, where there is such an epoch. -/
def endOf? (start : UInt64) : Option UInt64 :=
  let last := start.toNat + epochWindow
  if last < UInt64.size then some (UInt64.ofNat last) else none

def make (network : Network) (start last nonce : UInt64) (notary : PublicKey) : Header where
  version := currentVersion
  network := network
  startEpoch := start
  endEpoch := last
  nonce := nonce
  notary := notary
  notaryIsSignatory := notarySigns
  costUnitLimit := defaultCostUnitLimit
  tipPercentage := defaultTip

def text (header : Header) : String :=
  s!"[Start Epoch]         => {header.startEpoch}\n" ++
  s!"[End Epoch]           => {header.endEpoch}\n" ++
  s!"[Network id]          => {header.network.id}\n" ++
  s!"[Nonce]               => {header.nonce}\n" ++
  s!"[Notary is signatory] => {header.notaryIsSignatory}\n" ++
  s!"[Tip %]               => {header.tipPercentage}\n"

end Header

end LedgerWallet
