import LedgerWallet.Amount

/-! What a client may be told to do differently. -/
namespace LedgerWallet

/-- How often to ask for the status of a submitted transaction. -/
structure PollStrategy where
  maxTries : UInt32
  /-- Milliseconds between two queries. -/
  delay : UInt64
  /-- How many queries may fail in a row before that is reported. -/
  maxFailures : UInt32
deriving DecidableEq, Repr

namespace PollStrategy

/-- Twenty queries, two seconds apart. -/
def default : PollStrategy := ⟨20, 2000, 3⟩

/-- What polling sleeps for between two queries, in milliseconds. -/
def pause (strategy : PollStrategy) : Nat := strategy.delay.toNat

end PollStrategy

structure ClientConfig where
  /-- What the fee payer locks. -/
  lockFee : Amount
  poll : PollStrategy
  /-- Whether manifests may be text, which can neither pay a fee nor name its signers. -/
  allowText : Bool
deriving DecidableEq

namespace ClientConfig

def defaultFee : UInt64 := 10

def default : ClientConfig := ⟨.ofUnits defaultFee, .default, false⟩

end ClientConfig

end LedgerWallet
