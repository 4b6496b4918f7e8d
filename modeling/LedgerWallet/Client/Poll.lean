import LedgerWallet.Client.Config
import LedgerWallet.Client.Flow

/-! Asking the gateway until there is a verdict. A query that fails is a try like any other. -/
namespace LedgerWallet

/-- What a verdict means for the transaction. -/
def LedgerStatus.verdict? (id : TransactionId) : LedgerStatus → Option (Except Failure TransactionId)
  | committedSuccess => some (.ok id)
  | committedFailure => some (.error (.committedFailure id))
  | rejected => some (.error (.rejected id))
  | unknown | pending => none

namespace PollStrategy

/-- The end of polling, or the number of failures in a row with which it goes on. -/
inductive Step where
  | settled (outcome : Except Failure TransactionId)
  | undecided (failures : UInt32)

/-- One query. A verdict is counted with the time since `started`. -/
def query (strategy : PollStrategy) (id : TransactionId) (started : Nat) (failures : UInt32) :
    Flow Step := do
  Flow.request (.count .polled)
  match ← Flow.request (.status id) with
  | .ok status =>
    match status.verdict? id with
    | none => return .undecided 0
    | some outcome =>
      let now ← Flow.request .clock
      Flow.request (.count (.settled (now - started)))
      return .settled outcome
  | .error _ =>
    Flow.request (.count .pollFailed)
    let failures := failures + 1
    if strategy.maxFailures ≤ failures then Flow.request (.warn id failures)
    return .undecided failures

/-- Waits between two tries, but not after the last one. -/
def pollFor (strategy : PollStrategy) (id : TransactionId) (started : Nat) :
    (tries : Nat) → (failures : UInt32) → Flow (Except Failure TransactionId)
  | 0, _ => return .error (.pollTimeout id)
  | tries + 1, failures => do
    match ← strategy.query id started failures with
    | .settled outcome => return outcome
    | .undecided failures =>
      if tries ≠ 0 then Flow.request (.sleep strategy.pause)
      strategy.pollFor id started tries failures

def poll (strategy : PollStrategy) (id : TransactionId) : Flow (Except Failure TransactionId) := do
  let started ← Flow.request .clock
  strategy.pollFor id started strategy.maxTries.toNat 0

end PollStrategy

end LedgerWallet
