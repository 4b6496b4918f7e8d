import LedgerWallet.Client.Poll
import LedgerWallet.Client.Prepare
import LedgerWallet.Gateway.Tracker

/-! Handing a prepared transaction to the gateway, once, and waiting for the verdict. -/
namespace LedgerWallet

namespace ClientConfig

/-- Polls for a submitted transaction. Gives the tracker as polling leaves it. -/
def pollTracked (config : ClientConfig) (tracker : Tracker) :
    Flow (Except Failure TransactionId × Tracker) := do
  let tracker := tracker.markPolling
  let outcome ← config.poll.poll tracker.id
  return (outcome, tracker.finish outcome)

/-- The payload goes out once. A duplicate is not polled for. -/
def submitTracked (config : ClientConfig) (prepared : Prepared) :
    Flow (Except Failure TransactionId × Tracker) := do
  let tracker := Tracker.new prepared.id
  match ← Flow.request (.submit (Hex.text prepared.payload)) with
  | .error e => return (.error (.submit e.message), tracker)
  | .ok duplicate =>
    let tracker := tracker.markSubmitted
    Flow.request (.count .submitted)
    if duplicate then
      Flow.request (.count .duplicate)
      return (.error (.duplicate prepared.id), tracker.markDuplicate)
    else config.pollTracked tracker

/-- The outcome of a tracked flow, whose failure is counted. -/
def conclude (flow : Flow (Except Failure TransactionId × Tracker)) : Action TransactionId :=
  Action.counted (ExceptT.mk ((·.1) <$> flow))

def submit (config : ClientConfig) (prepared : Prepared) : Action TransactionId :=
  conclude (config.submitTracked prepared)

/-- Waits for the verdict on a transaction that was submitted earlier. -/
def resume (config : ClientConfig) (id : TransactionId) : Action TransactionId :=
  conclude (config.pollTracked (.resumed id))

def signAndSubmit (config : ClientConfig) (manifest : Manifest) (options : SubmitOptions) :
    Action TransactionId := do
  config.submit (← config.prepare manifest options)

end ClientConfig

end LedgerWallet
