import LedgerWallet.Client.Submit

/-! What a client can be asked to do, as data, so that many calls on one client can be spoken of. -/
namespace LedgerWallet

/-- A call on a client. -/
inductive Call where
  | prepare (manifest : Manifest) (options : SubmitOptions)
  | submit (prepared : Prepared)
  | signAndSubmit (manifest : Manifest) (options : SubmitOptions)
  | resume (id : TransactionId)

namespace Call

/-- What a call returns when it does not fail. -/
inductive Result where
  | prepared (prepared : Prepared)
  | committed (id : TransactionId)

def perform (config : ClientConfig) : Call → Action Result
  | .prepare manifest options => .prepared <$> config.prepare manifest options
  | .submit prepared => .committed <$> config.submit prepared
  | .signAndSubmit manifest options => .committed <$> config.signAndSubmit manifest options
  | .resume id => .committed <$> config.resume id

/-- One call after the other. -/
def performAll (config : ClientConfig) (calls : List Call) : Flow (List (Except Failure Result)) :=
  calls.mapM fun call => (call.perform config).run

end Call

end LedgerWallet
