import LedgerWallet.Client.Flow
import LedgerWallet.Transaction.Payload

/-! Headers and signatures, as they are asked for while a transaction is prepared. -/
namespace LedgerWallet

/-- A header for the window that starts now. A nonce is drawn only once the window is known. -/
def freshHeader (network : Network) (notary : PublicKey) : Action Header := do
  match ← Action.request .epoch with
  | .error e => throw (.getEpoch e.message)
  | .ok start =>
    match Header.endOf? start with
    | none => throw (.buildHeader s!"epoch {start} + {Header.epochWindow} overflows")
    | some last => return .make network start last (← Action.request .nonce) notary

/-- The signatures of all signers, asked one after the other. The first refusal ends it. -/
def signAll (id : TransactionId) : List Signer → Action (List KeySignature)
  | [] => return []
  | signer :: rest => do
    match ← Action.request (.sign signer id.bytes) with
    | .error e => throw (.signIntent s!"{signer.address}: {e.message}")
    | .ok signature => return signature :: (← signAll id rest)

def Intent.sign (intent : Intent) (signers : List Signer) : Action SignedIntent := do
  return ⟨intent, ← signAll intent.id signers⟩

/-- Only the key that the header names can notarize. -/
def SignedIntent.notarize (signed : SignedIntent) (notary : Signer) : Action Notarized := do
  match ← Action.request (.sign notary signed.hash) with
  | .error e => throw (.prepareNotarized e.message)
  | .ok sealing =>
    let named := signed.intent.header.notary
    if sealing.publicKey = named then return ⟨signed, sealing.signature⟩
    else throw (.prepareNotarized
      s!"notary key {sealing.publicKey} does not match header notary {named}")

end LedgerWallet
