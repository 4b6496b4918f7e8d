import LedgerWallet.Client.Config
import LedgerWallet.Client.Notarize
import LedgerWallet.Client.Signers

/-! Everything that happens to a manifest before it is submitted. -/
namespace LedgerWallet

structure SubmitOptions where
  /-- A note in the intent. -/
  message : Option String
  /-- Whether to put a fee payment in front. -/
  lockFee : Bool
  /-- Entities that sign although no instruction needs them to. -/
  extraSigners : List Address
deriving DecidableEq

def SubmitOptions.default : SubmitOptions := ⟨none, true, []⟩

structure Prepared where
  id : TransactionId
  header : Header
  /-- The manifest as it was signed. -/
  manifest : Manifest
  feePayer : Option Address
  signers : List Address
  notarized : Notarized
  payload : List UInt8
deriving DecidableEq

/-- Counts the failure that an action ends in. -/
def Action.counted {α : Type} (action : Action α) : Action α :=
  tryCatch action fun failure => do
    Action.request (.count (.failed failure.category))
    throw failure

namespace ClientConfig

def requireNetwork (network : Network) : Action Unit := do
  let own ← Action.request .network
  if network ≠ own then throw (.wrongNetwork own network)

/-- The manifest that will be signed, and who pays for it. -/
def withFee (config : ClientConfig) (manifest : Manifest) (options : SubmitOptions) :
    Action (Manifest × Option Address) := do
  if manifest.isText then
    if config.allowText then return (manifest, none)
    else throw (.convertManifest "opaque manifests cannot be fee-locked or analysed for signers")
  else if options.lockFee then
    let payer ← selectFeePayer manifest.network manifest
    return (manifest.lockFee payer config.lockFee, some payer)
  else return (manifest, none)

def buildNotarized (config : ClientConfig) (manifest : Manifest) (options : SubmitOptions) :
    Action Prepared := do
  requireNetwork manifest.network
  let (manifest, feePayer) ← config.withFee manifest options
  let parties ← resolveParties manifest.network manifest options.extraSigners
  let header ← freshHeader manifest.network parties.notary.publicKey
  let intent : Intent := ⟨header, manifest, options.message⟩
  let notarized ← (← intent.sign parties.signers).notarize parties.notary
  return {
    id := intent.id
    header := header
    manifest := manifest
    feePayer := feePayer
    signers := parties.signers.map Signer.address
    notarized := notarized
    payload := notarized.payload }

def prepare (config : ClientConfig) (manifest : Manifest) (options : SubmitOptions) :
    Action Prepared :=
  (config.buildNotarized manifest options).counted

end ClientConfig

end LedgerWallet
