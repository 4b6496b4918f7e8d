import LedgerWallet.Client.Rehearsal
import LedgerWallet.Client.Prepare
import LedgerWallet.Form.Field

/-! Forms for rehearsals: the answers of the gateway, the keys of a wallet, and what to submit. -/
namespace LedgerWallet.Form

def gatewayError (form : Form) : Except FormError GatewayError := do
  if form.holds "transport" then GatewayError.transport <$> form.read "transport"
  else if form.holds "decode" then GatewayError.malformed <$> form.read "decode"
  else if form.holds "status" then
    GatewayError.status <$> form.read "status" <*> form.readD "body" ""
  else .error (.field "script")

/-- Answers of the gateway, of which the objects are errors. -/
def script {α : Type} [FormField α] (form : Form) (name item : String) :
    Except FormError (List (Except GatewayError α)) :=
  listOf (fun answer =>
    match answer with
    | .object _ => Except.error <$> gatewayError answer
    | _ => Except.ok <$> FormField.read item answer) form name

/-- Why a key refuses to sign, if it does. -/
def refusal (form : Form) : Except FormError (Option SigningError) := do
  let reason ← form.readD "reason" ""
  match ← form.readD "mode" "ok" with
  | "ok" => return none
  | "reject" => return some (.rejected reason)
  | "unavailable" => return some (.unavailable reason)
  | _ => .error (.field "mode")

/-- A key stands for its account unless an address is given. -/
def scriptedKey (network : Network) (form : Form) : Except FormError ScriptedKey := do
  let secret : SecretKey ← form.read "secret"
  let address ← form.readD "address" (Address.accountOf secret.publicKey network)
  let actual ← form.readD "sign_with" secret
  return ⟨⟨address, secret⟩, actual, ← form.refusal, ← form.readD "after" 0⟩

/-- A wallet, in which some keys do not simply sign. -/
def rehearsal (form : Form) : Except FormError Rehearsal := do
  let network ← form.read "network"
  let keys ← listOf (fun entry => do
    return (← scriptedKey network entry, holds entry "mode" || holds entry "sign_with")) form "keys"
  let wallet := keys.foldl (fun wallet (key, _) => wallet.add key.held) (Wallet.empty network)
  return { Rehearsal.new wallet with keys := (keys.filter (·.2)).map (·.1) }

def header (form : Form) : Except FormError Header := do
  return {
    network := ← form.read "network"
    startEpoch := ← form.read "start"
    endEpoch := ← form.read "end"
    nonce := ← form.read "nonce"
    notary := ⟨← form.read "notary"⟩
    version := ← form.readD "version" Header.currentVersion
    notaryIsSignatory := ← form.readD "notary_is_signatory" Header.notarySigns
    costUnitLimit := ← form.readD "cost_unit_limit" Header.defaultCostUnitLimit
    tipPercentage := ← form.readD "tip_percentage" Header.defaultTip }

def submitOptions (form : Form) : Except FormError SubmitOptions := do
  return ⟨← form.read? "message", ← form.readD "lock_fee" SubmitOptions.default.lockFee,
    ← form.list "extra_signers"⟩

end LedgerWallet.Form
