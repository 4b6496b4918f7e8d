import LedgerWallet.Form.Field
import LedgerWallet.Manifest.Template

/-! Forms for manifests: templates, single instructions by the name of what they do, amendments. -/
namespace LedgerWallet

/-- A badge is a token or, where the form names one, a whole resource. -/
instance : FormField Badge where
  read _ form :=
    if Form.holds form "resource" then Badge.resource <$> Form.read form "resource"
    else Badge.nonFungible <$> Form.read form "non_fungible"

namespace Form

def fungibleLeg (form : Form) : Except FormError Template.FungibleLeg := do
  return ⟨← form.read "to", ← form.read "resource", ← form.read "amount",
    ← form.flag "signature_required"⟩

def nonFungibleLeg (form : Form) : Except FormError Template.NonFungibleLeg := do
  return ⟨← form.read "to", ← form.read "id", ← form.flag "signature_required"⟩

def claim (form : Form) : Except FormError Template.Claim := do
  return ⟨← form.read "resource", ← form.read "validator",
    ← listOf (fun token => do return (← read token "id", ← read token "amount")) form "nfts"⟩

def preference (form : Form) : Except FormError (Address × ResourcePreference) := do
  return (← form.read "resource", ← form.read "preference")

def depositSettings (form : Form) : Except FormError Template.DepositSettings := do
  return {
    account := ← form.read "account"
    defaultRule := ← form.read? "default_rule"
    removeExceptions := ← form.list "remove_exceptions"
    addExceptions := ← listOf preference form "add_exceptions"
    removeDepositors := ← form.list "remove_depositors"
    addDepositors := ← form.list "add_depositors" }

/-- The keys that will own an entity, as their hashes. -/
def ownerKeys (form : Form) : Except FormError (List KeyHash) := do
  return (← form.list "public_keys").map PublicKey.hash

/-- The template of a name, filled in. -/
def template? (form : Form) : (name : String) → Option (Except FormError (Except Failure Manifest))
  | "faucet" => some (Template.faucet <$> form.read "to")
  | "transfer" => some do
    let fungibles ← listOf fungibleLeg form "fungibles"
    let nonFungibles ← listOf nonFungibleLeg form "non_fungibles"
    return Template.transfer (← form.read "from") fungibles nonFungibles
  | "claim" => some do
    let claims ← listOf claim form "claims"
    return Template.claim (← form.read "from") claims
  | "third_party_deposits" => some (Template.depositSettings <$> form.depositSettings)
  | "set_owner_keys" => some do return Template.ownerKeys (← form.read "entity") (← form.ownerKeys)
  | _ => none

/-- The instruction of a name, filled in. -/
def instruction? (form : Form) : (name : String) → Option (Except FormError Instruction)
  | "instruction" => some (form.read "instruction")
  | "lock_fee" => some (.lockFee <$> form.read "account" <*> form.read "amount")
  | "faucet_lock_fee" => some (.faucetLockFee <$> form.read "faucet" <*> form.read "amount")
  | "faucet_free" => some (.faucetFree <$> form.read "faucet")
  | "withdraw" =>
    some (.withdraw <$> form.read "account" <*> form.read "resource" <*> form.read "amount")
  | "withdraw_non_fungibles" =>
    some (.withdrawNonFungibles <$> form.read "account" <*> form.read "resource" <*>
      form.list "ids")
  | "take" => some (.take <$> form.read "resource" <*> form.read "amount" <*> form.read "bucket")
  | "take_non_fungibles" =>
    some (.takeNonFungibles <$> form.read "resource" <*> form.list "ids" <*> form.read "bucket")
  | "take_all" => some (.takeAll <$> form.read "resource" <*> form.read "bucket")
  | "assert" => some (.assertContains <$> form.read "resource" <*> form.read "amount")
  | "deposit" => some (.deposit <$> form.read "account" <*> form.read "bucket")
  | "try_deposit" => some (.tryDeposit <$> form.read "account" <*> form.read "bucket")
  | "try_deposit_all" => some (.tryDepositWorktop <$> form.read "account")
  | "set_metadata" =>
    some (.setMetadata <$> form.read "address" <*> form.read "key" <*> form.read "value")
  | "set_owner_keys" => some (.setOwnerKeys <$> form.read "address" <*> form.ownerKeys)
  | "set_default_deposit_rule" =>
    some (.setDefaultDepositRule <$> form.read "account" <*> form.read "rule")
  | "set_resource_preference" =>
    some (.setResourcePreference <$> form.read "account" <*> form.read "resource" <*>
      form.read "preference")
  | "remove_resource_preference" =>
    some (.removeResourcePreference <$> form.read "account" <*> form.read "resource")
  | "add_authorized_depositor" =>
    some (.addAuthorizedDepositor <$> form.read "account" <*> form.read "badge")
  | "remove_authorized_depositor" =>
    some (.removeAuthorizedDepositor <$> form.read "account" <*> form.read "badge")
  | "call_method" =>
    some (.callMethod <$> form.read "address" <*> form.read "method" <*> form.read "args")
  | "call_function" =>
    some (.callFunction <$> form.read "package" <*> form.read "blueprint" <*>
      form.read "function" <*> form.read "args")
  | _ => none

/-- The amendment of a name, filled in and made to a manifest. -/
def amendment? (form : Form) (manifest : Manifest) :
    (name : String) → Option (Except FormError (Except ManifestError Manifest))
  | "insert" => some (manifest.insertAt <$> form.read "index" <*> form.read "instruction")
  | "guarantee" =>
    some (manifest.guarantee <$> form.read "index" <*> form.read "resource" <*> form.read "amount")
  | "lock_fee" => some do
    return .ok (manifest.lockFee (← form.read "payer") (← form.read "amount"))
  | _ => none

end Form

end LedgerWallet
