import LedgerWallet.Manifest.Builder

/-! Manifests for the common tasks of a wallet. Each template targets the network of its subject. -/
namespace LedgerWallet.Template

/-- A manifest of instructions on the network of its subject, or a failure where they cannot be told. -/
def convert (subject : Address) (instructions : Except String (List Instruction)) :
    Except Failure Manifest :=
  match instructions with
  | .error reason => .error (.convertManifest reason)
  | .ok list => Manifest.convert subject.network list []

/-- What the faucet locks for the fee of its own transaction. -/
def faucetFeeUnits : UInt64 := 5000

@[inherit_doc faucetFeeUnits]
def faucetFee : Amount := .ofUnits faucetFeeUnits

def faucetInstructions (recipient : Address) : List Instruction :=
  let faucet := Address.faucet recipient.network
  [.faucetLockFee faucet faucetFee, .faucetFree faucet, .tryDepositWorktop recipient]

def faucet (recipient : Address) : Except Failure Manifest :=
  convert recipient (.ok (faucetInstructions recipient))

structure FungibleLeg where
  recipient : Address
  resource : Address
  amount : Amount
  signatureRequired : Bool

structure NonFungibleLeg where
  recipient : Address
  id : GlobalId
  signatureRequired : Bool

/-- Totals by resource, in the order in which the resources appear. -/
abbrev Totals := List (Address × Amount)

def Totals.add (totals : Totals) (leg : FungibleLeg) : Option Totals :=
  match totals with
  | [] => some [(leg.resource, leg.amount)]
  | (resource, total) :: rest =>
    if resource = leg.resource then do return (resource, ← total.add? leg.amount) :: rest
    else do return (resource, total) :: (← Totals.add rest leg)

def Totals.of (legs : List FungibleLeg) : Option Totals := legs.foldlM Totals.add []

def depositFor (recipient : Address) (signatureRequired : Bool) (bucket : Bucket) : Instruction :=
  if signatureRequired then .deposit recipient bucket else .tryDeposit recipient bucket

/-- Each leg fills the next bucket and deposits it. -/
def fungibleLegs (first : Nat) (legs : List FungibleLeg) : List Instruction :=
  (legs.zipIdx first).flatMap fun (leg, n) =>
    [.take leg.resource leg.amount (.numbered n),
      depositFor leg.recipient leg.signatureRequired (.numbered n)]

/-- Each resource is withdrawn once, and then dealt out to its legs. -/
def fungibleTransfers (sender : Address) (legs : List FungibleLeg) :
    (first : Nat) → Totals → List Instruction
  | _, [] => []
  | first, (resource, total) :: rest =>
    let own := legs.filter (·.resource = resource)
    .withdraw sender resource total :: fungibleLegs first own ++
      fungibleTransfers sender legs (first + own.length) rest

def nonFungibleTransfers (sender : Address) (first : Nat) (legs : List NonFungibleLeg) :
    List Instruction :=
  (legs.zipIdx first).flatMap fun (leg, n) =>
    [.withdrawNonFungibles sender leg.id.resource [leg.id.localId],
      .takeNonFungibles leg.id.resource [leg.id.localId] (.numbered n),
      depositFor leg.recipient leg.signatureRequired (.numbered n)]

def transferInstructions (sender : Address) (fungibles : List FungibleLeg)
    (nonFungibles : List NonFungibleLeg) : Except String (List Instruction) :=
  match Totals.of fungibles with
  | none => .error "transfer total overflows"
  | some totals => .ok (fungibleTransfers sender fungibles 0 totals ++
      nonFungibleTransfers sender fungibles.length nonFungibles)

def transfer (sender : Address) (fungibles : List FungibleLeg)
    (nonFungibles : List NonFungibleLeg) : Except Failure Manifest :=
  convert sender (transferInstructions sender fungibles nonFungibles)

/-- Claim tokens of one validator, with the amount that each of them is worth. -/
structure Claim where
  resource : Address
  validator : Address
  tokens : List (LocalId × Amount)

/-- The tokens are handed to the validator, and what they are worth goes to the account. -/
def claimInstructions (account : Address) (claim : Claim) (total : Amount) (first : Nat) :
    List Instruction :=
  [.withdrawNonFungibles account claim.resource (claim.tokens.map (·.1)),
    .takeAll claim.resource (.numbered first),
    .callMethod claim.validator "claim_xrd" [.ofBucket (.numbered first)],
    .take (Address.nativeToken account.network) total (.numbered (first + 1)),
    .deposit account (.numbered (first + 1))]

def claimAll (account : Address) : (first : Nat) → List Claim → Except AmountError (List Instruction)
  | _, [] => .ok []
  | first, claim :: rest => do
    let total ← Amount.sum (claim.tokens.map (·.2))
    return claimInstructions account claim total first ++ (← claimAll account (first + 2) rest)

def claim (account : Address) (claims : List Claim) : Except Failure Manifest :=
  convert account ((claimAll account 0 claims).mapError AmountError.message)

/-- Changes to what an account accepts from others. -/
structure DepositSettings where
  account : Address
  defaultRule : Option DepositRule
  removeExceptions : List Address
  addExceptions : List (Address × ResourcePreference)
  removeDepositors : List Badge
  addDepositors : List Badge

/-- Removals come before additions, so what is both removed and added ends up set. -/
def depositSettingsInstructions (settings : DepositSettings) : List Instruction :=
  let account := settings.account
  settings.defaultRule.toList.map (.setDefaultDepositRule account) ++
  settings.removeExceptions.map (.removeResourcePreference account) ++
  settings.addExceptions.map (fun (resource, preference) =>
    .setResourcePreference account resource preference) ++
  settings.removeDepositors.map (.removeAuthorizedDepositor account) ++
  settings.addDepositors.map (.addAuthorizedDepositor account)

def depositSettings (settings : DepositSettings) : Except Failure Manifest :=
  convert settings.account (.ok (depositSettingsInstructions settings))

def ownerKeys (entity : Address) (hashes : List KeyHash) : Except Failure Manifest :=
  convert entity (.ok [.setOwnerKeys entity hashes])

end LedgerWallet.Template
