import LedgerWallet.Address.Known
import LedgerWallet.Manifest.Basic

/-! The calls that wallets put into manifests. -/
namespace LedgerWallet

/-- What an account does with deposits from others. -/
inductive DepositRule where
  | accept
  | reject
  | allowExisting
deriving DecidableEq, Repr

/-- An exception to the rule for one resource. -/
inductive ResourcePreference where
  | allowed
  | disallowed
deriving DecidableEq, Repr

/-- What a depositor may show to deposit whatever the rules are. -/
inductive Badge where
  | nonFungible (id : GlobalId)
  | resource (address : Address)
deriving DecidableEq

def DepositRule.all : List DepositRule := [.accept, .reject, .allowExisting]

def DepositRule.name : DepositRule → String
  | accept => "accept"
  | reject => "reject"
  | allowExisting => "allow_existing"

def DepositRule.ofName? (name : String) : Option DepositRule := all.find? (·.name == name)

def ResourcePreference.all : List ResourcePreference := [.allowed, .disallowed]

def ResourcePreference.name : ResourcePreference → String
  | allowed => "allowed"
  | disallowed => "disallowed"

def ResourcePreference.ofName? (name : String) : Option ResourcePreference :=
  all.find? (·.name == name)

def DepositRule.value : DepositRule → Value
  | accept => .unit 0
  | reject => .unit 1
  | allowExisting => .unit 2

def ResourcePreference.value : ResourcePreference → Value
  | allowed => .unit 0
  | disallowed => .unit 1

def Badge.value : Badge → Value
  | nonFungible id => .compound (.variant 0) [.tuple [.ofAddress id.resource, .ofLocalId id.localId]]
  | resource address => .compound (.variant 1) [.ofAddress address]

namespace Instruction

/-- The absent optional argument. -/
def absent : Value := .unit 0

def faucetLockFee (faucet : Address) (amount : Amount) : Instruction :=
  callMethod faucet "lock_fee" [.ofAmount amount]

def faucetFree (faucet : Address) : Instruction := callMethod faucet "free" []

def withdraw (account resource : Address) (amount : Amount) : Instruction :=
  callAccount account .withdraw [.ofAddress resource, .ofAmount amount]

def withdrawNonFungibles (account resource : Address) (ids : List LocalId) : Instruction :=
  callAccount account .withdrawNonFungibles [.ofAddress resource, .array (ids.map Value.ofLocalId)]

/-- A deposit that the receiver signs for. -/
def deposit (account : Address) (bucket : Bucket) : Instruction :=
  callAccount account .deposit [.ofBucket bucket]

/-- A deposit that the receiver's rules decide on. -/
def tryDeposit (account : Address) (bucket : Bucket) : Instruction :=
  callAccount account .tryDepositOrAbort [.ofBucket bucket, absent]

def tryDepositWorktop (account : Address) : Instruction :=
  callAccount account .tryDepositBatchOrAbort [.scalar .entireWorktop, absent]

def ownerKeysKey : String := "owner_keys"

def setOwnerKeys (entity : Address) (hashes : List KeyHash) : Instruction :=
  setMetadata entity ownerKeysKey (.array (hashes.map fun hash => .scalar (.keyHash hash)))

def setDefaultDepositRule (account : Address) (rule : DepositRule) : Instruction :=
  callAccount account .setDefaultDepositRule [rule.value]

def setResourcePreference (account resource : Address) (preference : ResourcePreference) :
    Instruction :=
  callAccount account .setResourcePreference [.ofAddress resource, preference.value]

def removeResourcePreference (account resource : Address) : Instruction :=
  callAccount account .removeResourcePreference [.ofAddress resource]

def addAuthorizedDepositor (account : Address) (badge : Badge) : Instruction :=
  callAccount account .addAuthorizedDepositor [badge.value]

def removeAuthorizedDepositor (account : Address) (badge : Badge) : Instruction :=
  callAccount account .removeAuthorizedDepositor [badge.value]

end Instruction

/-- The name that the bucket drawn as number `n` gets. Numbers have 32 bits and start over after the
last one. -/
def Bucket.numbered (n : Nat) : Bucket := ⟨s!"bucket{n % UInt32.size}"⟩

end LedgerWallet
