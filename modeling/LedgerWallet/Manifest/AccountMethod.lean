/-! The methods that every account has. -/
namespace LedgerWallet

inductive AccountMethod where
  | lockFee
  | lockContingentFee
  | withdraw
  | withdrawNonFungibles
  | lockFeeAndWithdraw
  | createProofOfAmount
  | createProofOfNonFungibles
  | deposit
  | depositBatch
  | tryDepositOrAbort
  | tryDepositBatchOrAbort
  | tryDepositOrRefund
  | setDefaultDepositRule
  | setResourcePreference
  | removeResourcePreference
  | addAuthorizedDepositor
  | removeAuthorizedDepositor
  | burn
  | securify
deriving DecidableEq, Repr

namespace AccountMethod

def all : List AccountMethod := [
  lockFee, lockContingentFee, withdraw, withdrawNonFungibles, lockFeeAndWithdraw,
  createProofOfAmount, createProofOfNonFungibles, deposit, depositBatch, tryDepositOrAbort,
  tryDepositBatchOrAbort, tryDepositOrRefund, setDefaultDepositRule, setResourcePreference,
  removeResourcePreference, addAuthorizedDepositor, removeAuthorizedDepositor, burn, securify]

def name : AccountMethod → String
  | lockFee => "lock_fee"
  | lockContingentFee => "lock_contingent_fee"
  | withdraw => "withdraw"
  | withdrawNonFungibles => "withdraw_non_fungibles"
  | lockFeeAndWithdraw => "lock_fee_and_withdraw"
  | createProofOfAmount => "create_proof_of_amount"
  | createProofOfNonFungibles => "create_proof_of_non_fungibles"
  | deposit => "deposit"
  | depositBatch => "deposit_batch"
  | tryDepositOrAbort => "try_deposit_or_abort"
  | tryDepositBatchOrAbort => "try_deposit_batch_or_abort"
  | tryDepositOrRefund => "try_deposit_or_refund"
  | setDefaultDepositRule => "set_default_deposit_rule"
  | setResourcePreference => "set_resource_preference"
  | removeResourcePreference => "remove_resource_preference"
  | addAuthorizedDepositor => "add_authorized_depositor"
  | removeAuthorizedDepositor => "remove_authorized_depositor"
  | burn => "burn"
  | securify => "securify"

def ofName? (name : String) : Option AccountMethod := all.find? (·.name == name)

theorem ofName?_eq_some {name : String} {method : AccountMethod} :
    ofName? name = some method ↔ method.name = name := by
  constructor
  · intro found
    simpa using List.find?_some found
  · rintro rfl
    cases method <;> decide

/-- Only deposits that the account's own rules decide on go without its signature. -/
def needsAuth : AccountMethod → Bool
  | tryDepositOrAbort | tryDepositBatchOrAbort | tryDepositOrRefund => false
  | _ => true

end AccountMethod

end LedgerWallet
