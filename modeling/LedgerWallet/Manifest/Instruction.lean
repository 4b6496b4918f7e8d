import LedgerWallet.Manifest.AccountMethod
import LedgerWallet.Manifest.Value

/-! Manifest instructions. -/
namespace LedgerWallet

inductive Instruction where
  /-- Moves an amount from the worktop into a new bucket. -/
  | take (resource : Address) (amount : Amount) (into : Bucket)
  | takeNonFungibles (resource : Address) (ids : List LocalId) (into : Bucket)
  | takeAll (resource : Address) (into : Bucket)
  | assertContains (resource : Address) (amount : Amount)
  | callFunction (package : Address) (blueprint function : String) (args : List Value)
  | callMethod (receiver : Address) (method : String) (args : List Value)
  | setMetadata (target : Address) (key : String) (value : Value)
deriving DecidableEq

namespace Instruction

def callAccount (account : Address) (method : AccountMethod) (args : List Value) : Instruction :=
  callMethod account method.name args

/-- Makes the account pay the fee, up to an amount. -/
def lockFee (account : Address) (amount : Amount) : Instruction :=
  callAccount account .lockFee [.ofAmount amount]

def args : Instruction → List Value
  | callFunction _ _ _ args => args
  | callMethod _ _ args => args
  | setMetadata _ _ value => [value]
  | _ => []

/-- The resource, package or entity that the instruction is about. -/
def subject : Instruction → Address
  | take resource _ _ => resource
  | takeNonFungibles resource _ _ => resource
  | takeAll resource _ => resource
  | assertContains resource _ => resource
  | callFunction package _ _ _ => package
  | callMethod receiver _ _ => receiver
  | setMetadata target _ _ => target

def newBucket? : Instruction → Option Bucket
  | take _ _ into => some into
  | takeNonFungibles _ _ into => some into
  | takeAll _ into => some into
  | _ => none

/-- The buckets among the arguments, in their order. -/
def consumedBuckets (instruction : Instruction) : List Bucket :=
  instruction.args.flatMap Value.buckets

/-- The subject, and then the addresses among the arguments. -/
def addresses (instruction : Instruction) : List Address :=
  instruction.subject :: instruction.args.flatMap Value.addresses

/-- The account whose signature the instruction needs. -/
def authTarget? : Instruction → Option Address
  | callMethod receiver method _ =>
    if receiver.isAccount && (AccountMethod.ofName? method).any AccountMethod.needsAuth then
      some receiver
    else none
  | _ => none

end Instruction

end LedgerWallet
