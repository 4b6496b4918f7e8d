import LedgerWallet.Network
import LedgerWallet.Transaction.Id

/-! Why a transaction did not come about. Every stage has its own failure; a user is told which of
ten categories it belongs to. -/
namespace LedgerWallet

inductive Failure where
  | getEpoch (reason : String)
  | wrongNetwork (wallet request : Network)
  | convertManifest (reason : String)
  | buildHeader (reason : String)
  | noFeePayer
  | compileIntent (reason : String)
  | signIntent (reason : String)
  | prepareNotarized (reason : String)
  | compileNotarized (reason : String)
  | submit (reason : String)
  | duplicate (id : TransactionId)
  | pollTimeout (id : TransactionId)
  | rejected (id : TransactionId)
  | committedFailure (id : TransactionId)
deriving DecidableEq

inductive FailureCategory where
  | prepare
  | compile
  | sign
  | submit
  | poll
  | feePayer
  | duplicate
  | failedStatus
  | rejectedStatus
  | wrongNetwork
deriving DecidableEq, Repr

namespace FailureCategory

def all : List FailureCategory := [
  prepare, compile, sign, submit, poll, feePayer, duplicate, failedStatus, rejectedStatus,
  wrongNetwork]

def words : FailureCategory → List String
  | prepare => ["failed", "to", "prepare", "transaction"]
  | compile => ["failed", "to", "compile", "transaction"]
  | sign => ["failed", "to", "sign", "transaction"]
  | submit => ["failed", "to", "submit", "transaction"]
  | poll => ["failed", "to", "poll", "submitted", "transaction"]
  | feePayer =>
    ["failed", "to", "find", "account", "with", "enough", "funds", "to", "lock", "fee"]
  | duplicate => ["submitted", "transaction", "was", "duplicate"]
  | failedStatus => ["submitted", "transaction", "has", "failed", "transaction", "status"]
  | rejectedStatus => ["submitted", "transaction", "has", "rejected", "transaction", "status"]
  | wrongNetwork => ["wrong", "network"]

/-- The words joined by underscores, as in metrics and reports. -/
def label (category : FailureCategory) : String := "_".intercalate category.words

/-- The words run together, all but the first with a capital, as in JSON. -/
def jsonName (category : FailureCategory) : String :=
  match category.words with
  | [] => ""
  | first :: rest => first ++ String.join (rest.map String.capitalize)

def ofJsonName? (name : String) : Option FailureCategory := all.find? (·.jsonName == name)

end FailureCategory

namespace Failure

def message : Failure → String
  | getEpoch reason => s!"failed to get the current ledger epoch: {reason}"
  | wrongNetwork wallet request =>
    s!"wallet is on network {wallet.id}, request targets network {request.id}"
  | convertManifest reason => s!"failed to convert manifest: {reason}"
  | buildHeader reason => s!"failed to build transaction header: {reason}"
  | noFeePayer => "no account available to lock the transaction fee"
  | compileIntent reason => s!"failed to compile transaction intent: {reason}"
  | signIntent reason => s!"failed to sign intent with account signers: {reason}"
  | prepareNotarized reason => s!"failed to prepare notarized transaction: {reason}"
  | compileNotarized reason => s!"failed to compile notarized transaction intent: {reason}"
  | submit reason => s!"failed to submit notarized transaction: {reason}"
  | duplicate id => s!"transaction {id} was already submitted"
  | pollTimeout id => s!"gave up polling status of transaction {id}"
  | rejected id => s!"transaction {id} was rejected by the gateway"
  | committedFailure id => s!"transaction {id} was committed with a failure"

def category : Failure → FailureCategory
  | getEpoch _ | convertManifest _ | buildHeader _ => .prepare
  | wrongNetwork _ _ => .wrongNetwork
  | noFeePayer => .feePayer
  | compileIntent _ | compileNotarized _ => .compile
  | signIntent _ | prepareNotarized _ => .sign
  | submit _ => .submit
  | duplicate _ => .duplicate
  | pollTimeout _ => .poll
  | rejected _ => .rejectedStatus
  | committedFailure _ => .failedStatus

/-- The id of a transaction that reached the gateway. -/
def id? : Failure → Option TransactionId
  | duplicate id | pollTimeout id | rejected id | committedFailure id => some id
  | _ => none

/-- What the requesting application is told beside the category. -/
def detail? : Failure → Option String
  | wrongNetwork wallet request => some
    s!"Wallet is using network ID: {wallet.id}, request sent specified network ID: {request.id}"
  | failure => failure.id?.map fun id => s!"TXID: {id}"

/-- One line with the category and the detail. -/
def report (failure : Failure) : String :=
  let line := s!"{failure.message} [{failure.category.label}]"
  match failure.detail? with
  | some detail => s!"{line} {detail}"
  | none => line

end Failure

end LedgerWallet
