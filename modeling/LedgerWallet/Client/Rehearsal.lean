import LedgerWallet.Bytes.Hex
import LedgerWallet.Client.Flow
import LedgerWallet.Transaction.Header

/-! Surroundings that answer from a script, so that a flow can be rehearsed without a ledger. Time
passes only while a flow sleeps. -/
namespace LedgerWallet

/-- A key that signs a number of times, maybe with another key than it claims, and then refuses. -/
structure ScriptedKey where
  held : HeldKey
  actual : SecretKey
  refusal : Option SigningError
  /-- How often it still signs, where it refuses at all. -/
  patience : Nat

def ScriptedKey.sign (key : ScriptedKey) (message : Bytes 32) :
    Except SigningError KeySignature × ScriptedKey :=
  match key.refusal, key.patience with
  | some refusal, 0 => (.error refusal, key)
  | _, patience => (.ok (key.actual.sign message.toList), { key with patience := patience - 1 })

inductive GatewayCall where
  | submit (payload : String)
  | status (id : TransactionId)

structure Rehearsal where
  wallet : Wallet
  keys : List ScriptedKey
  /-- Which of the keys are asked next. After that a signer is looked up by its address. -/
  turns : List Nat
  /-- The last answer is repeated. -/
  epochs : List (Except GatewayError UInt64)
  /-- The bytes that nonces are made of, one after the other. After them come zeros. -/
  nonceBytes : List UInt8
  submissions : List (Except GatewayError Bool)
  statuses : List (Except GatewayError LedgerStatus)
  /-- Milliseconds slept so far. -/
  clock : Nat
  metrics : Metrics
  /-- The calls that reached the gateway, newest first. -/
  calls : List GatewayCall

namespace Rehearsal

def new (wallet : Wallet) : Rehearsal where
  wallet := wallet
  keys := []
  turns := []
  epochs := []
  nonceBytes := []
  submissions := []
  statuses := []
  clock := 0
  metrics := .empty
  calls := []

def takeEpoch (r : Rehearsal) : Except GatewayError UInt64 × Rehearsal :=
  match r.epochs with
  | [] => (.error (.transport "no epoch"), r)
  | [last] => (last, r)
  | next :: rest => (next, { r with epochs := rest })

def takeNonce (r : Rehearsal) : UInt64 × Rehearsal :=
  (UInt64.ofNat (LittleEndian.decode (r.nonceBytes.take Header.nonceLength)),
    { r with nonceBytes := r.nonceBytes.drop Header.nonceLength })

def takeSubmission (r : Rehearsal) (payload : String) : Except GatewayError Bool × Rehearsal :=
  (r.submissions.headD (.ok false),
    { r with submissions := r.submissions.tail, calls := .submit payload :: r.calls })

def takeStatus (r : Rehearsal) (id : TransactionId) : Except GatewayError LedgerStatus × Rehearsal :=
  (r.statuses.headD (.ok .pending),
    { r with statuses := r.statuses.tail, calls := .status id :: r.calls })

/-- Whose turn it is to sign, as an index into the keys. -/
def turn? (r : Rehearsal) (signer : Signer) : Option Nat :=
  match r.turns with
  | index :: _ => some index
  | [] => r.keys.findIdx? (·.held.address = signer.address)

def sign (r : Rehearsal) (signer : Signer) (message : Bytes 32) :
    Except SigningError KeySignature × Rehearsal :=
  match (r.turn? signer).bind fun index => r.keys[index]?.map (index, ·) with
  | some (index, key) =>
    let (answer, key) := key.sign message
    (answer, { r with keys := r.keys.set index key, turns := r.turns.tail })
  | none =>
    match r.wallet.find? signer.address with
    | some held => (.ok (held.secret.sign message.toList), r)
    | none => (.error (.unavailable "no such key"), r)

/-- Thirty years, each of 365 days, in milliseconds. No sleep lasts longer. -/
def longestSleep : Nat := 30 * 365 * 24 * 60 * 60 * 1000

def answer (request : Request) : StateM Rehearsal request.Answer := fun r =>
  match request with
  | .network => (r.wallet.network, r)
  | .accounts => (r.wallet.accounts, r)
  | .signers network addresses => (r.wallet.signersFor network addresses, r)
  | .sign signer message => r.sign signer message
  | .epoch => r.takeEpoch
  | .nonce => r.takeNonce
  | .submit payload => r.takeSubmission payload
  | .status id => r.takeStatus id
  | .sleep milliseconds => ((), { r with clock := r.clock + min milliseconds longestSleep })
  | .clock => (r.clock, r)
  | .count event => ((), { r with metrics := r.metrics.record event })
  | .warn _ _ => ((), r)

def perform {α : Type} (r : Rehearsal) (flow : Flow α) : α × Rehearsal := flow.run answer r

end Rehearsal

end LedgerWallet
