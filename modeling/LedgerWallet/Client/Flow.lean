import LedgerWallet.Gateway.Status
import LedgerWallet.Metrics
import LedgerWallet.Wallet

/-! A flow of work, as the requests it makes and what it does with each answer. Wallet, signers,
ledger, gateway and clock are all on the other side of the requests, so the answers alone decide what
a flow does. -/
namespace LedgerWallet

inductive Request where
  /-- The network that the wallet is on. -/
  | network
  /-- The accounts of the wallet, the first one first. -/
  | accounts
  | signers (network : Network) (addresses : List Address)
  | sign (signer : Signer) (message : Bytes 32)
  /-- The current epoch of the ledger. -/
  | epoch
  /-- A number that was not drawn before. -/
  | nonce
  /-- Hands a payload, in base 16, to the gateway. -/
  | submit (payload : String)
  | status (id : TransactionId)
  | sleep (milliseconds : Nat)
  /-- Milliseconds since some moment in the past. -/
  | clock
  | count (event : Event)
  /-- Tells whoever watches how many queries for a status have failed in a row. -/
  | warn (id : TransactionId) (failures : UInt32)
deriving DecidableEq

/-- A gateway answers a payload with whether it had it before. -/
@[reducible] def Request.Answer : Request → Type
  | network => Network
  | accounts => List Address
  | signers _ _ => List Signer
  | sign _ _ => Except SigningError KeySignature
  | epoch => Except GatewayError UInt64
  | nonce => UInt64
  | submit _ => Except GatewayError Bool
  | status _ => Except GatewayError LedgerStatus
  | sleep _ => Unit
  | clock => Nat
  | count _ => Unit
  | warn _ _ => Unit

inductive Flow (α : Type) where
  | done (value : α)
  | ask (request : Request) (next : request.Answer → Flow α)

namespace Flow

variable {α β γ : Type}

def bind (flow : Flow α) (f : α → Flow β) : Flow β :=
  match flow with
  | done value => f value
  | ask request next => ask request fun answer => (next answer).bind f

instance : Monad Flow where
  pure := done
  bind := bind

@[simp] theorem pure_eq (value : α) : (pure value : Flow α) = done value := rfl

@[simp] theorem done_bind (value : α) (f : α → Flow β) : done value >>= f = f value := rfl

@[simp] theorem ask_bind (request : Request) (next : request.Answer → Flow α) (f : α → Flow β) :
    ask request next >>= f = ask request fun answer => next answer >>= f := rfl

theorem bind_done (flow : Flow α) : flow >>= done = flow := by
  induction flow with
  | done value => rfl
  | ask request next ih => simp [ih]

theorem bind_bind (flow : Flow α) (f : α → Flow β) (g : β → Flow γ) :
    flow >>= f >>= g = flow >>= fun value => f value >>= g := by
  induction flow with
  | done value => rfl
  | ask request next ih => simp [ih]

instance : LawfulMonad Flow := LawfulMonad.mk' Flow bind_done (fun _ _ => rfl) bind_bind

def request (r : Request) : Flow r.Answer := ask r done

/-- Carries a flow out, given what answers the requests. -/
def run {m : Type → Type} [Monad m] (answer : (r : Request) → m r.Answer) : Flow α → m α
  | done value => pure value
  | ask request next => answer request >>= fun value => (next value).run answer

end Flow

/-- A flow that may end in a failure. -/
abbrev Action := ExceptT Failure Flow

def Action.request (r : Request) : Action r.Answer := ExceptT.lift (Flow.request r)

end LedgerWallet
