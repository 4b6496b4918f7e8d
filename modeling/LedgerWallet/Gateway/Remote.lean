import LedgerWallet.Gateway.Endpoint
import LedgerWallet.Text.Blank
import LedgerWallet.Url.Reading

/-! A gateway on the web. Whatever carries its calls there is a parameter: it has a reply, or says why
there is none. -/
namespace LedgerWallet

structure Remote where
  base : String
deriving DecidableEq, Repr

namespace Remote

/-- Slashes at the end of the base address do not count. -/
def new (base : String) : Remote := ⟨String.ofList (Text.trimEnd (· = '/') base.toList)⟩

/-- Hosts can have names with characters that no request can carry. -/
def isCallable (url : Url) : Bool :=
  url.authority.all fun authority => !authority.host.any ['"', '\x60', '\x7b', '\x7d'].contains

/-- Where a path leads. An address that cannot be read is not called, nor is one of another protocol. -/
def target (remote : Remote) (path : String) : Except GatewayError Url :=
  match (Url.parse? (remote.base ++ path)).map Url.called with
  | none => .error (.transport "builder error")
  | some url =>
    if ["http", "https"].contains (String.ofList url.scheme) && isCallable url then .ok url
    else .error (.transport s!"builder error for url ({url.text})")

/-- A document, and where it is posted to. -/
structure Call where
  url : Url
  body : Json

structure Reply where
  code : UInt16
  body : String
deriving DecidableEq

def Reply.isSuccess (reply : Reply) : Bool := 200 ≤ reply.code && reply.code < 300

/-- Has the replies to calls, or the reasons why there are none. -/
abbrev Web (m : Type → Type) := Call → m (Except String Reply)

/-- What a call comes to. A document that is not as promised is named, and its fault is not. -/
def conclude {α : Type} (answer : Json.Reader α) : Except String Reply → Except GatewayError α
  | .error reason => .error (.transport reason)
  | .ok reply =>
    if reply.isSuccess then
      (Json.Reader.run answer reply.body).mapError fun _ => .malformed "error decoding response body"
    else .error (.status reply.code reply.body)

/-- Nothing listens, and every call says so. -/
def silence {m : Type → Type} [Pure m] : Web m := fun call =>
  pure (.error s!"error sending request for url ({call.url.text})")

variable {m : Type → Type} [Monad m]

def post {α : Type} (remote : Remote) (web : Web m) (endpoint : Endpoint α) (body : Json) :
    m (Except GatewayError α) :=
  match remote.target endpoint.path with
  | .error e => pure (.error e)
  | .ok url => conclude endpoint.answer <$> web ⟨url, body⟩

def askEpoch (remote : Remote) (web : Web m) : m (Except GatewayError UInt64) :=
  remote.post web .epoch Endpoint.epochBody

def handIn (remote : Remote) (web : Web m) (payload : String) : m (Except GatewayError Bool) :=
  remote.post web .submission (Endpoint.submissionBody payload)

def askStatus (remote : Remote) (web : Web m) (id : TransactionId) :
    m (Except GatewayError LedgerStatus) :=
  remote.post web .status (Endpoint.statusBody id)

/-- What a question for the epoch comes to where nothing listens. -/
def currentEpoch (remote : Remote) : Except GatewayError UInt64 := remote.askEpoch (m := Id) silence

def submit (remote : Remote) (payload : String) : Except GatewayError Bool :=
  remote.handIn (m := Id) silence payload

def status (remote : Remote) (id : TransactionId) : Except GatewayError LedgerStatus :=
  remote.askStatus (m := Id) silence id

end Remote

end LedgerWallet
