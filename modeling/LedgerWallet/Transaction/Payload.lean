import LedgerWallet.Binary.Transaction

/-! Payloads: a mark, the kind of what follows, and its binary form. Ids, signatures and the bytes
sent to a gateway are all taken over payloads. -/
namespace LedgerWallet

inductive PayloadKind where
  | intent
  | signedIntent
  | notarized
deriving DecidableEq, Repr

namespace PayloadKind

def byte : PayloadKind → UInt8
  | intent => 1
  | signedIntent => 2
  | notarized => 3

def name : PayloadKind → String
  | intent => "Intent"
  | signedIntent => "SignedIntent"
  | notarized => "NotarizedTransaction"

end PayloadKind

inductive PayloadError where
  | tooShort
  | badMark (byte : UInt8)
  | wrongKind (expected : PayloadKind) (found : UInt8)
  | undecodable (fault : Binary.Fault)
  | trailing (count : Nat)
deriving DecidableEq

def PayloadError.message : PayloadError → String
  | tooShort => "payload too short"
  | badMark byte => s!"unexpected payload prefix {Text.hexByte byte}"
  | wrongKind expected found => s!"expected a {expected.name} payload, found kind byte {found}"
  | undecodable fault => s!"decoding failed: {fault.message}"
  | trailing count => s!"{count} trailing bytes after payload"

namespace Payload

def mark : UInt8 := 0x4d

def encode (kind : PayloadKind) (body : List UInt8) : List UInt8 := mark :: kind.byte :: body

def decode {α : Type} (kind : PayloadKind) (reader : Binary.Reader α) :
    List UInt8 → Except PayloadError α
  | first :: second :: body =>
    if first ≠ mark then .error (.badMark first)
    else if second ≠ kind.byte then .error (.wrongKind kind second)
    else match reader body with
      | .error fault => .error (.undecodable fault)
      | .ok (value, []) => .ok value
      | .ok (_, rest) => .error (.trailing rest.length)
  | _ => .error .tooShort

end Payload

namespace Intent

def payload (intent : Intent) : List UInt8 := Payload.encode .intent (Binary.writeIntent intent)

def id (intent : Intent) : TransactionId := TransactionId.ofCompiled intent.payload

end Intent

namespace SignedIntent

def payload (signed : SignedIntent) : List UInt8 :=
  Payload.encode .signedIntent (Binary.writeSignedIntent signed)

/-- What the notary signs. -/
def hash (signed : SignedIntent) : Bytes 32 := doubleSha256 signed.payload

end SignedIntent

namespace Notarized

def payload (notarized : Notarized) : List UInt8 :=
  Payload.encode .notarized (Binary.writeNotarized notarized)

def ofPayload (bytes : List UInt8) : Except PayloadError Notarized :=
  Payload.decode .notarized Binary.readNotarized bytes

def id (notarized : Notarized) : TransactionId := notarized.signed.intent.id

/-- Every account signed the id, and the notary of the header signed what they signed. -/
def verifies (notarized : Notarized) : Bool :=
  let signed := notarized.signed
  signed.signatures.all (·.verify notarized.id.bytes.toList) &&
    signed.intent.header.notary.verify signed.hash.toList notarized.notarySignature

end Notarized

end LedgerWallet
