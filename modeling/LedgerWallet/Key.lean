import LedgerWallet.Bytes.Hex
import LedgerWallet.Ed25519.Signature
import LedgerWallet.Hash.Blake3
import LedgerWallet.Text.Blank

/-! Signing keys, public keys and signatures, and their texts in base 16. -/
namespace LedgerWallet

inductive KeyError where
  | secretKey
  | publicKey
  | signature
deriving DecidableEq, Repr

def KeyError.message : KeyError → String
  | secretKey => "invalid secret key bytes: wrong length or not valid hex"
  | publicKey => "invalid public key bytes: not a valid Ed25519 point"
  | signature => "invalid signature bytes: expected 64 bytes"

/-- The hash under which an entity stores a key that owns it. -/
structure KeyHash where
  bytes : Bytes 29
deriving DecidableEq

structure PublicKey where
  bytes : Bytes 32
deriving DecidableEq, Inhabited

/-- The bytes of a signature. Only 64 bytes can be one, but a payload may carry any number. -/
structure Signature where
  bytes : List UInt8
deriving DecidableEq

/-- A signature with the key that claims to have made it. -/
structure KeySignature where
  publicKey : PublicKey
  signature : Signature
deriving DecidableEq

structure SecretKey where
  seed : Bytes 32
deriving DecidableEq

/-- The last 29 bytes of the BLAKE3 hash of some bytes. -/
def shortHash (bytes : List UInt8) : Bytes 29 := (blake3 bytes).takeLast 29 (by decide)

namespace Signature

def text (signature : Signature) : String := Hex.text signature.bytes

/-- Both ends of the text, or all of a text that is short. -/
def abbreviation (signature : Signature) : String :=
  let digits := Hex.encode signature.bytes
  if 128 ≤ digits.length then
    String.ofList (digits.take 8 ++ "...".toList ++ digits.drop 120)
  else String.ofList digits

def parse (text : String) : Except KeyError Signature :=
  match Hex.decode? text.toList with
  | some bytes => if bytes.length = 64 then .ok ⟨bytes⟩ else .error .signature
  | none => .error .signature

end Signature

namespace PublicKey

def text (key : PublicKey) : String := Hex.text key.bytes.toList

instance : ToString PublicKey := ⟨text⟩

def abbreviation (key : PublicKey) : String := String.ofList ((Hex.encode key.bytes.toList).take 16)

def hash (key : PublicKey) : KeyHash := ⟨shortHash key.bytes.toList⟩

def verify (key : PublicKey) (message : List UInt8) (signature : Signature) : Bool :=
  match Bytes.ofList? 64 signature.bytes with
  | some bytes => Ed25519.verify key.bytes message bytes
  | none => false

/-- Takes only bytes that are a point of the curve. -/
def parse (text : String) : Except KeyError PublicKey :=
  match (Hex.decode? text.toList).bind (Bytes.ofList? 32) with
  | some bytes => if Ed25519.isKey bytes.toList then .ok ⟨bytes⟩ else .error .publicKey
  | none => .error .publicKey

end PublicKey

def KeyHash.text (hash : KeyHash) : String := Hex.text hash.bytes.toList

def KeySignature.verify (s : KeySignature) (message : List UInt8) : Bool :=
  s.publicKey.verify message s.signature

namespace SecretKey

def publicKey (key : SecretKey) : PublicKey := ⟨Ed25519.publicKey key.seed⟩

def sign (key : SecretKey) (message : List UInt8) : KeySignature :=
  ⟨key.publicKey, ⟨(Ed25519.sign key.seed message).toList⟩⟩

/-- White space around the digits is ignored. -/
def parse (text : String) : Except KeyError SecretKey :=
  match (Hex.decode? (Text.trim text.toList)).bind (Bytes.ofList? 32) with
  | some seed => .ok ⟨seed⟩
  | none => .error .secretKey

end SecretKey

end LedgerWallet
