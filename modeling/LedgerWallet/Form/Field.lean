import LedgerWallet.Client.ConfigText
import LedgerWallet.Failure
import LedgerWallet.Gateway.Status
import LedgerWallet.Manifest.Call
import LedgerWallet.Manifest.Json
import LedgerWallet.Transaction.Payload

/-! Forms: JSON objects that say what is wanted. Fields are read in an order, and the first fault
decides. A field that may be left out may also be null. -/
namespace LedgerWallet

/-- Why a form cannot be used. -/
inductive FormError where
  /-- The field is missing, or it holds nothing of its kind. -/
  | field (name : String)
  | address (e : AddressError)
  | amount (e : AmountError)
  | key (e : KeyError)
  | tokenId (e : IdError)
  | transactionId (e : TransactionId.ParseError)
  | manifest (e : ManifestError)
  | failure (cause : Failure)
deriving DecidableEq

def FormError.message : FormError → String
  | field name => name
  | address e => e.message
  | amount e => e.message
  | key e => e.message
  | tokenId e => e.message
  | transactionId e => e.message
  | manifest e => e.message
  | failure cause => cause.message

abbrev Form := Json

/-- How the field of a name holds a value. -/
class FormField (α : Type) where
  read : (name : String) → Json → Except FormError α

namespace Form

variable {α ε : Type}

def need (name : String) : Option α → Except FormError α
  | some value => .ok value
  | none => .error (.field name)

def holds (form : Form) (name : String) : Bool := (form.get? name).isSome

/-- What the field holds, unless that is null. -/
def entry? (form : Form) (name : String) : Option Json := (form.get? name).filter (!·.isNull)

def read [FormField α] (form : Form) (name : String) : Except FormError α := do
  FormField.read name (← need name (form.get? name))

def read? [FormField α] (form : Form) (name : String) : Except FormError (Option α) :=
  (form.entry? name).mapM (FormField.read name)

def readD [FormField α] (form : Form) (name : String) (default : α) : Except FormError α := do
  return (← form.read? name).getD default

/-- The items of a list. A list that is left out is empty. -/
def listOf (item : Json → Except FormError α) (form : Form) (name : String) :
    Except FormError (List α) := do
  match form.entry? name with
  | none => return []
  | some list => (← need name list.array?).mapM item

def list [FormField α] (form : Form) (name : String) : Except FormError (List α) :=
  listOf (FormField.read name) form name

end Form

namespace FormField

variable {α ε : Type}

@[reducible] def direct (read? : Json → Option α) : FormField α where
  read name json := Form.need name (read? json)

@[reducible] def named (read? : String → Option α) : FormField α :=
  direct fun json => json.string?.bind read?

/-- One of several alternatives that nothing comes with. -/
@[reducible] def alternative (read? : String → Option α) : FormField α :=
  direct fun json => json.alternative?.bind read?

/-- A text whose faults are faults of their own. -/
@[reducible] def parsed (parse : String → Except ε α) (fault : ε → FormError) : FormField α where
  read name json := do (parse (← Form.need name json.string?)).mapError fault

def bytes? (text : String) : Option (List UInt8) := Hex.decode? text.toList

/-- A number, or the numeral of one. -/
def natural? : Json → Option Nat
  | .string numeral => Text.below? UInt64.size numeral.toList
  | json => json.below? UInt64.size

@[inherit_doc natural?]
def integer? : Json → Option Int
  | .string numeral => Text.integer? numeral.toList
  | .number (.natural n) => some n.toNat
  | .number (.negative n) => some (-(n.toNat : Int))
  | _ => none

def float? : Json → Option Float
  | .number (.natural n) => some (Float.ofNat n.toNat)
  | .number (.negative n) => some (-(Float.ofNat n.toNat))
  | .number (.float value) => some value
  | _ => none

instance : FormField Json := direct some
instance : FormField String := direct Json.string?
instance : FormField Bool := direct Json.bool?
instance : FormField Nat := direct natural?
instance : FormField Float := direct float?
instance : FormField UInt8 := direct Json.byte?
instance : FormField UInt16 := direct fun json => (json.below? UInt16.size).map UInt16.ofNat
instance : FormField UInt32 := direct Json.uint32?
instance : FormField UInt64 := direct fun json => (natural? json).map UInt64.ofNat
instance : FormField (List UInt8) := named bytes?
instance {n : Nat} : FormField (Bytes n) := named fun text => (bytes? text).bind (Bytes.ofList? n)
instance : FormField Network := direct Network.ofJson?
instance : FormField EntityKind := named EntityKind.ofName?
instance : FormField Bucket := direct Bucket.ofJson?
instance : FormField Value := direct Value.ofJson?
instance : FormField (List Value) := direct (Json.listOf? Value.ofJson?)
instance : FormField Instruction := direct Instruction.ofJson?
instance : FormField (List Instruction) := direct (Json.listOf? Instruction.ofJson?)
instance : FormField Manifest := direct Manifest.ofJson?
instance : FormField DepositRule := named DepositRule.ofName?
instance : FormField ResourcePreference := named ResourcePreference.ofName?
instance : FormField FailureCategory := alternative FailureCategory.ofJsonName?
instance : FormField LedgerStatus := alternative LedgerStatus.ofName?
instance : FormField PollStrategy := direct fun json => (PollStrategy.parse json.render).toOption
instance : FormField ClientConfig := direct fun json => (ClientConfig.parse json.render).toOption
instance : FormField Address := parsed Address.parse .address
instance : FormField Amount := parsed Amount.parse .amount
instance : FormField SecretKey := parsed SecretKey.parse .key
instance : FormField PublicKey := parsed PublicKey.parse .key
instance : FormField Signature := parsed Signature.parse .key
instance : FormField LocalId := parsed LocalId.parse .tokenId
instance : FormField GlobalId := parsed GlobalId.parse .tokenId
instance : FormField TransactionId := parsed TransactionId.parse .transactionId

/-- The kinds of payloads go by the names of what they carry. -/
instance : FormField PayloadKind := named fun name =>
  match name with
  | "intent" => some .intent
  | "signed_intent" => some .signedIntent
  | "notarized" => some .notarized
  | _ => none

end FormField

namespace Form

def flag (form : Form) (name : String) : Except FormError Bool := form.readD name false

/-- A public key, which need not be a point of the curve if the form says so. -/
def publicKey (form : Form) : Except FormError PublicKey := do
  if ← form.flag "unchecked" then PublicKey.mk <$> form.read "public_key"
  else form.read "public_key"

/-- An amount given by its attos. -/
def attos (form : Form) (name : String) : Except FormError Amount := do
  need name ((form.get? name).bind fun json => (FormField.integer? json).bind Amount.ofInt?)

end Form

end LedgerWallet
