import LedgerWallet.Json.Basic
import LedgerWallet.Manifest.Basic

/-! The JSON form of manifests. A choice is an object with one member, named for the alternative; a
record is an object of its fields. -/
namespace LedgerWallet

namespace Json

/-- The alternative and what comes with it. An alternative alone may be a string. -/
def choice? : Json → Option (String × Option Json)
  | string name => some (name, none)
  | object [(name, value)] => some (name, some value)
  | _ => none

/-- An alternative that nothing comes with. -/
def alternative? (json : Json) : Option String :=
  match json.choice? with
  | some (name, none) => some name
  | some (name, some null) => some name
  | _ => none

/-- The fields of a record, in the order of their names. -/
def fields? (names : List String) (json : Json) : Option (List Json) := names.mapM json.get?

/-- The fields of a record that may also be the list of them. -/
def fieldsOrItems? (names : List String) : Json → Option (List Json)
  | array items => if items.length = names.length then some items else none
  | json => json.fields? names

def choice (name : String) (value : Json) : Json := object [(name, value)]

def listOf? {α : Type} (item : Json → Option α) (json : Json) : Option (List α) := do
  (← json.array?).mapM item

end Json

def Amount.toJson (amount : Amount) : Json := .string amount.text

def Amount.ofJson? (json : Json) : Option Amount := do (Amount.parse (← json.string?)).toOption

def Address.toJson (address : Address) : Json := .string address.text

def Address.ofJson? (json : Json) : Option Address := do (Address.parse (← json.string?)).toOption

def Bucket.toJson (bucket : Bucket) : Json := .string bucket.name

def Bucket.ofJson? (json : Json) : Option Bucket := json.string?.map Bucket.mk

def Network.toJson (network : Network) : Json := .natural network.id.toNat

def Network.ofJson? (json : Json) : Option Network := json.byte?.map Network.mk

def Bytes.ofJson? (n : Nat) (json : Json) : Option (Bytes n) := do Bytes.ofList? n (← json.bytes?)

namespace LocalId

def toJson : LocalId → Json
  | integer value => .choice "Integer" (.natural value.toNat)
  | string name => .choice "String" (.string name)
  | bytes value => .choice "Bytes" (.ofBytes value)
  | random value => .choice "Ruid" (.ofBytes value.toList)

/-- Takes any name and any bytes, also such as no text of an id can have. -/
def ofJson? (json : Json) : Option LocalId := do
  let (name, value) ← json.choice?
  let value ← value
  match name with
  | "Integer" => return integer (← value.uint64?)
  | "String" => return string (← value.string?)
  | "Bytes" => return bytes (← value.bytes?)
  | "Ruid" => return random (← Bytes.ofJson? 32 value)
  | _ => none

end LocalId

namespace Scalar

def toJson : Scalar → Json
  | bool value => .choice "Bool" (.bool value)
  | u8 value => .choice "U8" (.natural value.toNat)
  | u32 value => .choice "U32" (.natural value.toNat)
  | u64 value => .choice "U64" (.natural value.toNat)
  | string value => .choice "String" (.string value)
  | amount value => .choice "Decimal" value.toJson
  | address value => .choice "Address" value.toJson
  | bucket value => .choice "Bucket" value.toJson
  | localId value => .choice "NonFungibleLocalId" value.toJson
  | entireWorktop => .choice "Expression" (.string "EntireWorktop")
  | blob value => .choice "Blob" (.ofBytes value.hash.toList)
  | keyHash value => .choice "PublicKeyHash" (.ofBytes value.bytes.toList)

def expression? (json : Json) : Option Scalar := do
  if (← json.alternative?) = "EntireWorktop" then return entireWorktop else none

def ofJson? (name : String) (value : Json) : Option Scalar :=
  match name with
  | "Bool" => value.bool?.map bool
  | "U8" => value.byte?.map u8
  | "U32" => value.uint32?.map u32
  | "U64" => value.uint64?.map u64
  | "String" => value.string?.map string
  | "Decimal" => (Amount.ofJson? value).map amount
  | "Address" => (Address.ofJson? value).map address
  | "Bucket" => (Bucket.ofJson? value).map bucket
  | "NonFungibleLocalId" => (LocalId.ofJson? value).map localId
  | "Expression" => expression? value
  | "Blob" => (Bytes.ofJson? 32 value).map fun hash => blob ⟨hash⟩
  | "PublicKeyHash" => (Bytes.ofJson? 29 value).map fun bytes => keyHash ⟨bytes⟩
  | _ => none

end Scalar

namespace Value

mutual

def toJson : Value → Json
  | scalar value => value.toJson
  | compound shape parts =>
    let parts := Json.array (listToJson parts)
    match shape with
    | .variant discriminator => .choice "Enum"
        (.object [("discriminator", .natural discriminator.toNat), ("fields", parts)])
    | .tuple => .choice "Tuple" parts
    | .array => .choice "Array" parts

def listToJson : List Value → List Json
  | [] => []
  | value :: rest => value.toJson :: listToJson rest

end

/-- The shape and the JSON of the parts, where the alternative has parts. -/
def shape? (name : String) (value : Json) : Option (Shape × Json) :=
  match name with
  | "Enum" =>
    match value.fields? ["discriminator", "fields"] with
    | some [discriminator, parts] => discriminator.byte?.map fun byte => (.variant byte, parts)
    | _ => none
  | "Tuple" => some (.tuple, value)
  | "Array" => some (.array, value)
  | _ => none

/-- Reads values that nest less than `depth` deep. -/
def ofJsonWithin : (depth : Nat) → Json → Option Value
  | 0, _ => none
  | depth + 1, json => do
    let (name, value) ← json.choice?
    let value ← value
    match shape? name value with
    | some (shape, parts) => return compound shape (← (← parts.array?).mapM (ofJsonWithin depth))
    | none => (Scalar.ofJson? name value).map scalar

end Value

namespace Json

mutual

/-- How deep arrays and objects nest. -/
def depth : Json → Nat
  | array items => depthOfItems items + 1
  | object members => depthOfMembers members + 1
  | _ => 0

def depthOfItems : List Json → Nat
  | [] => 0
  | item :: rest => max item.depth (depthOfItems rest)

def depthOfMembers : List (String × Json) → Nat
  | [] => 0
  | (_, value) :: rest => max value.depth (depthOfMembers rest)

end

end Json

def Value.ofJson? (json : Json) : Option Value := Value.ofJsonWithin (json.depth + 1) json

namespace Instruction

def toJson : Instruction → Json
  | take resource amount into => .choice "TakeFromWorktop" (.object [
      ("resource", resource.toJson), ("amount", amount.toJson), ("new_bucket", into.toJson)])
  | takeNonFungibles resource ids into => .choice "TakeNonFungiblesFromWorktop" (.object [
      ("resource", resource.toJson), ("ids", .array (ids.map LocalId.toJson)),
      ("new_bucket", into.toJson)])
  | takeAll resource into => .choice "TakeAllFromWorktop" (.object [
      ("resource", resource.toJson), ("new_bucket", into.toJson)])
  | assertContains resource amount => .choice "AssertWorktopContains" (.object [
      ("resource", resource.toJson), ("amount", amount.toJson)])
  | callFunction package blueprint function args => .choice "CallFunction" (.object [
      ("package", package.toJson), ("blueprint", .string blueprint), ("function", .string function),
      ("args", .array (Value.listToJson args))])
  | callMethod receiver method args => .choice "CallMethod" (.object [
      ("address", receiver.toJson), ("method", .string method),
      ("args", .array (Value.listToJson args))])
  | setMetadata target key value => .choice "MetadataSet" (.object [
      ("address", target.toJson), ("key", .string key), ("value", value.toJson)])

def ofJson? (json : Json) : Option Instruction := do
  let (name, value) ← json.choice?
  let value ← value
  match name with
  | "TakeFromWorktop" =>
    match ← value.fields? ["resource", "amount", "new_bucket"] with
    | [resource, amount, into] =>
      return take (← Address.ofJson? resource) (← Amount.ofJson? amount) (← Bucket.ofJson? into)
    | _ => none
  | "TakeNonFungiblesFromWorktop" =>
    match ← value.fields? ["resource", "ids", "new_bucket"] with
    | [resource, ids, into] =>
      return takeNonFungibles (← Address.ofJson? resource) (← Json.listOf? LocalId.ofJson? ids)
        (← Bucket.ofJson? into)
    | _ => none
  | "TakeAllFromWorktop" =>
    match ← value.fields? ["resource", "new_bucket"] with
    | [resource, into] => return takeAll (← Address.ofJson? resource) (← Bucket.ofJson? into)
    | _ => none
  | "AssertWorktopContains" =>
    match ← value.fields? ["resource", "amount"] with
    | [resource, amount] =>
      return assertContains (← Address.ofJson? resource) (← Amount.ofJson? amount)
    | _ => none
  | "CallFunction" =>
    match ← value.fields? ["package", "blueprint", "function", "args"] with
    | [package, blueprint, function, args] =>
      return callFunction (← Address.ofJson? package) (← blueprint.string?) (← function.string?)
        (← Json.listOf? Value.ofJson? args)
    | _ => none
  | "CallMethod" =>
    match ← value.fields? ["address", "method", "args"] with
    | [receiver, method, args] =>
      return callMethod (← Address.ofJson? receiver) (← method.string?)
        (← Json.listOf? Value.ofJson? args)
    | _ => none
  | "MetadataSet" =>
    match ← value.fields? ["address", "key", "value"] with
    | [target, key, value] =>
      return setMetadata (← Address.ofJson? target) (← key.string?) (← Value.ofJson? value)
    | _ => none
  | _ => none

end Instruction

namespace Manifest

def Body.toJson : Body → Json
  | .instructions list => .choice "Structured" (.array (list.map Instruction.toJson))
  | .text content => .choice "Opaque" (.string content)

def Body.ofJson? (json : Json) : Option Body := do
  let (name, value) ← json.choice?
  let value ← value
  match name with
  | "Structured" => return .instructions (← Json.listOf? Instruction.ofJson? value)
  | "Opaque" => return .text (← value.string?)
  | _ => none

def toJson (manifest : Manifest) : Json := .object [
  ("network_id", manifest.network.toJson), ("instructions", manifest.body.toJson),
  ("blobs", .array (manifest.blobs.map Json.ofBytes))]

/-- Nothing is validated. -/
def ofJson? (json : Json) : Option Manifest := do
  match ← json.fieldsOrItems? ["network_id", "instructions", "blobs"] with
  | [network, body, blobs] =>
    return ⟨← Network.ofJson? network, ← Body.ofJson? body, ← Json.listOf? Json.bytes? blobs⟩
  | _ => none

end Manifest

end LedgerWallet
