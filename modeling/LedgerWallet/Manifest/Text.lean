import LedgerWallet.Manifest.Basic
import LedgerWallet.Text.Quoted

/-! The text of a manifest. -/
namespace LedgerWallet

def Bucket.text (bucket : Bucket) : String := "Bucket(\"" ++ bucket.name ++ "\")"

/-- A constructor around a text that needs no escapes. -/
def wrapped (name text : String) : String := name ++ "(\"" ++ text ++ "\")"

def quoted (text : String) : String := String.ofList (Text.quote text.toList)

def Scalar.text : Scalar → String
  | bool value => toString value
  | u8 value => toString value ++ "u8"
  | u32 value => toString value ++ "u32"
  | u64 value => toString value ++ "u64"
  | string value => quoted value
  | amount value => wrapped "Decimal" value.text
  | address value => wrapped "Address" value.text
  | bucket value => value.text
  | localId value => wrapped "NonFungibleLocalId" value.text
  | entireWorktop => wrapped "Expression" "ENTIRE_WORKTOP"
  | blob value => wrapped "Blob" (Hex.text value.hash.toList)
  | keyHash value => wrapped "PublicKeyHash" value.text

def Shape.text : Shape → String
  | variant discriminator => "Enum<" ++ toString discriminator ++ "u8>"
  | tuple => "Tuple"
  | array => "Array"

namespace Value

mutual

def text : Value → String
  | scalar value => value.text
  | compound shape parts => shape.text ++ "(" ++ textOf parts ++ ")"

def textOf : List Value → String
  | [] => ""
  | [value] => value.text
  | value :: rest => value.text ++ ", " ++ textOf rest

end

end Value

namespace Instruction

def name : Instruction → String
  | take _ _ _ => "TAKE_FROM_WORKTOP"
  | takeNonFungibles _ _ _ => "TAKE_NON_FUNGIBLES_FROM_WORKTOP"
  | takeAll _ _ => "TAKE_ALL_FROM_WORKTOP"
  | assertContains _ _ => "ASSERT_WORKTOP_CONTAINS"
  | callFunction _ _ _ _ => "CALL_FUNCTION"
  | callMethod _ _ _ => "CALL_METHOD"
  | setMetadata _ _ _ => "SET_METADATA"

def idsText (ids : List LocalId) : String :=
  "Array<NonFungibleLocalId>(" ++
    ", ".intercalate (ids.map fun id => wrapped "NonFungibleLocalId" id.text) ++ ")"

/-- The operands after the subject. -/
def operands : Instruction → List String
  | take _ amount into => [wrapped "Decimal" amount.text, into.text]
  | takeNonFungibles _ ids into => [idsText ids, into.text]
  | takeAll _ into => [into.text]
  | assertContains _ amount => [wrapped "Decimal" amount.text]
  | callFunction _ blueprint function args =>
    quoted blueprint :: quoted function :: args.map Value.text
  | callMethod _ method args => quoted method :: args.map Value.text
  | setMetadata _ key value => [quoted key, value.text]

/-- The name, a line for each operand, and a semicolon. -/
def text (instruction : Instruction) : String :=
  let operands := wrapped "Address" instruction.subject.text :: instruction.operands
  instruction.name ++ "\n" ++ String.join (operands.map fun operand => "    " ++ operand ++ "\n") ++
    ";\n"

end Instruction

namespace Manifest

def bodyText (manifest : Manifest) : String :=
  match manifest.body with
  | .instructions list => String.join (list.map Instruction.text)
  | .text text => if text.toList.getLast? = some '\n' then text else text ++ "\n"

/-- Blobs are only counted. -/
def blobsText (blobs : List (List UInt8)) : String :=
  if blobs.isEmpty then ""
  else "BLOBS\n" ++ String.join (blobs.zipIdx.map fun (blob, index) =>
    s!"BLOB[{index}]: #{blob.length} bytes\n")

def text (manifest : Manifest) : String := manifest.bodyText ++ blobsText manifest.blobs

end Manifest

end LedgerWallet
