import LedgerWallet.Binary.Basic
import LedgerWallet.Manifest.Basic

/-! The binary form of manifests and of what they are made of. Addresses are texts, amounts are
sixteen-byte counts of attos in two's complement. -/
namespace LedgerWallet.Binary

def writeAmount (amount : Amount) : List UInt8 :=
  LittleEndian.encode 16 (amount.attos % 0x100000000000000000000000000000000).toNat

def amountOf (n : Nat) : Amount :=
  if h : n < 0x80000000000000000000000000000000 then .ofNat n h
  else if h : n < 0x100000000000000000000000000000000 then
    ⟨(n : Int) - 0x100000000000000000000000000000000, by omega, by omega⟩
  else Amount.zero

def readAmount : Reader Amount := do return amountOf (← readNat 16)

def writeNetwork (network : Network) : List UInt8 := writeU8 network.id

def readNetwork : Reader Network := do return ⟨← readU8⟩

def writeBucket (bucket : Bucket) : List UInt8 := writeText bucket.name

def readBucket : Reader Bucket := do return ⟨← readText⟩

def writeLocalId : LocalId → List UInt8
  | .integer value => writeVariant 0 ++ writeU64 value
  | .string name => writeVariant 1 ++ writeText name
  | .bytes value => writeVariant 2 ++ writeBytes value
  | .random value => writeVariant 3 ++ value.toList

def readLocalId : Reader LocalId := do
  match ← readVariant with
  | 0 => return .integer (← readU64)
  | 1 => return .string (← readText)
  | 2 => return .bytes (← readCountedBytes)
  | 3 => return .random (← readFixed 32)
  | other => fail (.badVariant other 4)

def writeGlobalId (id : GlobalId) : List UInt8 := writeAddress id.resource ++ writeLocalId id.localId

def readGlobalId : Reader GlobalId := do return ⟨← readAddress, ← readLocalId⟩

def writeScalar : Scalar → List UInt8
  | .bool value => writeVariant 0 ++ writeBool value
  | .u8 value => writeVariant 1 ++ writeU8 value
  | .u32 value => writeVariant 2 ++ writeU32 value
  | .u64 value => writeVariant 3 ++ writeU64 value
  | .string value => writeVariant 4 ++ writeText value
  | .amount value => writeVariant 5 ++ writeAmount value
  | .address value => writeVariant 6 ++ writeAddress value
  | .bucket value => writeVariant 7 ++ writeBucket value
  | .localId value => writeVariant 11 ++ writeLocalId value
  | .entireWorktop => writeVariant 12 ++ writeVariant 0
  | .blob value => writeVariant 13 ++ value.hash.toList
  | .keyHash value => writeVariant 14 ++ value.bytes.toList

/-- The scalar at an index of the fifteen alternatives of an argument. -/
def readScalar (index : Nat) : Reader Scalar := do
  match index with
  | 0 => return .bool (← readBool)
  | 1 => return .u8 (← readU8)
  | 2 => return .u32 (← readU32)
  | 3 => return .u64 (← readU64)
  | 4 => return .string (← readText)
  | 5 => return .amount (← readAmount)
  | 6 => return .address (← readAddress)
  | 7 => return .bucket (← readBucket)
  | 11 => return .localId (← readLocalId)
  | 12 =>
    match ← readVariant with
    | 0 => return .entireWorktop
    | other => fail (.badVariant other 1)
  | 13 => return .blob ⟨← readFixed 32⟩
  | 14 => return .keyHash ⟨← readFixed 29⟩
  | other => fail (.badVariant other 15)

def writeShape : Shape → List UInt8
  | .variant discriminator => writeVariant 8 ++ writeU8 discriminator
  | .tuple => writeVariant 9
  | .array => writeVariant 10

mutual

def writeValue : Value → List UInt8
  | .scalar value => writeScalar value
  | .compound shape parts => writeShape shape ++ writeCount parts.length ++ writeParts parts

def writeParts : List Value → List UInt8
  | [] => []
  | value :: rest => writeValue value ++ writeParts rest

end

def readShape? (index : Nat) : Option (Reader Shape) :=
  match index with
  | 8 => some do return .variant (← readU8)
  | 9 => some (return .tuple)
  | 10 => some (return .array)
  | _ => none

/-- Reads a value that nests less than `depth` deep. Each level takes at least four bytes, so a depth
above the length of the input is never used up. -/
def readValueWithin : (depth : Nat) → Reader Value
  | 0 => fail .endOfInput
  | depth + 1 => do
    let index ← readVariant
    match readShape? index with
    | some shape => return .compound (← shape) (← readList (readValueWithin depth))
    | none => return .scalar (← readScalar index)

def readValue : Reader Value := fun input => readValueWithin (input.length + 1) input

def writeInstruction : Instruction → List UInt8
  | .take resource amount into =>
    writeVariant 0 ++ writeAddress resource ++ writeAmount amount ++ writeBucket into
  | .takeNonFungibles resource ids into =>
    writeVariant 1 ++ writeAddress resource ++ writeList writeLocalId ids ++ writeBucket into
  | .takeAll resource into => writeVariant 2 ++ writeAddress resource ++ writeBucket into
  | .assertContains resource amount => writeVariant 3 ++ writeAddress resource ++ writeAmount amount
  | .callFunction package blueprint function args =>
    writeVariant 4 ++ writeAddress package ++ writeText blueprint ++ writeText function ++
      writeList writeValue args
  | .callMethod receiver method args =>
    writeVariant 5 ++ writeAddress receiver ++ writeText method ++ writeList writeValue args
  | .setMetadata target key value =>
    writeVariant 6 ++ writeAddress target ++ writeText key ++ writeValue value

def readInstruction : Reader Instruction := do
  match ← readVariant with
  | 0 => return .take (← readAddress) (← readAmount) (← readBucket)
  | 1 => return .takeNonFungibles (← readAddress) (← readList readLocalId) (← readBucket)
  | 2 => return .takeAll (← readAddress) (← readBucket)
  | 3 => return .assertContains (← readAddress) (← readAmount)
  | 4 => return .callFunction (← readAddress) (← readText) (← readText) (← readList readValue)
  | 5 => return .callMethod (← readAddress) (← readText) (← readList readValue)
  | 6 => return .setMetadata (← readAddress) (← readText) (← readValue)
  | other => fail (.badVariant other 7)

def writeBody : Manifest.Body → List UInt8
  | .instructions list => writeVariant 0 ++ writeList writeInstruction list
  | .text text => writeVariant 1 ++ writeText text

def readBody : Reader Manifest.Body := do
  match ← readVariant with
  | 0 => return .instructions (← readList readInstruction)
  | 1 => return .text (← readText)
  | other => fail (.badVariant other 2)

def writeManifest (manifest : Manifest) : List UInt8 :=
  writeNetwork manifest.network ++ writeBody manifest.body ++ writeList writeBytes manifest.blobs

def readManifest : Reader Manifest := do
  return ⟨← readNetwork, ← readBody, ← readList readCountedBytes⟩

end LedgerWallet.Binary
