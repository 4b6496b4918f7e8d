import LedgerWallet.Address.Text
import LedgerWallet.Text.Utf8
import LedgerWallet.Transaction.Id

/-! The binary form of values: numbers little-endian in a fixed width, counts before lists and texts
in eight bytes, alternatives by a four-byte index. Every writer has a reader beside it that takes
what was written off the front of its input. -/
namespace LedgerWallet.Binary

inductive Fault where
  | endOfInput
  | badBool (byte : UInt8)
  | badVariant (found count : Nat)
  | badText (fault : Utf8.Fault)
  | badAddress (e : AddressError)
  | badId (e : TransactionId.ParseError)
deriving DecidableEq

def Fault.message : Fault → String
  | endOfInput => "io error: failed to fill whole buffer"
  | badBool byte => s!"invalid u8 while decoding bool, expected 0 or 1, found {byte}"
  | badVariant found count =>
    s!"invalid value: integer `{found}`, expected variant index 0 <= i < {count}"
  | badText fault => s!"string is not valid utf8: {fault.message}"
  | badAddress e => e.message
  | badId e => e.message

abbrev Reader := StateT (List UInt8) (Except Fault)

def fail {α : Type} (fault : Fault) : Reader α := fun _ => .error fault

/-- The next `count` bytes. -/
def readBytes (count : Nat) : Reader (List UInt8) := fun input =>
  let taken := input.take count
  if taken.length < count then .error .endOfInput else .ok (taken, input.drop count)

def readFixed (n : Nat) : Reader (Bytes n) := fun input =>
  match Bytes.ofList? n (input.take n) with
  | some bytes => .ok (bytes, input.drop n)
  | none => .error .endOfInput

def readNat (width : Nat) : Reader Nat := do return LittleEndian.decode (← readBytes width)

def writeU8 (value : UInt8) : List UInt8 := [value]

def readU8 : Reader UInt8 := do return UInt8.ofNat (← readNat 1)

def writeU16 (value : UInt16) : List UInt8 := LittleEndian.encode 2 value.toNat

def readU16 : Reader UInt16 := do return UInt16.ofNat (← readNat 2)

def writeU32 (value : UInt32) : List UInt8 := LittleEndian.encode 4 value.toNat

def readU32 : Reader UInt32 := do return UInt32.ofNat (← readNat 4)

def writeU64 (value : UInt64) : List UInt8 := LittleEndian.encode 8 value.toNat

def readU64 : Reader UInt64 := do return UInt64.ofNat (← readNat 8)

def writeBool (value : Bool) : List UInt8 := [if value then 1 else 0]

def readBool : Reader Bool := do
  let byte ← readU8
  if byte = 0 then return false
  else if byte = 1 then return true
  else fail (.badBool byte)

def writeCount (count : Nat) : List UInt8 := LittleEndian.encode 8 count

def readCount : Reader Nat := readNat 8

def writeBytes (bytes : List UInt8) : List UInt8 := writeCount bytes.length ++ bytes

def readCountedBytes : Reader (List UInt8) := do readBytes (← readCount)

def writeText (text : String) : List UInt8 := writeBytes (Utf8.encode text)

def readText : Reader String := do
  match Utf8.decode (← readCountedBytes) with
  | .ok text => return text
  | .error fault => fail (.badText fault)

def writeList {α : Type} (item : α → List UInt8) (list : List α) : List UInt8 :=
  writeCount list.length ++ list.flatMap item

def readMany {α : Type} (item : Reader α) : (count : Nat) → Reader (List α)
  | 0 => return []
  | count + 1 => do
    let head ← item
    return head :: (← readMany item count)

def readList {α : Type} (item : Reader α) : Reader (List α) := do readMany item (← readCount)

def writeVariant (index : Nat) : List UInt8 := LittleEndian.encode 4 index

def readVariant : Reader Nat := readNat 4

def writeAddress (address : Address) : List UInt8 := writeText address.text

def readAddress : Reader Address := do
  match Address.parse (← readText) with
  | .ok address => return address
  | .error e => fail (.badAddress e)

def writeId (id : TransactionId) : List UInt8 := writeText id.text

def readId : Reader TransactionId := do
  match TransactionId.parse (← readText) with
  | .ok id => return id
  | .error e => fail (.badId e)

end LedgerWallet.Binary
