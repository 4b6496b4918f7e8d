import LedgerWallet.Binary.Manifest
import LedgerWallet.Transaction.Intent

/-! The binary form of the stages of a transaction. -/
namespace LedgerWallet.Binary

def writePublicKey (key : PublicKey) : List UInt8 := key.bytes.toList

def readPublicKey : Reader PublicKey := do return ⟨← readFixed 32⟩

def writeKeyHash (hash : KeyHash) : List UInt8 := hash.bytes.toList

def writeSignature (signature : Signature) : List UInt8 := writeBytes signature.bytes

def readSignature : Reader Signature := do return ⟨← readCountedBytes⟩

def writeKeySignature (s : KeySignature) : List UInt8 :=
  writePublicKey s.publicKey ++ writeSignature s.signature

def readKeySignature : Reader KeySignature := do return ⟨← readPublicKey, ← readSignature⟩

def writeHeader (header : Header) : List UInt8 :=
  writeU8 header.version ++ writeNetwork header.network ++ writeU64 header.startEpoch ++
    writeU64 header.endEpoch ++ writeU64 header.nonce ++ writePublicKey header.notary ++
    writeBool header.notaryIsSignatory ++ writeU32 header.costUnitLimit ++
    writeU16 header.tipPercentage

def readHeader : Reader Header := do
  return {
    version := ← readU8
    network := ← readNetwork
    startEpoch := ← readU64
    endEpoch := ← readU64
    nonce := ← readU64
    notary := ← readPublicKey
    notaryIsSignatory := ← readBool
    costUnitLimit := ← readU32
    tipPercentage := ← readU16 }

def writeMessage : Option String → List UInt8
  | none => writeVariant 0
  | some text => writeVariant 1 ++ writeText text

def readMessage : Reader (Option String) := do
  match ← readVariant with
  | 0 => return none
  | 1 => return some (← readText)
  | other => fail (.badVariant other 2)

def writeIntent (intent : Intent) : List UInt8 :=
  writeHeader intent.header ++ writeManifest intent.manifest ++ writeMessage intent.message

def readIntent : Reader Intent := do return ⟨← readHeader, ← readManifest, ← readMessage⟩

def writeSignedIntent (signed : SignedIntent) : List UInt8 :=
  writeIntent signed.intent ++ writeList writeKeySignature signed.signatures

def readSignedIntent : Reader SignedIntent := do return ⟨← readIntent, ← readList readKeySignature⟩

def writeNotarized (notarized : Notarized) : List UInt8 :=
  writeSignedIntent notarized.signed ++ writeSignature notarized.notarySignature

def readNotarized : Reader Notarized := do return ⟨← readSignedIntent, ← readSignature⟩

end LedgerWallet.Binary
