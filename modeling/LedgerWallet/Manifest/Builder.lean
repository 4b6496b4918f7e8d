import LedgerWallet.Failure
import LedgerWallet.Manifest.Call

/-! Putting a manifest together. Nothing is judged before the manifest is built. -/
namespace LedgerWallet

structure Builder where
  instructions : List Instruction
  blobs : List (List UInt8)
  nextBucket : Nat

namespace Builder

def empty : Builder := ⟨[], [], 0⟩

/-- A bucket name that was not handed out before. -/
def newBucket (builder : Builder) : Bucket × Builder :=
  (.numbered builder.nextBucket, { builder with nextBucket := builder.nextBucket + 1 })

def addBlob (builder : Builder) (blob : List UInt8) : BlobRef × Builder :=
  (.of blob, { builder with blobs := builder.blobs ++ [blob] })

def add (builder : Builder) (instruction : Instruction) : Builder :=
  { builder with instructions := builder.instructions ++ [instruction] }

def build (builder : Builder) (network : Network) : Except ManifestError Manifest :=
  Manifest.make network builder.instructions builder.blobs

end Builder

namespace Manifest

/-- A manifest without blobs, whose faults are a failure of the transaction. -/
def convert (network : Network) (instructions : List Instruction) (blobs : List (List UInt8)) :
    Except Failure Manifest :=
  (Manifest.make network instructions blobs).mapError fun e => .convertManifest e.message

end Manifest

def Builder.convert (builder : Builder) (network : Network) : Except Failure Manifest :=
  Manifest.convert network builder.instructions builder.blobs

end LedgerWallet
