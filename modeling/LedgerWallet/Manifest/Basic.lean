import LedgerWallet.Manifest.Instruction

/-! Manifests: what a transaction does. A manifest made of instructions stays on one network and
fills and empties each of its buckets once. -/
namespace LedgerWallet

inductive ManifestError where
  | wrongNetwork (address : Address) (expected : Network)
  | unknownBucket (bucket : Bucket)
  | consumedTwice (bucket : Bucket)
  | filledTwice (bucket : Bucket)
  | neverConsumed (bucket : Bucket)
  | freeText
  | indexOutOfBounds (index length : Nat)
deriving DecidableEq

def ManifestError.message : ManifestError → String
  | wrongNetwork address expected =>
    s!"address {address} belongs to network {address.network.id}, " ++
      s!"manifest targets network {expected.id}"
  | unknownBucket bucket => s!"bucket '{bucket.name}' is used before any instruction fills it"
  | consumedTwice bucket => s!"bucket '{bucket.name}' is consumed more than once"
  | filledTwice bucket => s!"bucket '{bucket.name}' is filled twice"
  | neverConsumed bucket => s!"bucket '{bucket.name}' is never consumed"
  | freeText => "opaque manifests cannot be amended"
  | indexOutOfBounds index length =>
    s!"instruction index {index} out of bounds for {length} instructions"

/-- The buckets that hold something, and those that were emptied. -/
structure Buckets where
  held : List Bucket
  spent : List Bucket

namespace Buckets

def empty : Buckets := ⟨[], []⟩

def consume (buckets : Buckets) (bucket : Bucket) : Except ManifestError Buckets :=
  if bucket ∈ buckets.held then .ok ⟨buckets.held.erase bucket, bucket :: buckets.spent⟩
  else if bucket ∈ buckets.spent then .error (.consumedTwice bucket)
  else .error (.unknownBucket bucket)

def fill (buckets : Buckets) (bucket : Bucket) : Except ManifestError Buckets :=
  if bucket ∈ buckets.held ∨ bucket ∈ buckets.spent then .error (.filledTwice bucket)
  else .ok { buckets with held := bucket :: buckets.held }

/-- The first of the names in the order of their characters. -/
def first : Bucket → List Bucket → Bucket
  | bucket, [] => bucket
  | bucket, other :: rest => first (if other.name < bucket.name then other else bucket) rest

def finish (buckets : Buckets) : Except ManifestError Unit :=
  match buckets.held with
  | [] => .ok ()
  | bucket :: rest => .error (.neverConsumed (first bucket rest))

end Buckets

def Network.check (network : Network) (address : Address) : Except ManifestError Unit :=
  if address.network = network then .ok () else .error (.wrongNetwork address network)

/-- Judges the addresses, then the buckets consumed, then the bucket filled. -/
def Instruction.check (network : Network) (buckets : Buckets) (instruction : Instruction) :
    Except ManifestError Buckets := do
  instruction.addresses.forM network.check
  let buckets ← instruction.consumedBuckets.foldlM Buckets.consume buckets
  match instruction.newBucket? with
  | some bucket => buckets.fill bucket
  | none => return buckets

/-- What the manifest asks for, as instructions or as text that nothing here can read. -/
inductive Manifest.Body where
  | instructions (list : List Instruction)
  | text (text : String)
deriving DecidableEq

structure Manifest where
  network : Network
  body : Manifest.Body
  blobs : List (List UInt8)
deriving DecidableEq

namespace Manifest

def validate (network : Network) (instructions : List Instruction) : Except ManifestError Unit := do
  (← instructions.foldlM (Instruction.check network) Buckets.empty).finish

def make (network : Network) (instructions : List Instruction) (blobs : List (List UInt8)) :
    Except ManifestError Manifest := do
  validate network instructions
  return ⟨network, .instructions instructions, blobs⟩

def ofText (network : Network) (text : String) (blobs : List (List UInt8)) : Manifest :=
  ⟨network, .text text, blobs⟩

def instructions? (manifest : Manifest) : Option (List Instruction) :=
  match manifest.body with
  | .instructions list => some list
  | .text _ => none

def isText (manifest : Manifest) : Bool := manifest.instructions?.isNone

/-- The manifest with one more instruction before the one at `index`. -/
def insertAt (manifest : Manifest) (index : Nat) (instruction : Instruction) :
    Except ManifestError Manifest :=
  match manifest.instructions? with
  | none => .error .freeText
  | some list =>
    if list.length < index then .error (.indexOutOfBounds index list.length)
    else .ok { manifest with
      body := .instructions (list.take index ++ instruction :: list.drop index) }

/-- Makes the transaction fail unless the worktop holds an amount at `index`. -/
def guarantee (manifest : Manifest) (index : Nat) (resource : Address) (amount : Amount) :
    Except ManifestError Manifest := do
  manifest.network.check resource
  manifest.insertAt index (.assertContains resource amount)

/-- Puts a fee payment in front. Text is left as it is. -/
def lockFee (manifest : Manifest) (payer : Address) (amount : Amount) : Manifest :=
  match manifest.insertAt 0 (.lockFee payer amount) with
  | .ok amended => amended
  | .error _ => manifest

end Manifest

end LedgerWallet
