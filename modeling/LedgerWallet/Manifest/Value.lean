import LedgerWallet.Amount
import LedgerWallet.Key
import LedgerWallet.NonFungible

/-! Arguments of manifest instructions. -/
namespace LedgerWallet

/-- A named container that carries resources from one instruction to another. -/
structure Bucket where
  name : String
deriving DecidableEq, Repr, Inhabited

/-- A blob is referred to by its hash. -/
structure BlobRef where
  hash : Bytes 32
deriving DecidableEq

def BlobRef.of (blob : List UInt8) : BlobRef := ⟨blake3 blob⟩

/-- An argument without parts. -/
inductive Scalar where
  | bool (value : Bool)
  | u8 (value : UInt8)
  | u32 (value : UInt32)
  | u64 (value : UInt64)
  | string (value : String)
  | amount (value : Amount)
  | address (value : Address)
  | bucket (value : Bucket)
  | localId (value : LocalId)
  | entireWorktop
  | blob (value : BlobRef)
  | keyHash (value : KeyHash)
deriving DecidableEq

/-- What holds the parts of an argument together. -/
inductive Shape where
  | variant (discriminator : UInt8)
  | tuple
  | array
deriving DecidableEq

inductive Value where
  | scalar (value : Scalar)
  | compound (shape : Shape) (parts : List Value)

instance : Inhabited Value := ⟨.scalar .entireWorktop⟩

namespace Value

mutual

def decEq : (a b : Value) → Decidable (a = b)
  | scalar a, scalar b =>
    if h : a = b then isTrue (by rw [h]) else isFalse (by intro e; cases e; exact h rfl)
  | compound s as, compound t bs =>
    if h : s = t then
      match decEqParts as bs with
      | isTrue e => isTrue (by rw [h, e])
      | isFalse e => isFalse (by intro same; cases same; exact e rfl)
    else isFalse (by intro e; cases e; exact h rfl)
  | scalar _, compound _ _ => isFalse nofun
  | compound _ _, scalar _ => isFalse nofun

def decEqParts : (as bs : List Value) → Decidable (as = bs)
  | [], [] => isTrue rfl
  | a :: as, b :: bs =>
    match decEq a b, decEqParts as bs with
    | isTrue e, isTrue es => isTrue (by rw [e, es])
    | isFalse e, _ => isFalse (by intro same; cases same; exact e rfl)
    | _, isFalse es => isFalse (by intro same; cases same; exact es rfl)
  | [], _ :: _ => isFalse nofun
  | _ :: _, [] => isFalse nofun

end

instance : DecidableEq Value := decEq

mutual

/-- The scalars in an argument, from left to right. -/
def scalars : Value → List Scalar
  | scalar value => [value]
  | compound _ parts => scalarsOf parts

def scalarsOf : List Value → List Scalar
  | [] => []
  | value :: rest => value.scalars ++ scalarsOf rest

end

mutual

/-- How many shapes lie around the innermost scalar. -/
def depth : Value → Nat
  | scalar _ => 0
  | compound _ parts => depthOf parts + 1

def depthOf : List Value → Nat
  | [] => 0
  | value :: rest => max value.depth (depthOf rest)

end

end Value

namespace Scalar

def address? : Scalar → Option Address
  | address value => some value
  | _ => none

def bucket? : Scalar → Option Bucket
  | bucket value => some value
  | _ => none

end Scalar

namespace Value

def addresses (value : Value) : List Address := value.scalars.filterMap Scalar.address?

def buckets (value : Value) : List Bucket := value.scalars.filterMap Scalar.bucket?

/-- A variant without fields. -/
def unit (discriminator : UInt8) : Value := compound (.variant discriminator) []

def ofAmount (amount : Amount) : Value := scalar (.amount amount)

def ofAddress (address : Address) : Value := scalar (.address address)

def ofBucket (bucket : Bucket) : Value := scalar (.bucket bucket)

def ofLocalId (id : LocalId) : Value := scalar (.localId id)

def array (parts : List Value) : Value := compound .array parts

def tuple (parts : List Value) : Value := compound .tuple parts

end Value

end LedgerWallet
