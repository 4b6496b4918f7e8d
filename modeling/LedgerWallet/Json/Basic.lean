/-! JSON values. -/
namespace LedgerWallet

namespace Json

/-- An integer that fits 64 bits keeps its value; every other number is a double. A negative integer
is given by its magnitude. -/
inductive Number where
  | natural (value : UInt64)
  | negative (magnitude : UInt64)
  | float (value : Float)

end Json

inductive Json where
  | null
  | bool (value : Bool)
  | number (value : Json.Number)
  | string (value : String)
  | array (items : List Json)
  | object (members : List (String × Json))
deriving Inhabited

namespace Json

/-- Members under one name: the last one counts, in the place of the first. -/
def put (name : String) (value : Json) : List (String × Json) → List (String × Json)
  | [] => [(name, value)]
  | (other, old) :: rest =>
    if other = name then (name, value) :: rest else (other, old) :: put name value rest

def get? (json : Json) (name : String) : Option Json :=
  match json with
  | object members => (members.find? (·.1 == name)).map (·.2)
  | _ => none

def natural (n : Nat) : Json := number (.natural (UInt64.ofNat n))

def ofBytes (bytes : List UInt8) : Json := array (bytes.map fun byte => natural byte.toNat)

def string? : Json → Option String
  | string value => some value
  | _ => none

def bool? : Json → Option Bool
  | bool value => some value
  | _ => none

def array? : Json → Option (List Json)
  | array items => some items
  | _ => none

def object? : Json → Option (List (String × Json))
  | object members => some members
  | _ => none

def isNull : Json → Bool
  | null => true
  | _ => false

/-- An integer written without fraction and exponent, below a bound. -/
def below? (bound : Nat) : Json → Option Nat
  | number (.natural value) => if value.toNat < bound then some value.toNat else none
  | _ => none

def byte? (json : Json) : Option UInt8 := (json.below? UInt8.size).map UInt8.ofNat

def uint32? (json : Json) : Option UInt32 := (json.below? UInt32.size).map UInt32.ofNat

def uint64? (json : Json) : Option UInt64 := (json.below? UInt64.size).map UInt64.ofNat

def bytes? (json : Json) : Option (List UInt8) := do (← json.array?).mapM byte?

end Json

end LedgerWallet
