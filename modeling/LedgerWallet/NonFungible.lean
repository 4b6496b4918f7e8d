import LedgerWallet.Address.Text

/-! Ids of single tokens: local to a resource, or global with the resource in front. -/
namespace LedgerWallet

inductive LocalId where
  | integer (value : UInt64)
  | string (name : String)
  | bytes (value : List UInt8)
  | random (value : Bytes 32)
deriving DecidableEq

structure GlobalId where
  resource : Address
  localId : LocalId
deriving DecidableEq

inductive IdError where
  | invalidLocal (text : String)
  | invalidGlobal (text : String)
  | address (e : AddressError)
deriving DecidableEq

def IdError.message : IdError → String
  | invalidLocal text => s!"invalid non-fungible local id '{text}'"
  | invalidGlobal text => s!"invalid non-fungible global id '{text}'"
  | address e => e.message

namespace LocalId

def maxLength : Nat := 64

def isNameChar (c : Char) : Bool := c.isAlphanum || c == '_'

/-- The length of a name is that of its bytes. -/
def isName (text : List Char) : Bool :=
  !text.isEmpty && Hex.utf8Length text ≤ maxLength && text.all isNameChar

/-- Four groups of sixteen digits. -/
def randomChars (digits : List Char) : List Char :=
  digits.take 16 ++ '-' :: (digits.drop 16).take 16 ++ '-' :: (digits.drop 32).take 16 ++
    '-' :: digits.drop 48

def chars : LocalId → List Char
  | integer value => '#' :: (Nat.toDigits 10 value.toNat ++ ['#'])
  | string name => '<' :: (name.toList ++ ['>'])
  | bytes value => '[' :: (Hex.encode value ++ [']'])
  | random value => '\x7b' :: (randomChars (Hex.encode value.toList) ++ ['\x7d'])

def text (id : LocalId) : String := String.ofList id.chars

instance : ToString LocalId := ⟨text⟩

def integer? (digits : List Char) : Option LocalId :=
  (Text.below? UInt64.size digits).map fun value => integer (UInt64.ofNat value)

def string? (name : List Char) : Option LocalId :=
  if isName name then some (string (String.ofList name)) else none

def bytes? (digits : List Char) : Option LocalId := do
  let value ← Hex.decode? digits
  if value.isEmpty || maxLength < value.length then none else some (bytes value)

/-- How reading ends: with an id, with a refusal, or broken off where bytes are to be copied to a place
that is not of their size. -/
inductive Reading where
  | read (id : LocalId)
  | refused
  | broken
deriving DecidableEq

def Reading.ofOption : Option LocalId → Reading
  | some id => read id
  | none => refused

/-- Groups are counted in bytes before their digits are looked at. -/
def readRandom (groups : List Char) : Reading :=
  let parts := Text.fields '-' groups
  if parts.length = 4 ∧ parts.all (Hex.utf8Length · = 16) then
    match Hex.decode? parts.flatten with
    | none => .refused
    | some decoded =>
      match Bytes.ofList? 32 decoded with
      | none => .broken
      | some value => .read (random value)
  else .refused

/-- The brackets tell the four kinds apart. -/
def readChars (text : List Char) : Reading :=
  match Text.between? '#' '#' text with
  | some digits => .ofOption (integer? digits)
  | none =>
    match Text.between? '<' '>' text with
    | some name => .ofOption (string? name)
    | none =>
      match Text.between? '[' ']' text with
      | some digits => .ofOption (bytes? digits)
      | none =>
        match Text.between? '\x7b' '\x7d' text with
        | some groups => readRandom groups
        | none => .refused

/-- The id of a text, or its fault. There is neither where reading breaks off. -/
def parse? (text : String) : Option (Except IdError LocalId) :=
  match readChars text.toList with
  | .read id => some (.ok id)
  | .refused => some (.error (.invalidLocal text))
  | .broken => none

def parse (text : String) : Except IdError LocalId :=
  (parse? text).getD (.error (.invalidLocal text))

end LocalId

namespace GlobalId

def chars (id : GlobalId) : List Char := id.resource.chars ++ ':' :: id.localId.chars

def text (id : GlobalId) : String := String.ofList id.chars

def parse (text : String) : Except IdError GlobalId :=
  match Text.splitFirst ':' text.toList with
  | none => .error (.invalidGlobal text)
  | some (resource, localId) =>
    match Address.parseChars resource with
    | .error e => .error (.address e)
    | .ok resource =>
      match LocalId.parse (String.ofList localId) with
      | .error e => .error e
      | .ok localId => .ok ⟨resource, localId⟩

end GlobalId

end LedgerWallet
