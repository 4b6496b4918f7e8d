import LedgerWallet.Json.Printer
import LedgerWallet.Json.Reader
import LedgerWallet.Text.Quoted

/-! Reading records whose fields may be left out. A record is an object of its fields, or the list of
them in their order. -/
namespace LedgerWallet.Json

/-- How a message names a value that was not expected. -/
def noun : Json → String
  | null => "null"
  | bool value => s!"boolean `{value}`"
  | number (.float value) => s!"floating point `{(Number.float value).text}`"
  | number integer => s!"integer `{integer.text}`"
  | string value => "string " ++ String.ofList (Text.quote value.toList)
  | array _ => "sequence"
  | object _ => "map"

namespace Reader

variable {α ρ : Type}

def wrongType (found expected : String) : Reader α :=
  fail (.data s!"invalid type: {found}, expected {expected}")

/-- Reads a value that has no parts, and takes from it what it is expected to be. -/
def scalarOf (expected : String) (take : Json → Reader α) : Reader α := do
  match ← peekToken with
  | some '[' => wrongType (array []).noun expected
  | some '\x7b' => wrongType (object []).noun expected
  | _ => take (← value 0)

def text : Reader String :=
  let expected := "a string"
  scalarOf expected fun json =>
    match json with
    | string value => return value
    | other => wrongType other.noun expected

def flag : Reader Bool :=
  let expected := "a boolean"
  scalarOf expected fun json =>
    match json with
    | bool value => return value
    | other => wrongType other.noun expected

/-- An integer from zero to below a bound. -/
def integerBelow (bound : Nat) (expected : String) : Reader Nat :=
  scalarOf expected fun json =>
    match json, json.below? bound with
    | _, some value => return value
    | Json.number (.float _), none => wrongType json.noun expected
    | Json.number _, none => fail (.data s!"invalid value: {json.noun}, expected {expected}")
    | other, none => wrongType other.noun expected

/-- A field that a record may give. Its reader tells how the record changes, or why a well-formed
value will not do. -/
structure RecordField (ρ : Type) where
  name : String
  read : Reader (Except String (ρ → ρ))

def RecordField.of (name : String) (read : Reader α) (set : α → ρ → ρ) : RecordField ρ :=
  ⟨name, do return .ok (set (← read))⟩

/-- Members until the object ends. Those that are no field are passed over. -/
def membersInto (fields : List (RecordField ρ)) :
    (fuel : Nat) → (seen : List String) → (first : Bool) → ρ → Reader (Except String ρ)
  | 0, _, _, record => return .ok record
  | fuel + 1, seen, first, record => do
    if ← nextMember first then
      advance
      let name ← stringBody
      match fields.find? (·.name = name) with
      | none =>
        colon
        skip
        membersInto fields fuel seen false record
      | some field =>
        if seen.contains name then return .error s!"duplicate field `{name}`"
        colon
        match ← field.read with
        | .error reason => return .error reason
        | .ok change => membersInto fields fuel (name :: seen) false (change record)
    else return .ok record

/-- Elements until the list or the fields end. -/
def elementsInto : List (RecordField ρ) → (first : Bool) → ρ → Reader (Except String ρ)
  | [], _, record => return .ok record
  | field :: fields, first, record => do
    if ← nextElement first then
      match ← field.read with
      | .error reason => return .error reason
      | .ok change => elementsInto fields false (change record)
    else return .ok record

def endObject : Reader Unit := do
  match ← peekToken with
  | some '\x7d' => advance
  | some ',' => failNext .trailingComma
  | some _ => failNext .trailingCharacters
  | none => failNext .endInObject

def endList : Reader Unit := do
  match ← peekToken with
  | some ']' => advance
  | some ',' =>
    advance
    match ← peekToken with
    | some ']' => failNext .trailingComma
    | _ => failNext .trailingCharacters
  | some _ => failNext .trailingCharacters
  | none => failNext .endInList

/-- Moves on to where a value that will not do is reported: behind the bracket or comma after it. -/
def abandonObject : Reader Unit := do
  if (← peekToken) = some '\x7d' then advance

@[inherit_doc abandonObject]
def abandonList : Reader Unit := do
  match ← peekToken with
  | some ']' => advance
  | some ',' =>
    advance
    let _ ← peekToken
  | _ => pure ()

def closed (close abandon : Reader Unit) (result : Except String ρ) : Reader ρ := do
  match result with
  | .ok record => close; return record
  | .error reason => abandon; fail (.data reason)

/-- A record that starts as given and takes the fields that the text has. -/
def record (expected : String) (fields : List (RecordField ρ)) (start : ρ) : Reader ρ := do
  match ← peekToken with
  | some '\x7b' =>
    advance
    closed endObject abandonObject (← withFuel fun fuel => membersInto fields fuel [] true start)
  | some '[' =>
    advance
    closed endList abandonList (← elementsInto fields true start)
  | _ => scalarOf expected fun json => wrongType json.noun expected

/-- The one field that a record has to have. -/
def holding (expected name : String) (read : Reader α) : Reader α := do
  match ← record expected [.of name read fun value _ => some value] none with
  | some value => return value
  | none => fail (.data s!"missing field `{name}`")

def nothing : Reader Unit :=
  let expected := "unit"
  scalarOf expected fun json =>
    match json with
    | null => return ()
    | other => wrongType other.noun expected

/-- One of some alternatives that nothing comes with: its name alone, or in an object with null. -/
def alternative (ofName? : String → Option α) (names : List String) : Reader α := do
  let judge (name : String) : Reader α :=
    match ofName? name with
    | some value => return value
    | none =>
      let listed := ", ".intercalate (names.map fun known => s!"`{known}`")
      fail (.data s!"unknown variant `{name}`, expected one of {listed}")
  match ← peekToken with
  | some '\x7b' =>
    advance
    let value ← judge (← text)
    colon
    nothing
    endObject
    return value
  | _ => judge (← text)

end Reader

end LedgerWallet.Json
