import LedgerWallet.Bytes.Hex
import LedgerWallet.Json.Number

/-! Reading JSON text: strings, values, and values that are passed over. -/
namespace LedgerWallet.Json.Reader

/-- Four digits of a code unit. They are read before they are judged. -/
def codeUnit : Reader Nat := do
  let ahead := ((← get).rest.take 4).flatMap String.utf8EncodeChar
  match (ahead.take 4).mapM fun byte => Hex.value? (Char.ofNat byte.toNat) with
  | some [a, b, c, d] =>
    advance; advance; advance; advance
    return 4096 * a + 256 * b + 16 * c + d
  | _ => failWithin 4 (if ahead.length < 4 then .endInString else .invalidEscape)

def isLead (unit : Nat) : Bool := 0xd800 ≤ unit && unit ≤ 0xdbff

def isTrail (unit : Nat) : Bool := 0xdc00 ≤ unit && unit ≤ 0xdfff

/-- A character of the text that has to follow. -/
def require (c : Char) (problem : Problem) : Reader Unit := do
  match ← peek with
  | none => fail .endInString
  | some d => if d = c then advance else failNext problem

/-- The character of one code unit, or of two that are surrogates. -/
def unicodeEscape : Reader Char := do
  let unit ← codeUnit
  if isTrail unit then fail .loneSurrogate
  else if isLead unit then
    require '\\' .unfinishedEscape
    require 'u' .unfinishedEscape
    let second ← codeUnit
    if isTrail second then
      return Char.ofNat (0x10000 + 0x400 * (unit - 0xd800) + (second - 0xdc00))
    else fail .loneSurrogate
  else return Char.ofNat unit

def simpleEscape? : Char → Option Char
  | '"' => some '"'
  | '\\' => some '\\'
  | '/' => some '/'
  | 'b' => some '\x08'
  | 'f' => some '\x0c'
  | 'n' => some '\n'
  | 'r' => some '\r'
  | 't' => some '\t'
  | _ => none

/-- The rest of a string up to its closing quote, newest character first. A string whose characters
do not matter may hold lone surrogates. -/
def stringFor (matters : Bool) : (fuel : Nat) → List Char → Reader (List Char)
  | 0, _ => fail .endInString
  | fuel + 1, read => do
    match ← peek with
    | none => fail .endInString
    | some '"' => advance; return read
    | some '\\' =>
      advance
      match ← peek with
      | none => fail .endInString
      | some 'u' =>
        advance
        if matters then
          let c ← unicodeEscape
          stringFor matters fuel (c :: read)
        else
          let _ ← codeUnit
          stringFor matters fuel read
      | some c =>
        match simpleEscape? c with
        | some c => advance; stringFor matters fuel (c :: read)
        | none => failNext .invalidEscape
    | some c =>
      if 0x20 ≤ c.toNat then advance; stringFor matters fuel (c :: read)
      else if matters then failNext .controlCharacter
      else fail .controlCharacter

/-- The text of a string after its opening quote. -/
def stringBody : Reader String := do
  return String.ofList (← withFuel fun fuel => stringFor true fuel []).reverse

/-- The colon after a member's name. -/
def colon : Reader Unit := do
  match ← peekToken with
  | some ':' => advance
  | some _ => failNext .expectedColon
  | none => failNext .endInObject

/-- Whether another element follows, and moves to it. -/
def nextElement (first : Bool) : Reader Bool := do
  match ← peekToken with
  | some ']' => return false
  | some ',' =>
    if first then return true
    advance
    match ← peekToken with
    | some ']' => failNext .trailingComma
    | some _ => return true
    | none => failNext .endInValue
  | some _ => if first then return true else failNext .expectedCommaOrBracket
  | none => failNext .endInList

/-- Whether another member follows, and moves to its name. -/
def nextMember (first : Bool) : Reader Bool := do
  let check (c : Option Char) : Reader Bool :=
    match c with
    | some '"' => return true
    | some '\x7d' => failNext .trailingComma
    | some _ => failNext .keyNotString
    | none => failNext .endInValue
  match ← peekToken with
  | some '\x7d' => return false
  | some ',' =>
    if first then check (some ',')
    else
      advance
      check (← peekToken)
  | some c => if first then check (some c) else failNext .expectedCommaOrBrace
  | none => failNext .endInObject

def memberName : Reader String := do
  advance
  let name ← stringBody
  colon
  return name

def elementsFor {α : Type} (item : Reader α) : (fuel : Nat) → (first : Bool) → Reader (List α)
  | 0, _ => pure []
  | fuel + 1, first => do
    if ← nextElement first then
      let head ← item
      return head :: (← elementsFor item fuel false)
    else
      advance
      return []

def membersFor {α : Type} (item : Reader α) :
    (fuel : Nat) → (first : Bool) → Reader (List (String × α))
  | 0, _ => pure []
  | fuel + 1, first => do
    if ← nextMember first then
      let name ← memberName
      let value ← item
      return (name, value) :: (← membersFor item fuel false)
    else
      advance
      return []

def maxDepth : Nat := 127

/-- A value that nests at most `depth` arrays and objects. -/
def value : (depth : Nat) → Reader Json
  | 0 => scalar fun _ => failNext .tooDeep
  | depth + 1 => scalar fun bracket => do
    advance
    if bracket = '[' then
      return array (← withFuel fun fuel => elementsFor (value depth) fuel true)
    else
      let members ← withFuel fun fuel => membersFor (value depth) fuel true
      return object (members.foldl (fun all (name, value) => put name value all) [])
where
  scalar (compound : Char → Reader Json) : Reader Json := do
    match ← peekToken with
    | none => failNext .endInValue
    | some 'n' => advance; expectChars ['u', 'l', 'l']; return null
    | some 't' => advance; expectChars ['r', 'u', 'e']; return bool true
    | some 'f' => advance; expectChars ['a', 'l', 's', 'e']; return bool false
    | some '"' => advance; return string (← stringBody)
    | some c =>
      if c = '[' ∨ c = '\x7b' then compound c
      else if c = '-' ∨ (Text.digit? c).isSome then return Json.number (← number)
      else failNext .expectedValue

inductive Bracket where
  | list
  | object

def skipName : Reader Unit := do
  match ← peekToken with
  | some '"' => advance
  | some _ => failNext .keyNotString
  | none => failNext .endInObject
  let _ ← withFuel fun fuel => stringFor false fuel []
  colon

mutual

/-- Passes over a value and what is left of the brackets around it, innermost first. -/
def skipFor : (fuel : Nat) → List Bracket → Reader Unit
  | 0, _ => pure ()
  | fuel + 1, open_ => do
    match ← peekToken with
    | none => failNext .endInValue
    | some 'n' => advance; expectChars ['u', 'l', 'l']; skipRestFor fuel true open_
    | some 't' => advance; expectChars ['r', 'u', 'e']; skipRestFor fuel true open_
    | some 'f' => advance; expectChars ['a', 'l', 's', 'e']; skipRestFor fuel true open_
    | some '"' =>
      advance
      let _ ← withFuel fun fuel => stringFor false fuel []
      skipRestFor fuel true open_
    | some '[' => advance; skipRestFor fuel false (.list :: open_)
    | some '\x7b' => advance; skipRestFor fuel false (.object :: open_)
    | some c =>
      if c = '-' ∨ (Text.digit? c).isSome then
        skipNumber
        skipRestFor fuel true open_
      else failNext .expectedValue

/-- Passes over the rest of the brackets, after a value in them or at once. -/
def skipRestFor : (fuel : Nat) → (afterValue : Bool) → List Bracket → Reader Unit
  | 0, _, _ => pure ()
  | _ + 1, _, [] => pure ()
  | fuel + 1, afterValue, bracket :: outer => do
    let step : Reader Unit := do
      match bracket with
      | .object => skipName
      | .list => pure ()
      skipFor fuel (bracket :: outer)
    match ← peekToken, bracket with
    | none, .list => failNext .endInList
    | none, .object => failNext .endInObject
    | some ']', .list => advance; skipRestFor fuel true outer
    | some '\x7d', .object => advance; skipRestFor fuel true outer
    | some c, _ =>
      if !afterValue then step
      else if c = ',' then advance; step
      else match bracket with
        | .list => failNext .expectedCommaOrBracket
        | .object => failNext .expectedCommaOrBrace

end

/-- Passes over a value of any depth. -/
def skip : Reader Unit := withFuel fun fuel => skipFor (2 * fuel) []

/-- The rest of the text holds spaces only. -/
def finish : Reader Unit := do
  match ← peekToken with
  | none => pure ()
  | some _ => failNext .trailingCharacters

def run {α : Type} (reader : Reader α) (text : String) : Except Fault α := do
  let (result, cursor) ← reader (Cursor.start text)
  let _ ← finish cursor
  return result

end LedgerWallet.Json.Reader

namespace LedgerWallet.Json

def parse (text : String) : Except Fault Json := Reader.run (Reader.value Reader.maxDepth) text

end LedgerWallet.Json
