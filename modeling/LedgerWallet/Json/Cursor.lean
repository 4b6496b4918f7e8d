import LedgerWallet.Text.Numeral

/-! A place in a JSON text and what can be wrong there. A column counts the bytes read on the line. -/
namespace LedgerWallet.Json

inductive Problem where
  | endInList
  | endInObject
  | endInString
  | endInValue
  | expectedColon
  | expectedCommaOrBracket
  | expectedCommaOrBrace
  | expectedIdentifier
  | expectedValue
  | invalidEscape
  | invalidNumber
  | numberOutOfRange
  | controlCharacter
  | keyNotString
  | loneSurrogate
  | unfinishedEscape
  | trailingComma
  | trailingCharacters
  | tooDeep
  /-- A well-formed value that is not what was asked for. -/
  | data (message : String)
deriving DecidableEq, Repr

/-- The text is malformed, ends early, or holds other data than asked for. -/
inductive Problem.Category where
  | malformed
  | incomplete
  | data
deriving DecidableEq, Repr

namespace Problem

def category : Problem → Category
  | endInList | endInObject | endInString | endInValue => .incomplete
  | data _ => .data
  | _ => .malformed

def message : Problem → String
  | endInList => "EOF while parsing a list"
  | endInObject => "EOF while parsing an object"
  | endInString => "EOF while parsing a string"
  | endInValue => "EOF while parsing a value"
  | expectedColon => "expected `:`"
  | expectedCommaOrBracket => "expected `,` or `]`"
  | expectedCommaOrBrace => "expected `,` or `\x7d`"
  | expectedIdentifier => "expected ident"
  | expectedValue => "expected value"
  | invalidEscape => "invalid escape"
  | invalidNumber => "invalid number"
  | numberOutOfRange => "number out of range"
  | controlCharacter => "control character (\\u0000-\\u001F) found while parsing a string"
  | keyNotString => "key must be a string"
  | loneSurrogate => "lone leading surrogate in hex escape"
  | unfinishedEscape => "unexpected end of hex escape"
  | trailingComma => "trailing comma"
  | trailingCharacters => "trailing characters"
  | tooDeep => "recursion limit exceeded"
  | data message => message

end Problem

structure Fault where
  problem : Problem
  line : Nat
  column : Nat
deriving DecidableEq, Repr

def Fault.message (fault : Fault) : String :=
  s!"{fault.problem.message} at line {fault.line} column {fault.column}"

/-- The budget is more than the whole text has characters. -/
structure Cursor where
  rest : List Char
  line : Nat
  column : Nat
  budget : Nat

def Cursor.start (text : String) : Cursor := ⟨text.toList, 1, 0, text.length + 1⟩

def Cursor.after (cursor : Cursor) (c : Char) (rest : List Char) : Cursor :=
  if c = '\n' then { cursor with rest, line := cursor.line + 1, column := 0 }
  else { cursor with rest, column := cursor.column + c.utf8Size }

/-- Bytes of what follows count on their own, also where they are only a part of a character. -/
def Cursor.past (cursor : Cursor) (bytes : List UInt8) : Cursor :=
  bytes.foldl (fun cursor byte =>
    if byte = 0x0a then { cursor with line := cursor.line + 1, column := 0 }
    else { cursor with column := cursor.column + 1 }) cursor

abbrev Reader := StateT Cursor (Except Fault)

namespace Reader

variable {α : Type}

/-- A fault after what has been read. -/
def fail (problem : Problem) : Reader α := fun cursor =>
  .error ⟨problem, cursor.line, cursor.column⟩

/-- A fault after so many more bytes, or at the end where fewer are left. -/
def failWithin (bytes : Nat) (problem : Problem) : Reader α := fun cursor =>
  let ahead := (cursor.rest.take bytes).flatMap String.utf8EncodeChar
  fail problem (cursor.past (ahead.take bytes))

/-- A fault in the character that comes next, of which one byte is read. -/
def failNext (problem : Problem) : Reader α := failWithin 1 problem

def peek : Reader (Option Char) := fun cursor => .ok (cursor.rest.head?, cursor)

def advance : Reader Unit := fun cursor =>
  match cursor.rest with
  | [] => .ok ((), cursor)
  | c :: rest => .ok ((), cursor.after c rest)

/-- Enough turns for a loop that reads at least one character a turn. -/
def withFuel (loop : Nat → Reader α) : Reader α := fun cursor => loop cursor.budget cursor

def isSpace (c : Char) : Bool := c = ' ' || c = '\t' || c = '\n' || c = '\r'

def skipSpaceFor : Nat → Reader Unit
  | 0 => pure ()
  | fuel + 1 => do
    match ← peek with
    | some c => if isSpace c then advance; skipSpaceFor fuel
    | none => pure ()

/-- Passes over spaces and gives the character that comes next. -/
def peekToken : Reader (Option Char) := do
  withFuel skipSpaceFor
  peek

def digitsFor : Nat → Reader (List Nat)
  | 0 => pure []
  | fuel + 1 => do
    match (← peek).bind Text.digit? with
    | some digit => advance; return digit :: (← digitsFor fuel)
    | none => pure []

/-- The digits that come next, maybe none. -/
def digits : Reader (List Nat) := withFuel digitsFor

def expectChars : List Char → Reader Unit
  | [] => pure ()
  | c :: rest => do
    match ← peek with
    | none => fail .endInValue
    | some d => if d = c then advance; expectChars rest else failNext .expectedIdentifier

end Reader

end LedgerWallet.Json
