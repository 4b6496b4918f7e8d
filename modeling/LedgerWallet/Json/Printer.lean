import LedgerWallet.Json.Basic
import LedgerWallet.Text.Double

/-! Writing JSON without spaces. -/
namespace LedgerWallet.Json

def escape (c : Char) : List Char :=
  if c = '"' ∨ c = '\\' then ['\\', c]
  else if c.toNat < 0x20 then
    let digits := Nat.toDigits 16 c.toNat
    '\\' :: 'u' :: (List.replicate (4 - digits.length) '0' ++ digits)
  else [c]

def quoted (text : String) : String :=
  String.ofList ('"' :: (text.toList.flatMap escape ++ ['"']))

/-- A double never looks like an integer. -/
def Number.text : Number → String
  | natural value => toString value
  | negative magnitude => s!"-{magnitude}"
  | float value => Double.Layout.marked.text value

mutual

def render : Json → String
  | null => "null"
  | bool value => toString value
  | number value => value.text
  | string value => quoted value
  | array items => "[" ++ renderItems items ++ "]"
  | object members => "\x7b" ++ renderMembers members ++ "\x7d"

def renderItems : List Json → String
  | [] => ""
  | [item] => item.render
  | item :: rest => item.render ++ "," ++ renderItems rest

def renderMembers : List (String × Json) → String
  | [] => ""
  | [(name, value)] => quoted name ++ ":" ++ value.render
  | (name, value) :: rest => quoted name ++ ":" ++ value.render ++ "," ++ renderMembers rest

end

end LedgerWallet.Json
