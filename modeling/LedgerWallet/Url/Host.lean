import LedgerWallet.Domain.Label
import LedgerWallet.Url.Escape
import LedgerWallet.Url.Numeric

/-! Hosts in their normal form. -/
namespace LedgerWallet.Url

/-- The text between brackets, where there is an opening one, holds eight groups. -/
def bracketed? (text : List Char) : Option (Option (List Char)) :=
  match text with
  | '[' :: _ => some do
    let groups ← eightGroups? (← Text.between? '[' ']' text)
    return '[' :: (eightGroupsChars groups ++ [']'])
  | _ => none

/-- The host of a web address or of a file. It is never empty, and a name is in ASCII. -/
def webHost? (text : List Char) : Option (List Char) :=
  match bracketed? text with
  | some host => host
  | none => do
    let name ← unescaped? text
    let host ← Domain.toAscii? name.toList
    guard (!host.isEmpty)
    match fourBytes? host with
    | some bytes => bytes
    | none => return host

def forbiddenInHost : List Char :=
  [' ', '#', '/', ':', '<', '>', '?', '@', '[', '\\', ']', '^', '|', '\x00', '\t', '\n', '\r']

/-- The host of any other address. -/
def otherHost? (text : List Char) : Option (List Char) :=
  match bracketed? text with
  | some host => host
  | none => do
    guard (text.all fun c => !forbiddenInHost.contains c)
    return escape [] text

end LedgerWallet.Url
