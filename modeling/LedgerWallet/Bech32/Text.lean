import LedgerWallet.Bech32.Checksum
import LedgerWallet.Text.Split

/-! Checksummed text: a readable prefix, the separator `1`, data symbols and the checksum. Writing
uses lowercase and the modern checksum; reading takes one case and either checksum. -/
namespace LedgerWallet.Bech32

def separator : Char := '1'

def maxLength : Nat := 1023

def encode (hrp : List Char) (bytes : List UInt8) : List Char :=
  let data := Symbol.ofBytes bytes
  hrp ++ separator :: (data ++ checksum hrp data).map Symbol.char

inductive Fault where
  | malformed
  | badChecksum
deriving DecidableEq, Repr

def Fault.message : Fault → String
  | .malformed => "parsing failed"
  | .badChecksum => "no valid bech32 or bech32m checksum"

def mixesCases (text : List Char) : Bool := text.any Char.isUpper && text.any Char.isLower

def isPrefixChar (c : Char) : Bool := 33 ≤ c.toNat && c.toNat ≤ 126

/-- Refuses a prefix that could not be read, and a text that would be too long. -/
def encode? (hrp : List Char) (bytes : List UInt8) : Option (List Char) := do
  guard (!hrp.isEmpty && hrp.length ≤ 83 && hrp.all isPrefixChar && !mixesCases hrp)
  let text := encode (hrp.map Char.toLower) bytes
  guard (text.length ≤ maxLength)
  return text

/-- A prefix and data symbols, the checksum included, both in lowercase. -/
def split? (text : List Char) : Option (List Char × List Symbol) := do
  guard (!mixesCases text)
  let (hrp, data) ← Text.splitLast separator (text.map Char.toLower)
  guard (!hrp.isEmpty && hrp.length ≤ 83 && hrp.all isPrefixChar)
  return (hrp, ← data.mapM Symbol.ofChar?)

def hasChecksum (hrp : List Char) (data : List Symbol) : Bool :=
  6 ≤ data.length && hrp.length + 1 + data.length ≤ maxLength &&
    (residue hrp data == modernResidue || residue hrp data == plainResidue)

def decode (text : List Char) : Except Fault (List Char × List UInt8) :=
  match split? text with
  | none => .error .malformed
  | some (hrp, data) =>
    if hasChecksum hrp data then .ok (hrp, Symbol.toBytes (data.take (data.length - 6)))
    else .error .badChecksum

end LedgerWallet.Bech32
