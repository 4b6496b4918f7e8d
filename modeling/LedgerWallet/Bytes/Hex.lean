import LedgerWallet.Bytes

/-! Base-16 text. Bytes are written with two lowercase digits; digits of either case are read. -/
namespace LedgerWallet.Hex

/-- The digit of a value below sixteen. -/
def digit (value : Nat) : Char :=
  if value < 10 then Char.ofNat (48 + value) else Char.ofNat (87 + value)

def value? (c : Char) : Option Nat :=
  if '0' ≤ c ∧ c ≤ '9' then some (c.toNat - 48)
  else if 'a' ≤ c ∧ c ≤ 'f' then some (c.toNat - 87)
  else if 'A' ≤ c ∧ c ≤ 'F' then some (c.toNat - 55)
  else none

def encode (bytes : List UInt8) : List Char :=
  bytes.flatMap fun byte => [digit (byte.toNat / 16), digit (byte.toNat % 16)]

inductive Fault where
  | oddLength
  /-- The first offending byte, read as a code point below 256, and its offset. -/
  | badDigit (shown : Char) (offset : Nat)
deriving DecidableEq, Repr

/-- The first byte of a character's UTF-8 form, read as a code point. -/
def leadByte (c : Char) : Char :=
  Char.ofNat ((String.utf8EncodeChar c).headD 0).toNat

/-- Reads digit pairs from `offset` on. Every earlier character was a digit and so one byte. -/
def decodePairs (offset : Nat) : List Char → Except Fault (List UInt8)
  | [] => .ok []
  | [c] => match value? c with
    | none => .error (.badDigit (leadByte c) offset)
    | some _ => .error .oddLength
  | c :: d :: rest =>
    match value? c with
    | none => .error (.badDigit (leadByte c) offset)
    | some high =>
      match value? d with
      | none => .error (.badDigit (leadByte d) (offset + 1))
      | some low => (decodePairs (offset + 2) rest).map (UInt8.ofNat (16 * high + low) :: ·)

def utf8Length (text : List Char) : Nat :=
  text.foldl (fun length c => length + c.utf8Size) 0

/-- The length is judged before the digits, in bytes. -/
def decode (text : List Char) : Except Fault (List UInt8) :=
  if utf8Length text % 2 = 1 then .error .oddLength else decodePairs 0 text

def decode? (text : List Char) : Option (List UInt8) := (decode text).toOption

def text (bytes : List UInt8) : String := String.ofList (encode bytes)

end LedgerWallet.Hex
