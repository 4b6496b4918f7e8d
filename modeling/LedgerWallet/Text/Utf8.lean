/-! UTF-8 byte sequences and the place where one goes wrong. -/
namespace LedgerWallet.Utf8

/-- Where the well-formed part ends, and how many bytes there can begin no character. Without a
width the bytes from there on begin a character that the end of the input cuts short. -/
structure Fault where
  validUpTo : Nat
  width : Option Nat
deriving DecidableEq, Repr

def Fault.message (fault : Fault) : String :=
  match fault.width with
  | some width => s!"invalid utf-8 sequence of {width} bytes from index {fault.validUpTo}"
  | none => s!"incomplete utf-8 byte sequence from index {fault.validUpTo}"

/-- How many bytes a first byte announces, and the bounds of the byte after it. -/
def lead? (byte : Nat) : Option (Nat × Nat × Nat) :=
  if byte < 0x80 then some (1, 0, 0)
  else if 0xc2 ≤ byte ∧ byte ≤ 0xdf then some (2, 0x80, 0xbf)
  else if byte = 0xe0 then some (3, 0xa0, 0xbf)
  else if byte = 0xed then some (3, 0x80, 0x9f)
  else if 0xe1 ≤ byte ∧ byte ≤ 0xef then some (3, 0x80, 0xbf)
  else if byte = 0xf0 then some (4, 0x90, 0xbf)
  else if 0xf1 ≤ byte ∧ byte ≤ 0xf3 then some (4, 0x80, 0xbf)
  else if byte = 0xf4 then some (4, 0x80, 0x8f)
  else none

/-- A character in progress: where it began, the bytes read and missing, and the bounds of the next
byte. -/
structure Pending where
  start : Nat
  read : Nat
  missing : Nat
  low : Nat
  high : Nat

/-- Reads on at an offset, between characters or inside one. -/
def scan (offset : Nat) (pending : Option Pending) : List UInt8 → Option Fault
  | [] => pending.map fun p => ⟨p.start, none⟩
  | byte :: rest =>
    match pending with
    | none =>
      match lead? byte.toNat with
      | none => some ⟨offset, some 1⟩
      | some (length, low, high) =>
        scan (offset + 1) (if length = 1 then none else some ⟨offset, 1, length - 1, low, high⟩) rest
    | some p =>
      if p.low ≤ byte.toNat ∧ byte.toNat ≤ p.high then
        scan (offset + 1)
          (if p.missing = 1 then none else some ⟨p.start, p.read + 1, p.missing - 1, 0x80, 0xbf⟩) rest
      else some ⟨p.start, some p.read⟩

def encode (text : String) : List UInt8 := text.toByteArray.data.toList

/-- The text of a byte sequence, or the first fault in it. -/
def decode (bytes : List UInt8) : Except Fault String :=
  match String.fromUTF8? ⟨bytes.toArray⟩ with
  | some text => .ok text
  | none => .error ((scan 0 none bytes).getD ⟨0, none⟩)

end LedgerWallet.Utf8
