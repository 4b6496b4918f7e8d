import LedgerWallet.Bytes.Bits

/-! The 32 symbols of the data part, as characters and as bits of bytes. -/
namespace LedgerWallet.Bech32

abbrev Symbol := Fin 32

namespace Symbol

def alphabet : List Char := "qpzry9x8gf2tvdw0s3jn54khce6mua7l".toList

/-- The low five bits. -/
def ofNat (n : Nat) : Symbol := ⟨n % 32, Nat.mod_lt _ (by decide)⟩

def char (symbol : Symbol) : Char := alphabet.getD symbol.val 'q'

def ofChar? (c : Char) : Option Symbol :=
  (alphabet.findIdx? (· == c)).map Symbol.ofNat

def ofBytes (bytes : List UInt8) : List Symbol :=
  (Bits.regroupPadded 5 (bytes.flatMap fun byte => Bits.ofNat 8 byte.toNat)).map Symbol.ofNat

/-- Whole bytes; fewer than eight bits left over are dropped, whatever they are. -/
def toBytes (symbols : List Symbol) : List UInt8 :=
  (Bits.regroup 8 (symbols.flatMap fun symbol => Bits.ofNat 5 symbol.val)).map UInt8.ofNat

end Symbol

end LedgerWallet.Bech32
