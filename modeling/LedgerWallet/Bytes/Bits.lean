import LedgerWallet.Bytes.Groups

/-! Numbers as bits of a fixed count, most significant first. -/
namespace LedgerWallet.Bits

def ofNat : (width : Nat) → Nat → List Bool
  | 0, _ => []
  | width + 1, n => n.testBit width :: ofNat width n

def toNat (bits : List Bool) : Nat := bits.foldl (fun n bit => 2 * n + bit.toNat) 0

/-- Groups of `width` bits, the last one filled with zeros. -/
def regroupPadded (width : Nat) (bits : List Bool) : List Nat :=
  match groups width bits with
  | (whole, []) => whole.map toNat
  | (whole, last) =>
    whole.map toNat ++ [toNat (last ++ List.replicate (width - last.length) false)]

/-- Whole groups of `width` bits; bits left over are dropped. -/
def regroup (width : Nat) (bits : List Bool) : List Nat := (groups width bits).1.map toNat

end LedgerWallet.Bits
