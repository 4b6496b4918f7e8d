import LedgerWallet.Bytes

/-! Arithmetic modulo 2^255 - 19, on representatives below the modulus. -/
namespace LedgerWallet.Ed25519

def modulus : Nat := Nat.pow 2 255 - 19

/-- `base` to the power whose low `bits` binary digits are those of `exponent`. -/
def powMod (m : Nat) : (bits : Nat) → (base exponent : Nat) → Nat
  | 0, _, _ => 1 % m
  | bits + 1, base, exponent =>
    let square := powMod m bits (base * base % m) (exponent / 2)
    if exponent % 2 = 1 then base * square % m else square

namespace Field

def add (a b : Nat) : Nat := (a + b) % modulus

def sub (a b : Nat) : Nat := (a + modulus - b) % modulus

def mul (a b : Nat) : Nat := a * b % modulus

def neg (a : Nat) : Nat := (modulus - a) % modulus

def pow (a exponent : Nat) : Nat := powMod modulus 255 a exponent

def inv (a : Nat) : Nat := pow a (modulus - 2)

/-- A square root of minus one. -/
def sqrtMinusOne : Nat := pow 2 ((modulus - 1) / 4)

/-- The even square root of `u / v`, for a nonzero `v`. -/
def sqrtRatio? (u v : Nat) : Option Nat :=
  let v3 := mul (mul v v) v
  let v7 := mul (mul v3 v3) v
  let candidate := mul (mul u v3) (pow (mul u v7) ((modulus - 5) / 8))
  let square := mul v (mul candidate candidate)
  let root? :=
    if square = u then some candidate
    else if square = neg u then some (mul candidate sqrtMinusOne)
    else none
  root?.map fun root => if root % 2 = 1 then neg root else root

end Field

end LedgerWallet.Ed25519
