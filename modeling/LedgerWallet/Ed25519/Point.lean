import LedgerWallet.Ed25519.Field

/-! The twisted Edwards curve -x² + y² = 1 + d x² y² in extended coordinates, and the 32-byte form
of its points: y, with the parity of x in the top bit. -/
namespace LedgerWallet.Ed25519

/-- The point (x/z, y/z), with t = x y / z. -/
structure Point where
  x : Nat
  y : Nat
  z : Nat
  t : Nat
deriving Inhabited

namespace Point

def d : Nat := Field.mul (Field.neg 121665) (Field.inv 121666)

def identity : Point := ⟨0, 1, 1, 0⟩

def ofAffine (x y : Nat) : Point := ⟨x, y, 1, Field.mul x y⟩

def neg (p : Point) : Point := ⟨Field.neg p.x, p.y, p.z, Field.neg p.t⟩

/-- The law is complete: it also doubles. -/
def addWith (twiceD : Nat) (p q : Point) : Point :=
  let a := Field.mul (Field.sub p.y p.x) (Field.sub q.y q.x)
  let b := Field.mul (Field.add p.y p.x) (Field.add q.y q.x)
  let c := Field.mul (Field.mul p.t twiceD) q.t
  let e := Field.mul (Field.add p.z p.z) q.z
  let f := Field.sub b a
  let g := Field.sub e c
  let h := Field.add e c
  let i := Field.add b a
  ⟨Field.mul f g, Field.mul h i, Field.mul g h, Field.mul f i⟩

def add : Point → Point → Point := addWith (Field.add d d)

/-- The multiple of a point by the low `bits` binary digits of a number. -/
def scale : (bits : Nat) → Nat → Point → Point
  | 0, _, _ => identity
  | bits + 1, n, p =>
    let rest := scale bits (n / 2) (p.add p)
    if n % 2 = 1 then p.add rest else rest

def mul (n : Nat) (p : Point) : Point := scale 256 n p

def encode (p : Point) : List UInt8 :=
  let inverse := Field.inv p.z
  let x := Field.mul p.x inverse
  let y := Field.mul p.y inverse
  LittleEndian.encode 32 (y + x % 2 * Nat.pow 2 255)

/-- The number in the low 255 bits is taken modulo the field, and the parity bit of a zero x is
ignored. -/
def decode? (bytes : List UInt8) : Option Point :=
  let value := LittleEndian.decode bytes
  let y := value % Nat.pow 2 255 % modulus
  let square := Field.mul y y
  (Field.sqrtRatio? (Field.sub square 1) (Field.add (Field.mul d square) 1)).map fun x =>
    ofAffine (if value / Nat.pow 2 255 % 2 = 1 then Field.neg x else x) y

def baseY : Nat := Field.mul 4 (Field.inv 5)

/-- The generator: y is 4/5 and x is even. -/
def base : Point := (decode? (LittleEndian.encode 32 baseY)).getD identity

end Point

end LedgerWallet.Ed25519
