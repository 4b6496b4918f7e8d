/-! Doubles in base ten, with the fewest digits that read back as the same double. -/
namespace LedgerWallet.Double

/-- Which of two digit sequences is taken, where both are equally near. -/
inductive Tie where
  | up
  | even
deriving DecidableEq, Repr

/-- Whether the lower of two neighbours on a grid is taken, given the distances to both. -/
def Tie.takesLower (tie : Tie) (lower toLower toUpper : Nat) : Bool :=
  toLower < toUpper || (toLower = toUpper && tie = .even && lower % 2 = 0)

/-- A positive double, as a multiple of a power of two. -/
structure Magnitude where
  significand : Nat
  exponent : Int
  /-- Whether the next double below is only half as far away as the one above. -/
  atPowerOfTwo : Bool

/-- The magnitude in the lower 63 bits of a double, where it is finite and not zero. -/
def Magnitude.ofBits? (bits : Nat) : Option Magnitude :=
  let fraction : Nat := bits % 0x10000000000000
  let raised : Nat := bits / 0x10000000000000 % 0x800
  if raised = 2047 ∨ bits % 0x8000000000000000 = 0 then none
  else if raised = 0 then some ⟨fraction, -1074, false⟩
  else some ⟨0x10000000000000 + fraction, (raised : Int) - 1075, fraction = 0 ∧ 1 < raised⟩

namespace Magnitude

/-- The numbers that round to the magnitude, in quarters of its unit. -/
def lower (m : Magnitude) : Nat := 4 * m.significand - if m.atPowerOfTwo then 1 else 2

@[inherit_doc lower]
def upper (m : Magnitude) : Nat := 4 * m.significand + 2

/-- Where rounding has to choose it takes the even significand, and so both ends belong to it. -/
def closed (m : Magnitude) : Bool := m.significand % 2 = 0

/-- Whether `n` steps of a grid lie between the ends. The grid has `up / down` steps to a quarter. -/
def contains (m : Magnitude) (up down n : Nat) : Bool :=
  if m.closed then m.lower * up ≤ n * down ∧ n * down ≤ m.upper * up
  else m.lower * up < n * down ∧ n * down < m.upper * up

/-- The nearest number of steps that reads back. -/
def nearest? (m : Magnitude) (tie : Tie) (up down : Nat) : Option Nat :=
  let exact := 4 * m.significand * up
  let floor := exact / down
  let below := floor != 0 && m.contains up down floor
  let above := m.contains up down (floor + 1)
  if below && (!above || tie.takesLower floor (exact - floor * down) ((floor + 1) * down - exact))
  then some floor
  else if above then some (floor + 1)
  else none

/-- The digits on the coarsest grid that has some, from the grid of a power of ten downwards. -/
def digitsFrom (m : Magnitude) (tie : Tie) : (fuel : Nat) → (power : Int) → Nat × Int
  | 0, power => (0, power)
  | fuel + 1, power =>
    let scale := m.exponent - 2
    let up := Nat.pow 2 scale.toNat * Nat.pow 10 (-power).toNat
    let down := Nat.pow 2 (-scale).toNat * Nat.pow 10 power.toNat
    match m.nearest? tie up down with
    | some digits => (digits, power)
    | none => digitsFrom m tie fuel (power - 1)

def digits (m : Magnitude) (tie : Tie) : Nat × Int := digitsFrom m tie 700 309

end Magnitude

/-- Digits at a power of ten, with zeros or a point where needed. -/
def positional (digits : Nat) (power : Int) : List Char :=
  let shown := Nat.toDigits 10 digits
  let places := (-power).toNat
  let filled := List.replicate (places + 1 - shown.length) '0' ++ shown
  if 0 ≤ power then shown ++ List.replicate power.toNat '0'
  else filled.take (filled.length - places) ++ '.' :: filled.drop (filled.length - places)

/-- One digit, a point and the others where there are any, and the power of ten of the first. -/
def scientific (digits : Nat) (power : Int) : List Char :=
  let shown := Nat.toDigits 10 digits
  let exponent := power + (shown.length - 1 : Nat)
  let fraction := if shown.length = 1 then [] else '.' :: shown.tail
  let sign := if exponent < 0 then '-' else '+'
  shown.take 1 ++ fraction ++ 'e' :: sign :: Nat.toDigits 10 exponent.natAbs

/-- How doubles are written. -/
structure Layout where
  tie : Tie
  /-- Whether a double is written without an exponent, by the power of ten of its first digit. -/
  isPositional : Int → Bool
  /-- Whether an integer without exponent has a point and a zero after it. -/
  marksIntegers : Bool

/-- Never with an exponent. -/
def Layout.plain : Layout := ⟨.up, fun _ => true, false⟩

/-- With an exponent for what is very large or very small, and never like an integer. -/
def Layout.marked : Layout := ⟨.even, fun exponent => -5 ≤ exponent && exponent < 16, true⟩

namespace Layout

def charsOf (layout : Layout) (digits : Nat) (power : Int) : List Char :=
  if layout.isPositional (power + ((Nat.toDigits 10 digits).length - 1 : Nat)) then
    positional digits power ++ (if layout.marksIntegers && 0 ≤ power then ['.', '0'] else [])
  else scientific digits power

def chars (layout : Layout) (value : Float) : List Char :=
  if value.isNaN then "NaN".toList
  else
    let bits := value.toBits.toNat
    let magnitude := match Magnitude.ofBits? bits with
      | some m =>
        let (digits, power) := m.digits layout.tie
        layout.charsOf digits power
      | none => if value.isInf then "inf".toList else layout.charsOf 0 0
    if bits < 0x8000000000000000 then magnitude else '-' :: magnitude

def text (layout : Layout) (value : Float) : String := String.ofList (layout.chars value)

end Layout

end LedgerWallet.Double
