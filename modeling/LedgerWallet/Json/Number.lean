import LedgerWallet.Json.Basic
import LedgerWallet.Json.Cursor

/-! Reading JSON numbers. The significand takes digits while it fits 64 bits; a fraction or an
exponent makes a double: the significand, times or divided by a power of ten. -/
namespace LedgerWallet.Json

/-- Digits read so far: a significand and the power of ten it stands at. -/
structure Scaled where
  significand : Nat
  exponent : Int

namespace Scaled

def fits (s : Scaled) (digit : Nat) : Bool := 10 * s.significand + digit < UInt64.size

/-- Whole digits after the first one that does not fit only raise the power. -/
def addWhole (s : Scaled) : List Nat → Scaled
  | [] => s
  | digit :: rest =>
    if s.exponent = 0 && s.fits digit then addWhole ⟨10 * s.significand + digit, 0⟩ rest
    else ⟨s.significand, s.exponent + rest.length + 1⟩

/-- Fraction digits from the first one that does not fit on are dropped. -/
def addFraction (s : Scaled) : List Nat → Scaled
  | [] => s
  | digit :: rest =>
    if s.fits digit then addFraction ⟨10 * s.significand + digit, s.exponent - 1⟩ rest else s

/-- Divides by the largest power of ten at hand until the rest of the exponent is one. -/
def toFloatFrom : (fuel : Nat) → Float → Int → Option Float
  | 0, value, _ => some value
  | fuel + 1, value, exponent =>
    if exponent.natAbs ≤ 308 then
      let power := Float.ofScientific 1 false exponent.natAbs
      if 0 ≤ exponent then
        if (value * power).isInf then none else some (value * power)
      else some (value / power)
    else if value == 0 then some value
    else if 0 ≤ exponent then none
    else toFloatFrom fuel (value / Float.ofScientific 1 false 308) (exponent + 308)

/-- The nearest double of the significand, scaled; none beyond the largest double. -/
def toFloat? (s : Scaled) : Option Float :=
  toFloatFrom 4 (Float.ofNat s.significand) s.exponent

end Scaled

namespace Reader

def floatOf (negative : Bool) (s : Scaled) : Reader Number :=
  match s.toFloat? with
  | some value => return .float (if negative then -value else value)
  | none => fail .numberOutOfRange

/-- The digit that has to come next. -/
def firstDigit (atEnd : Problem) : Reader Nat := do
  match ← peek with
  | none => fail atEnd
  | some c =>
    match Text.digit? c with
    | some digit => advance; return digit
    | none => failNext .invalidNumber

/-- The letter of an exponent and its sign, which is a minus or not. -/
def exponentSign : Reader Bool := do
  advance
  let sign ← peek
  if sign = some '+' ∨ sign = some '-' then advance
  return sign == some '-'

/-- Digits up to the one that takes the exponent beyond 31 bits, if there is such a digit. -/
def exponentFor : (fuel : Nat) → (value : Nat) → Reader (Option Nat)
  | 0, value => return some value
  | fuel + 1, value => do
    match (← peek).bind Text.digit? with
    | none => return some value
    | some digit =>
      advance
      let value := 10 * value + digit
      if value < 0x80000000 then exponentFor fuel value else return none

/-- A significand at the power that the exponent after it gives. -/
def raised (negative : Bool) (s : Scaled) : Reader Number := do
  let below ← exponentSign
  let first ← firstDigit .endInValue
  match ← withFuel fun fuel => exponentFor fuel first with
  | some power =>
    floatOf negative { s with exponent := if below then s.exponent - power else s.exponent + power }
  | none =>
    if s.significand ≠ 0 && !below then fail .numberOutOfRange
    let _ ← digits
    floatOf negative ⟨0, 0⟩

def isExponentMark (c : Option Char) : Bool := c = some 'e' || c = some 'E'

/-- The fraction and the exponent, where there are any, after the whole digits. -/
def afterWhole (negative : Bool) (whole : Scaled) : Reader Number := do
  if (← peek) = some '.' then
    advance
    let fraction ← digits
    if fraction.isEmpty then
      match ← peek with
      | some _ => failNext .invalidNumber
      | none => fail .endInValue
    let s := whole.addFraction fraction
    if isExponentMark (← peek) then raised negative s else floatOf negative s
  else if isExponentMark (← peek) then raised negative whole
  else if whole.exponent ≠ 0 then floatOf negative whole
  else if !negative then return .natural (UInt64.ofNat whole.significand)
  else if whole.significand = 0 ∨ 0x8000000000000000 < whole.significand then floatOf true whole
  else return .negative (UInt64.ofNat whole.significand)

/-- The first of the whole digits, which is a zero only where it is the only one. -/
def leadingDigit (atEnd : Problem) : Reader Nat := do
  let first ← firstDigit atEnd
  if first = 0 && ((← peek).bind Text.digit?).isSome then failNext .invalidNumber
  return first

/-- A number, at its sign or first digit. -/
def number : Reader Number := do
  let negative := (← peek) == some '-'
  if negative then advance
  let first ← leadingDigit .endInValue
  if first = 0 then afterWhole negative ⟨0, 0⟩
  else afterWhole negative (Scaled.addWhole ⟨first, 0⟩ (← digits))

/-- Passes over a number without judging its size. A number that ends too early is malformed. -/
def skipNumber : Reader Unit := do
  if (← peek) = some '-' then advance
  if (← leadingDigit .invalidNumber) ≠ 0 then
    let _ ← digits
  if (← peek) = some '.' then
    advance
    if (← digits).isEmpty then failNext .invalidNumber
  if isExponentMark (← peek) then
    let _ ← exponentSign
    let _ ← firstDigit .invalidNumber
    let _ ← digits

end Reader

end LedgerWallet.Json
