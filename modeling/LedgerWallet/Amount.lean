import LedgerWallet.Text.Blank
import LedgerWallet.Text.Numeral
import LedgerWallet.Text.Split

/-! Amounts of a resource: a signed 128-bit count of attos, of which 10^18 are one unit. -/
namespace LedgerWallet

inductive AmountError where
  | invalid (text : String)
  | overflow
deriving DecidableEq, Repr

def AmountError.message : AmountError → String
  | invalid text => s!"invalid decimal '{text}'"
  | overflow => "decimal overflow"

structure Amount where
  attos : Int
  lower : -0x80000000000000000000000000000000 ≤ attos := by omega
  upper : attos < 0x80000000000000000000000000000000 := by omega
deriving DecidableEq

namespace Amount

theorem attos_inj {a b : Amount} : a.attos = b.attos ↔ a = b := by
  cases a
  cases b
  simp

def scale : Nat := 18

def unit : Nat := 1000000000000000000

def ofInt? (attos : Int) : Option Amount :=
  if h : -0x80000000000000000000000000000000 ≤ attos ∧
      attos < 0x80000000000000000000000000000000 then some ⟨attos, h.1, h.2⟩ else none

/-- A count of attos from zero upwards. -/
def ofNat (attos : Nat) (h : attos < 0x80000000000000000000000000000000) : Amount where
  attos := attos

@[simp]
theorem ofNat_attos (attos : Nat) (h : attos < 0x80000000000000000000000000000000) :
    (ofNat attos h).attos = attos := rfl

def zero : Amount := ⟨0, by decide, by decide⟩

instance : Inhabited Amount := ⟨zero⟩

def ofUnits (units : UInt64) : Amount where
  attos := units.toNat * unit
  lower := by simp only [unit]; omega
  upper := by
    have := units.toNat_lt
    simp only [unit]
    omega

def add? (a b : Amount) : Option Amount := ofInt? (a.attos + b.attos)

def sub? (a b : Amount) : Option Amount := ofInt? (a.attos - b.attos)

/-- Adds from the left. Every partial sum has to fit. -/
def sum (amounts : List Amount) : Except AmountError Amount :=
  match amounts.foldlM add? zero with
  | some total => .ok total
  | none => .error .overflow

/-- The digits behind the point, as many as the scale says. -/
def places (amount : Amount) : List Char :=
  let digits := Nat.toDigits 10 (amount.attos.natAbs % unit)
  List.replicate (scale - digits.length) '0' ++ digits

/-- A plain numeral without needless zeros or point. -/
def chars (amount : Amount) : List Char :=
  let sign := if amount.attos < 0 then ['-'] else []
  let whole := Nat.toDigits 10 (amount.attos.natAbs / unit)
  let kept := Text.trimEnd (· == '0') amount.places
  sign ++ whole ++ (if kept.isEmpty then [] else '.' :: kept)

def text (amount : Amount) : String := String.ofList amount.chars

instance : ToString Amount := ⟨text⟩

/-- Whether there is a minus sign in front, and what follows it. -/
def signAndRest : List Char → Bool × List Char
  | '-' :: rest => (true, rest)
  | text => (false, text)

/-- What stands in front of the first point and what behind it. -/
def wholeAndFraction (text : List Char) : List Char × List Char :=
  (Text.splitFirst '.' text).getD (text, [])

/-- What 128 bits keep of an integer, which is all of it where it fits. -/
def wrapped (attos : Int) : Amount where
  attos := attos.bmod 0x100000000000000000000000000000000
  lower := by
    have := Int.le_bmod (x := attos) (m := 0x100000000000000000000000000000000) (by decide)
    omega
  upper := by
    have := Int.bmod_lt (x := attos) (m := 0x100000000000000000000000000000000) (by decide)
    omega

/-- One more digit. Both operations are checked. -/
def push? (value : Amount) (digit : Char) : Option Amount := do
  let tens ← ofInt? (value.attos * 10)
  ofInt? (tens.attos + Text.digitValue digit)

/-- The attos of the digits in front of the point. Every operation is checked. -/
def wholeAttos? (digits : List Char) : Option Amount := do
  let units ← digits.foldlM push? zero
  ofInt? (units.attos * unit)

/-- Whether the first digit beyond the scale is five or more. -/
def roundsUp (digits : List Char) : Bool := digits[scale]?.any ('5' ≤ ·)

section Unchecked

/-! The remaining operations have no check. What they give where a result does not fit 128 bits is the
parameter `plain`. -/

variable (plain : Int → Amount)

def push (value : Amount) (digit : Char) : Amount :=
  plain ((plain (value.attos * 10)).attos + Text.digitValue digit)

/-- The attos of the digits behind the point, as far as the scale goes. -/
def keptAttos (digits : List Char) : Amount :=
  let kept := digits.take scale
  let power := plain (Nat.pow 10 (scale - kept.length))
  plain ((kept.foldl (push plain) zero).attos * power.attos)

/-- The first digit beyond the scale rounds half up. -/
def fractionAttos (digits : List Char) : Amount :=
  let attos := keptAttos plain digits
  if roundsUp digits then plain (attos.attos + 1) else attos

def magnitude? (whole fraction : List Char) : Option Amount := do
  (← wholeAttos? whole).add? (fractionAttos plain fraction)

def parseWith (text : List Char) : Except AmountError Amount :=
  let (negative, digits) := signAndRest (Text.trim text)
  let (whole, fraction) := wholeAndFraction digits
  if whole.isEmpty && fraction.isEmpty || !whole.all Char.isDigit || !fraction.all Char.isDigit then
    .error (.invalid (String.ofList text))
  else match magnitude? plain whole fraction with
    | none => .error .overflow
    | some attos => .ok (if negative then plain (-attos.attos) else attos)

end Unchecked

def parseChars (text : List Char) : Except AmountError Amount := parseWith wrapped text

def parse (text : String) : Except AmountError Amount := parseChars text.toList

end Amount

end LedgerWallet
