/-! Numerals in base ten. -/
namespace LedgerWallet.Text

def digit? (c : Char) : Option Nat :=
  if '0' ≤ c ∧ c ≤ '9' then some (c.toNat - 48) else none

/-- What a digit counts. Other characters have no meaning here. -/
def digitValue (c : Char) : Nat := c.toNat - '0'.toNat

/-- The number that a run of digits denotes, or none if another character is among them. -/
def digits? (text : List Char) : Option Nat :=
  text.foldl (fun value c => do return 10 * (← value) + (← digit? c)) (some 0)

/-- A nonempty run of digits, after at most one plus sign. -/
def natural? (text : List Char) : Option Nat :=
  let digits := match text with
    | '+' :: rest => rest
    | _ => text
  if digits.isEmpty then none else digits? digits

/-- A numeral below a bound. -/
def below? (bound : Nat) (text : List Char) : Option Nat :=
  (natural? text).filter (· < bound)

/-- A natural numeral, or one after a minus sign. -/
def integer? : List Char → Option Int
  | '-' :: rest => if rest.isEmpty then none else (digits? rest).map fun n => -(n : Int)
  | text => (natural? text).map Int.ofNat

/-- At least two digits in base sixteen, after the sign `0x`. -/
def hexByte (byte : UInt8) : String :=
  let digits := Nat.toDigits 16 byte.toNat
  String.ofList ('0' :: 'x' :: (List.replicate (2 - digits.length) '0' ++ digits))

end LedgerWallet.Text
