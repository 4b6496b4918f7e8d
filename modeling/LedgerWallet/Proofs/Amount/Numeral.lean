import LedgerWallet.Amount
import LedgerWallet.Proofs.Text.Digits
import Mathlib.Algebra.Order.Floor.Semiring
import Mathlib.Data.Rat.Floor
import Mathlib.Tactic.FieldSimp
import Mathlib.Tactic.Linarith

/-! Numerals for amounts, the exact number that each of them denotes, and the nearest count of attos. The
first digit beyond the scale decides how the whole rest of a numeral rounds. -/
namespace LedgerWallet.Amount

/-- How an amount is written: maybe a minus sign, digits, and maybe a point with digits behind it. On one
side of the point at least there is a digit. -/
structure Numeral where
  negative : Bool
  whole : List Char
  fraction : Option (List Char)
  digits : ∀ c ∈ whole ++ fraction.getD [], c.isDigit
  nonempty : whole ++ fraction.getD [] ≠ []

namespace Numeral

/-- The digits behind the point. -/
def decimals (numeral : Numeral) : List Char := numeral.fraction.getD []

/-- The numeral without its sign. -/
def unsigned (numeral : Numeral) : List Char := numeral.whole ++ numeral.fraction.elim [] ('.' :: ·)

def chars (numeral : Numeral) : List Char :=
  if numeral.negative then '-' :: numeral.unsigned else numeral.unsigned

/-- The number that the digits denote, without the sign. -/
def magnitude (numeral : Numeral) : ℚ :=
  Nat.ofDigitChars 10 numeral.whole 0 +
    Nat.ofDigitChars 10 numeral.decimals 0 / 10 ^ numeral.decimals.length

/-- The nearest count of attos. A half goes up. -/
def attos (numeral : Numeral) : ℕ := ⌊numeral.magnitude * 10 ^ 18 + 1 / 2⌋₊

end Numeral

/-- The attos of the digits behind the point, as far as the scale goes. -/
def scaledDigits (digits : List Char) : Nat :=
  Nat.ofDigitChars 10 (digits.take scale) 0 * 10 ^ (scale - (digits.take scale).length)

/-- Those attos, and one more where the next digit rounds up. -/
def decimalAttos (digits : List Char) : Nat :=
  scaledDigits digits + if roundsUp digits then 1 else 0

section Rounding

variable {digits : List Char}

theorem floor_half (n : ℕ) : ⌊(n : ℚ) + 1 / 2⌋₊ = n := by
  rw [Nat.floor_eq_iff (by positivity)]
  constructor <;> linarith

/-- What comes after a digit is less than one in its place. -/
theorem floor_tail {n d r m : ℕ} (small : r < 10 ^ m) (digit : d < 10) :
    ⌊(n : ℚ) + (10 ^ m * d + r : ℕ) / 10 ^ (m + 1) + 1 / 2⌋₊ = n + if 5 ≤ d then 1 else 0 := by
  have part : ((10 ^ m * d + r : ℕ) : ℚ) / 10 ^ (m + 1) = d / 10 + r / 10 ^ m / 10 := by
    push_cast
    rw [pow_succ]
    field_simp
  have above : (r : ℚ) / 10 ^ m < 1 := (div_lt_one (by positivity)).mpr (by exact_mod_cast small)
  have below : (0 : ℚ) ≤ r / 10 ^ m := by positivity
  rw [part, Nat.floor_eq_iff (by positivity)]
  split
  · next large =>
    have lower : (5 : ℚ) ≤ d := by exact_mod_cast large
    have upper : (d : ℚ) ≤ 9 := by exact_mod_cast Nat.le_of_lt_succ digit
    push_cast
    constructor <;> linarith
  · next less =>
    have upper : (d : ℚ) ≤ 4 := by exact_mod_cast Nat.le_of_lt_succ (Nat.lt_of_not_le less)
    push_cast
    constructor <;> linarith

/-- No digit is left over to round by. -/
theorem decimalAttos_of_short (short : digits.length ≤ scale) :
    decimalAttos digits = Nat.ofDigitChars 10 digits 0 * 10 ^ (scale - digits.length) := by
  have exact : roundsUp digits = false := by
    rw [roundsUp, List.getElem?_eq_none short, Option.any_none]
  rw [decimalAttos, scaledDigits, List.take_of_length_le short, exact, if_neg Bool.false_ne_true,
    Nat.add_zero]

/-- So many digits are attos already. -/
theorem floor_short (short : digits.length ≤ scale) (n : ℕ) :
    ⌊((n : ℚ) + Nat.ofDigitChars 10 digits 0 / 10 ^ digits.length) * 10 ^ 18 + 1 / 2⌋₊ =
      n * 10 ^ 18 + decimalAttos digits := by
  have power : (10 : ℚ) ^ 18 = 10 ^ digits.length * 10 ^ (scale - digits.length) := by
    rw [← pow_add, Nat.add_sub_cancel' short]
    rfl
  have scaled : ((n : ℚ) + Nat.ofDigitChars 10 digits 0 / 10 ^ digits.length) * 10 ^ 18 =
      (n * 10 ^ 18 + Nat.ofDigitChars 10 digits 0 * 10 ^ (scale - digits.length) : ℕ) := by
    rw [Nat.cast_add, Nat.cast_mul, Nat.cast_mul, Nat.cast_pow, Nat.cast_pow, Nat.cast_ofNat, add_mul,
      power]
    field_simp
  rw [scaled, floor_half, decimalAttos_of_short short]

/-- Rounding by the first digit beyond the scale is rounding of all that follows. -/
theorem floor_long {kept later : List Char} {next : Char} (length : kept.length = scale)
    (digit : next.isDigit) (digits : ∀ c ∈ later, c.isDigit) (n : ℕ) :
    ⌊((n : ℚ) + Nat.ofDigitChars 10 (kept ++ next :: later) 0 / 10 ^ (kept ++ next :: later).length) *
      10 ^ 18 + 1 / 2⌋₊ = n * 10 ^ 18 + decimalAttos (kept ++ next :: later) := by
  have front : (kept ++ next :: later).take scale = kept := List.take_left' length
  have rounds : roundsUp (kept ++ next :: later) ↔ 5 ≤ Text.digitValue next := by
    rw [roundsUp, ← length, List.getElem?_append_right (Nat.le_refl _), Nat.sub_self,
      List.getElem?_cons_zero, Option.any_some, decide_eq_true_eq, Text.five_le_iff digit]
  have value : Nat.ofDigitChars 10 (kept ++ next :: later) 0 =
      10 ^ (later.length + 1) * Nat.ofDigitChars 10 kept 0 +
        (10 ^ later.length * Text.digitValue next + Nat.ofDigitChars 10 later 0) := by
    rw [Text.ofDigitChars_append, Text.ofDigitChars_cons,
      Nat.ofDigitChars_eq_ofDigitChars_zero (l := later), List.length_cons, Nat.mul_zero, Nat.zero_add]
  have size : (kept ++ next :: later).length = 18 + (later.length + 1) := by
    rw [List.length_append, length, List.length_cons, scale]
  have scaled : ((n : ℚ) + Nat.ofDigitChars 10 (kept ++ next :: later) 0 /
      10 ^ (kept ++ next :: later).length) * 10 ^ 18 =
      (n * 10 ^ 18 + Nat.ofDigitChars 10 kept 0 : ℕ) +
        (10 ^ later.length * Text.digitValue next + Nat.ofDigitChars 10 later 0 : ℕ) /
          10 ^ (later.length + 1) := by
    rw [value, size, pow_add]
    push_cast
    field_simp
    ring
  rw [scaled, floor_tail (Text.ofDigitChars_lt digits) (Text.digitValue_lt digit), decimalAttos,
    scaledDigits, front, length, Nat.sub_self, Nat.pow_zero, Nat.mul_one, Nat.add_assoc]
  simp only [rounds]

theorem floor_decimals (all : ∀ c ∈ digits, c.isDigit) (n : ℕ) :
    ⌊((n : ℚ) + Nat.ofDigitChars 10 digits 0 / 10 ^ digits.length) * 10 ^ 18 + 1 / 2⌋₊ =
      n * 10 ^ 18 + decimalAttos digits := by
  by_cases short : digits.length ≤ scale
  · exact floor_short short n
  · have long : scale < digits.length := Nat.lt_of_not_le short
    have parts : digits = digits.take scale ++ digits[scale] :: digits.drop (scale + 1) := by
      rw [← List.drop_eq_getElem_cons long, List.take_append_drop]
    rw [parts]
    exact floor_long (List.length_take_of_le (Nat.le_of_lt long)) (all _ (List.getElem_mem long))
      (fun c later => all c (List.mem_of_mem_drop later)) n

end Rounding

theorem Numeral.attos_eq (numeral : Numeral) : numeral.attos =
    Nat.ofDigitChars 10 numeral.whole 0 * unit + decimalAttos numeral.decimals :=
  floor_decimals (fun c inside => numeral.digits c (List.mem_append_right _ inside)) _

end LedgerWallet.Amount
