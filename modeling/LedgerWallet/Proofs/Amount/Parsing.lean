import LedgerWallet.Proofs.Amount.Numeral
import LedgerWallet.Proofs.Text.Cutting
import LedgerWallet.Proofs.Text.Trimming

/-! Reading an amount is rounding its numeral to attos. The checks on the way are one bound on the
rounded number, and operations without a check never need one. -/
namespace LedgerWallet.Amount

theorem wrapped_attos (amount : Amount) : wrapped amount.attos = amount := by
  obtain ⟨attos, lower, upper⟩ := amount
  have same : attos.bmod 0x100000000000000000000000000000000 = attos :=
    Int.bmod_eq_of_le (by omega) (by omega)
  simp only [wrapped, same]

section Checked

variable {n : Nat}

theorem ofInt?_of_lt (small : n < 0x80000000000000000000000000000000) :
    ofInt? n = some (ofNat n small) :=
  dif_pos ⟨by omega, by omega⟩

theorem ofInt?_of_le (large : 0x80000000000000000000000000000000 ≤ n) : ofInt? n = none :=
  dif_neg fun bounds => by omega

theorem push?_ofNat (small : n < 0x80000000000000000000000000000000) (c : Char) :
    (ofNat n small).push? c = ofInt? (10 * n + Text.digitValue c : Nat) := by
  have tens : (ofNat n small).attos * 10 = (10 * n : Nat) := by
    rw [ofNat_attos]
    omega
  rw [push?, tens]
  by_cases fits : 10 * n < 0x80000000000000000000000000000000
  · rw [ofInt?_of_lt fits, Option.bind_eq_bind, Option.bind_some, ofNat_attos, Int.natCast_add]
  · rw [ofInt?_of_le (by omega), ofInt?_of_le (by omega)]
    rfl

/-- The check of the last digit is a check of all of them. -/
theorem foldlM_push? (digits : List Char) (small : n < 0x80000000000000000000000000000000) :
    digits.foldlM push? (ofNat n small) = ofInt? (Nat.ofDigitChars 10 digits n) := by
  induction digits generalizing n with
  | nil =>
    rw [Nat.ofDigitChars_nil, ofInt?_of_lt small]
    rfl
  | cons c rest ih =>
    rw [List.foldlM_cons, push?_ofNat, Text.ofDigitChars_cons]
    by_cases fits : 10 * n + Text.digitValue c < 0x80000000000000000000000000000000
    · rw [ofInt?_of_lt fits]
      exact ih fits
    · have more := Text.le_ofDigitChars rest (10 * n + Text.digitValue c)
      rw [ofInt?_of_le (by omega), ofInt?_of_le (by omega)]
      rfl

theorem wholeAttos?_eq (digits : List Char) :
    wholeAttos? digits = ofInt? (Nat.ofDigitChars 10 digits 0 * unit : Nat) := by
  have units : digits.foldlM push? zero = ofInt? (Nat.ofDigitChars 10 digits 0) :=
    foldlM_push? digits (by decide)
  rw [wholeAttos?, units]
  by_cases fits : Nat.ofDigitChars 10 digits 0 < 0x80000000000000000000000000000000
  · rw [ofInt?_of_lt fits, Option.bind_eq_bind, Option.bind_some, ofNat_attos, Int.natCast_mul]
  · have more : Nat.ofDigitChars 10 digits 0 ≤ Nat.ofDigitChars 10 digits 0 * unit :=
      Nat.le_mul_of_pos_right _ (by decide)
    rw [ofInt?_of_le (by omega), ofInt?_of_le (by omega)]
    rfl

end Checked

section Decimals

variable {digits : List Char} (all : ∀ c ∈ digits, c.isDigit)
include all

theorem ofDigitChars_take_lt :
    Nat.ofDigitChars 10 (digits.take scale) 0 < 10 ^ (digits.take scale).length :=
  Text.ofDigitChars_lt fun c kept => all c (List.mem_of_mem_take kept)

/-- So many digits are less than one. -/
theorem scaledDigits_lt : scaledDigits digits < unit := by
  have places : 10 ^ (digits.take scale).length * 10 ^ (scale - (digits.take scale).length) = unit := by
    rw [← Nat.pow_add, Nat.add_sub_cancel' (List.length_take_le scale digits)]
    rfl
  rw [scaledDigits, ← places]
  exact Nat.mul_lt_mul_of_pos_right (ofDigitChars_take_lt all) (Nat.pow_pos (by decide))

theorem decimalAttos_le : decimalAttos digits ≤ unit := by
  have less := scaledDigits_lt all
  rw [decimalAttos]
  split <;> omega

end Decimals

section Unchecked

variable {plain : Int → Amount} (exact : ∀ amount : Amount, plain amount.attos = amount)
include exact

theorem plain_natCast {n : Nat} (small : n < 0x80000000000000000000000000000000) :
    plain n = ofNat n small :=
  exact (ofNat n small)

theorem foldl_push {n : Nat} (digits : List Char) (small : n < 0x80000000000000000000000000000000)
    (fits : Nat.ofDigitChars 10 digits n < 0x80000000000000000000000000000000) :
    digits.foldl (push plain) (ofNat n small) = ofNat (Nat.ofDigitChars 10 digits n) fits := by
  induction digits generalizing n with
  | nil => rfl
  | cons c rest ih =>
    have more := Text.le_ofDigitChars rest (10 * n + Text.digitValue c)
    have whole : Nat.ofDigitChars 10 rest (10 * n + Text.digitValue c) < _ := fits
    have tens : plain ((ofNat n small).attos * 10) = ofNat (10 * n) (by omega) := by
      rw [show (ofNat n small).attos * 10 = (10 * n : Nat) by rw [ofNat_attos]; omega]
      exact plain_natCast exact _
    have step : push plain (ofNat n small) c = ofNat (10 * n + Text.digitValue c) (by omega) := by
      rw [push, tens]
      exact plain_natCast exact _
    rw [List.foldl_cons, step]
    exact ih _ whole

/-- There are at most as many digits as the scale says, so that they fit in every order of counting. -/
theorem keptAttos_eq {digits : List Char} (all : ∀ c ∈ digits, c.isDigit)
    (small : scaledDigits digits < 0x80000000000000000000000000000000) :
    keptAttos plain digits = ofNat (scaledDigits digits) small := by
  have bound : unit < 0x80000000000000000000000000000000 := by decide
  have value := ofDigitChars_take_lt all
  have power : 10 ^ (digits.take scale).length ≤ unit :=
    Nat.pow_le_pow_right (by decide) (List.length_take_le scale digits)
  have power' : 10 ^ (scale - (digits.take scale).length) ≤ unit :=
    Nat.pow_le_pow_right (by decide) (Nat.sub_le _ _)
  have kept : (digits.take scale).foldl (push plain) zero =
      ofNat (Nat.ofDigitChars 10 (digits.take scale) 0) (by omega) :=
    foldl_push exact _ (by decide) _
  have places : plain (Nat.pow 10 (scale - (digits.take scale).length)) =
      ofNat (10 ^ (scale - (digits.take scale).length)) (by omega) :=
    plain_natCast exact _
  rw [keptAttos, kept, places, ofNat_attos, ofNat_attos, ← Int.natCast_mul]
  exact plain_natCast exact small

theorem fractionAttos_eq {digits : List Char} (all : ∀ c ∈ digits, c.isDigit)
    (small : decimalAttos digits < 0x80000000000000000000000000000000) :
    fractionAttos plain digits = ofNat (decimalAttos digits) small := by
  have bound : unit < 0x80000000000000000000000000000000 := by decide
  have less := scaledDigits_lt all
  rw [fractionAttos, keptAttos_eq exact all (by omega)]
  unfold decimalAttos at small ⊢
  split
  · rw [ofNat_attos, ← Int.natCast_add_one]
    exact plain_natCast exact _
  · rfl

theorem magnitude?_eq (whole : List Char) {fraction : List Char} (all : ∀ c ∈ fraction, c.isDigit) :
    magnitude? plain whole fraction =
      ofInt? (Nat.ofDigitChars 10 whole 0 * unit + decimalAttos fraction : Nat) := by
  have bound : unit < 0x80000000000000000000000000000000 := by decide
  have least := decimalAttos_le all
  rw [magnitude?, wholeAttos?_eq, fractionAttos_eq exact all (by omega)]
  by_cases fits : Nat.ofDigitChars 10 whole 0 * unit < 0x80000000000000000000000000000000
  · rw [ofInt?_of_lt fits, Option.bind_eq_bind, Option.bind_some, add?, ofNat_attos, ofNat_attos,
      Int.natCast_add]
  · rw [ofInt?_of_le (by omega), ofInt?_of_le (by omega)]
    rfl

end Unchecked

section Grammar

theorem not_mem_of_digits {c : Char} (other : c.isDigit = false) {digits : List Char}
    (all : ∀ c ∈ digits, c.isDigit) : c ∉ digits := fun member => by
  rw [all c member] at other
  contradiction

theorem signAndRest_of_ne {text : List Char} (unsigned : text.head? ≠ some '-') :
    signAndRest text = (false, text) := by
  unfold signAndRest
  split
  · exact absurd rfl unsigned
  · rfl

/-- A sign is all that is taken from a text. -/
theorem eq_of_signAndRest {text rest : List Char} {negative : Bool}
    (cut : signAndRest text = (negative, rest)) : text = if negative then '-' :: rest else rest := by
  unfold signAndRest at cut
  split at cut
  · cases cut
    rfl
  · cases cut
    rfl

theorem eq_of_wholeAndFraction {text whole fraction : List Char}
    (cut : wholeAndFraction text = (whole, fraction)) :
    text = whole ∧ fraction = [] ∨ text = whole ++ '.' :: fraction := by
  rw [wholeAndFraction] at cut
  cases found : Text.splitFirst '.' text with
  | none =>
    rw [found] at cut
    cases cut
    exact .inl ⟨rfl, rfl⟩
  | some parts =>
    rw [found] at cut
    cases cut
    exact .inr (Text.splitFirst_eq_some.mp found).1

namespace Numeral

variable (numeral : Numeral)

theorem whole_digits : ∀ c ∈ numeral.whole, c.isDigit :=
  fun c inside => numeral.digits c (List.mem_append_left _ inside)

theorem decimals_digits : ∀ c ∈ numeral.decimals, c.isDigit :=
  fun c inside => numeral.digits c (List.mem_append_right _ inside)

theorem mem_unsigned {c : Char} (member : c ∈ numeral.unsigned) : c.isDigit ∨ c = '.' := by
  rw [unsigned, List.mem_append] at member
  rcases member with inside | inside
  · exact .inl (numeral.whole_digits c inside)
  · cases point : numeral.fraction with
    | none => simp [point] at inside
    | some fraction =>
      rw [point, Option.elim_some, List.mem_cons] at inside
      refine inside.symm.imp_left fun later => numeral.decimals_digits c ?_
      rwa [decimals, point, Option.getD_some]

theorem signAndRest_chars : signAndRest numeral.chars = (numeral.negative, numeral.unsigned) := by
  rw [chars]
  cases numeral.negative with
  | true => rfl
  | false =>
    refine signAndRest_of_ne fun minus => ?_
    rcases numeral.mem_unsigned (List.mem_of_mem_head? minus) with digit | point
    · exact absurd digit (by decide)
    · exact absurd point (by decide)

theorem wholeAndFraction_unsigned :
    wholeAndFraction numeral.unsigned = (numeral.whole, numeral.decimals) := by
  have pointless : '.' ∉ numeral.whole := not_mem_of_digits rfl numeral.whole_digits
  rw [wholeAndFraction, unsigned, decimals]
  cases numeral.fraction with
  | none => rw [Option.elim_none, List.append_nil, Text.splitFirst_eq_none pointless]; rfl
  | some fraction => rw [Option.elim_some, Text.splitFirst_append fraction pointless]; rfl

/-- Digits in front of the first point and behind it are a numeral. -/
theorem exists_of_cut {text rest whole fraction : List Char} {negative : Bool}
    (signed : signAndRest text = (negative, rest))
    (cut : wholeAndFraction rest = (whole, fraction)) (all : ∀ c ∈ whole ++ fraction, c.isDigit)
    (some : whole ++ fraction ≠ []) : ∃ numeral : Numeral, numeral.chars = text := by
  rw [eq_of_signAndRest signed]
  rcases eq_of_wholeAndFraction cut with ⟨rfl, rfl⟩ | rfl
  · exact ⟨⟨negative, rest, none, all, some⟩, by simp [chars, unsigned]⟩
  · exact ⟨⟨negative, whole, .some fraction, all, some⟩, by simp [chars, unsigned]⟩

/-- What is read for a numeral. -/
def result : Except AmountError Amount :=
  if h : numeral.attos < 0x80000000000000000000000000000000 then
    .ok (if numeral.negative then ⟨-numeral.attos, by omega, by omega⟩ else ofNat numeral.attos h)
  else .error .overflow

end Numeral

end Grammar

section Reading

variable {plain : Int → Amount} (exact : ∀ amount : Amount, plain amount.attos = amount)
  {text : List Char}

theorem parseWith_of_none (none : ∀ numeral : Numeral, numeral.chars ≠ Text.trim text) :
    parseWith plain text = .error (.invalid (String.ofList text)) := by
  rcases signed : signAndRest (Text.trim text) with ⟨negative, rest⟩
  rcases cut : wholeAndFraction rest with ⟨whole, fraction⟩
  rw [parseWith, signed]
  dsimp only
  rw [cut]
  dsimp only
  apply if_pos
  by_contra valid
  simp only [Bool.or_eq_true, Bool.and_eq_true, Bool.not_eq_true', not_or, not_and, List.isEmpty_iff,
    Bool.not_eq_false, List.all_eq_true] at valid
  obtain ⟨⟨some, wholeDigits⟩, fractionDigits⟩ := valid
  obtain ⟨numeral, same⟩ := Numeral.exists_of_cut signed cut
    (List.forall_mem_append.mpr ⟨wholeDigits, fractionDigits⟩)
    (fun empty => some (List.append_eq_nil_iff.mp empty).1 (List.append_eq_nil_iff.mp empty).2)
  exact none numeral same

include exact in
theorem parseWith_of_numeral {numeral : Numeral} (reads : numeral.chars = Text.trim text) :
    parseWith plain text = numeral.result := by
  have valid : (numeral.whole.isEmpty && numeral.decimals.isEmpty || !numeral.whole.all Char.isDigit ||
      !numeral.decimals.all Char.isDigit) = false := by
    have some : numeral.whole ++ numeral.decimals ≠ [] := numeral.nonempty
    simpa [List.all_eq_true.mpr numeral.whole_digits, List.all_eq_true.mpr numeral.decimals_digits]
      using some
  rw [parseWith, ← reads, numeral.signAndRest_chars]
  dsimp only
  rw [numeral.wholeAndFraction_unsigned]
  dsimp only
  rw [if_neg (Bool.eq_false_iff.mp valid), magnitude?_eq exact _ numeral.decimals_digits,
    ← numeral.attos_eq, Numeral.result]
  by_cases fits : numeral.attos < 0x80000000000000000000000000000000
  · have minus : plain (-(ofNat numeral.attos fits).attos) = ⟨-numeral.attos, by omega, by omega⟩ :=
      exact ⟨-numeral.attos, by omega, by omega⟩
    rw [ofInt?_of_lt fits, dif_pos fits]
    dsimp only
    rw [minus]
  · rw [ofInt?_of_le (by omega), dif_neg fits]

end Reading

/-- Reading takes the blanks off, refuses what is no numeral, and rounds a numeral to attos. The only
bound is that of the rounded number. Nothing depends on what an operation without a check would give
beyond 128 bits. -/
theorem parse_exact (text : String) :
    let core := Text.trim text.toList
    Text.Stripped text.toList core ∧
    ((∀ numeral : Numeral, numeral.chars ≠ core) → parse text = .error (.invalid text)) ∧
    (∀ numeral : Numeral, numeral.chars = core →
      (numeral.attos ≤ 2 ^ 127 - 1 → ∃ amount, parse text = .ok amount ∧
        amount.attos = if numeral.negative then -(numeral.attos : ℤ) else numeral.attos) ∧
      (2 ^ 127 - 1 < numeral.attos → parse text = .error .overflow)) ∧
    ∀ plain : ℤ → Amount, (∀ amount : Amount, plain amount.attos = amount) →
      parseWith plain text.toList = parse text := by
  intro core
  have invalid (plain : ℤ → Amount) (none : ∀ numeral : Numeral, numeral.chars ≠ core) :
      parseWith plain text.toList = .error (.invalid text) := by
    rw [parseWith_of_none none, String.ofList_toList]
  have reads (numeral : Numeral) (same : numeral.chars = core) : parse text = numeral.result :=
    parseWith_of_numeral wrapped_attos same
  refine ⟨Text.stripped_trim _, invalid wrapped, fun numeral same => ?_, fun plain exact => ?_⟩
  · rw [reads numeral same, Numeral.result]
    constructor
    · intro fits
      refine ⟨_, dif_pos (by omega), ?_⟩
      split <;> rfl
    · intro large
      exact dif_neg (by omega)
  · by_cases written : ∃ numeral : Numeral, numeral.chars = core
    · obtain ⟨numeral, same⟩ := written
      rw [reads numeral same]
      exact parseWith_of_numeral exact same
    · have none := not_exists.mp written
      rw [invalid plain none]
      exact (invalid wrapped none).symm

/-- A carry goes all the way to the digit in front of the point. -/
example : (parse " -0.9999999999999999995").toOption.map text = some "-1" := by cbv

end LedgerWallet.Amount
