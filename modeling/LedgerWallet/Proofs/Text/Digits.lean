import LedgerWallet.Text.Numeral
import Mathlib.Algebra.Group.Nat.Defs

/-! Runs of digits as numbers. -/
namespace LedgerWallet.Text

variable {digits rest text : List Char} {c : Char} {n : Nat}

theorem digitValue_lt (digit : c.isDigit) : digitValue c < 10 := by
  have bounds := Char.isDigit_iff_toNat.mp digit
  have nine : '9'.toNat = '0'.toNat + 9 := rfl
  rw [digitValue]
  omega

theorem digit?_eq_digitValue (digit : c.isDigit) : digit? c = some (digitValue c) :=
  if_pos (Char.isDigit_iff_toNat.mp digit)

theorem five_le_iff (digit : c.isDigit) : '5' ≤ c ↔ 5 ≤ digitValue c := by
  have bounds := Char.isDigit_iff_toNat.mp digit
  have zero : '0'.toNat = 48 := rfl
  have order : '5' ≤ c ↔ 53 ≤ c.toNat := UInt32.le_iff_toNat_le
  rw [order, digitValue]
  omega

theorem ofDigitChars_cons (init : Nat) :
    Nat.ofDigitChars 10 (c :: rest) init = Nat.ofDigitChars 10 rest (10 * init + digitValue c) :=
  Nat.ofDigitChars_cons

theorem ofDigitChars_append (digits rest : List Char) : Nat.ofDigitChars 10 (digits ++ rest) 0 =
    10 ^ rest.length * Nat.ofDigitChars 10 digits 0 + Nat.ofDigitChars 10 rest 0 := by
  rw [Nat.ofDigitChars_append, Nat.ofDigitChars_eq_ofDigitChars_zero]

/-- Digits only add to what was there before them. -/
theorem le_ofDigitChars (digits : List Char) (init : Nat) : init ≤ Nat.ofDigitChars 10 digits init := by
  have positive : 0 < 10 ^ digits.length := Nat.pow_pos (by decide)
  rw [Nat.ofDigitChars_eq_ofDigitChars_zero]
  exact Nat.le_add_right_of_le (Nat.le_mul_of_pos_left init positive)

theorem ofDigitChars_lt (all : ∀ c ∈ digits, c.isDigit) :
    Nat.ofDigitChars 10 digits 0 < 10 ^ digits.length := by
  induction digits with
  | nil => decide
  | cons c rest ih =>
    obtain ⟨first, later⟩ := List.forall_mem_cons.mp all
    have small := digitValue_lt first
    have least := ih later
    rw [ofDigitChars_cons, Nat.ofDigitChars_eq_ofDigitChars_zero, List.length_cons, Nat.pow_succ]
    have scaled : 10 ^ rest.length * (10 * 0 + digitValue c) ≤ 10 ^ rest.length * 9 :=
      Nat.mul_le_mul_left _ (by omega)
    omega

theorem digits?_eq_ofDigitChars (all : ∀ c ∈ digits, c.isDigit) :
    digits? digits = some (Nat.ofDigitChars 10 digits 0) := by
  have read (init : Nat) : digits.foldl (fun value c => do return 10 * (← value) + (← digit? c))
      (some init) = some (Nat.ofDigitChars 10 digits init) := by
    induction digits generalizing init with
    | nil => rfl
    | cons c rest ih =>
      obtain ⟨first, later⟩ := List.forall_mem_cons.mp all
      rw [List.foldl_cons, digit?_eq_digitValue first, ofDigitChars_cons]
      exact ih later _
  exact read 0

theorem not_mem_toDigits {c : Char} (other : ¬ c.isDigit) (n : Nat) : c ∉ Nat.toDigits 10 n :=
  fun member => other (Nat.isDigit_of_mem_toDigits (by decide) (Nat.le_refl 10) member)

theorem digitChar_digitValue (digit : c.isDigit) : (digitValue c).digitChar = c := by
  have bounds := Char.isDigit_iff_toNat.mp digit
  have zero : '0'.toNat = 48 := rfl
  apply Char.toNat_inj.mp
  rw [Nat.toNat_digitChar_of_lt_ten (digitValue_lt digit), digitValue]
  omega

/-- Only digits are read: after a character that is none there is nothing to go on from. -/
theorem digits?_eq_some : digits? text = some n ↔
    (∀ c ∈ text, c.isDigit) ∧ Nat.ofDigitChars 10 text 0 = n := by
  refine ⟨fun read => ?_, fun ⟨all, value⟩ => value ▸ digits?_eq_ofDigitChars all⟩
  have stuck (rest : List Char) : rest.foldl (fun value c => do return 10 * (← value) + (← digit? c))
      none = none := by
    induction rest with
    | nil => rfl
    | cons c rest ih => exact ih
  have all : ∀ c ∈ text, c.isDigit := by
    rw [digits?] at read
    generalize some 0 = start at read
    induction text generalizing start with
    | nil => exact nofun
    | cons c rest ih =>
      rw [List.foldl_cons] at read
      refine List.forall_mem_cons.mpr ⟨?_, ih _ read⟩
      apply Decidable.byContradiction
      intro other
      have unread : digit? c = none := if_neg (mt Char.isDigit_iff_toNat.mpr other)
      rw [unread] at read
      cases start <;> exact absurd ((stuck rest).symm.trans read) nofun
  rw [digits?_eq_ofDigitChars all] at read
  exact ⟨all, Option.some.inj read⟩

/-- Digits after a number that is not zero are the digits of a greater one. -/
theorem toDigits_append {init : Nat} (positive : 0 < init) (all : ∀ c ∈ digits, c.isDigit) :
    Nat.toDigits 10 init ++ digits = Nat.toDigits 10 (Nat.ofDigitChars 10 digits init) := by
  induction digits generalizing init with
  | nil => rw [List.append_nil, Nat.ofDigitChars_nil]
  | cons c rest ih =>
    obtain ⟨first, later⟩ := List.forall_mem_cons.mp all
    have more : Nat.toDigits 10 init ++ [c] = Nat.toDigits 10 (10 * init + digitValue c) := by
      rw [← Nat.toDigits_append_toDigits (by decide) positive (digitValue_lt first),
        Nat.toDigits_of_lt_base (digitValue_lt first), digitChar_digitValue first]
    rw [ofDigitChars_cons, ← ih (by omega) later, ← more, List.append_assoc, List.singleton_append]

/-- No numeral but that of zero starts with a zero. -/
theorem exists_toDigits_cons {n : Nat} (positive : 0 < n) :
    ∃ c rest, Nat.toDigits 10 n = c :: rest ∧ c.isDigit ∧ digitValue c ≠ 0 := by
  induction n using Nat.strongRecOn with
  | ind n ih =>
    by_cases small : n < 10
    · have digit : n.digitChar.isDigit := Nat.isDigit_digitChar.trans (decide_eq_true small)
      refine ⟨n.digitChar, [], Nat.toDigits_of_lt_base small, digit, ?_⟩
      rw [digitValue, Nat.toNat_digitChar_of_lt_ten small]
      have zero : '0'.toNat = 48 := rfl
      omega
    · obtain ⟨c, rest, same, digit⟩ := ih (n / 10) (by omega) (by omega)
      refine ⟨c, rest ++ [(n % 10).digitChar], ?_, digit⟩
      rw [Nat.toDigits_of_base_le (by decide) (by omega), same, List.cons_append]

/-- A run of digits is a numeral after some zeros. -/
theorem exists_toDigits (nonempty : digits ≠ []) (all : ∀ c ∈ digits, c.isDigit) : ∃ zeros,
    digits = List.replicate zeros '0' ++ Nat.toDigits 10 (Nat.ofDigitChars 10 digits 0) := by
  induction digits with
  | nil => contradiction
  | cons c rest ih =>
    obtain ⟨first, later⟩ := List.forall_mem_cons.mp all
    have shown := Nat.toDigits_of_lt_base (digitValue_lt first)
    rw [digitChar_digitValue first] at shown
    rw [ofDigitChars_cons, Nat.mul_zero, Nat.zero_add]
    by_cases positive : 0 < digitValue c
    · refine ⟨0, ?_⟩
      rw [← toDigits_append positive later, shown]
      rfl
    · have zero : digitValue c = 0 := by omega
      rw [zero, Nat.toDigits_zero, List.singleton_inj] at shown
      subst shown
      cases rest with
      | nil => exact ⟨0, by rw [zero]; rfl⟩
      | cons d rest =>
        obtain ⟨zeros, same⟩ := ih (List.cons_ne_nil _ _) later
        exact ⟨zeros + 1, by rw [zero, List.replicate_succ, List.cons_append, ← same]⟩

/-- A numeral is read after any number of zeros, and no other run of digits is. -/
theorem digits?_eq_some_of_nonempty : digits ≠ [] ∧ digits? digits = some n ↔
    ∃ zeros, digits = List.replicate zeros '0' ++ Nat.toDigits 10 n := by
  constructor
  · rintro ⟨nonempty, read⟩
    obtain ⟨all, rfl⟩ := digits?_eq_some.mp read
    exact exists_toDigits nonempty all
  · rintro ⟨zeros, rfl⟩
    refine ⟨List.append_ne_nil_of_right_ne_nil _ Nat.toDigits_ne_nil, digits?_eq_some.mpr ⟨?_, ?_⟩⟩
    · intro c member
      rcases List.mem_append.mp member with zero | digit
      · rw [List.eq_of_mem_replicate zero]
        rfl
      · exact Nat.isDigit_of_mem_toDigits (by decide) (Nat.le_refl 10) digit
    · rw [Nat.ofDigitChars_append, Nat.ofDigitChars_replicate_zero, Nat.mul_zero,
        Nat.ofDigitChars_ten_toDigits]

/-- At most one plus sign may stand in front. -/
theorem natural?_eq_some : natural? text = some n ↔ ∃ sign zeros, (sign = [] ∨ sign = ['+']) ∧
    text = sign ++ (List.replicate zeros '0' ++ Nat.toDigits 10 n) := by
  have read (digits : List Char) : (if digits.isEmpty then none else digits? digits) = some n ↔
      ∃ zeros, digits = List.replicate zeros '0' ++ Nat.toDigits 10 n := by
    rw [Option.ite_none_left_eq_some, List.isEmpty_iff, digits?_eq_some_of_nonempty]
  have start (zeros : Nat) : '+' ∉ List.replicate zeros '0' ++ Nat.toDigits 10 n := by
    rw [List.mem_append, not_or]
    exact ⟨fun member => absurd (List.eq_of_mem_replicate member) (by decide),
      not_mem_toDigits (by decide) n⟩
  by_cases signed : ∃ digits, text = '+' :: digits
  · obtain ⟨digits, rfl⟩ := signed
    refine (read digits).trans ⟨fun ⟨zeros, same⟩ => ⟨['+'], zeros, .inr rfl, same ▸ rfl⟩, ?_⟩
    rintro ⟨sign, zeros, rfl | rfl, same⟩
    · exact absurd (same ▸ List.mem_cons_self) (start zeros)
    · exact ⟨zeros, List.tail_eq_of_cons_eq same⟩
  · have plain : natural? text = if text.isEmpty then none else digits? text := by
      rw [natural?]
      exact fun rest same => signed ⟨rest, same⟩
    rw [plain, read]
    refine ⟨fun ⟨zeros, same⟩ => ⟨[], zeros, .inl rfl, same⟩, ?_⟩
    rintro ⟨sign, zeros, rfl | rfl, same⟩
    · exact ⟨zeros, same⟩
    · exact absurd ⟨_, same⟩ signed

/-- A number is read back from its numeral. -/
theorem natural?_toDigits (n : Nat) : natural? (Nat.toDigits 10 n) = some n :=
  natural?_eq_some.mpr ⟨[], 0, .inl rfl, rfl⟩

theorem toDigits_inj {m n : Nat} (same : Nat.toDigits 10 m = Nat.toDigits 10 n) : m = n := by
  have read := natural?_toDigits m
  rw [same, natural?_toDigits] at read
  exact (Option.some.inj read).symm

/-- What holds for the sixteen digits holds for all characters of a numeral in base 16. -/
theorem forall_mem_toDigits {P : Char → Prop} (digits : ∀ digit < 16, P digit.digitChar) (n : Nat) :
    ∀ c ∈ Nat.toDigits 16 n, P c := by
  induction n using Nat.strongRecOn with
  | ind n ih =>
    by_cases small : n < 16
    · rw [Nat.toDigits_of_lt_base small]
      exact List.forall_mem_singleton.mpr (digits n small)
    · rw [Nat.toDigits_of_base_le (by decide) (by omega), List.forall_mem_append,
        List.forall_mem_singleton]
      exact ⟨ih (n / 16) (by omega), digits _ (Nat.mod_lt n (by decide))⟩

theorem not_mem_toDigits_hex {c : Char} (other : ∀ digit < 16, digit.digitChar ≠ c) (n : Nat) :
    c ∉ Nat.toDigits 16 n := fun member =>
  forall_mem_toDigits (P := fun d => d ≠ c) other n c member rfl

end LedgerWallet.Text
