import LedgerWallet.Manifest.Json
import LedgerWallet.Proofs.Amount.Parsing
import LedgerWallet.Proofs.Json.PlainText

/-! The text of an amount is its plainest numeral. It is read back as that amount, with one exception:
the least count of attos has no opposite, and a numeral is read without its sign first. -/
namespace LedgerWallet.Amount

/-- The only amount without an opposite. -/
def least : Amount := ⟨-0x80000000000000000000000000000000, by decide, by decide⟩

section Digits

variable (amount : Amount)

theorem length_places : amount.places.length = scale := by
  have short : (Nat.toDigits 10 (amount.attos.natAbs % unit)).length ≤ scale :=
    (Nat.length_toDigits_le_iff (by decide) (by decide)).mpr (Nat.mod_lt _ (by decide))
  rw [places, List.length_append, List.length_replicate]
  omega

theorem ofDigitChars_places : Nat.ofDigitChars 10 amount.places 0 = amount.attos.natAbs % unit := by
  rw [places, Text.ofDigitChars_append, Nat.ofDigitChars_replicate_zero, Nat.mul_zero, Nat.mul_zero,
    Nat.zero_add, Nat.ofDigitChars_ten_toDigits]

theorem isDigit_places : ∀ c ∈ amount.places, c.isDigit := by
  rw [places, List.forall_mem_append]
  refine ⟨fun c zero => ?_, fun c => Nat.isDigit_of_mem_toDigits (by decide) (by decide)⟩
  rw [List.eq_of_mem_replicate zero]
  rfl

/-- The digits behind the point that are written. -/
def kept : List Char := Text.trimEnd (· == '0') amount.places

theorem places_eq : ∃ zeros, amount.places = amount.kept ++ List.replicate zeros '0' := by
  obtain ⟨after, whole, blank⟩ := Text.trimEnd_append (· == '0') amount.places
  refine ⟨after.length, ?_⟩
  rw [← List.eq_replicate_of_mem fun c inside => eq_of_beq (blank c inside)]
  exact whole

theorem isDigit_kept : ∀ c ∈ amount.kept, c.isDigit := by
  obtain ⟨zeros, whole⟩ := amount.places_eq
  exact fun c inside => amount.isDigit_places c (whole ▸ List.mem_append_left _ inside)

theorem decimalAttos_kept : decimalAttos amount.kept = amount.attos.natAbs % unit := by
  obtain ⟨zeros, whole⟩ := amount.places_eq
  have length : amount.kept.length + zeros = scale := by
    rw [← amount.length_places, whole, List.length_append, List.length_replicate]
  have short : amount.kept.length ≤ scale := by omega
  have value : Nat.ofDigitChars 10 amount.places 0 =
      10 ^ zeros * Nat.ofDigitChars 10 amount.kept 0 := by
    rw [whole, Text.ofDigitChars_append, Nat.ofDigitChars_replicate_zero, List.length_replicate,
      Nat.mul_zero, Nat.add_zero]
  rw [decimalAttos_of_short short, show scale - amount.kept.length = zeros by omega, Nat.mul_comm,
    ← value, ofDigitChars_places]

end Digits

/-- A digit stands in front of the point, and none that is a zero at the end. Nothing has a minus sign
but what is below zero. -/
structure Numeral.Plainest (numeral : Numeral) : Prop where
  whole : numeral.whole ≠ []
  fraction : ∀ digits, numeral.fraction = some digits → digits ≠ [] ∧ digits.getLast? ≠ some '0'
  sign : numeral.negative → numeral.attos ≠ 0

/-- The numeral that is written for an amount. -/
def numeral (amount : Amount) : Numeral where
  negative := amount.attos < 0
  whole := Nat.toDigits 10 (amount.attos.natAbs / unit)
  fraction := if amount.kept.isEmpty then none else some amount.kept
  digits := by
    rw [List.forall_mem_append]
    refine ⟨fun c => Nat.isDigit_of_mem_toDigits (by decide) (by decide), ?_⟩
    split
    · exact List.forall_mem_nil _
    · exact amount.isDigit_kept
  nonempty := by simp

section Written

variable (amount : Amount)

theorem decimals_numeral : amount.numeral.decimals = amount.kept := by
  rw [Numeral.decimals, numeral]
  split
  · next empty => exact (List.isEmpty_iff.mp empty).symm
  · rfl

theorem attos_numeral : amount.numeral.attos = amount.attos.natAbs := by
  have whole : Nat.ofDigitChars 10 amount.numeral.whole 0 = amount.attos.natAbs / unit :=
    Nat.ofDigitChars_ten_toDigits
  rw [Numeral.attos_eq, whole, decimals_numeral, decimalAttos_kept, Nat.mul_comm, Nat.div_add_mod]

theorem chars_numeral : amount.numeral.chars = amount.chars := by
  rw [Numeral.chars, Numeral.unsigned, chars, ← kept, numeral]
  by_cases negative : amount.attos < 0 <;> by_cases whole : amount.kept.isEmpty <;> simp [negative, whole]

theorem plainest_numeral : amount.numeral.Plainest := by
  refine ⟨Nat.toDigits_ne_nil, fun digits written => ?_, fun negative => ?_⟩
  · rw [numeral] at written
    dsimp only at written
    split at written
    · contradiction
    · next some =>
      cases written
      refine ⟨fun empty => some (List.isEmpty_iff.mpr empty), fun zero => ?_⟩
      exact Text.getLast?_trimEnd zero rfl
  · rw [attos_numeral]
    have below : amount.attos < 0 := of_decide_eq_true negative
    omega

theorem mem_chars {c : Char} (member : c ∈ amount.chars) : c.isDigit ∨ c = '.' ∨ c = '-' := by
  rw [← chars_numeral, Numeral.chars] at member
  split at member
  · rcases List.mem_cons.mp member with rfl | inside
    · exact .inr (.inr rfl)
    · exact (amount.numeral.mem_unsigned inside).imp_right .inl
  · exact (amount.numeral.mem_unsigned member).imp_right .inl

/-- Nothing that is written is blank or needs an escape. -/
theorem visible_chars {c : Char} (member : c ∈ amount.chars) : ¬ Text.isBlank c ∧ Json.IsPlain c := by
  rcases amount.mem_chars member with digit | rfl | rfl
  · have bounds : 48 ≤ c.toNat ∧ c.toNat ≤ 57 := Char.isDigit_iff_toNat.mp digit
    refine ⟨?_, ?_, ?_, by omega⟩
    · simp only [Text.isBlank, Bool.or_eq_true, Bool.and_eq_true, decide_eq_true_eq, beq_iff_eq]
      omega
    · rintro rfl
      exact absurd digit (by decide)
    · rintro rfl
      exact absurd digit (by decide)
  · exact ⟨by decide, by decide, by decide, by decide⟩
  · exact ⟨by decide, by decide, by decide, by decide⟩

theorem eq_least_iff : amount = least ↔ ¬ amount.attos.natAbs < 0x80000000000000000000000000000000 := by
  have lower := amount.lower
  have upper := amount.upper
  have extreme : least.attos = -0x80000000000000000000000000000000 := rfl
  rw [← attos_inj, extreme]
  omega

theorem result_numeral :
    amount.numeral.result = if amount = least then .error .overflow else .ok amount := by
  have sign : amount.numeral.negative = decide (amount.attos < 0) := rfl
  by_cases extreme : amount = least
  · have large := amount.eq_least_iff.mp extreme
    rw [if_pos extreme, Numeral.result, dif_neg (attos_numeral amount ▸ large)]
  · have small := not_not.mp (mt amount.eq_least_iff.mpr extreme)
    rw [if_neg extreme, Numeral.result, dif_pos (attos_numeral amount ▸ small)]
    refine congrArg Except.ok (attos_inj.mp ?_)
    simp only [sign, attos_numeral, decide_eq_true_eq]
    split
    · dsimp only
      omega
    · rw [ofNat_attos]
      omega

/-- Reading takes every text back to its amount, but for the least one. -/
theorem parse_text : parse amount.text = if amount = least then .error .overflow else .ok amount := by
  have trimmed : Text.trim amount.text.toList = amount.chars := by
    rw [text, String.toList_ofList]
    exact Text.trim_eq_self fun c member => (amount.visible_chars member).1
  rw [parse, parseChars, parseWith_of_numeral wrapped_attos (amount.chars_numeral.trans trimmed.symm),
    result_numeral]

/-- So does reading its JSON. -/
theorem ofJson?_toJson : Amount.ofJson? amount.toJson = if amount = least then none else some amount := by
  rw [Amount.ofJson?, toJson, Json.string?, Option.bind_eq_bind, Option.bind_some, parse_text]
  split <;> rfl

theorem parse_render_toJson : Json.parse amount.toJson.render = .ok amount.toJson := by
  refine Json.parse_quoted fun c member => ?_
  rw [text, String.toList_ofList] at member
  exact (amount.visible_chars member).2

end Written

theorem text_inj {amount other : Amount} (same : amount.text = other.text) : amount = other := by
  have read := amount.parse_text
  rw [same, parse_text] at read
  split at read
  · next extreme =>
    split at read
    · next extreme' => rw [extreme, extreme']
    · contradiction
  · split at read
    · contradiction
    · cases read
      rfl

/-- The text of an amount is its plainest numeral, different amounts have different texts, and the text
and the JSON text of an amount are read back as that amount. Only those of the least amount are not:
its magnitude is one atto too large for a numeral. -/
theorem text_roundTrip (amount : Amount) :
    (parse amount.text = if amount = least then .error .overflow else .ok amount) ∧
    ((Json.parse amount.toJson.render).toOption.bind Amount.ofJson? =
      if amount = least then none else some amount) ∧
    (∀ other : Amount, other.text = amount.text → other = amount) ∧
    ∃ numeral : Numeral, numeral.chars = amount.text.toList ∧ numeral.Plainest := by
  refine ⟨amount.parse_text, ?_, fun _ => text_inj, amount.numeral, ?_, amount.plainest_numeral⟩
  · rw [parse_render_toJson, Except.toOption, Option.bind_some, ofJson?_toJson]
  · rw [chars_numeral, text, String.toList_ofList]

/-- The least amount is no exception to being written. -/
theorem parse_text_least :
    least.text = "-170141183460469231731.687303715884105728" ∧ parse least.text = .error .overflow :=
  ⟨by cbv, (parse_text least).trans (if_pos rfl)⟩

end LedgerWallet.Amount
