import LedgerWallet.Bytes.Hex
import LedgerWallet.Proofs.Text.Cutting
import LedgerWallet.Proofs.Text.Digits
import LedgerWallet.Text.Quoted

/-! Texts that tell where they end, so that values written one after the other stay apart. Quoted text
is one of them: no character of it can pass for the quote that ends it. -/
namespace LedgerWallet.Text

variable {α β : Type} {valid : α → Prop} {chars : α → List Char} {a : α}

/-- Whatever comes after it, the text of `a` does not start like that of another valid value. -/
def Unmistakable (valid : α → Prop) (chars : α → List Char) (a : α) : Prop :=
  ∀ ⦃b⦄, valid b → ∀ ⦃rest rest'⦄, chars a ++ rest = chars b ++ rest' → a = b ∧ rest = rest'

namespace Unmistakable

/-- It stays so between two fixed texts. -/
theorem between (before after : List Char) (whole : Unmistakable valid chars a) :
    Unmistakable valid (fun a => before ++ chars a ++ after) a := by
  intro b valid rest rest' same
  simp only [List.append_assoc, List.append_cancel_left_eq] at same
  obtain ⟨rfl, later⟩ := whole valid same
  exact ⟨rfl, List.append_cancel_left later⟩

/-- It is so for every value that can be told from the one that is written for it. -/
theorem comap {good : β → Prop} {shown : β → List Char} (view : β → α) {b : β}
    (whole : Unmistakable valid chars (view b)) (written : ∀ b, chars (view b) = shown b)
    (keeps : ∀ other, good other → valid (view other))
    (inj : ∀ other, good other → view b = view other → b = other) :
    Unmistakable good shown b := by
  intro other allowed rest rest' same
  rw [← written, ← written] at same
  obtain ⟨views, later⟩ := whole (keeps other allowed) same
  exact ⟨inj other allowed views, later⟩

theorem eq_of_append {text : α → String} (whole : Unmistakable valid (fun a => (text a).toList) a)
    {b : α} (good : valid b) {rest rest' : String} (same : text a ++ rest = text b ++ rest') :
    a = b ∧ rest = rest' := by
  have shown := congrArg String.toList same
  rw [String.toList_append, String.toList_append] at shown
  exact (whole good shown).imp_right String.toList_inj.mp

end Unmistakable

/-- Values written one after the other are told apart, and a character that none of them starts with
tells where the last one ends. -/
theorem eq_of_flatMap (valid : α → Prop) {stop : Char}
    (starts : ∀ b, valid b → ∃ c tail, chars b = c :: tail ∧ c ≠ stop) {values others : List α}
    (whole : ∀ a ∈ values, valid a ∧ Unmistakable valid chars a) (allowed : ∀ b ∈ others, valid b)
    {rest rest' : List Char}
    (same : values.flatMap chars ++ stop :: rest = others.flatMap chars ++ stop :: rest') :
    values = others ∧ rest = rest' := by
  induction values generalizing others with
  | nil =>
    cases others with
    | nil => exact ⟨rfl, List.tail_eq_of_cons_eq same⟩
    | cons b others =>
      obtain ⟨c, tail, shown, differs⟩ := starts b (allowed b List.mem_cons_self)
      rw [List.flatMap_cons, shown] at same
      exact absurd (List.head_eq_of_cons_eq same).symm differs
  | cons a values ih =>
    obtain ⟨⟨good, first⟩, later⟩ := List.forall_mem_cons.mp whole
    cases others with
    | nil =>
      obtain ⟨c, tail, shown, differs⟩ := starts a good
      rw [List.flatMap_cons, shown] at same
      exact absurd (List.head_eq_of_cons_eq same) differs
    | cons b others =>
      obtain ⟨good', later'⟩ := List.forall_mem_cons.mp allowed
      rw [List.flatMap_cons, List.flatMap_cons, List.append_assoc, List.append_assoc] at same
      obtain ⟨rfl, tails⟩ := first good' same
      obtain ⟨rfl, ends⟩ := ih later later' tails
      exact ⟨rfl, ends⟩

/-- The number that digits in base 16 stand for. -/
def hexNumber (digits : List Char) : Nat :=
  digits.foldl (fun value c => 16 * value + (Hex.value? c).getD 0) 0

theorem hexNumber_toDigits (n : Nat) : hexNumber (Nat.toDigits 16 n) = n := by
  have last : ∀ digit < 16, (Hex.value? digit.digitChar).getD 0 = digit := by decide
  induction n using Nat.strongRecOn with
  | ind n ih =>
    by_cases small : n < 16
    · rw [Nat.toDigits_of_lt_base small, hexNumber, List.foldl_cons, List.foldl_nil, last n small]
      exact Nat.zero_add n
    · have front := ih (n / 16) (by omega)
      rw [hexNumber] at front
      rw [Nat.toDigits_of_base_le (by decide) (by omega), hexNumber, List.foldl_append, front,
        List.foldl_cons, List.foldl_nil, last _ (Nat.mod_lt n (by decide)), Nat.div_add_mod]

/-- The character that an escape with one letter stands for. -/
def namedBy (letter : Char) : Char :=
  if letter = '0' then '\x00'
  else if letter = 't' then '\t'
  else if letter = 'r' then '\r'
  else if letter = 'n' then '\n'
  else letter

/-- Reads a character as it is written inside quotes, and gives back what comes after it. -/
def unescape? : List Char → Option (Char × List Char)
  | [] => none
  | '\\' :: 'u' :: rest =>
    (splitFirst '\x7d' rest).map fun (digits, rest) => (Char.ofNat (hexNumber digits.tail), rest)
  | '\\' :: letter :: rest => some (namedBy letter, rest)
  | c :: rest => some (c, rest)

theorem unescape?_escape (c : Char) (rest : List Char) :
    unescape? (escape '"' c ++ rest) = some (c, rest) := by
  rw [escape]
  split
  · next same => rw [same]; rfl
  split
  · next same => rw [same]; rfl
  split
  · next same => rw [same]; rfl
  split
  · next same => rw [same]; rfl
  split
  · next either =>
    rcases either with rfl | rfl
    · rfl
    · rfl
  next special =>
    obtain ⟨plain, -⟩ := not_or.mp special
    split
    · simp [unescape?, plain]
    · have closed : '\x7d' ∉ Nat.toDigits 16 c.toNat := not_mem_toDigits_hex (by decide) c.toNat
      have cut : splitFirst '\x7d' (('\x7b' :: Nat.toDigits 16 c.toNat) ++ '\x7d' :: rest) =
          some ('\x7b' :: Nat.toDigits 16 c.toNat, rest) :=
        splitFirst_append rest (by simpa using closed)
      have shown : ['\\', 'u', '\x7b'] ++ Nat.toDigits 16 c.toNat ++ ['\x7d'] ++ rest =
          '\\' :: 'u' :: (('\x7b' :: Nat.toDigits 16 c.toNat) ++ '\x7d' :: rest) := by simp
      rw [shown, unescape?, cut, Option.map_some]
      simp only [List.tail_cons, hexNumber_toDigits, Char.ofNat_toNat]

theorem escape_unmistakable (c : Char) : Unmistakable (fun _ => True) (escape '"') c := by
  intro d _ rest rest' same
  have read := unescape?_escape c rest
  rw [same, unescape?_escape, Option.some.injEq, Prod.mk.injEq] at read
  exact ⟨read.1.symm, read.2.symm⟩

/-- No character is written as the quote that ends a text, not even a quote. -/
theorem escape_start (c : Char) : ∃ first tail, escape '"' c = first :: tail ∧ first ≠ '"' := by
  have read := unescape?_escape c []
  cases shown : escape '"' c with
  | nil =>
    rw [shown] at read
    contradiction
  | cons first tail =>
    refine ⟨first, tail, rfl, ?_⟩
    rintro rfl
    obtain ⟨rfl, -⟩ : c = '"' ∧ tail = [] := by
      simpa [shown, unescape?, eq_comm] using read
    exact absurd shown (by simp [escape])

theorem quote_unmistakable (text : List Char) : Unmistakable (fun _ => True) quote text := by
  intro other _ rest rest' same
  have inside : text.flatMap (escape '"') ++ '"' :: rest =
      other.flatMap (escape '"') ++ '"' :: rest' := by
    simpa [quote] using same
  exact eq_of_flatMap (fun _ => True) (fun c _ => escape_start c)
    (fun c _ => ⟨trivial, escape_unmistakable c⟩) (fun _ _ => trivial) inside

end LedgerWallet.Text
