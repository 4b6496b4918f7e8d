import LedgerWallet.Text.Blank
import Mathlib.Data.List.DropRight

/-! What is left of a text without the blanks, or other characters, at its ends. -/
namespace LedgerWallet.Text

variable {p : Char → Bool} {text : List Char}

theorem trimEnd_eq (p : Char → Bool) (text : List Char) : trimEnd p text = text.rdropWhile p := rfl

/-- Only such characters are cut off. -/
theorem trimEnd_append (p : Char → Bool) (text : List Char) :
    ∃ after, text = trimEnd p text ++ after ∧ ∀ c ∈ after, p c :=
  ⟨text.rtakeWhile p, List.rdropWhile_append_rtakeWhile.symm, fun _ => List.mem_rtakeWhile_imp⟩

/-- The text ends with another character. -/
theorem getLast?_trimEnd {c : Char} (last : (trimEnd p text).getLast? = some c) : ¬ p c := by
  have nonempty : text.rdropWhile p ≠ [] := by
    rintro empty
    rw [trimEnd_eq, empty] at last
    contradiction
  rw [trimEnd_eq, List.getLast?_eq_some_getLast nonempty] at last
  exact Option.some.inj last ▸ List.rdropWhile_last_not p text nonempty

theorem trimEnd_eq_self (keeps : ∀ c, text.getLast? = some c → ¬ p c) : trimEnd p text = text := by
  rw [trimEnd_eq, List.rdropWhile_eq_self_iff]
  intro nonempty
  exact keeps _ (List.getLast?_eq_some_getLast nonempty)

/-- `core` is the text without the blanks around it. -/
structure Stripped (text core : List Char) : Prop where
  around : ∃ before after, text = before ++ core ++ after ∧ ∀ c ∈ before ++ after, isBlank c
  first : ∀ c, core.head? = some c → ¬ isBlank c
  last : ∀ c, core.getLast? = some c → ¬ isBlank c

theorem stripped_trim (text : List Char) : Stripped text (trim text) := by
  obtain ⟨after, rest, blanks⟩ := trimEnd_append isBlank (text.dropWhile isBlank)
  rw [← trim] at rest
  refine ⟨⟨text.takeWhile isBlank, after, ?_, ?_⟩, fun c first => ?_, fun c => getLast?_trimEnd⟩
  · rw [List.append_assoc, ← rest, List.takeWhile_append_dropWhile]
  · intro c member
    rcases List.mem_append.mp member with inside | inside
    · exact List.mem_takeWhile_imp inside
    · exact blanks c inside
  · have head : (text.dropWhile isBlank).head? = some c := by
      rw [rest, List.head?_append, first, Option.some_or]
    have kept := List.head?_dropWhile_not isBlank text
    rw [head] at kept
    exact Bool.eq_false_iff.mp kept

theorem trim_eq_self (plain : ∀ c ∈ text, ¬ isBlank c) : trim text = text := by
  have front : text.dropWhile isBlank = text :=
    List.dropWhile_eq_self_iff.mpr fun nonempty => plain _ (List.getElem_mem nonempty)
  rw [trim, front]
  exact trimEnd_eq_self fun c last => plain c (List.mem_of_getLast? last)

end LedgerWallet.Text
