import LedgerWallet.Text.Split
import LedgerWallet.Text.Utf8

/-! Texts and their bytes. A text is cut at a separator that one of its parts does not hold, and every
text is read back from its UTF-8 form. -/
namespace LedgerWallet

namespace Text

theorem splitFirst_append {separator : Char} {before : List Char} (after : List Char)
    (absent : separator ∉ before) :
    splitFirst separator (before ++ separator :: after) = some (before, after) := by
  induction before with
  | nil => simp [splitFirst]
  | cons c rest ih =>
    obtain ⟨other, absent⟩ : separator ≠ c ∧ separator ∉ rest := by simpa using absent
    simp only [List.cons_append, splitFirst, if_neg (Ne.symm other), ih absent, Option.map_some]

theorem splitFirst_eq_none {separator : Char} {text : List Char} (absent : separator ∉ text) :
    splitFirst separator text = none := by
  induction text with
  | nil => rfl
  | cons c rest ih =>
    obtain ⟨other, absent⟩ : separator ≠ c ∧ separator ∉ rest := by simpa using absent
    rw [splitFirst, if_neg (Ne.symm other), ih absent, Option.map_none]

theorem splitLast_append {separator : Char} {after : List Char} (before : List Char)
    (absent : separator ∉ after) :
    splitLast separator (before ++ separator :: after) = some (before, after) := by
  have absent' : separator ∉ after.reverse := fun member => absent (List.mem_reverse.mp member)
  have cut := splitFirst_append before.reverse absent'
  simp only [splitLast, List.reverse_append, List.reverse_cons, List.append_assoc,
    List.singleton_append, cut, Option.map_some, List.reverse_reverse]

/-- A text falls apart at its first separator, and nowhere else. -/
theorem splitFirst_eq_some {separator : Char} {text before after : List Char} :
    splitFirst separator text = some (before, after) ↔
      text = before ++ separator :: after ∧ separator ∉ before := by
  constructor
  · intro cut
    induction text generalizing before with
    | nil => contradiction
    | cons c rest ih =>
      rw [splitFirst] at cut
      split at cut
      · rename_i same
        cases cut
        exact ⟨same ▸ rfl, List.not_mem_nil⟩
      · rename_i other
        obtain ⟨⟨front, back⟩, found, same⟩ := Option.map_eq_some_iff.mp cut
        cases same
        obtain ⟨rfl, absent⟩ := ih found
        refine ⟨rfl, fun member => ?_⟩
        rcases List.mem_cons.mp member with rfl | inside
        · exact other rfl
        · exact absent inside
  · rintro ⟨rfl, absent⟩
    exact splitFirst_append after absent

theorem splitLast_eq_some {separator : Char} {text before after : List Char} :
    splitLast separator text = some (before, after) ↔
      text = before ++ separator :: after ∧ separator ∉ after := by
  constructor
  · intro cut
    obtain ⟨⟨back, front⟩, found, same⟩ := Option.map_eq_some_iff.mp cut
    cases same
    obtain ⟨parts, absent⟩ := splitFirst_eq_some.mp found
    refine ⟨?_, fun member => absent (List.mem_reverse.mp member)⟩
    rw [← List.reverse_reverse text, parts]
    simp
  · rintro ⟨rfl, absent⟩
    exact splitLast_append before absent

/-- What is before and what is after the first separator is told by the whole text. -/
theorem eq_of_separator_append {separator : Char} {before before' after after' : List Char}
    (absent : separator ∉ before) (absent' : separator ∉ before')
    (same : before ++ separator :: after = before' ++ separator :: after') :
    before = before' ∧ after = after' := by
  have cut := splitFirst_append after absent
  rw [same, splitFirst_append after' absent', Option.some.injEq, Prod.mk.injEq] at cut
  exact ⟨cut.1.symm, cut.2.symm⟩

/-- What is before and what is after the last separator is told by the whole text. -/
theorem eq_of_append_separator {separator : Char} {before before' after after' : List Char}
    (absent : separator ∉ after) (absent' : separator ∉ after')
    (same : before ++ separator :: after = before' ++ separator :: after') :
    before = before' ∧ after = after' := by
  have cut := splitLast_append before absent
  rw [same, splitLast_append before' absent', Option.some.injEq, Prod.mk.injEq] at cut
  exact ⟨cut.1.symm, cut.2.symm⟩

theorem fields_of_not_mem {separator : Char} {text : List Char} (absent : separator ∉ text) :
    fields separator text = [text] := by
  induction text with
  | nil => rfl
  | cons c rest ih =>
    obtain ⟨other, absent⟩ : separator ≠ c ∧ separator ∉ rest := by simpa using absent
    rw [fields, if_neg (Ne.symm other), ih absent]

theorem fields_append {separator : Char} {before : List Char} (after : List Char)
    (absent : separator ∉ before) :
    fields separator (before ++ separator :: after) = before :: fields separator after := by
  induction before with
  | nil => simp [fields]
  | cons c rest ih =>
    obtain ⟨other, absent⟩ : separator ≠ c ∧ separator ∉ rest := by simpa using absent
    rw [List.cons_append, fields, if_neg (Ne.symm other), ih absent]

theorem fields_ne_nil (separator : Char) (text : List Char) : fields separator text ≠ [] := by
  cases text with
  | nil => exact List.cons_ne_nil _ _
  | cons c rest =>
    rw [fields]
    split
    · exact List.cons_ne_nil _ _
    · split <;> exact List.cons_ne_nil _ _

/-- The text is its fields with the separator between them. -/
theorem intercalate_fields (separator : Char) (text : List Char) :
    [separator].intercalate (fields separator text) = text := by
  induction text with
  | nil => rfl
  | cons c rest ih =>
    obtain ⟨field, others, cut⟩ := List.exists_cons_of_ne_nil (fields_ne_nil separator rest)
    rw [cut] at ih
    rw [fields, cut]
    split
    · next same => rw [List.intercalate_cons_cons, ih, same]; rfl
    · cases others with
      | nil => simpa using ih
      | cons other others =>
        rw [List.intercalate_cons_cons] at ih ⊢
        rw [← ih]
        rfl

/-- Characters may be replaced before or after a text is cut, if this leaves the separators alone. -/
theorem fields_map {separator : Char} {f : Char → Char} (keeps : ∀ c, f c = separator ↔ c = separator)
    (text : List Char) :
    fields separator (text.map f) = (fields separator text).map (List.map f) := by
  induction text with
  | nil => rfl
  | cons c rest ih =>
    obtain ⟨field, others, cut⟩ := List.exists_cons_of_ne_nil (fields_ne_nil separator rest)
    rw [List.map_cons, fields, fields, ih, cut]
    by_cases same : c = separator
    · rw [if_pos same, if_pos ((keeps c).mpr same)]
      rfl
    · rw [if_neg same, if_neg (mt (keeps c).mp same)]
      rfl

theorem between?_append (first last : Char) (inside : List Char) :
    between? first last (first :: (inside ++ [last])) = some inside := by
  simp [between?]

theorem between?_eq_some {first last : Char} {text inside : List Char} :
    between? first last text = some inside ↔ text = first :: (inside ++ [last]) := by
  constructor
  · intro cut
    cases text with
    | nil => contradiction
    | cons c rest =>
      rw [between?, Option.ite_none_right_eq_some] at cut
      obtain ⟨⟨rfl, ends⟩, cut⟩ := cut
      obtain ⟨front, rfl⟩ := List.getLast?_eq_some_iff.mp ends
      rw [List.dropLast_concat, Option.some.injEq] at cut
      rw [cut]
  · rintro rfl
    exact between?_append first last inside

theorem between?_of_ne {first c : Char} (other : c ≠ first) (last : Char) (rest : List Char) :
    between? first last (c :: rest) = none := by
  simp [between?, other]

end Text

namespace Utf8

theorem decode_encode (text : String) : decode (encode text) = .ok text := by
  have whole : (⟨(encode text).toArray⟩ : ByteArray) = text.toByteArray := by
    simp only [encode, Array.toArray_toList]
  have valid : String.fromUTF8? text.toByteArray = some text := by
    rw [String.fromUTF8?, dif_pos text.isValidUTF8]
    rfl
  simp only [decode, whole, valid]

/-- Only the bytes of a text are read as it. -/
theorem encode_of_decode {bytes : List UInt8} {text : String} (read : decode bytes = .ok text) :
    encode text = bytes := by
  rw [decode] at read
  split at read
  · rename_i found
    cases read
    rw [String.fromUTF8?] at found
    split at found
    · cases found
      rfl
    · contradiction
  · contradiction

/-- The characters are encoded one after the other. -/
theorem encode_eq_flatMap (text : String) :
    encode text = text.toList.flatMap String.utf8EncodeChar := by
  have bytes : text.toByteArray = text.toList.utf8Encode := by
    rw [← String.toByteArray_ofList, String.ofList_toList]
  rw [encode, bytes, List.utf8Encode, List.toList_data_toByteArray]

theorem length_encode_le (text : String) : (encode text).length ≤ 4 * text.toList.length := by
  rw [encode_eq_flatMap]
  induction text.toList with
  | nil => exact Nat.le_refl 0
  | cons c rest ih =>
    have small := c.utf8Size_le_four
    rw [List.flatMap_cons, List.length_append, String.length_utf8EncodeChar, List.length_cons]
    omega

end Utf8

end LedgerWallet
