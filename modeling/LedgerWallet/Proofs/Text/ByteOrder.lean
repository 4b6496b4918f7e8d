import LedgerWallet.Proofs.Text.Cutting

/-! The order of texts by their characters is their order byte by byte. -/
namespace LedgerWallet.Utf8

/-- Bytes given as numbers are compared as numbers, and the first difference decides. -/
theorem cons_lt {a b : Nat} {rest rest' : List UInt8} (small : a < 256) (small' : b < 256)
    (less : a < b ∨ a = b ∧ rest < rest') : UInt8.ofNat a :: rest < UInt8.ofNat b :: rest' := by
  rw [List.cons_lt_cons_iff]
  rcases less with less | ⟨rfl, less⟩
  · left
    rw [UInt8.lt_iff_toNat_lt, UInt8.toNat_ofNat', UInt8.toNat_ofNat', Nat.mod_eq_of_lt small,
      Nat.mod_eq_of_lt small']
    exact less
  · exact .inr ⟨rfl, less⟩

/-- A lesser character is decided by its own bytes, whatever follows them. Where the lengths differ the
first bytes do. Where they agree, the first digit in base 64 that differs decides. -/
theorem encodeChar_lt {c d : Char} (less : c < d) (after after' : List UInt8) :
    String.utf8EncodeChar c ++ after < String.utf8EncodeChar d ++ after' := by
  have values : c.val.toNat < d.val.toNat := less
  have bound : d.val.toNat < 0xd800 ∨ 0xdfff < d.val.toNat ∧ d.val.toNat < 0x110000 := d.valid
  unfold String.utf8EncodeChar
  dsimp only
  generalize c.val.toNat = v at *
  generalize d.val.toNat = w at *
  split
  · split
    · exact cons_lt (by omega) (by omega) (.inl values)
    · split
      · exact cons_lt (by omega) (by omega) (.inl (by omega))
      · split <;> exact cons_lt (by omega) (by omega) (.inl (by omega))
  · split
    · split
      · omega
      · split
        · apply cons_lt (by omega) (by omega)
          by_cases first : v / 64 = w / 64
          · exact .inr ⟨by rw [first], cons_lt (by omega) (by omega) (.inl (by omega))⟩
          · exact .inl (by omega)
        · split <;> exact cons_lt (by omega) (by omega) (.inl (by omega))
    · split
      · split
        · omega
        · split
          · omega
          · split
            · apply cons_lt (by omega) (by omega)
              by_cases first : v / 4096 = w / 4096
              · refine .inr ⟨by rw [first], cons_lt (by omega) (by omega) ?_⟩
                by_cases second : v / 64 = w / 64
                · exact .inr ⟨by rw [second], cons_lt (by omega) (by omega) (.inl (by omega))⟩
                · exact .inl (by omega)
              · exact .inl (by omega)
            · exact cons_lt (by omega) (by omega) (.inl (by omega))
      · split
        · omega
        · split
          · omega
          · split
            · omega
            · apply cons_lt (by omega) (by omega)
              by_cases first : v / 262144 = w / 262144
              · refine .inr ⟨by rw [first], cons_lt (by omega) (by omega) ?_⟩
                by_cases second : v / 4096 = w / 4096
                · refine .inr ⟨by rw [second], cons_lt (by omega) (by omega) ?_⟩
                  by_cases third : v / 64 = w / 64
                  · exact .inr ⟨by rw [third], cons_lt (by omega) (by omega) (.inl (by omega))⟩
                  · exact .inl (by omega)
                · exact .inl (by omega)
              · exact .inl (by omega)

theorem encode_lt {s t : String} (less : s < t) : encode s < encode t := by
  rw [encode_eq_flatMap, encode_eq_flatMap]
  have less : s.toList < t.toList := less
  generalize s.toList = cs at *
  generalize t.toList = ds at *
  induction less with
  | @nil d ds =>
    obtain ⟨byte, rest, bytes⟩ := List.exists_cons_of_ne_nil (@String.utf8EncodeChar_ne_nil d)
    rw [List.flatMap_nil, List.flatMap_cons, bytes]
    exact .nil
  | rel first => exact encodeChar_lt first _ _
  | cons _ ih => exact List.append_left_lt ih

theorem encode_le_of_not_lt {s t : String} (notLess : ¬ t < s) : encode s ≤ encode t := by
  intro greater
  by_cases less : s.toList < t.toList
  · exact List.lt_asymm greater (encode_lt less)
  · rw [String.toList_inj.mp (List.le_antisymm notLess less)] at greater
    exact List.lt_irrefl _ greater

end LedgerWallet.Utf8
