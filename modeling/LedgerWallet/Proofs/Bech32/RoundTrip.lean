import LedgerWallet.Bech32.Text
import LedgerWallet.Proofs.Bech32.Checksum
import LedgerWallet.Proofs.Bytes.Regrouping
import LedgerWallet.Proofs.Text.Cutting

/-! Checksummed text is read back. The prefix and the bytes that were written come out of the text,
and of the same text in capitals. -/
namespace LedgerWallet.Bech32

namespace Symbol

theorem ofChar?_char : ∀ symbol : Symbol, ofChar? symbol.char = some symbol := by decide

theorem char_ne_separator : ∀ symbol : Symbol, symbol.char ≠ separator := by decide

theorem separator_not_mem (symbols : List Symbol) : separator ∉ symbols.map char := by
  intro member
  obtain ⟨symbol, -, same⟩ := List.mem_map.mp member
  exact symbol.char_ne_separator same

theorem char_inj {x y : Symbol} (same : x.char = y.char) : x = y := by
  have read := ofChar?_char x
  rw [same, ofChar?_char] at read
  exact (Option.some.inj read).symm

theorem map_char_inj {first second : List Symbol} (same : first.map char = second.map char) :
    first = second :=
  (List.map_inj_right fun _ _ => char_inj).mp same

theorem val_ofNat {n : Nat} (small : n < 32) : (ofNat n).val = n := Nat.mod_eq_of_lt small

theorem bits_ofGroups (whole : List (List Bool)) (sizes : ∀ group ∈ whole, group.length = 5) :
    ((whole.map Bits.toNat).map ofNat).flatMap (fun symbol => Bits.ofNat 5 symbol.val) =
      whole.flatten := by
  induction whole with
  | nil => rfl
  | cons group rest ih =>
    have size := sizes group List.mem_cons_self
    have small : Bits.toNat group < 32 := by
      have bound := Bits.toNat_lt group
      rw [size] at bound
      exact bound
    have restored : Bits.ofNat 5 (ofNat (Bits.toNat group)).val = group := by
      rw [val_ofNat small, ← size, Bits.ofNat_toNat]
    have others := ih fun g member => sizes g (List.mem_cons_of_mem group member)
    simp only [List.map_cons, List.flatMap_cons, List.flatten_cons, restored, others]

/-- The symbols hold the bits of the bytes and fewer than five more. -/
theorem bits_ofBytes (bytes : List UInt8) :
    ∃ padding : List Bool, padding.length < 5 ∧
      (ofBytes bytes).flatMap (fun symbol => Bits.ofNat 5 symbol.val) =
        bytes.flatMap (fun byte => Bits.ofNat 8 byte.toNat) ++ padding := by
  obtain ⟨parts, sizes, short⟩ := groups_spec (show 0 < 5 by decide)
    (bytes.flatMap fun byte => Bits.ofNat 8 byte.toNat)
  rcases shape : groups 5 (bytes.flatMap fun byte => Bits.ofNat 8 byte.toNat) with ⟨whole, last⟩
  rw [shape] at parts sizes short
  dsimp only at parts sizes short
  cases last with
  | nil =>
    refine ⟨[], by decide, ?_⟩
    rw [parts, List.append_nil, List.append_nil, ← bits_ofGroups whole sizes]
    simp only [ofBytes, Bits.regroupPadded, shape]
  | cons bit rest =>
    have padded : ((bit :: rest) ++ List.replicate (5 - (bit :: rest).length) false).length = 5 := by
      rw [List.length_append, List.length_replicate]
      omega
    refine ⟨List.replicate (5 - (bit :: rest).length) false, by simp; omega, ?_⟩
    have extended := bits_ofGroups
      (whole ++ [(bit :: rest) ++ List.replicate (5 - (bit :: rest).length) false]) (by
        intro group member
        rcases List.mem_append.mp member with inside | final
        · exact sizes group inside
        · obtain rfl := List.mem_singleton.mp final
          exact padded)
    rw [List.flatten_append, List.flatten_singleton, ← List.append_assoc, ← parts,
      List.map_append, List.map_singleton] at extended
    rw [← extended]
    simp only [ofBytes, Bits.regroupPadded, shape]

/-- Bytes come back from their symbols. -/
theorem toBytes_ofBytes (bytes : List UInt8) : toBytes (ofBytes bytes) = bytes := by
  obtain ⟨padding, short, bits⟩ := bits_ofBytes bytes
  have sizes : ∀ group ∈ bytes.map fun byte => Bits.ofNat 8 byte.toNat, group.length = 8 := by
    intro group member
    obtain ⟨byte, _, rfl⟩ := List.mem_map.mp member
    exact Bits.length_ofNat _ _
  have cut := groups_flatten sizes (show padding.length < 8 by omega)
  have byteOf (byte : UInt8) : UInt8.ofNat (Bits.toNat (Bits.ofNat 8 byte.toNat)) = byte := by
    rw [Bits.toNat_ofNat, Nat.mod_eq_of_lt byte.toNat_lt, UInt8.ofNat_toNat]
  rw [← List.flatMap_def] at cut
  simp only [toBytes, bits, Bits.regroup, cut, List.map_map]
  exact (List.map_congr_left fun byte _ => byteOf byte).trans (List.map_id bytes)

end Symbol

/-- A prefix that may stand before data: neither empty nor too long, of visible characters, and
without capitals. -/
structure WritablePrefix (hrp : List Char) : Prop where
  nonempty : hrp ≠ []
  short : hrp.length ≤ 83
  visible : ∀ c ∈ hrp, isPrefixChar c = true
  lower : ∀ c ∈ hrp, c.isUpper = false

theorem mapM_ofChar? (symbols : List Symbol) :
    (symbols.map Symbol.char).mapM Symbol.ofChar? = some symbols := by
  induction symbols with
  | nil => rfl
  | cons symbol rest ih =>
    simp only [List.map_cons, List.mapM_cons, Symbol.ofChar?_char, ih]
    rfl

/-- Case aside, a text is split where it was put together. -/
theorem split?_encode {hrp : List Char} (writable : WritablePrefix hrp) (symbols : List Symbol)
    {text : List Char} (single : mixesCases text = false)
    (same : text.map Char.toLower = hrp ++ separator :: symbols.map Symbol.char) :
    split? text = some (hrp, symbols) := by
  have cut := Text.splitLast_append hrp (Symbol.separator_not_mem symbols)
  have allowed : (!hrp.isEmpty && decide (hrp.length ≤ 83) && hrp.all isPrefixChar) = true := by
    simpa [writable.nonempty, writable.short] using writable.visible
  rw [split?, single, same, cut, Option.bind_eq_bind, Option.bind_eq_bind, Option.bind_some]
  dsimp only
  rw [allowed, mapM_ofChar?]
  rfl

/-- How many symbols some bytes take: as many as their bits, in fives, and one for what remains. -/
theorem Symbol.length_ofBytes (bytes : List UInt8) :
    8 * bytes.length ≤ 5 * (ofBytes bytes).length ∧
      5 * (ofBytes bytes).length < 8 * bytes.length + 5 := by
  obtain ⟨padding, short, bits⟩ := bits_ofBytes bytes
  have fives (symbols : List Symbol) :
      (symbols.flatMap fun symbol => Bits.ofNat 5 symbol.val).length = 5 * symbols.length := by
    induction symbols with
    | nil => rfl
    | cons symbol rest ih =>
      rw [List.flatMap_cons, List.length_append, ih, Bits.length_ofNat, List.length_cons]
      omega
  have eights (bytes : List UInt8) :
      (bytes.flatMap fun byte => Bits.ofNat 8 byte.toNat).length = 8 * bytes.length := by
    induction bytes with
    | nil => rfl
    | cons byte rest ih =>
      rw [List.flatMap_cons, List.length_append, ih, Bits.length_ofNat, List.length_cons]
      omega
  have count := congrArg List.length bits
  rw [fives, List.length_append, eights] at count
  omega

/-- A text of one case that is, case aside, what was written is read back. -/
theorem decode_of_toLower {hrp : List Char} {bytes : List UInt8} {text : List Char}
    (writable : WritablePrefix hrp)
    (fits : hrp.length + 1 + ((Symbol.ofBytes bytes).length + 6) ≤ maxLength)
    (single : mixesCases text = false) (same : text.map Char.toLower = encode hrp bytes) :
    decode text = .ok (hrp, bytes) := by
  let data := Symbol.ofBytes bytes
  have six : (checksum hrp data).length = 6 := rfl
  have length : (data ++ checksum hrp data).length = data.length + 6 := by
    rw [List.length_append, six]
  have parts := split?_encode writable (data ++ checksum hrp data) single same
  have checked : hasChecksum hrp (data ++ checksum hrp data) = true := by
    simp [hasChecksum, length, residue_checksum, data, fits]
  have front : (data ++ checksum hrp data).take ((data ++ checksum hrp data).length - 6) = data := by
    rw [length, Nat.add_sub_cancel]
    exact List.take_left
  simp only [decode, parts, checked, if_true, front, data, Symbol.toBytes_ofBytes]

theorem toLower_of_not_isUpper {c : Char} (small : c.isUpper = false) : c.toLower = c := by
  have outside : ¬ (c.val ≥ 'A'.val ∧ c.val ≤ 'Z'.val) := of_decide_eq_false small
  exact dif_neg outside

theorem isLower_toUpper (c : Char) : c.toUpper.isLower = false := by
  unfold Char.toUpper Char.isLower
  split <;> grind

theorem toLower_toUpper {c : Char} (small : c.isUpper = false) : c.toUpper.toLower = c := by
  unfold Char.toUpper
  split
  · unfold Char.toLower
    split
    · apply Char.ext
      grind
    · grind
  · exact toLower_of_not_isUpper small

theorem isUpper_encode {hrp : List Char} (writable : WritablePrefix hrp) (bytes : List UInt8) :
    ∀ c ∈ encode hrp bytes, c.isUpper = false := by
  have data : ∀ symbol : Symbol, symbol.char.isUpper = false := by decide
  intro c member
  rcases List.mem_append.mp member with front | back
  · exact writable.lower c front
  · rcases List.mem_cons.mp back with rfl | inside
    · decide
    · obtain ⟨symbol, _, rfl⟩ := List.mem_map.mp inside
      exact data symbol

theorem mixesCases_encode {hrp : List Char} (writable : WritablePrefix hrp) (bytes : List UInt8) :
    mixesCases (encode hrp bytes) = false := by
  have none : (encode hrp bytes).any Char.isUpper = false := by
    rw [List.any_eq_false]
    intro c member
    simp [isUpper_encode writable bytes c member]
  simp [mixesCases, none]

theorem toLower_encode {hrp : List Char} (writable : WritablePrefix hrp) (bytes : List UInt8) :
    (encode hrp bytes).map Char.toLower = encode hrp bytes :=
  (List.map_congr_left fun c member =>
    toLower_of_not_isUpper (isUpper_encode writable bytes c member)).trans (List.map_id _)

/-- What was written has a form in capitals, which is lowered to it. -/
theorem toLower_toUpper_encode {hrp : List Char} (writable : WritablePrefix hrp) (bytes : List UInt8) :
    ((encode hrp bytes).map Char.toUpper).map Char.toLower = encode hrp bytes := by
  rw [List.map_map]
  exact (List.map_congr_left fun c member =>
    toLower_toUpper (isUpper_encode writable bytes c member)).trans (List.map_id _)

theorem mixesCases_toUpper (text : List Char) : mixesCases (text.map Char.toUpper) = false := by
  have none : (text.map Char.toUpper).any Char.isLower = false := by
    rw [List.any_map, List.any_eq_false]
    intro c _
    exact Bool.eq_false_iff.mp (isLower_toUpper c)
  simp [mixesCases, none]

end LedgerWallet.Bech32
