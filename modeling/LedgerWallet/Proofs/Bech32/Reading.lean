import LedgerWallet.Proofs.Bech32.RoundTrip

/-! Which texts are read, and as what. A text is read as a prefix and bytes when, in lowercase, it is
that prefix, the separator, the symbols of the bytes and six symbols that complete a checksum of
either kind. Bits after the last whole byte are free. -/
namespace LedgerWallet.Bech32

namespace Symbol

theorem ofChar?_eq_some {c : Char} {symbol : Symbol} :
    ofChar? c = some symbol ↔ c = symbol.char := by
  constructor
  · intro found
    obtain ⟨index, at_, rfl⟩ := Option.map_eq_some_iff.mp found
    obtain ⟨inside, same, -⟩ := List.findIdx?_eq_some_iff_getElem.mp at_
    have small : index < 32 := inside
    rw [char, val_ofNat small, List.getD_eq_getElem?_getD, List.getElem?_eq_getElem inside]
    exact (beq_iff_eq.mp same).symm
  · rintro rfl
    exact ofChar?_char symbol

/-- The bits of symbols, one after the other. -/
def bits (symbols : List Symbol) : List Bool := symbols.flatMap fun symbol => Bits.ofNat 5 symbol.val

/-- The bits of bytes, one after the other. -/
def byteBits (bytes : List UInt8) : List Bool := bytes.flatMap fun byte => Bits.ofNat 8 byte.toNat

theorem length_bits (symbols : List Symbol) : (bits symbols).length = 5 * symbols.length := by
  induction symbols with
  | nil => rfl
  | cons symbol rest ih =>
    rw [bits, List.flatMap_cons, List.length_append, Bits.length_ofNat, List.length_cons, Nat.mul_succ,
      Nat.add_comm]
    exact congrArg (· + 5) ih

theorem length_byteBits (bytes : List UInt8) : (byteBits bytes).length = 8 * bytes.length := by
  induction bytes with
  | nil => rfl
  | cons byte rest ih =>
    rw [byteBits, List.flatMap_cons, List.length_append, Bits.length_ofNat, List.length_cons,
      Nat.mul_succ, Nat.add_comm]
    exact congrArg (· + 8) ih

theorem bits_append (first second : List Symbol) : bits (first ++ second) = bits first ++ bits second :=
  List.flatMap_append

/-- Five bits tell the symbol. -/
theorem eq_of_bits {first second : Symbol}
    (same : Bits.ofNat 5 first.val = Bits.ofNat 5 second.val) : first = second := by
  have small (symbol : Symbol) : symbol.val % 2 ^ 5 = symbol.val := Nat.mod_eq_of_lt symbol.isLt
  have values := congrArg Bits.toNat same
  rw [Bits.toNat_ofNat, Bits.toNat_ofNat, small, small] at values
  exact Fin.ext values

/-- Symbols whose bits begin with those of other symbols begin with these. -/
theorem eq_append_of_bits {first second : List Symbol} {rest : List Bool}
    (same : bits first = bits second ++ rest) :
    ∃ spare, first = second ++ spare ∧ bits spare = rest := by
  induction second generalizing first with
  | nil => exact ⟨first, rfl, same⟩
  | cons symbol second ih =>
    cases first with
    | nil =>
      have counts := congrArg List.length same
      rw [List.length_append, length_bits, length_bits, List.length_cons, List.length_nil] at counts
      omega
    | cons head first =>
      have parts : Bits.ofNat 5 head.val ++ bits first =
          Bits.ofNat 5 symbol.val ++ (bits second ++ rest) := by
        rw [← List.append_assoc]
        exact same
      obtain ⟨heads, tails⟩ := List.append_inj parts (by simp [Bits.length_ofNat])
      obtain ⟨spare, rfl, tail⟩ := ih tails
      exact ⟨spare, by rw [eq_of_bits heads, List.cons_append], tail⟩

/-- Symbols hold the bits of the bytes that they are read as, and fewer than eight more. -/
theorem toBytes_eq_iff {symbols : List Symbol} {bytes : List UInt8} :
    toBytes symbols = bytes ↔ ∃ rest : List Bool, rest.length < 8 ∧
      bits symbols = byteBits bytes ++ rest := by
  constructor
  · rintro rfl
    obtain ⟨parts, sizes, short⟩ := groups_spec (show 0 < 8 by decide) (bits symbols)
    refine ⟨_, short, parts.trans (congrArg (· ++ _) ?_)⟩
    have each : ∀ group ∈ (groups 8 (bits symbols)).1,
        Bits.ofNat 8 (UInt8.ofNat (Bits.toNat group)).toNat = group := by
      intro group member
      have size := sizes group member
      have small : Bits.toNat group < 256 := by
        have bound := Bits.toNat_lt group
        rwa [size] at bound
      rw [UInt8.toNat_ofNat', Nat.mod_eq_of_lt small, ← size, Bits.ofNat_toNat]
    rw [byteBits, toBytes, Bits.regroup, List.flatMap_def, List.map_map, List.map_map]
    exact congrArg List.flatten ((List.map_congr_left each).trans (List.map_id _)).symm
  · rintro ⟨rest, short, held⟩
    have sizes : ∀ group ∈ bytes.map fun byte => Bits.ofNat 8 byte.toNat, group.length = 8 := by
      intro group member
      obtain ⟨byte, -, rfl⟩ := List.mem_map.mp member
      exact Bits.length_ofNat _ _
    have cut := groups_flatten sizes short
    rw [← List.flatMap_def] at cut
    have byteOf (byte : UInt8) : UInt8.ofNat (Bits.toNat (Bits.ofNat 8 byte.toNat)) = byte := by
      rw [Bits.toNat_ofNat, Nat.mod_eq_of_lt byte.toNat_lt, UInt8.ofNat_toNat]
    rw [bits, byteBits] at held
    simp only [toBytes, held, Bits.regroup, cut, List.map_map]
    exact (List.map_congr_left fun byte _ => byteOf byte).trans (List.map_id bytes)

/-- Bytes that fill their symbols leave room for one more, and that one is not looked at. -/
theorem toBytes_eq_iff_spare {symbols : List Symbol} {bytes : List UInt8}
    (filled : 5 * (ofBytes bytes).length = 8 * bytes.length) :
    toBytes symbols = bytes ↔ ∃ spare, spare.length ≤ 1 ∧ symbols = ofBytes bytes ++ spare := by
  have tight : bits (ofBytes bytes) = byteBits bytes := by
    obtain ⟨padding, -, held⟩ := bits_ofBytes bytes
    have counts := congrArg List.length held
    rw [List.length_append] at counts
    have first := length_bits (ofBytes bytes)
    have second := length_byteBits bytes
    rw [bits] at first
    rw [byteBits] at second
    obtain rfl := List.eq_nil_of_length_eq_zero (show padding.length = 0 by omega)
    rw [List.append_nil] at held
    exact held
  rw [toBytes_eq_iff]
  constructor
  · rintro ⟨rest, short, held⟩
    rw [← tight] at held
    obtain ⟨spare, rfl, rfl⟩ := eq_append_of_bits held
    rw [length_bits] at short
    exact ⟨spare, by omega, rfl⟩
  · rintro ⟨spare, short, rfl⟩
    refine ⟨bits spare, ?_, by rw [bits_append, tight]⟩
    rw [length_bits]
    omega

end Symbol

theorem mapM_ofChar?_eq_some {chars : List Char} {symbols : List Symbol} :
    chars.mapM Symbol.ofChar? = some symbols ↔ chars = symbols.map Symbol.char := by
  constructor
  · intro read
    induction chars generalizing symbols with
    | nil =>
      cases read
      rfl
    | cons c rest ih =>
      rw [List.mapM_cons] at read
      obtain ⟨symbol, first, read⟩ := Option.bind_eq_some_iff.mp read
      obtain ⟨others, later, same⟩ := Option.bind_eq_some_iff.mp read
      cases same
      rw [List.map_cons, ← Symbol.ofChar?_eq_some.mp first, ← ih later]
  · rintro rfl
    exact mapM_ofChar? symbols

/-- A text is split at its last separator, and only a text of one case is. -/
theorem split?_eq_some {hrp : List Char} (writable : WritablePrefix hrp) {text : List Char}
    {symbols : List Symbol} : split? text = some (hrp, symbols) ↔
      mixesCases text = false ∧
        text.map Char.toLower = hrp ++ separator :: symbols.map Symbol.char := by
  constructor
  · intro read
    obtain ⟨_, single, read⟩ := Option.bind_eq_some_iff.mp read
    obtain ⟨⟨front, data⟩, cut, read⟩ := Option.bind_eq_some_iff.mp read
    obtain ⟨_, -, read⟩ := Option.bind_eq_some_iff.mp read
    obtain ⟨others, chars, same⟩ := Option.bind_eq_some_iff.mp read
    cases same
    obtain ⟨parts, -⟩ := Text.splitLast_eq_some.mp cut
    refine ⟨?_, by rw [parts, mapM_ofChar?_eq_some.mp chars]⟩
    cases mixed : mixesCases text with
    | false => rfl
    | true =>
      rw [mixed] at single
      contradiction
  · rintro ⟨single, same⟩
    exact split?_encode writable symbols single same

/-- Reading looks at the lowercase form, the two kinds of checksum and the whole bytes. -/
theorem decode_eq_ok {hrp : List Char} (writable : WritablePrefix hrp) {text : List Char}
    {bytes : List UInt8} : decode text = .ok (hrp, bytes) ↔
      mixesCases text = false ∧ ∃ data check : List Symbol, check.length = 6 ∧
        text.map Char.toLower = hrp ++ separator :: (data ++ check).map Symbol.char ∧
        hasChecksum hrp (data ++ check) = true ∧ Symbol.toBytes data = bytes := by
  have front {data check : List Symbol} (six : check.length = 6) :
      (data ++ check).take ((data ++ check).length - 6) = data := by
    rw [List.length_append, six, Nat.add_sub_cancel]
    exact List.take_left
  constructor
  · intro read
    rw [decode] at read
    split at read
    · contradiction
    · rename_i found
      split at read
      · rename_i front symbols checked
        cases read
        obtain ⟨single, same⟩ := (split?_eq_some writable).mp found
        have enough : 6 ≤ symbols.length := by
          simp only [hasChecksum, Bool.and_eq_true, decide_eq_true_eq] at checked
          exact checked.1.1
        refine ⟨single, symbols.take (symbols.length - 6), symbols.drop (symbols.length - 6), ?_, ?_⟩
        · rw [List.length_drop]
          omega
        · rw [List.take_append_drop]
          exact ⟨same, checked, rfl⟩
      · contradiction
  · rintro ⟨single, data, check, six, same, checked, rfl⟩
    rw [decode, (split?_eq_some writable).mpr ⟨single, same⟩]
    simp only [checked, if_true, front six]

end LedgerWallet.Bech32
