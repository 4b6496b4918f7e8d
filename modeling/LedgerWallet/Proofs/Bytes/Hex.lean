import LedgerWallet.Bytes.Hex

/-! Bytes in base 16 are read back from their digits, which may be of either case. -/
namespace LedgerWallet

namespace Text

theorem isUpper_iff {c : Char} : c.isUpper ↔ 65 ≤ c.toNat ∧ c.toNat ≤ 90 := by
  change decide (c.val ≥ 'A'.val ∧ c.val ≤ 'Z'.val) = true ↔ _
  rw [decide_eq_true_iff]
  exact and_congr UInt32.le_iff_toNat_le UInt32.le_iff_toNat_le

theorem isLower_iff {c : Char} : c.isLower ↔ 97 ≤ c.toNat ∧ c.toNat ≤ 122 := by
  change (decide (c.val ≥ 'a'.val) && decide (c.val ≤ 'z'.val)) = true ↔ _
  rw [Bool.and_eq_true, decide_eq_true_iff, decide_eq_true_iff]
  exact and_congr UInt32.le_iff_toNat_le UInt32.le_iff_toNat_le

theorem toNat_toLower (c : Char) :
    c.toLower.toNat = if 65 ≤ c.toNat ∧ c.toNat ≤ 90 then c.toNat + 32 else c.toNat := by
  have bounds : c.val ≥ 'A'.val ∧ c.val ≤ 'Z'.val ↔ 65 ≤ c.toNat ∧ c.toNat ≤ 90 :=
    decide_eq_true_iff.symm.trans isUpper_iff
  unfold Char.toLower
  split
  · next capital =>
    have range := bounds.mp capital
    rw [if_pos range]
    change (c.val.toNat + 32) % 2 ^ 32 = c.val.toNat + 32
    change 65 ≤ c.val.toNat ∧ c.val.toNat ≤ 90 at range
    omega
  · next other => rw [if_neg (mt bounds.mpr other)]

/-- No character but a letter changes in lowercase, and none becomes another sign. -/
theorem toLower_eq_iff {c sign : Char} (other : ¬ sign.isAlpha) : c.toLower = sign ↔ c = sign := by
  change ¬ (sign.isUpper || sign.isLower) = true at other
  rw [Bool.or_eq_true, not_or, isUpper_iff, isLower_iff] at other
  rw [← Char.toNat_inj, ← Char.toNat_inj, toNat_toLower]
  split <;> omega

end Text

namespace Hex

theorem encode_cons (byte : UInt8) (rest : List UInt8) : encode (byte :: rest) =
    digit (byte.toNat / 16) :: digit (byte.toNat % 16) :: encode rest := rfl

/-- What holds for the sixteen digits holds for all characters that bytes are written with. -/
theorem forall_mem_encode {P : Char → Prop} (digits : ∀ value < 16, P (digit value))
    (bytes : List UInt8) : ∀ c ∈ encode bytes, P c := by
  induction bytes with
  | nil => exact nofun
  | cons byte rest ih =>
    have bound := byte.toNat_lt
    rw [encode_cons, List.forall_mem_cons, List.forall_mem_cons]
    exact ⟨digits _ (by omega), digits _ (by omega), ih⟩

theorem not_mem_encode {c : Char} (other : ∀ value < 16, digit value ≠ c) (bytes : List UInt8) :
    c ∉ encode bytes := fun member =>
  forall_mem_encode (P := fun d => d ≠ c) other bytes c member rfl

theorem length_encode (bytes : List UInt8) : (encode bytes).length = 2 * bytes.length := by
  induction bytes with
  | nil => rfl
  | cons byte rest ih =>
    rw [encode_cons, List.length_cons, List.length_cons, List.length_cons, ih]
    omega

theorem utf8Length_cons (c : Char) (rest : List Char) :
    utf8Length (c :: rest) = c.utf8Size + utf8Length rest := by
  have from_start (text : List Char) (start : Nat) :
      text.foldl (fun length c => length + c.utf8Size) start = start + utf8Length text := by
    induction text generalizing start with
    | nil => rfl
    | cons d text ih => rw [utf8Length, List.foldl_cons, List.foldl_cons, ih, ih (0 + _)]; omega
  rw [utf8Length, List.foldl_cons, from_start, Nat.zero_add]

theorem utf8Length_append (front back : List Char) :
    utf8Length (front ++ back) = utf8Length front + utf8Length back := by
  induction front with
  | nil => exact (Nat.zero_add _).symm
  | cons c front ih =>
    rw [List.cons_append, utf8Length_cons, utf8Length_cons, ih, Nat.add_assoc]

theorem utf8Length_of_ascii {text : List Char} (ascii : ∀ c ∈ text, c.utf8Size = 1) :
    utf8Length text = text.length := by
  induction text with
  | nil => rfl
  | cons c rest ih =>
    obtain ⟨one, ascii⟩ := List.forall_mem_cons.mp ascii
    rw [utf8Length_cons, one, ih ascii, List.length_cons, Nat.add_comm]

theorem toNat_digit {value : Nat} (small : value < 16) :
    (digit value).toNat = if value < 10 then 48 + value else 87 + value := by
  revert value
  decide

/-- A digit is read in either case. -/
theorem value?_eq_some {c : Char} {value : Nat} :
    value? c = some value ↔ value < 16 ∧ c.toLower = digit value := by
  have le (a b : Char) : a ≤ b ↔ a.toNat ≤ b.toNat := UInt32.le_iff_toNat_le
  have lowered := Text.toNat_toLower c
  constructor
  · intro read
    have bound : value < 16 := by
      simp only [value?, le] at read
      grind
    refine ⟨bound, Char.toNat_inj.mp ?_⟩
    rw [toNat_digit bound, lowered]
    simp only [value?, le] at read
    grind
  · rintro ⟨small, same⟩
    have number := congrArg Char.toNat same
    rw [lowered, toNat_digit small] at number
    simp only [value?, le]
    grind

theorem decodePairs_of_toLower (offset : Nat) {bytes : List UInt8} {text : List Char}
    (same : text.map Char.toLower = encode bytes) : decodePairs offset text = .ok bytes := by
  induction bytes generalizing offset text with
  | nil =>
    cases List.map_eq_nil_iff.mp same
    rfl
  | cons byte rest ih =>
    have bound := byte.toNat_lt
    rw [encode_cons, List.map_eq_cons_iff] at same
    obtain ⟨c, _, rfl, high, same⟩ := same
    obtain ⟨d, text, rfl, low, same⟩ := List.map_eq_cons_iff.mp same
    have high := value?_eq_some.mpr ⟨by omega, high⟩
    have low := value?_eq_some.mpr ⟨by omega, low⟩
    simp only [decodePairs, high, low, ih (offset + 2) same, Except.map, Nat.div_add_mod,
      UInt8.ofNat_toNat]

theorem toLower_of_decodePairs {offset : Nat} {text : List Char} {bytes : List UInt8}
    (read : decodePairs offset text = .ok bytes) : text.map Char.toLower = encode bytes := by
  fun_induction decodePairs offset text generalizing bytes with
  | case1 =>
    cases read
    rfl
  | case2 | case3 | case4 | case5 => contradiction
  | case6 offset c d rest high first low second ih =>
    cases later : decodePairs (offset + 2) rest with
    | error fault =>
      rw [later] at read
      contradiction
    | ok others =>
      rw [later] at read
      cases read
      obtain ⟨small, first⟩ := value?_eq_some.mp first
      obtain ⟨small', second⟩ := value?_eq_some.mp second
      have whole : (UInt8.ofNat (16 * high + low)).toNat = 16 * high + low := by
        rw [UInt8.toNat_ofNat']
        omega
      have front : (16 * high + low) / 16 = high := by omega
      have back : (16 * high + low) % 16 = low := by omega
      rw [List.map_cons, List.map_cons, ih later, encode_cons, whole, front, back, first, second]

theorem utf8Size_of_toLower {c : Char} {value : Nat} (small : value < 16)
    (same : c.toLower = digit value) : c.utf8Size = 1 := by
  have number := congrArg Char.toNat same
  rw [Text.toNat_toLower, toNat_digit small] at number
  have ascii : c.val.toNat ≤ 127 := by
    change c.toNat ≤ 127
    grind
  exact Char.utf8Size_eq_one_iff.mpr (UInt32.le_iff_toNat_le.mpr ascii)

theorem ascii_of_toLower {text : List Char} {bytes : List UInt8}
    (same : text.map Char.toLower = encode bytes) : ∀ c ∈ text, c.utf8Size = 1 := by
  intro c member
  have lowered : c.toLower ∈ encode bytes := same ▸ List.mem_map_of_mem member
  refine forall_mem_encode (P := fun d => c.toLower = d → c.utf8Size = 1) ?_ bytes _ lowered rfl
  exact fun value small same => utf8Size_of_toLower small same

/-- Bytes are read from their digits, in either case, and from no other text. -/
theorem decode?_eq_some {text : List Char} {bytes : List UInt8} :
    decode? text = some bytes ↔ text.map Char.toLower = encode bytes := by
  constructor
  · intro read
    rw [decode?, decode] at read
    split at read
    · contradiction
    · cases pairs : decodePairs 0 text with
      | error fault =>
        rw [pairs] at read
        contradiction
      | ok others =>
        rw [pairs] at read
        cases read
        exact toLower_of_decodePairs pairs
  · intro same
    have length := congrArg List.length same
    rw [List.length_map, length_encode] at length
    have even : ¬ utf8Length text % 2 = 1 := by
      rw [utf8Length_of_ascii (ascii_of_toLower same), length]
      omega
    rw [decode?, decode, if_neg even, decodePairs_of_toLower 0 same]
    rfl

theorem toLower_encode (bytes : List UInt8) : (encode bytes).map Char.toLower = encode bytes :=
  (List.map_congr_left (forall_mem_encode (P := fun c => c.toLower = c) (by decide) bytes)).trans
    (List.map_id _)

theorem decode?_encode (bytes : List UInt8) : decode? (encode bytes) = some bytes :=
  decode?_eq_some.mpr (toLower_encode bytes)

/-- Two digits make a byte, and each of them is one byte of the text. -/
theorem utf8Length_of_decode? {text : List Char} {bytes : List UInt8}
    (read : decode? text = some bytes) : utf8Length text = 2 * bytes.length := by
  have same := decode?_eq_some.mp read
  have length := congrArg List.length same
  rw [List.length_map, length_encode] at length
  rw [utf8Length_of_ascii (ascii_of_toLower same), length]

theorem text_inj {first second : List UInt8} (same : text first = text second) : first = second := by
  have read := decode?_encode first
  rw [String.ofList_inj.mp same, decode?_encode] at read
  exact (Option.some.inj read).symm

end Hex

end LedgerWallet
