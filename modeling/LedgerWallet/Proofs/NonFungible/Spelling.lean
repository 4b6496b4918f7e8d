import LedgerWallet.NonFungible
import LedgerWallet.Proofs.Bytes.Hex
import LedgerWallet.Proofs.Text.Cutting
import LedgerWallet.Proofs.Text.Digits
import Mathlib.Data.Option.Basic

/-! The texts that an id is read from. The brackets tell the four kinds apart, and between them a number
may have a sign and zeros in front and bytes may have capitals among their digits. -/
namespace LedgerWallet.LocalId

/-- The rules for an id that is read from a text. -/
def Valid : LocalId → Prop
  | integer _ => True
  | string name =>
    name.toList ≠ [] ∧ name.toList.length ≤ maxLength ∧ ∀ c ∈ name.toList, isNameChar c
  | bytes value => value ≠ [] ∧ value.length ≤ maxLength
  | random _ => True

/-- A number after at most one plus sign and any zeros, a name as it is, or bytes in digits of either
case, each between the brackets of its kind. -/
def Spelling : LocalId → String → Prop
  | integer value, text => ∃ sign zeros, (sign = [] ∨ sign = ['+']) ∧ text.toList =
      '#' :: (sign ++ (List.replicate zeros '0' ++ Nat.toDigits 10 value.toNat) ++ ['#'])
  | string name, text => text.toList = (string name).chars
  | bytes value, text => text.toList.map Char.toLower = (bytes value).chars
  | random value, text => text.toList.map Char.toLower = (random value).chars

theorem utf8Size_of_isNameChar {c : Char} (named : isNameChar c) : c.utf8Size = 1 := by
  have classes : (((c.isUpper || c.isLower) || c.isDigit) || c == '_') = true := named
  rw [Bool.or_eq_true, Bool.or_eq_true, Bool.or_eq_true, Text.isUpper_iff, Text.isLower_iff,
    Char.isDigit_iff_toNat, beq_iff_eq] at classes
  have ascii : c.toNat ≤ 127 := by
    rcases classes with ((upper | lower) | digit) | rfl
    · omega
    · omega
    · exact Nat.le_trans digit.2 (by decide)
    · decide
  exact Char.utf8Size_eq_one_iff.mpr (UInt32.le_iff_toNat_le.mpr ascii)

/-- The characters of a name are single bytes. -/
theorem isName_iff {name : List Char} : isName name ↔
    name ≠ [] ∧ name.length ≤ maxLength ∧ ∀ c ∈ name, isNameChar c := by
  rw [isName, Bool.and_eq_true, Bool.and_eq_true, List.all_eq_true, and_assoc]
  refine and_congr (by simp) (and_congr_left fun named => ?_)
  rw [decide_eq_true_eq, Hex.utf8Length_of_ascii fun c member => utf8Size_of_isNameChar (named c member)]

instance : DecidablePred Valid
  | integer _ => .isTrue trivial
  | string name => decidable_of_iff (isName name.toList) isName_iff
  | bytes value => inferInstanceAs (Decidable (value ≠ [] ∧ value.length ≤ maxLength))
  | random _ => .isTrue trivial

section Inside

variable {inside : List Char} {id : LocalId}

theorem integer?_eq_some : integer? inside = some id ↔ ∃ value, id = integer value ∧
    ∃ sign zeros, (sign = [] ∨ sign = ['+']) ∧
      inside = sign ++ (List.replicate zeros '0' ++ Nat.toDigits 10 value.toNat) := by
  simp only [integer?, Text.below?, Option.map_eq_some_iff, Option.filter_eq_some_iff,
    decide_eq_true_eq]
  constructor
  · rintro ⟨n, ⟨read, small⟩, rfl⟩
    refine ⟨UInt64.ofNat n, rfl, ?_⟩
    rw [UInt64.toNat_ofNat_of_lt' small]
    exact Text.natural?_eq_some.mp read
  · rintro ⟨value, rfl, spelled⟩
    refine ⟨value.toNat, ⟨Text.natural?_eq_some.mpr spelled, value.toNat_lt⟩, ?_⟩
    rw [UInt64.ofNat_toNat]

theorem string?_eq_some : string? inside = some id ↔ ∃ name, id = string name ∧
    (string name).Valid ∧ inside = name.toList := by
  rw [string?, Option.ite_none_right_eq_some, Option.some.injEq, isName_iff]
  constructor
  · rintro ⟨named, rfl⟩
    refine ⟨_, rfl, ?_, String.toList_ofList.symm⟩
    rwa [Valid, String.toList_ofList]
  · rintro ⟨name, rfl, named, rfl⟩
    exact ⟨named, by rw [String.ofList_toList]⟩

theorem bytes?_eq_some : bytes? inside = some id ↔ ∃ value, id = bytes value ∧
    (bytes value).Valid ∧ inside.map Char.toLower = Hex.encode value := by
  have fits (value : List UInt8) : (value.isEmpty || decide (maxLength < value.length)) = false ↔
      (bytes value).Valid := by
    simp [Valid]
  simp only [bytes?, Option.bind_eq_bind, Option.bind_eq_some_iff, Hex.decode?_eq_some,
    Option.ite_none_left_eq_some, Bool.not_eq_true, fits, Option.some.injEq]
  constructor
  · rintro ⟨value, same, valid, rfl⟩
    exact ⟨value, rfl, valid, same⟩
  · rintro ⟨value, rfl, valid, same⟩
    exact ⟨value, same, valid, rfl⟩

/-- Sixty-four digits in four groups. -/
def quarters (digits : List Char) : List (List Char) :=
  [digits.take 16, (digits.drop 16).take 16, (digits.drop 32).take 16, digits.drop 48]

theorem flatten_quarters (digits : List Char) : (quarters digits).flatten = digits := by
  have third : (digits.drop 32).take 16 ++ digits.drop 48 = digits.drop 32 := by
    rw [← List.drop_drop (i := 16) (j := 32), List.take_append_drop]
  have second : (digits.drop 16).take 16 ++ digits.drop 32 = digits.drop 16 := by
    rw [← List.drop_drop (i := 16) (j := 16), List.take_append_drop]
  simp only [quarters, List.flatten_cons, List.flatten_nil, List.append_nil, third, second,
    List.take_append_drop]

theorem intercalate_quarters (digits : List Char) :
    ['-'].intercalate (quarters digits) = randomChars digits := by
  simp [quarters, randomChars, List.intercalate_cons_cons]

/-- Four groups of sixteen are the quarters of what they are together. -/
theorem quarters_flatten {parts : List (List Char)} (four : parts.length = 4)
    (sizes : ∀ part ∈ parts, part.length = 16) : quarters parts.flatten = parts := by
  match parts, four with
  | [a, b, c, d], _ =>
    simp only [List.forall_mem_cons] at sizes
    obtain ⟨first, second, third, -⟩ := sizes
    have front : a.drop 48 = [] := List.drop_eq_nil_of_le (by omega)
    have next : b.drop 32 = [] := List.drop_eq_nil_of_le (by omega)
    simp [quarters, List.take_append, List.drop_append, first, second, third, front, next]

theorem length_of_mem_quarters {digits part : List Char} (size : digits.length = 64)
    (member : part ∈ quarters digits) : part.length = 16 := by
  simp only [quarters, List.mem_cons, List.not_mem_nil, or_false] at member
  rcases member with rfl | rfl | rfl | rfl <;> simp [size]

theorem fields_randomChars {digits : List Char} (absent : '-' ∉ digits) :
    Text.fields '-' (randomChars digits) = quarters digits := by
  have front (start : Nat) : '-' ∉ digits.drop start := fun member =>
    absent (List.mem_of_mem_drop member)
  have group (start : Nat) : '-' ∉ (digits.drop start).take 16 := fun member =>
    front start (List.mem_of_mem_take member)
  have first : '-' ∉ digits.take 16 := group 0
  simp only [quarters, randomChars, List.append_assoc, List.cons_append, Text.fields_append _ first,
    Text.fields_append _ (group 16), Text.fields_append _ (group 32),
    Text.fields_of_not_mem (front 48)]

/-- Dashes stay where they are when digits are put in lowercase. -/
theorem fields_toLower (groups : List Char) :
    Text.fields '-' (groups.map Char.toLower) = (Text.fields '-' groups).map (List.map Char.toLower) :=
  Text.fields_map (fun _ => Text.toLower_eq_iff (by decide)) groups

/-- Four groups of sixteen bytes of text that can be decoded are thirty-two bytes. -/
theorem length_of_decode_groups {groups : List (List Char)} (four : groups.length = 4)
    (sizes : ∀ group ∈ groups, Hex.utf8Length group = 16) {bytes : List UInt8}
    (decoded : Hex.decode? groups.flatten = some bytes) : bytes.length = 32 := by
  have whole := Hex.utf8Length_of_decode? decoded
  match groups, four with
  | [a, b, c, d], _ =>
    simp only [List.forall_mem_cons] at sizes
    obtain ⟨first, second, third, fourth, -⟩ := sizes
    simp only [List.flatten_cons, List.flatten_nil, Hex.utf8Length_append, first, second, third,
      fourth] at whole
    have none : Hex.utf8Length [] = 0 := rfl
    omega

/-- The groups that are read as a random id. -/
structure Groups (inside : List Char) (value : Bytes 32) : Prop where
  four : (Text.fields '-' inside).length = 4
  sizes : ∀ group ∈ Text.fields '-' inside, Hex.utf8Length group = 16
  decoded : Hex.decode? (Text.fields '-' inside).flatten = some value.toList

/-- Groups of the right sizes fill the bytes they are copied to, so that reading them never breaks
off. -/
theorem readRandom_cases (inside : List Char) :
    (∃ value, readRandom inside = .read (random value) ∧ Groups inside value) ∨
    (readRandom inside = .refused ∧ ∀ value, ¬ Groups inside value) := by
  rw [readRandom]
  split
  · next shape =>
    simp only [List.all_eq_true, decide_eq_true_eq] at shape
    cases decoded : Hex.decode? (Text.fields '-' inside).flatten with
    | none =>
      refine .inr ⟨rfl, fun value groups => ?_⟩
      rw [groups.decoded] at decoded
      contradiction
    | some bytes =>
      have size := length_of_decode_groups shape.1 shape.2 decoded
      have copied : Bytes.ofList? 32 bytes = some ⟨bytes, size⟩ := dif_pos size
      exact .inl ⟨⟨bytes, size⟩, by simp only [copied], shape.1, shape.2, decoded⟩
  · next shape =>
    refine .inr ⟨rfl, fun value groups => shape ⟨groups.four, ?_⟩⟩
    simpa using groups.sizes

theorem groups_iff {value : Bytes 32} : Groups inside value ↔
    inside.map Char.toLower = randomChars (Hex.encode value.toList) := by
  have absent : '-' ∉ Hex.encode value.toList := Hex.not_mem_encode (by decide) value.toList
  have size : (Hex.encode value.toList).length = 64 := by
    rw [Hex.length_encode, value.length_toList]
  constructor
  · rintro ⟨four, sizes, decoded⟩
    have digits := Hex.decode?_eq_some.mp decoded
    have single := Hex.ascii_of_toLower digits
    let lowered := (Text.fields '-' inside).map (List.map Char.toLower)
    have each : ∀ part ∈ lowered, part.length = 16 := by
      intro part member
      obtain ⟨group, inside, rfl⟩ := List.mem_map.mp member
      rw [List.length_map, ← sizes group inside]
      exact (Hex.utf8Length_of_ascii fun c among =>
        single c (List.mem_flatten.mpr ⟨group, inside, among⟩)).symm
    have together : lowered.flatten = Hex.encode value.toList := by
      rw [← digits, List.map_flatten]
    calc inside.map Char.toLower
      _ = ['-'].intercalate (Text.fields '-' (inside.map Char.toLower)) :=
        (Text.intercalate_fields '-' _).symm
      _ = ['-'].intercalate (quarters lowered.flatten) := by
        rw [fields_toLower, quarters_flatten ((List.length_map _).trans four) each]
      _ = randomChars (Hex.encode value.toList) := by
        rw [intercalate_quarters, together]
  · intro same
    have cut := fields_randomChars absent
    rw [← same, fields_toLower] at cut
    have digits : (Text.fields '-' inside).flatten.map Char.toLower = Hex.encode value.toList := by
      rw [List.map_flatten, cut, flatten_quarters]
    have single := Hex.ascii_of_toLower digits
    refine ⟨?_, fun group member => ?_, Hex.decode?_eq_some.mpr digits⟩
    · simpa [quarters] using congrArg List.length cut
    · have lowered : group.map Char.toLower ∈ quarters (Hex.encode value.toList) :=
        cut ▸ List.mem_map_of_mem member
      rw [Hex.utf8Length_of_ascii fun c among =>
        single c (List.mem_flatten.mpr ⟨group, member, among⟩)]
      simpa using length_of_mem_quarters size lowered

theorem readRandom_eq_read : readRandom inside = .read id ↔ ∃ value, id = random value ∧
    inside.map Char.toLower = randomChars (Hex.encode value.toList) := by
  simp only [← groups_iff]
  rcases readRandom_cases inside with ⟨value, read, groups⟩ | ⟨refused, none⟩
  · rw [read, Reading.read.injEq]
    constructor
    · rintro rfl
      exact ⟨value, rfl, groups⟩
    · rintro ⟨other, rfl, groups'⟩
      rw [Bytes.ext (Option.some.inj (groups.decoded.symm.trans groups'.decoded))]
  · rw [refused]
    exact iff_of_false nofun fun ⟨value, _, groups⟩ => none value groups

end Inside

section Texts

variable {id : LocalId}

theorem ofOption_eq_read {read : Option LocalId} : Reading.ofOption read = .read id ↔ read = some id := by
  cases read <;> simp [Reading.ofOption]

/-- The first character of a text tells how to read what is between it and the last one. -/
theorem readChars_eq_read {text : List Char} : readChars text = .read id ↔
    (∃ inside, text = '#' :: (inside ++ ['#']) ∧ integer? inside = some id) ∨
    (∃ inside, text = '<' :: (inside ++ ['>']) ∧ string? inside = some id) ∨
    (∃ inside, text = '[' :: (inside ++ [']']) ∧ bytes? inside = some id) ∨
    ∃ inside, text = '\x7b' :: (inside ++ ['\x7d']) ∧ readRandom inside = .read id := by
  constructor
  · intro read
    rw [readChars] at read
    split at read
    · next inside cut => exact .inl ⟨inside, Text.between?_eq_some.mp cut, ofOption_eq_read.mp read⟩
    split at read
    · next inside cut =>
      exact .inr (.inl ⟨inside, Text.between?_eq_some.mp cut, ofOption_eq_read.mp read⟩)
    split at read
    · next inside cut =>
      exact .inr (.inr (.inl ⟨inside, Text.between?_eq_some.mp cut, ofOption_eq_read.mp read⟩))
    split at read
    · next inside cut => exact .inr (.inr (.inr ⟨inside, Text.between?_eq_some.mp cut, read⟩))
    · contradiction
  · rintro (⟨inside, rfl, read⟩ | ⟨inside, rfl, read⟩ | ⟨inside, rfl, read⟩ | ⟨inside, rfl, read⟩) <;>
      rw [readChars]
    · rw [Text.between?_append]
      exact ofOption_eq_read.mpr read
    · rw [Text.between?_of_ne (by decide), Text.between?_append]
      exact ofOption_eq_read.mpr read
    · rw [Text.between?_of_ne (by decide), Text.between?_of_ne (by decide), Text.between?_append]
      exact ofOption_eq_read.mpr read
    · rw [Text.between?_of_ne (by decide), Text.between?_of_ne (by decide),
        Text.between?_of_ne (by decide), Text.between?_append]
      exact read

/-- Whatever the text, reading does not break off. -/
theorem readChars_ne_broken (text : List Char) : readChars text ≠ .broken := by
  have answered (read : Option LocalId) : Reading.ofOption read ≠ .broken := by
    cases read <;> exact nofun
  rw [readChars]
  split
  · exact answered _
  split
  · exact answered _
  split
  · exact answered _
  split
  · next inside _ =>
    rcases readRandom_cases inside with ⟨value, read, -⟩ | ⟨refused, -⟩
    · rw [read]
      exact nofun
    · rw [refused]
      exact nofun
  · exact nofun

/-- There is an answer for every text. -/
theorem parse?_eq_parse (text : String) : parse? text = some (parse text) := by
  rw [parse]
  cases read : parse? text with
  | some answer => rfl
  | none =>
    rw [parse?] at read
    split at read
    · contradiction
    · contradiction
    · next broken => exact absurd broken (readChars_ne_broken _)

/-- Brackets stay where they are when a text is put in lowercase. -/
theorem toLower_eq_bracketed {first last : Char} (other : ¬ first.isAlpha) (other' : ¬ last.isAlpha)
    {text content : List Char} : text.map Char.toLower = first :: (content ++ [last]) ↔
      ∃ inside, text = first :: (inside ++ [last]) ∧ inside.map Char.toLower = content := by
  constructor
  · intro same
    obtain ⟨c, rest, rfl, head, same⟩ := List.map_eq_cons_iff.mp same
    obtain ⟨inside, tail, rfl, front, back⟩ := List.map_eq_append_iff.mp same
    obtain ⟨d, rfl, closing⟩ := List.map_eq_singleton_iff.mp back
    rw [Text.toLower_eq_iff other] at head
    rw [Text.toLower_eq_iff other'] at closing
    exact ⟨inside, by rw [head, closing], front⟩
  · rintro ⟨inside, rfl, rfl⟩
    simp [(Text.toLower_eq_iff other).mpr rfl, (Text.toLower_eq_iff other').mpr rfl]

/-- An id is read from its spellings, if it follows the rules, and from no other text. -/
theorem parse_eq_ok {text : String} : parse text = .ok id ↔ id.Valid ∧ id.Spelling text := by
  have parsed : parse text = .ok id ↔ readChars text.toList = .read id := by
    rw [parse, parse?]
    cases readChars text.toList <;> simp
  rw [parsed, readChars_eq_read]
  simp only [integer?_eq_some, string?_eq_some, bytes?_eq_some, readRandom_eq_read]
  cases id with
  | integer value =>
    simp only [reduceCtorEq, false_and, exists_false, and_false, or_false, integer.injEq,
      exists_eq_left', Valid, true_and, Spelling]
    constructor
    · rintro ⟨_, same, sign, zeros, plus, rfl⟩
      exact ⟨sign, zeros, plus, same⟩
    · rintro ⟨sign, zeros, plus, same⟩
      exact ⟨_, same, sign, zeros, plus, rfl⟩
  | string name =>
    simp only [reduceCtorEq, false_and, exists_false, and_false, or_false, false_or, string.injEq,
      exists_eq_left', Spelling, chars]
    constructor
    · rintro ⟨_, same, valid, rfl⟩
      exact ⟨valid, same⟩
    · rintro ⟨valid, same⟩
      exact ⟨_, same, valid, rfl⟩
  | bytes value =>
    simp only [reduceCtorEq, false_and, exists_false, and_false, or_false, false_or, bytes.injEq,
      exists_eq_left', Spelling, chars, @toLower_eq_bracketed '[' ']' (by decide) (by decide)]
    constructor
    · rintro ⟨inside, same, valid, digits⟩
      exact ⟨valid, inside, same, digits⟩
    · rintro ⟨valid, inside, same, digits⟩
      exact ⟨inside, same, valid, digits⟩
  | random value =>
    simp only [reduceCtorEq, false_and, exists_false, and_false, false_or, random.injEq,
      exists_eq_left', Spelling, chars, Valid, true_and]
    exact (toLower_eq_bracketed (by decide) (by decide)).symm

end Texts

end LedgerWallet.LocalId
