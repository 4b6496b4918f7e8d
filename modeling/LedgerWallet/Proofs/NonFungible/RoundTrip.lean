import LedgerWallet.Proofs.Address.RoundTrip
import LedgerWallet.Proofs.NonFungible.Spelling

/-! The text of an id is read back as the id, and nothing but ids that can be read back is read. -/
namespace LedgerWallet

namespace LocalId

variable {id other : LocalId}

theorem mem_randomChars {digits : List Char} {c : Char} (member : c ∈ randomChars digits) :
    c ∈ digits ∨ c = '-' := by
  simp only [randomChars, List.mem_append, List.mem_cons] at member
  rcases member with ((first | dash | second) | dash | third) | dash | fourth
  · exact .inl (List.mem_of_mem_take first)
  · exact .inr dash
  · exact .inl (List.mem_of_mem_drop (List.mem_of_mem_take second))
  · exact .inr dash
  · exact .inl (List.mem_of_mem_drop (List.mem_of_mem_take third))
  · exact .inr dash
  · exact .inl (List.mem_of_mem_drop fourth)

theorem toLower_randomChars (digits : List Char) :
    (randomChars digits).map Char.toLower = randomChars (digits.map Char.toLower) := by
  have dash : '-'.toLower = '-' := rfl
  simp only [randomChars, List.map_append, List.map_cons, List.map_take, List.map_drop, dash]

theorem spelling_text (id : LocalId) : id.Spelling id.text := by
  cases id with
  | integer value => exact ⟨[], 0, .inl rfl, String.toList_ofList⟩
  | string name => exact String.toList_ofList
  | bytes value =>
    rw [Spelling, text, String.toList_ofList]
    exact (toLower_eq_bracketed (by decide) (by decide)).mpr ⟨_, rfl, Hex.toLower_encode value⟩
  | random value =>
    rw [Spelling, text, String.toList_ofList]
    refine (toLower_eq_bracketed (by decide) (by decide)).mpr ⟨_, rfl, ?_⟩
    rw [toLower_randomChars, Hex.toLower_encode]

theorem parse_text (valid : id.Valid) : parse id.text = .ok id :=
  parse_eq_ok.mpr ⟨valid, id.spelling_text⟩

/-- Exactly the ids that follow the rules are read from some text. -/
theorem valid_iff_parse : id.Valid ↔ ∃ text, parse text = .ok id :=
  ⟨fun valid => ⟨id.text, parse_text valid⟩, fun ⟨_, read⟩ => (parse_eq_ok.mp read).1⟩

theorem text_inj (valid : id.Valid) (valid' : other.Valid) (same : id.text = other.text) :
    id = other := by
  have read := parse_text valid
  rw [same, parse_text valid'] at read
  exact (Except.ok.inj read).symm

/-- There is one reason for which a text is refused. -/
theorem parse_total (text : String) :
    (∃ id, parse text = .ok id) ∨ parse text = .error (.invalidLocal text) := by
  rw [parse, parse?]
  cases readChars text.toList with
  | read id => exact .inl ⟨id, rfl⟩
  | refused | broken => exact .inr rfl

end LocalId

theorem GlobalId.parse_text {id : GlobalId} (valid : id.localId.Valid) : parse id.text = .ok id := by
  have absent : ':' ∉ id.resource.chars := fun member =>
    absurd (id.resource.isWordChar_of_mem_chars _ member) (by decide)
  have localRead : LocalId.parse (String.ofList id.localId.chars) = .ok id.localId :=
    LocalId.parse_text valid
  simp only [parse, text, String.toList_ofList, chars, Text.splitFirst_append _ absent,
    Address.parseChars_chars, localRead]

/-- Every id that follows the rules is read back from its text, alone or with its resource, so that no
two of them have the same text. An id is read from exactly those texts that spell it, and only if it
follows the rules. All other texts are refused, and reading breaks off for none. Where the groups of a
random id can be decoded they fill its bytes. -/
theorem LocalId.texts_correspond :
    (∀ id : LocalId, id.Valid → parse id.text = .ok id) ∧
    (∀ id other : LocalId, id.Valid → other.Valid → id.text = other.text → id = other) ∧
    (∀ text id, parse text = .ok id ↔ id.Valid ∧ id.Spelling text) ∧
    (∀ text id, parse text = .ok id → parse id.text = .ok id) ∧
    (∀ text, (∃ id, parse text = .ok id) ∨ parse text = .error (.invalidLocal text)) ∧
    (∀ text, parse? text = some (parse text)) ∧
    (∀ groups : List (List Char), groups.length = 4 → (∀ group ∈ groups, Hex.utf8Length group = 16) →
      ∀ bytes, Hex.decode? groups.flatten = some bytes → bytes.length = 32) ∧
    ∀ id : GlobalId, id.localId.Valid → GlobalId.parse id.text = .ok id :=
  ⟨fun _ => parse_text, fun _ _ => text_inj, fun _ _ => parse_eq_ok,
    fun _ _ read => parse_text (parse_eq_ok.mp read).1, parse_total, parse?_eq_parse,
    fun _ four sizes _ => length_of_decode_groups four sizes, fun _ => GlobalId.parse_text⟩

/-- A number with a sign and zeros, bytes in capitals, and a random id of four times the same group. -/
theorem LocalId.texts_correspond_sample :
    let bytes : LocalId := .bytes [0xc0, 0xff, 0xee]
    let groups := List.replicate 4 "0123456789ABCDEF".toList
    parse "#+007#" = .ok (.integer 7) ∧ parse (integer 7).text = .ok (.integer 7) ∧
    bytes.Valid ∧ parse "[C0FFEE]" = .ok bytes ∧ parse bytes.text = .ok bytes ∧
    ((∃ value, Hex.decode? groups.flatten = some value) ∧
      ∀ value, Hex.decode? groups.flatten = some value → value.length = 32) ∧
    GlobalId.parse (GlobalId.text ⟨default, bytes⟩) = .ok ⟨default, bytes⟩ := by
  intro bytes groups
  obtain ⟨roundTrip, -, spelled, stable, -, -, filled, whole⟩ := texts_correspond
  have number : parse "#+007#" = .ok (.integer 7) :=
    (spelled _ _).mpr ⟨trivial, ['+'], 2, .inr rfl, by decide⟩
  have valid : bytes.Valid := by decide
  have lowered : "[C0FFEE]".toList.map Char.toLower = bytes.chars := by decide
  have capitals : parse "[C0FFEE]" = .ok bytes := (spelled _ _).mpr ⟨valid, lowered⟩
  have digits : ∃ value, Hex.decode? groups.flatten = some value :=
    ⟨(List.replicate 4 [0x01, 0x23, 0x45, 0x67, 0x89, 0xab, 0xcd, 0xef]).flatten,
      Hex.decode?_eq_some.mpr (by decide)⟩
  exact ⟨number, stable _ _ number, valid, capitals, roundTrip bytes valid,
    ⟨digits, filled groups rfl (by decide)⟩, whole ⟨default, bytes⟩ valid⟩

end LedgerWallet
