import LedgerWallet.Address.Text
import LedgerWallet.Proofs.Bech32.RoundTrip
import LedgerWallet.Proofs.Text.Digits

/-! The text of an address names its kind and its network and is read back as the address. -/
namespace LedgerWallet

namespace Network

/-- What holds for two digits in base 16, whichever they are, holds for a byte. -/
theorem forall_byte {P : UInt8 → Prop}
    (digits : ∀ high low : Fin 16, P (UInt8.ofNat (16 * high.val + low.val))) (byte : UInt8) :
    P byte := by
  have bound := byte.toNat_lt
  have parts := digits ⟨byte.toNat / 16, by omega⟩ ⟨byte.toNat % 16, by omega⟩
  rwa [Nat.div_add_mod, UInt8.ofNat_toNat] at parts

theorem ofSuffix?_suffix (network : Network) : ofSuffix? network.suffix = some network :=
  forall_byte (P := fun id => ofSuffix? (suffix ⟨id⟩) = some ⟨id⟩) (by decide +kernel) network.id

theorem length_suffix (network : Network) : network.suffix.length ≤ 7 := by
  have number : (Nat.toDigits 16 network.id.toNat).length ≤ 2 :=
    (Nat.length_toDigits_le_iff (by decide) (by decide)).mpr network.id.toNat_lt
  rw [suffix]
  split
  · decide
  split
  · decide
  · simp only [List.length_append, List.length_cons, List.length_nil]
    omega

theorem suffix_writable (network : Network) :
    ∀ c ∈ network.suffix, Bech32.isPrefixChar c = true ∧ c.isUpper = false := by
  have number : (Nat.toDigits 16 network.id.toNat).all
      (fun c => Bech32.isPrefixChar c && !c.isUpper) = true :=
    List.all_eq_true.mpr (Text.forall_mem_toDigits (by decide) _)
  have all : network.suffix.all (fun c => Bech32.isPrefixChar c && !c.isUpper) = true := by
    rw [suffix]
    split
    · decide
    split
    · decide
    · rw [List.all_append, List.all_append, number]
      decide
  simpa using all

end Network

namespace EntityKind

theorem ofName?_name (kind : EntityKind) : ofName? kind.name = some kind := by
  cases kind <;> decide

theorem name_writable (kind : EntityKind) :
    ∀ c ∈ kind.name.toList, (Bech32.isPrefixChar c = true ∧ c.isUpper = false) ∧ c ≠ '_' := by
  have all : kind.name.toList.all
      (fun c => (Bech32.isPrefixChar c && !c.isUpper) && c != '_') = true := by
    cases kind <;> decide
  simpa using all

theorem length_name (kind : EntityKind) : kind.name.toList.length ≤ 9 := by
  cases kind <;> decide

end EntityKind

namespace Address

theorem hrp_writable (address : Address) : Bech32.WritablePrefix address.hrp := by
  have each : ∀ c ∈ address.hrp, Bech32.isPrefixChar c = true ∧ c.isUpper = false := by
    intro c member
    rcases List.mem_append.mp member with named | rest
    · exact (address.kind.name_writable c named).1
    · rcases List.mem_cons.mp rest with rfl | suffix
      · decide
      · exact address.network.suffix_writable c suffix
  refine ⟨?_, ?_, fun c member => (each c member).1, fun c member => (each c member).2⟩
  · simp [hrp]
  · have named := address.kind.length_name
    have suffix := address.network.length_suffix
    rw [hrp, List.length_append, List.length_cons]
    omega

/-- The characters of addresses. -/
def isWordChar (c : Char) : Bool := c.isAlphanum || c == '_'

theorem isWordChar_of_mem_chars (address : Address) : ∀ c ∈ address.chars, isWordChar c := by
  have kind : address.kind.name.toList.all isWordChar = true := by
    cases address.kind <;> decide
  have number : (Nat.toDigits 16 address.network.id.toNat).all isWordChar = true :=
    List.all_eq_true.mpr (Text.forall_mem_toDigits (by decide) _)
  have network : address.network.suffix.all isWordChar = true := by
    rw [Network.suffix]
    split
    · decide
    split
    · decide
    · rw [List.all_append, List.all_append, number]
      decide
  have symbol : ∀ symbol : Bech32.Symbol, isWordChar symbol.char = true := by decide
  rw [chars, Bech32.encode, List.forall_mem_append, List.forall_mem_cons, List.forall_mem_map, hrp,
    List.forall_mem_append, List.forall_mem_cons]
  exact ⟨⟨List.all_eq_true.mp kind, by decide, List.all_eq_true.mp network⟩, by decide,
    fun s _ => symbol s⟩

/-- The prefix names exactly the kind and the network. -/
theorem ofHrp_hrp (address : Address) : ofHrp address.hrp = .ok (address.kind, address.network) := by
  have absent : '_' ∉ address.kind.name.toList := fun member =>
    (address.kind.name_writable '_' member).2 rfl
  simp only [ofHrp, hrp, Text.splitFirst_append _ absent, String.ofList_toList,
    EntityKind.ofName?_name, Network.ofSuffix?_suffix]

theorem ofNodeId_nodeId (address : Address) :
    ofNodeId address.kind address.network address.nodeId = .ok address := by
  simp only [ofNodeId, nodeId, Bytes.ofList?_toList, if_true]

theorem length_nodeId (address : Address) : address.nodeId.length = nodeIdLength := by
  rw [nodeId, List.length_cons, address.body.length_toList]
  rfl

theorem length_symbols (address : Address) :
    (Bech32.Symbol.ofBytes address.nodeId).length = 48 := by
  obtain ⟨enough, short⟩ := Bech32.Symbol.length_ofBytes address.nodeId
  rw [length_nodeId, nodeIdLength] at enough short
  omega

/-- A text that is, case aside, the text of an address is read as the address. -/
theorem parseChars_of_toLower {address : Address} {text : List Char}
    (single : Bech32.mixesCases text = false) (same : text.map Char.toLower = address.chars) :
    parseChars text = .ok address := by
  have writable := address.hrp_writable
  have fits : address.hrp.length + 1 + ((Bech32.Symbol.ofBytes address.nodeId).length + 6) ≤
      Bech32.maxLength := by
    have short := writable.short
    rw [length_symbols, Bech32.maxLength]
    omega
  have read := Bech32.decode_of_toLower writable fits single same
  simp only [parseChars, read, ofHrp_hrp, ofNodeId_nodeId]

theorem parseChars_chars (address : Address) : parseChars address.chars = .ok address :=
  parseChars_of_toLower (Bech32.mixesCases_encode address.hrp_writable _)
    (Bech32.toLower_encode address.hrp_writable _)

theorem parse_text (address : Address) : parse address.text = .ok address := by
  rw [parse, text, String.toList_ofList, parseChars_chars]

end Address

end LedgerWallet
