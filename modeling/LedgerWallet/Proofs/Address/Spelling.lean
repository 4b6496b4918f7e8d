import LedgerWallet.Proofs.Address.RoundTrip
import LedgerWallet.Proofs.Bech32.Reading

/-! All the texts that an address is read from. Besides the text that it is shown as there are those
in capitals, those with the plain checksum, and those with a symbol that holds no byte. -/
namespace LedgerWallet

theorem Network.ofSuffix?_eq_some {suffix : List Char} {network : Network} :
    ofSuffix? suffix = some network ↔ suffix = network.suffix := by
  constructor
  · intro named
    obtain ⟨-, same⟩ := Option.filter_eq_some_iff.mp named
    exact (beq_iff_eq.mp same).symm
  · rintro rfl
    exact ofSuffix?_suffix network

theorem EntityKind.ofName?_eq_some {name : String} {kind : EntityKind} :
    ofName? name = some kind ↔ name = kind.name := by
  constructor
  · intro named
    rw [ofName?] at named
    have same := List.find?_some named
    exact (beq_iff_eq.mp same).symm
  · rintro rfl
    exact ofName?_name kind

namespace Address

/-- The prefix is the only one that names the kind and the network. -/
theorem ofHrp_eq_ok {front : List Char} {kind : EntityKind} {network : Network} :
    ofHrp front = .ok (kind, network) ↔ front = kind.name.toList ++ '_' :: network.suffix := by
  constructor
  · intro named
    rw [ofHrp] at named
    split at named
    · contradiction
    · rename_i name suffix cut
      split at named
      · contradiction
      · rename_i kind found
        split at named
        · contradiction
        · rename_i network known
          cases named
          rw [(Text.splitFirst_eq_some.mp cut).1, Network.ofSuffix?_eq_some.mp known,
            ← EntityKind.ofName?_eq_some.mp found, String.toList_ofList]
  · rintro rfl
    exact ofHrp_hrp ⟨kind, network, default⟩

theorem ofNodeId_eq_ok {kind : EntityKind} {network : Network} {bytes : List UInt8}
    {address : Address} : ofNodeId kind network bytes = .ok address ↔
      address.kind = kind ∧ address.network = network ∧ bytes = address.nodeId := by
  constructor
  · intro read
    cases bytes with
    | nil => contradiction
    | cons byte rest =>
      rw [ofNodeId] at read
      split at read
      · contradiction
      · rename_i body whole
        split at read
        · rename_i same
          cases read
          exact ⟨rfl, rfl, by rw [nodeId, same, Bytes.toList_of_ofList? whole]⟩
        · contradiction
  · rintro ⟨rfl, rfl, rfl⟩
    exact ofNodeId_nodeId address

/-- A text of one case that in lowercase is the prefix of the address, the symbols of its node id, at
most one symbol more, and a checksum of either kind. -/
def Spelling (address : Address) (text : String) : Prop :=
  let symbols := Bech32.Symbol.ofBytes address.nodeId
  Bech32.mixesCases text.toList = false ∧
  ∃ spare check : List Bech32.Symbol, spare.length ≤ 1 ∧ check.length = 6 ∧
    text.toList.map Char.toLower =
      address.hrp ++ Bech32.separator :: (symbols ++ spare ++ check).map Bech32.Symbol.char ∧
    (Bech32.residue address.hrp (symbols ++ spare ++ check) = Bech32.modernResidue ∨
      Bech32.residue address.hrp (symbols ++ spare ++ check) = Bech32.plainResidue)

/-- The symbols of a node id hold its bytes and nothing else. -/
theorem symbols_filled (address : Address) :
    5 * (Bech32.Symbol.ofBytes address.nodeId).length = 8 * address.nodeId.length := by
  rw [length_symbols, length_nodeId, nodeIdLength]

theorem parseChars_eq_ok {address : Address} {text : List Char} :
    parseChars text = .ok address ↔ Bech32.decode text = .ok (address.hrp, address.nodeId) := by
  constructor
  · intro parsed
    rw [parseChars] at parsed
    split at parsed
    · contradiction
    · rename_i hrp bytes decoded
      split at parsed
      · contradiction
      · rename_i kind network named
        obtain ⟨rfl, rfl, rfl⟩ := ofNodeId_eq_ok.mp parsed
        rw [decoded, ofHrp_eq_ok.mp named]
        rfl
  · intro decoded
    simp only [parseChars, decoded, ofHrp_hrp, ofNodeId_nodeId]

/-- The texts that are read as an address are its spellings. -/
theorem parse_eq_ok {address : Address} {text : String} :
    parse text = .ok address ↔ address.Spelling text := by
  have writable := address.hrp_writable
  rw [parse, parseChars_eq_ok, Bech32.decode_eq_ok writable, Spelling]
  refine and_congr_right fun single => ⟨?_, ?_⟩
  · rintro ⟨data, check, six, same, checked, held⟩
    obtain ⟨spare, few, rfl⟩ := (Bech32.Symbol.toBytes_eq_iff_spare address.symbols_filled).mp held
    refine ⟨spare, check, few, six, same, ?_⟩
    simp only [Bech32.hasChecksum, Bool.and_eq_true, Bool.or_eq_true, beq_iff_eq] at checked
    exact checked.2
  · rintro ⟨spare, check, few, six, same, checked⟩
    refine ⟨_, check, six, same, ?_,
      (Bech32.Symbol.toBytes_eq_iff_spare address.symbols_filled).mpr ⟨spare, few, rfl⟩⟩
    have short := writable.short
    simp only [Bech32.hasChecksum, Bool.and_eq_true, Bool.or_eq_true, beq_iff_eq,
      decide_eq_true_eq, List.length_append, length_symbols, six, Bech32.maxLength]
    exact ⟨⟨by omega, by omega⟩, checked⟩

theorem spelling_text (address : Address) : address.Spelling address.text :=
  parse_eq_ok.mp address.parse_text

def capitals (address : Address) : String := String.ofList (address.chars.map Char.toUpper)

theorem spelling_capitals (address : Address) : address.Spelling address.capitals := by
  have read := parseChars_of_toLower (Bech32.mixesCases_toUpper address.chars)
    (Bech32.toLower_toUpper_encode address.hrp_writable address.nodeId)
  apply parse_eq_ok.mp
  rw [parse, capitals, String.toList_ofList, read]

theorem Spelling.length_le {address : Address} {text : String} (spelling : address.Spelling text) :
    text.toList.length ≤ 73 := by
  obtain ⟨-, spare, check, few, six, same, -⟩ := spelling
  have named := address.kind.length_name
  have suffix := address.network.length_suffix
  have counts := congrArg List.length same
  simp only [List.length_map, List.length_append, List.length_cons, length_symbols, six, hrp] at counts
  omega

end Address

end LedgerWallet
