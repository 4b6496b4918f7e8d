import LedgerWallet.Address.Known
import LedgerWallet.Address.Stored
import LedgerWallet.Proofs.Address.Spelling

/-! Addresses and their texts belong together one to one. The kind is written twice, in the prefix of
the text and in the first byte of the node id, and both always name the same kind. -/
namespace LedgerWallet

theorem EntityKind.ofByte?_byte (kind : EntityKind) : ofByte? kind.byte = some kind := by
  cases kind <;> decide

theorem Bech32.encode?_eq_some {hrp : List Char} (writable : WritablePrefix hrp)
    {bytes : List UInt8}
    (fits : hrp.length + 1 + ((Symbol.ofBytes bytes).length + 6) ≤ maxLength) :
    encode? hrp bytes = some (encode hrp bytes) := by
  have single : mixesCases hrp = false := by
    have none : hrp.any Char.isUpper = false := by
      rw [List.any_eq_false]
      intro c member
      simp [writable.lower c member]
    simp [mixesCases, none]
  have lowered : hrp.map Char.toLower = hrp :=
    (List.map_congr_left fun c member =>
      toLower_of_not_isUpper (writable.lower c member)).trans (List.map_id _)
  have allowed : (!hrp.isEmpty && decide (hrp.length ≤ 83) && hrp.all isPrefixChar &&
      !mixesCases hrp) = true := by
    simpa [writable.nonempty, writable.short, single] using writable.visible
  have six (data : List Symbol) : (checksum hrp data).length = 6 := rfl
  have short : (encode hrp bytes).length ≤ maxLength := by
    rw [encode, List.length_append, List.length_cons, List.length_map, List.length_append, six]
    omega
  have kept : (guard ((encode hrp bytes).length ≤ maxLength) : Option Unit) = some () := if_pos short
  rw [encode?, allowed, lowered]
  change (guard _ : Option Unit).bind (fun _ => some (encode hrp bytes)) = some (encode hrp bytes)
  rw [kept, Option.bind_some]

namespace Address

/-- The first byte of a node id stands for the kind of the address. -/
theorem kindOf?_nodeId (address : Address) : kindOf? address.nodeId = some address.kind :=
  address.kind.ofByte?_byte

/-- An address can always be written, and its stored form gives its text. -/
theorem display?_eq_text (address : Address) :
    display? address.network address.nodeId = some address.text := by
  have writable := address.hrp_writable
  have fits : address.hrp.length + 1 + ((Bech32.Symbol.ofBytes address.nodeId).length + 6) ≤
      Bech32.maxLength := by
    have short := writable.short
    rw [length_symbols, Bech32.maxLength]
    omega
  have kind : kindOf address.nodeId = address.kind := by
    rw [kindOf, kindOf?_nodeId, Option.getD_some]
  have written := Bech32.encode?_eq_some writable fits
  rw [hrp] at written
  rw [display?, kind, written]
  rfl

/-- What follows the separator in a text holds some bytes, in symbols that a checksum of six follows. -/
def SymbolsHold (data : List Char) (bytes : List UInt8) : Prop :=
  ∃ symbols check : List Bech32.Symbol, check.length = 6 ∧
    data = (symbols ++ check).map Bech32.Symbol.char ∧ Bech32.Symbol.toBytes symbols = bytes

/-- A text is read as an address only from a prefix that names its kind and its network, and from
symbols that hold its node id. -/
theorem parts_of_parse {text : String} {address : Address} (read : parse text = .ok address) :
    ∃ data, Bech32.separator ∉ data ∧ SymbolsHold data address.nodeId ∧
      text.toList.map Char.toLower = address.hrp ++ Bech32.separator :: data := by
  obtain ⟨-, spare, check, few, six, same, -⟩ := parse_eq_ok.mp read
  have held := (Bech32.Symbol.toBytes_eq_iff_spare address.symbols_filled).mpr ⟨spare, few, rfl⟩
  exact ⟨_, Bech32.Symbol.separator_not_mem _, ⟨_, check, six, rfl, held⟩, same⟩

theorem text_inj {first second : Address} :
    first.text = second.text ↔ first = second := by
  refine ⟨fun same => ?_, congrArg text⟩
  have read := first.parse_text
  rw [same, second.parse_text] at read
  exact (Except.ok.inj read).symm

/-- Every address is written as one text, which is read back, also in capitals, and whose prefix names
exactly its kind and its network; no other address has that text. Whatever is read from any text is an
address whose node id is what the text holds behind the separator, and whose first byte and network are
those that the prefix of the text names. -/
theorem text_corresponds :
    (∀ address : Address,
      kindOf? address.nodeId = some address.kind ∧
      display? address.network address.nodeId = some address.text ∧
      parse address.text = .ok address ∧ parse address.capitals = .ok address ∧
      (∃ data, Bech32.separator ∉ data ∧ SymbolsHold data address.nodeId ∧
        address.text.toList = address.hrp ++ Bech32.separator :: data) ∧
      ∀ kind network, ofHrp address.hrp = .ok (kind, network) ↔
        kind = address.kind ∧ network = address.network) ∧
    (∀ first second : Address, first.text = second.text ↔ first = second) ∧
    ∀ text address, parse text = .ok address → ∃ hrp data kind network,
      Bech32.separator ∉ data ∧ SymbolsHold data address.nodeId ∧
      text.toList.map Char.toLower = hrp ++ Bech32.separator :: data ∧
      ofHrp hrp = .ok (kind, network) ∧
      kindOf? address.nodeId = some kind ∧ address.network = network := by
  refine ⟨fun address => ?_, fun first second => text_inj, fun text address read => ?_⟩
  · refine ⟨address.kindOf?_nodeId, address.display?_eq_text, address.parse_text,
      parse_eq_ok.mpr address.spelling_capitals, ?_, fun kind network => ?_⟩
    · obtain ⟨data, absent, held, same⟩ := parts_of_parse address.parse_text
      have lowered : address.text.toList.map Char.toLower = address.text.toList := by
        rw [text, String.toList_ofList]
        exact Bech32.toLower_encode address.hrp_writable address.nodeId
      exact ⟨data, absent, held, lowered.symm.trans same⟩
    · rw [ofHrp_hrp, Except.ok.injEq, Prod.mk.injEq]
      exact and_congr eq_comm eq_comm
  · obtain ⟨data, absent, held, same⟩ := parts_of_parse read
    exact ⟨address.hrp, data, address.kind, address.network, absent, held, same, address.ofHrp_hrp,
      address.kindOf?_nodeId, rfl⟩

/-- The faucet of a network whose number, in base sixteen, has the separator as a digit, in capitals. -/
theorem text_corresponds_sample :
    let address := faucet ⟨0x21⟩
    parse address.capitals = .ok address ∧ ∃ hrp data kind network,
      Bech32.separator ∉ data ∧ SymbolsHold data address.nodeId ∧
      address.capitals.toList.map Char.toLower = hrp ++ Bech32.separator :: data ∧
      ofHrp hrp = .ok (kind, network) ∧
      kindOf? address.nodeId = some kind ∧ address.network = network := by
  intro address
  have read := parse_eq_ok.mpr address.spelling_capitals
  exact ⟨read, text_corresponds.2.2 address.capitals address read⟩

end Address

end LedgerWallet
