import LedgerWallet.Proofs.Binary.Soundness
import LedgerWallet.Proofs.Transaction.Payload

/-! Which bytes are read as a transaction. All of them are told by what is read, except how each
address in it is spelled. -/
namespace LedgerWallet

open Binary (Reader Consumes Layout Spells fixed written)

namespace Payload

/-- A payload is read when its mark and its kind are right and its body is read to the end. -/
theorem decode_eq_ok {α : Type} {kind : PayloadKind} {reader : Reader α} {bytes : List UInt8}
    {value : α} : decode kind reader bytes = .ok value ↔
      ∃ body, bytes = encode kind body ∧ reader body = .ok (value, []) := by
  constructor
  · intro read
    match bytes, read with
    | first :: second :: body, read =>
      rw [decode] at read
      split at read
      · contradiction
      · rename_i marked
        split at read
        · contradiction
        · rename_i same
          split at read
          · contradiction
          · rename_i result whole
            cases read
            exact ⟨body, by rw [encode, Decidable.not_not.mp marked, Decidable.not_not.mp same], whole⟩
          · contradiction
  · rintro ⟨body, rfl, whole⟩
    simp only [encode, decode, ne_eq, not_true_eq_false, if_false, whole]

end Payload

namespace PayloadKind

/-- Where the addresses stand in a payload. -/
def layout (kind : PayloadKind) (value : kind.Content) : Layout :=
  fixed [Payload.mark, kind.byte] ++ kind.bodyLayout value

theorem spells_layout {kind : PayloadKind} {value : kind.Content} {bytes : List UInt8}
    {spelling : Address → String → Prop} : Spells spelling (kind.layout value) bytes ↔
      ∃ body, bytes = Payload.encode kind body ∧ Spells spelling (kind.bodyLayout value) body := by
  constructor
  · intro spelled
    obtain ⟨_, body, frame, inside, rfl⟩ := Binary.spells_append.mp spelled
    exact ⟨body, by rw [Binary.spells_fixed.mp frame]; rfl, inside⟩
  · rintro ⟨body, rfl, inside⟩
    exact Binary.spells_append.mpr ⟨_, body, Binary.spells_fixed.mpr rfl, inside, rfl⟩

theorem reader_consumes (kind : PayloadKind) : Consumes kind.reader fun value layout =>
    kind.Fits value ∧ layout = kind.bodyLayout value := by
  cases kind with
  | intent => exact Binary.readIntent_consumes
  | signedIntent => exact Binary.readSignedIntent_consumes
  | notarized => exact Binary.readNotarized_consumes

theorem ofPayload_eq_ok {kind : PayloadKind} {bytes : List UInt8} {value : kind.Content} :
    kind.ofPayload bytes = .ok value ↔
      kind.Fits value ∧ Spells Address.Spelling (kind.layout value) bytes := by
  rw [ofPayload_eq, Payload.decode_eq_ok, spells_layout]
  constructor
  · rintro ⟨body, rfl, read⟩
    obtain ⟨_, taken, ⟨fits, rfl⟩, spelled, whole⟩ := kind.reader_consumes body value [] read
    rw [List.append_nil] at whole
    exact ⟨fits, body, rfl, whole ▸ spelled⟩
  · rintro ⟨fits, body, rfl, spelled⟩
    have read := (reader_delimits fits spelled).reads []
    rw [List.append_nil] at read
    exact ⟨body, rfl, read⟩

theorem written_layout (kind : PayloadKind) (value : kind.Content) :
    written Address.text (kind.layout value) = kind.payload value := by
  rw [layout, Binary.written_append, Binary.written_fixed, payload_written]
  rfl

/-- The payloads that are read as a transaction are those that spell it, each address in one of the
texts that it is read from. The one that displays every address is the payload that is written. -/
theorem ofPayload_spelled (kind : PayloadKind) (bytes : List UInt8) (value : kind.Content) :
    (kind.ofPayload bytes = .ok value ↔
      kind.Fits value ∧ Spells Address.Spelling (kind.layout value) bytes) ∧
    (Spells (fun address text => text = address.text) (kind.layout value) bytes ↔
      bytes = kind.payload value) := by
  refine ⟨ofPayload_eq_ok, ?_⟩
  rw [Binary.spells_eq_written, written_layout]

end PayloadKind

/-- A guarantee about a resource, without signatures. -/
def Notarized.guarantee : Notarized where
  signed := {
    intent := {
      header := .make ⟨2⟩ 5 15 7 default
      manifest := {
        network := ⟨2⟩
        body := .instructions [.assertContains ⟨.resource, ⟨2⟩, default⟩ Amount.zero]
        blobs := [] }
      message := none }
    signatures := [] }
  notarySignature := ⟨[]⟩

theorem Notarized.guarantee_fits : PayloadKind.notarized.Fits guarantee := by
  refine ⟨⟨⟨⟨⟨by decide, ?_⟩, ⟨by decide, nofun⟩⟩, nofun⟩, ⟨by decide, nofun⟩⟩, by decide⟩
  intro instruction member
  cases List.mem_singleton.mp member
  trivial

/-- Its payload with the resource in capitals. -/
def Notarized.guaranteeInCapitals : List UInt8 :=
  written Address.capitals (PayloadKind.notarized.layout guarantee)

/-- Capitals are read like the text that is displayed, so one transaction has two payloads. -/
theorem PayloadKind.ofPayload_capitals :
    notarized.ofPayload Notarized.guaranteeInCapitals = .ok Notarized.guarantee ∧
      notarized.payload Notarized.guarantee ≠ Notarized.guaranteeInCapitals := by
  constructor
  · exact ofPayload_eq_ok.mpr
      ⟨Notarized.guarantee_fits, Binary.spells_written Address.spelling_capitals _⟩
  · decide +kernel

end LedgerWallet
