import LedgerWallet.Proofs.Binary.Manifest

/-! The stages of a transaction delimit themselves. -/
namespace LedgerWallet.Binary

theorem readPublicKey_delimits (key : PublicKey) :
    Delimits readPublicKey (writePublicKey key) key :=
  (readFixed_delimits key.bytes).map PublicKey.mk

theorem readSignature_delimits {signature : Signature} (fits : signature.bytes.length < countBound) :
    Delimits readSignature (writeSignature signature) signature :=
  (readCountedBytes_delimits fits).map Signature.mk

theorem readKeySignature_delimits {s : KeySignature} (fits : s.signature.bytes.length < countBound) :
    Delimits readKeySignature (writeKeySignature s) s :=
  (readPublicKey_delimits s.publicKey).bind ((readSignature_delimits fits).map _)

theorem readHeader_delimits (header : Header) :
    Delimits readHeader (writeHeader header) header := by
  simp only [writeHeader, List.append_assoc]
  exact (readU8_delimits header.version).bind <| (readNetwork_delimits header.network).bind <|
    (readU64_delimits header.startEpoch).bind <| (readU64_delimits header.endEpoch).bind <|
    (readU64_delimits header.nonce).bind <| (readPublicKey_delimits header.notary).bind <|
    (readBool_delimits header.notaryIsSignatory).bind <|
    (readU32_delimits header.costUnitLimit).bind <| (readU16_delimits header.tipPercentage).map _

theorem readMessage_delimits {message : Option String}
    (fits : ∀ text, message = some text → TextFits text) :
    Delimits readMessage (writeMessage message) message := by
  cases message with
  | none => exact (readVariant_delimits (by decide)).bind_pure rfl
  | some text =>
    exact (readVariant_delimits (by decide)).bind ((readText_delimits (fits text rfl)).map _)

theorem readIntent_delimits {intent : Intent} {bytes : List UInt8} (fits : intent.Fits)
    (spelled : Spells Address.Spelling intent.layout bytes) : Delimits readIntent bytes intent := by
  obtain ⟨front, _, before, last, rfl⟩ := spells_append.mp spelled
  obtain ⟨_, middle, first, held, rfl⟩ := spells_append.mp before
  rw [spells_fixed.mp first, spells_fixed.mp last, List.append_assoc]
  exact (readHeader_delimits intent.header).bind <|
    (readManifest_delimits fits.manifest held).bind <| (readMessage_delimits fits.message).map _

theorem readSignedIntent_delimits {signed : SignedIntent} {bytes : List UInt8} (fits : signed.Fits)
    (spelled : Spells Address.Spelling signed.layout bytes) :
    Delimits readSignedIntent bytes signed := by
  have listed : Delimits (readList readKeySignature) (writeList writeKeySignature signed.signatures)
      signed.signatures :=
    readList_delimits fits.signatures fun _ => readKeySignature_delimits
  obtain ⟨front, _, held, last, rfl⟩ := spells_append.mp spelled
  rw [spells_fixed.mp last]
  exact (readIntent_delimits fits.intent held).bind (listed.map _)

theorem readNotarized_delimits {notarized : Notarized} {bytes : List UInt8} (fits : notarized.Fits)
    (spelled : Spells Address.Spelling notarized.layout bytes) :
    Delimits readNotarized bytes notarized := by
  obtain ⟨front, _, held, last, rfl⟩ := spells_append.mp spelled
  rw [spells_fixed.mp last]
  exact (readSignedIntent_delimits fits.signed held).bind
    ((readSignature_delimits fits.notarySignature).map _)

end LedgerWallet.Binary
