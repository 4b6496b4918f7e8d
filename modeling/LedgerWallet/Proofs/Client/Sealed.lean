import LedgerWallet.Proofs.Client.CoSigned
import LedgerWallet.Proofs.Client.Prepared

/-! What local signers make of a transaction: a payload that carries a signature of every signer and
of the notary, all of which verify. -/
namespace LedgerWallet

variable {possible : Exchange → Prop} {held : Address → Option SecretKey}

/-- Whoever is asked to sign does so with the key that is held for its address. -/
def SignsLocally (held : Address → Option SecretKey) : Exchange → Prop
  | ⟨.sign signer message, answer⟩ =>
    ∃ secret, held signer.address = some secret ∧ answer = .ok (secret.sign message.toList)
  | _ => True

/-- A signature that a signer answered with passes as one of its key. -/
def Accepted : Exchange → Prop
  | ⟨.sign _ message, .ok signature⟩ => signature.verify message.toList = true
  | _ => True

theorem length_sign (secret : SecretKey) (message : List UInt8) :
    (secret.sign message).signature.bytes.length = 64 :=
  (Ed25519.sign secret.seed message).length_toList

theorem shortSignatures_of_local (locally : ∀ exchange, possible exchange → SignsLocally held exchange) :
    ShortSignatures possible := by
  intro signer message signature told
  obtain ⟨secret, -, same⟩ := locally _ told
  cases same
  rw [length_sign]
  decide

namespace Prepared.SignedBy

variable {prepared : Prepared} {parties : Parties}

/-- The signatures are those of the keys held for the signers, one for each and in their order. -/
theorem of_local (signedBy : prepared.SignedBy possible parties)
    (locally : ∀ exchange, possible exchange → SignsLocally held exchange) :
    List.Forall₂ (fun address signature => ∃ secret, held address = some secret ∧
        signature = secret.sign prepared.id.bytes.toList)
      prepared.signers prepared.notarized.signed.signatures := by
  rw [signedBy.addresses, List.forall₂_map_left_iff]
  refine signedBy.collected.imp fun signer signature told => ?_
  obtain ⟨secret, key, same⟩ := locally _ told
  exact ⟨secret, key, Except.ok.inj same⟩

/-- What every signer signed is what a verifier computes again from the parts. -/
theorem verifies {message : Option String} (signedBy : prepared.SignedBy possible parties)
    (consistent : prepared.Consistent message)
    (accepted : ∀ exchange, possible exchange → Accepted exchange) :
    prepared.notarized.verifies = true := by
  obtain ⟨sealing, told, named, same⟩ := signedBy.sealed
  have notary : prepared.notarized.signed.intent.header.notary = sealing.publicKey := by
    rw [consistent.intent, named]
  rw [Notarized.verifies, Bool.and_eq_true, List.all_eq_true]
  refine ⟨fun signature member => ?_, ?_⟩
  · obtain ⟨signer, -, told⟩ := Collected.told signedBy.collected member
    rw [← consistent.id]
    exact accepted _ told
  · rw [notary, same]
    exact accepted _ told

end Prepared.SignedBy

namespace ClientConfig

variable {config : ClientConfig} {manifest : Manifest} {options : SubmitOptions}

/-- A transaction that local signers prepared consists of the header, the manifest and the note it
was prepared from. Its id is the hash of that intent, the payload reads back as the transaction, and
every signer signed the id with the key that is held for its address. All of it verifies, provided
that the signatures made on the way pass for signatures of their keys. -/
theorem prepare_sealed {trace : List Exchange} {prepared : Prepared} (fits : options.Fits manifest)
    (run : Action.Runs (config.prepare manifest options) trace (.ok prepared))
    (locally : ∀ exchange ∈ trace, SignsLocally held exchange)
    (accepted : ∀ exchange ∈ trace, Accepted exchange) :
    let intent : Intent := ⟨prepared.header, prepared.manifest, options.message⟩
    prepared.notarized.signed.intent = intent ∧
    prepared.id.bytes = doubleSha256 intent.payload ∧
    prepared.notarized.id = prepared.id ∧
    prepared.payload = prepared.notarized.payload ∧
    Notarized.ofPayload prepared.payload = .ok prepared.notarized ∧
    List.Forall₂ (fun address signature => ∃ secret, held address = some secret ∧
        signature = secret.sign prepared.id.bytes.toList)
      prepared.signers prepared.notarized.signed.signatures ∧
    prepared.notarized.verifies = true ∧
    ∀ decompiled, Notarized.ofPayload prepared.payload = .ok decompiled →
      decompiled.verifies = true := by
  intro intent
  have yields : Action.Yields (· ∈ trace) (config.prepare manifest options) (.ok prepared) :=
    ⟨trace, run, fun _ member => member⟩
  have consistent := prepare_consistent yields
  obtain ⟨parties, signedBy⟩ := prepare_signedBy yields
  have whole : Notarized.ofPayload prepared.payload = .ok prepared.notarized := by
    rw [consistent.payload]
    exact Notarized.ofPayload_payload (prepare_fits fits (shortSignatures_of_local locally) yields)
  have verified := signedBy.verifies consistent accepted
  have hashed : prepared.id.bytes = doubleSha256 intent.payload := by
    rw [consistent.id, Notarized.id, consistent.intent]
    rfl
  refine ⟨consistent.intent, hashed, consistent.id.symm, consistent.payload, whole,
    signedBy.of_local locally, verified, fun decompiled read => ?_⟩
  rw [whole] at read
  cases read
  exact verified

end ClientConfig

/-- The secrets of a store. -/
def secretOf? (added : List HeldKey) (address : Address) : Option SecretKey :=
  (firstKey? added address).map HeldKey.secret

namespace Prepared

theorem sample_locally :
    ∀ exchange ∈ sampleExchanges, SignsLocally (secretOf? [coKey, sampleKey]) exchange := by
  have own : secretOf? [coKey, sampleKey] sampleKey.signer.address = some sampleKey.secret := rfl
  have other : secretOf? [coKey, sampleKey] coKey.signer.address = some coKey.secret := rfl
  simp only [sampleExchanges, List.forall_mem_cons]
  exact ⟨trivial, trivial, trivial, trivial, trivial, ⟨sampleKey.secret, own, rfl⟩,
    ⟨coKey.secret, other, rfl⟩, ⟨sampleKey.secret, own, rfl⟩, List.forall_mem_nil _⟩

set_option maxRecDepth 10000 in
/-- Here the signatures are computed and checked. -/
theorem sample_accepted : ∀ exchange ∈ sampleExchanges, Accepted exchange := by
  have signature : (sampleKey.secret.sign sampleIntent.id.bytes.toList).verify
      sampleIntent.id.bytes.toList = true := by decide +kernel
  have second : (coKey.secret.sign sampleIntent.id.bytes.toList).verify
      sampleIntent.id.bytes.toList = true := by decide +kernel
  have sealing : (sampleKey.secret.sign sampleSigned.hash.toList).verify
      sampleSigned.hash.toList = true := by decide +kernel
  simp only [sampleExchanges, List.forall_mem_cons]
  exact ⟨trivial, trivial, trivial, trivial, trivial, signature, second, sealing,
    List.forall_mem_nil _⟩

theorem sampleCalls_fit : ∀ call ∈ sampleCalls, call.Fits := by
  have short {text : String} (length : 4 * text.toList.length < 100) : Binary.TextFits text :=
    .of_length (Nat.lt_trans length (by decide))
  have two (first second : Value) (fits : first.Fits) (fits' : second.Fits) :
      Binary.ListFits Value.Fits [first, second] := by
    refine ⟨show 2 < Binary.countBound by decide, ?_⟩
    simpa using ⟨fits, fits'⟩
  have absent : Value.Fits Instruction.absent := .compound (by decide) (List.forall_mem_nil _)
  simp only [sampleCalls, List.forall_mem_cons]
  exact ⟨⟨short (by decide), two _ _ (.scalar trivial) (.scalar trivial)⟩, short (by decide),
    ⟨short (by decide), two _ _ (.scalar (short (by decide))) absent⟩, List.forall_mem_nil _⟩

theorem sampleOptions_fits : sampleOptions.Fits sampleManifest where
  content := ⟨⟨by decide, sampleCalls_fit⟩, ⟨by decide, List.forall_mem_nil _⟩⟩
  message := by
    rintro text ⟨⟩
    exact .of_length (by decide)
  signers := by decide

end Prepared

namespace ClientConfig

theorem prepare_sealed_sample : ∃ trace,
    Prepared.sampleOptions.Fits Prepared.sampleManifest ∧
    Action.Runs (default.prepare Prepared.sampleManifest Prepared.sampleOptions) trace (.ok .sample) ∧
    Notarized.ofPayload Prepared.sample.payload = .ok Prepared.sample.notarized ∧
    List.Forall₂ (fun address signature => ∃ secret,
        secretOf? [Prepared.coKey, Prepared.sampleKey] address = some secret ∧
        signature = secret.sign Prepared.sample.id.bytes.toList)
      Prepared.sample.signers Prepared.sample.notarized.signed.signatures ∧
    Prepared.sample.notarized.verifies = true := by
  obtain ⟨trace, run, among⟩ := Prepared.prepare_sample fun _ member => member
  obtain ⟨-, -, -, -, read, signed, verified, -⟩ := prepare_sealed Prepared.sampleOptions_fits
    run (fun exchange member => Prepared.sample_locally exchange (among exchange member))
    (fun exchange member => Prepared.sample_accepted exchange (among exchange member))
  exact ⟨trace, Prepared.sampleOptions_fits, run, read, signed, verified⟩

end ClientConfig

end LedgerWallet
