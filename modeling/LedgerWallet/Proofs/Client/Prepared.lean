import LedgerWallet.Proofs.Client.Prepare
import LedgerWallet.Proofs.Manifest.Amendment
import LedgerWallet.Proofs.Transaction.Payload
import Mathlib.Data.List.Perm.Subperm

/-! What holds of a prepared transaction whoever answered: its parts belong together, its signatures
are those that its signers gave, and its payload can be read back. -/
namespace LedgerWallet

open Binary (TextFits ListFits countBound)

variable {possible : Exchange → Prop} {network : Network} {manifest : Manifest}

theorem length_eraseDups_le {α : Type} [BEq α] [LawfulBEq α] (list : List α) :
    list.eraseDups.length ≤ list.length :=
  (List.Nodup.subperm (nodup_eraseDups list) fun _ => List.mem_eraseDups.mp).length_le

/-- The number of instructions, none of which can be told of text. -/
def Manifest.size (manifest : Manifest) : Nat := (manifest.instructions?.getD []).length

theorem Manifest.length_required_le (manifest : Manifest) (extra : List Address) :
    (manifest.required extra).length ≤ manifest.size + extra.length := by
  refine Nat.le_trans (length_eraseDups_le _) ?_
  rw [List.length_append]
  exact Nat.add_le_add_right (List.length_filterMap_le _ _) _

theorem length_le_of_signersFor {addresses : List Address} {signers : List Signer}
    (yields : (signersFor network addresses).Yields possible signers) :
    signers.length ≤ addresses.length := by
  rw [signersFor] at yields
  split at yields
  · cases Flow.yields_done.mp yields
    exact Nat.zero_le _
  · obtain ⟨available, -, picked⟩ := Flow.yields_bind.mp yields
    cases Flow.yields_done.mp picked
    exact List.length_filterMap_le _ _

/-- There are no more signers than the instructions and the caller can name. -/
theorem resolveParties_few {extra : List Address} {parties : Parties}
    (yields : (resolveParties network manifest extra).Yields possible (.ok parties)) :
    parties.signers.length ≤ max 1 (manifest.size + extra.length) := by
  rw [resolveParties, manifest.required_eq] at yields
  obtain ⟨signers, asked, resolved⟩ := Action.yields_lift_bind.mp yields
  have few := length_le_of_signersFor asked
  dsimp only at resolved
  split at resolved
  · obtain ⟨account, -, fallback⟩ := Action.yields_bind_ok.mp resolved
    obtain ⟨own, asked, chosen⟩ := Action.yields_lift_bind.mp fallback
    have one := length_le_of_signersFor asked
    split at chosen
    · cases Action.yields_pure.mp chosen
      exact Nat.le_trans one (Nat.le_max_left _ _)
    · cases Action.yields_throw.mp chosen
  · obtain ⟨own, same, chosen⟩ := Action.yields_bind_ok.mp resolved
    cases Action.yields_pure.mp same
    split at chosen
    · cases Action.yields_pure.mp chosen
      exact Nat.le_trans few (Nat.le_trans (manifest.length_required_le extra) (Nat.le_max_right _ _))
    · cases Action.yields_throw.mp chosen

/-- No text or list is longer than its count can tell, with room for one more instruction and for a
signature of everyone who might sign. -/
structure SubmitOptions.Fits (options : SubmitOptions) (manifest : Manifest) : Prop where
  content : manifest.Fits
  message : ∀ text, options.message = some text → TextFits text
  signers : manifest.size + 1 + options.extraSigners.length < countBound

theorem Instruction.lockFee_fits (payer : Address) (amount : Amount) : (lockFee payer amount).Fits := by
  have name : TextFits AccountMethod.lockFee.name := .of_length (by decide)
  have args : ListFits Value.Fits [.ofAmount amount] := by
    refine ⟨show 1 < countBound by decide, fun arg member => ?_⟩
    rw [List.mem_singleton.mp member]
    exact .scalar trivial
  exact ⟨name, args⟩

theorem Manifest.lockFee_fits (fits : manifest.Fits) (room : manifest.size + 1 < countBound)
    (payer : Address) (amount : Amount) : (manifest.lockFee payer amount).Fits := by
  cases same : manifest.body with
  | text words =>
    have kept : manifest.lockFee payer amount = manifest := by
      simp [lockFee, insertAt, instructions?, same]
    rwa [kept]
  | instructions list =>
    have body := fits.body
    rw [same] at body
    rw [size, instructions?, same] at room
    rw [lockFee_of_instructions same]
    refine ⟨⟨room, ?_⟩, fits.blobs⟩
    exact List.forall_mem_cons.mpr ⟨Instruction.lockFee_fits payer amount, body.each⟩

theorem Manifest.size_lockFee_le (manifest : Manifest) (payer : Address) (amount : Amount) :
    (manifest.lockFee payer amount).size ≤ manifest.size + 1 := by
  cases same : manifest.body with
  | text words => simp [lockFee, insertAt, size, instructions?, same]
  | instructions list => simp [lockFee_of_instructions same, size, instructions?, same]

namespace ClientConfig

variable {config : ClientConfig} {options : SubmitOptions} {prepared : Prepared}

/-- The manifest is signed as it is, or with the fee payment of whoever pays. -/
theorem withFee_yields_ok {amended : Manifest} {payer : Option Address}
    (yields : (config.withFee manifest options).Yields possible (.ok (amended, payer))) :
    (amended = manifest ∧ payer = none) ∨
      ∃ account, amended = manifest.lockFee account config.lockFee ∧ payer = some account := by
  rw [withFee] at yields
  split at yields
  · split at yields
    · cases Action.yields_pure.mp yields
      exact .inl ⟨rfl, rfl⟩
    · cases Action.yields_throw.mp yields
  · split at yields
    · obtain ⟨account, -, paid⟩ := Action.yields_bind_ok.mp yields
      cases Action.yields_pure.mp paid
      exact .inr ⟨account, rfl, rfl⟩
    · cases Action.yields_pure.mp yields
      exact .inl ⟨rfl, rfl⟩

theorem withFee_fits (fits : options.Fits manifest) {amended : Manifest} {payer : Option Address}
    (yields : (config.withFee manifest options).Yields possible (.ok (amended, payer))) :
    amended.Fits ∧ amended.size ≤ manifest.size + 1 := by
  have room : manifest.size + 1 < countBound := Nat.lt_of_le_of_lt (Nat.le_add_right _ _) fits.signers
  rcases withFee_yields_ok yields with ⟨rfl, -⟩ | ⟨account, rfl, -⟩
  · exact ⟨fits.content, Nat.le_succ _⟩
  · exact ⟨manifest.lockFee_fits fits.content room _ _, manifest.size_lockFee_le _ _⟩

end ClientConfig

/-- The signatures that come back during a run are no longer than a count can tell. -/
def ShortSignatures (possible : Exchange → Prop) : Prop :=
  ∀ signer message signature, possible ⟨.sign signer message, .ok signature⟩ →
    signature.signature.bytes.length < countBound

/-- The parts of a prepared transaction belong together. -/
structure Prepared.Consistent (prepared : Prepared) (message : Option String) : Prop where
  intent : prepared.notarized.signed.intent = ⟨prepared.header, prepared.manifest, message⟩
  id : prepared.id = prepared.notarized.id
  payload : prepared.payload = prepared.notarized.payload

/-- The signers signed the id, each of them once, and the notary sealed what they signed. -/
structure Prepared.SignedBy (possible : Exchange → Prop) (prepared : Prepared) (parties : Parties) :
    Prop where
  addresses : prepared.signers = parties.signers.map Signer.address
  collected : Collected possible prepared.id parties.signers prepared.notarized.signed.signatures
  sealed : ∃ sealing, possible ⟨.sign parties.notary prepared.notarized.signed.hash, .ok sealing⟩ ∧
    sealing.publicKey = prepared.header.notary ∧
    prepared.notarized.notarySignature = sealing.signature

namespace ClientConfig

variable {config : ClientConfig} {options : SubmitOptions} {prepared : Prepared}

theorem prepare_consistent
    (yields : (config.prepare manifest options).Yields possible (.ok prepared)) :
    prepared.Consistent options.message := by
  obtain ⟨-, amended, payer, -, parties, -, header, -, signed, collected, notarized, sealed, rfl⟩ :=
    buildNotarized_yields_ok.mp (counted_yields_ok.mp yields)
  obtain ⟨same, -⟩ := Intent.sign_yields_ok.mp collected
  obtain ⟨sealing, -, -, rfl⟩ := SignedIntent.notarize_yields_ok.mp sealed
  exact ⟨same, congrArg Intent.id same.symm, rfl⟩

theorem prepare_signedBy
    (yields : (config.prepare manifest options).Yields possible (.ok prepared)) :
    ∃ parties, prepared.SignedBy possible parties := by
  obtain ⟨-, amended, payer, -, parties, -, header, -, signed, collected, notarized, sealed, rfl⟩ :=
    buildNotarized_yields_ok.mp (counted_yields_ok.mp yields)
  obtain ⟨same, collected⟩ := Intent.sign_yields_ok.mp collected
  obtain ⟨sealing, told, named, rfl⟩ := SignedIntent.notarize_yields_ok.mp sealed
  rw [same] at named
  exact ⟨parties, rfl, collected, sealing, told, named, rfl⟩

/-- A prepared transaction can be told by its counts when the request for it and the signatures can. -/
theorem prepare_fits (fits : options.Fits manifest) (short : ShortSignatures possible)
    (yields : (config.prepare manifest options).Yields possible (.ok prepared)) :
    prepared.notarized.Fits := by
  obtain ⟨-, amended, payer, fee, parties, resolved, header, -, signed, collected, notarized, sealed,
    rfl⟩ := buildNotarized_yields_ok.mp (counted_yields_ok.mp yields)
  obtain ⟨same, collected⟩ := Intent.sign_yields_ok.mp collected
  obtain ⟨sealing, told, -, rfl⟩ := SignedIntent.notarize_yields_ok.mp sealed
  obtain ⟨content, size⟩ := withFee_fits fits fee
  have few := resolveParties_few resolved
  have count : signed.signatures.length < countBound := by
    have room := fits.signers
    rw [← collected.length_eq]
    omega
  have each : ∀ signature ∈ signed.signatures, signature.signature.bytes.length < countBound := by
    intro signature member
    obtain ⟨signer, -, told⟩ := Collected.told collected member
    exact short _ _ _ told
  have intent : signed.intent.Fits := same ▸ ⟨content, fits.message⟩
  exact ⟨⟨intent, count, each⟩, short _ _ _ told⟩

end ClientConfig

end LedgerWallet
