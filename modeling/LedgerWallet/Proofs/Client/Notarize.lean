import LedgerWallet.Client.Notarize
import LedgerWallet.Proofs.Client.Trace
import Mathlib.Data.List.Forall2

/-! Headers, signatures and seals, and the answers that each of them is made of. -/
namespace LedgerWallet

variable {possible : Exchange → Prop}

/-- A header is made from the epoch and the nonce that were told. -/
theorem freshHeader_yields_ok {network : Network} {notary : PublicKey} {header : Header} :
    (freshHeader network notary).Yields possible (.ok header) ↔ ∃ start last nonce,
      possible ⟨.epoch, .ok start⟩ ∧ Header.endOf? start = some last ∧ possible ⟨.nonce, nonce⟩ ∧
        header = .make network start last nonce notary := by
  rw [freshHeader, Action.yields_request_bind]
  constructor
  · rintro ⟨epoch, told, yields⟩
    cases epoch with
    | error e => cases Action.yields_throw.mp yields
    | ok start =>
      simp only at yields
      split at yields
      · cases Action.yields_throw.mp yields
      · rename_i last window
        obtain ⟨nonce, drawn, yields⟩ := Action.yields_request_bind.mp yields
        cases Action.yields_pure.mp yields
        exact ⟨start, last, nonce, told, window, drawn, rfl⟩
  · rintro ⟨start, last, nonce, told, window, drawn, rfl⟩
    refine ⟨.ok start, told, ?_⟩
    simp only [window]
    exact Action.yields_request_bind.mpr ⟨nonce, drawn, Action.yields_pure.mpr rfl⟩

theorem freshHeader_notary {network : Network} {notary : PublicKey} {header : Header}
    (yields : (freshHeader network notary).Yields possible (.ok header)) : header.notary = notary := by
  obtain ⟨start, last, nonce, -, -, -, rfl⟩ := freshHeader_yields_ok.mp yields
  rfl

/-- The answers of all signers to one id, in their order. -/
def Collected (possible : Exchange → Prop) (id : TransactionId) :
    List Signer → List KeySignature → Prop :=
  List.Forall₂ fun signer signature => possible ⟨.sign signer id.bytes, .ok signature⟩

/-- Every signature that was collected comes from one of the signers. -/
theorem Collected.told {id : TransactionId} {signers : List Signer} {signatures : List KeySignature}
    (collected : Collected possible id signers signatures) {signature : KeySignature}
    (member : signature ∈ signatures) :
    ∃ signer ∈ signers, possible ⟨.sign signer id.bytes, .ok signature⟩ := by
  induction collected with
  | nil => contradiction
  | cons first _ ih =>
    rcases List.mem_cons.mp member with rfl | later
    · exact ⟨_, List.mem_cons_self, first⟩
    · obtain ⟨signer, among, told⟩ := ih later
      exact ⟨signer, List.mem_cons_of_mem _ among, told⟩

theorem signAll_yields_ok {id : TransactionId} {signers : List Signer}
    {signatures : List KeySignature} : (signAll id signers).Yields possible (.ok signatures) ↔
      Collected possible id signers signatures := by
  induction signers generalizing signatures with
  | nil =>
    rw [signAll, Action.yields_pure, Except.ok.injEq, Collected, List.forall₂_nil_left_iff]
  | cons signer rest ih =>
    rw [signAll, Action.yields_request_bind, Collected, List.forall₂_cons_left_iff]
    constructor
    · rintro ⟨answer, told, yields⟩
      cases answer with
      | error e => cases Action.yields_throw.mp yields
      | ok signature =>
        obtain ⟨others, remaining, ended⟩ := Action.yields_bind_ok.mp yields
        cases Action.yields_pure.mp ended
        exact ⟨signature, others, told, ih.mp remaining, rfl⟩
    · rintro ⟨signature, others, told, collected, rfl⟩
      refine ⟨.ok signature, told, ?_⟩
      exact Action.yields_bind_ok.mpr ⟨others, ih.mpr collected, Action.yields_pure.mpr rfl⟩

theorem Intent.sign_yields_ok {intent : Intent} {signers : List Signer} {signed : SignedIntent} :
    (intent.sign signers).Yields possible (.ok signed) ↔
      signed.intent = intent ∧ Collected possible intent.id signers signed.signatures := by
  rw [Intent.sign, Action.yields_bind_ok]
  simp only [signAll_yields_ok, Action.yields_pure, Except.ok.injEq]
  constructor
  · rintro ⟨signatures, collected, rfl⟩
    exact ⟨rfl, collected⟩
  · rintro ⟨rfl, collected⟩
    exact ⟨signed.signatures, collected, rfl⟩

/-- A seal is a signature over what was signed, by the key that the header names. -/
theorem SignedIntent.notarize_yields_ok {signed : SignedIntent} {notary : Signer}
    {notarized : Notarized} : (signed.notarize notary).Yields possible (.ok notarized) ↔
      ∃ sealing, possible ⟨.sign notary signed.hash, .ok sealing⟩ ∧
        sealing.publicKey = signed.intent.header.notary ∧
        notarized = ⟨signed, sealing.signature⟩ := by
  rw [SignedIntent.notarize, Action.yields_request_bind]
  constructor
  · rintro ⟨answer, told, yields⟩
    cases answer with
    | error e => cases Action.yields_throw.mp yields
    | ok sealing =>
      simp only at yields
      split at yields
      · rename_i named
        cases Action.yields_pure.mp yields
        exact ⟨sealing, told, named, rfl⟩
      · cases Action.yields_throw.mp yields
  · rintro ⟨sealing, told, named, rfl⟩
    refine ⟨.ok sealing, told, ?_⟩
    simp only [named, if_true]
    exact Action.yields_pure.mpr rfl

end LedgerWallet
