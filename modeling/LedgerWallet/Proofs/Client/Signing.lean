import LedgerWallet.Proofs.Client.Stages
import LedgerWallet.Proofs.Transaction.Payload

/-! Signatures are collected from all signers or not at all. Each signer is asked in turn, the first who
refuses is the last who is asked, and the notary is asked only after everybody has signed. -/
namespace LedgerWallet

variable {trace : List Exchange}

/-- What signers are asked who all sign an id, and what they answer. -/
def signings (id : TransactionId) : List Signer → List KeySignature → List Exchange :=
  List.zipWith fun signer signature => ⟨.sign signer id.bytes, .ok signature⟩

/-- A round of signatures: everybody signs, or those before the first who refuses. -/
inductive SigningRound (id : TransactionId) (signers : List Signer) :
    List Exchange → Except Failure (List KeySignature) → Prop where
  | signed {signatures : List KeySignature} (each : signatures.length = signers.length) :
      SigningRound id signers (signings id signers signatures) (.ok signatures)
  | refused {before after : List Signer} {refusing : Signer} {signatures : List KeySignature}
      {e : SigningError} (stops : signers = before ++ refusing :: after)
      (each : signatures.length = before.length) :
      SigningRound id signers
        (signings id before signatures ++ [⟨.sign refusing id.bytes, .error e⟩])
        (.error (.signIntent s!"{refusing.address}: {e.message}"))

/-- The notary is asked for one signature, which has to be by the key that the header names. -/
inductive Notarizing (notary : Signer) (signed : SignedIntent) :
    List Exchange → Except Failure Notarized → Prop where
  | sealed {sealing : KeySignature} (named : sealing.publicKey = signed.intent.header.notary) :
      Notarizing notary signed [⟨.sign notary (doubleSha256 signed.payload), .ok sealing⟩]
        (.ok ⟨signed, sealing.signature⟩)
  | mismatch {sealing : KeySignature} {named : PublicKey}
      (names : signed.intent.header.notary = named) (other : sealing.publicKey ≠ named) :
      Notarizing notary signed [⟨.sign notary (doubleSha256 signed.payload), .ok sealing⟩]
        (.error (.prepareNotarized
          s!"notary key {sealing.publicKey} does not match header notary {named}"))
  | refused {e : SigningError} :
      Notarizing notary signed [⟨.sign notary (doubleSha256 signed.payload), .error e⟩]
        (.error (.prepareNotarized e.message))

namespace SigningRound

variable {id : TransactionId} {outcome : Except Failure (List KeySignature)}

theorem nil_iff : SigningRound id [] trace outcome ↔ trace = [] ∧ outcome = .ok [] := by
  constructor
  · intro round
    cases round with
    | signed each =>
      cases List.length_eq_zero_iff.mp each
      exact ⟨rfl, rfl⟩
    | refused stops each => exact absurd stops.symm (by simp)
  · rintro ⟨rfl, rfl⟩
    exact .signed rfl

/-- The first signer refuses, or signs before a round of the others. -/
theorem cons_iff {signer : Signer} {rest : List Signer} :
    SigningRound id (signer :: rest) trace outcome ↔
      (∃ e, trace = [⟨.sign signer id.bytes, .error e⟩] ∧
        outcome = .error (.signIntent s!"{signer.address}: {e.message}")) ∨
      ∃ signature later others, trace = ⟨.sign signer id.bytes, .ok signature⟩ :: later ∧
        SigningRound id rest later others ∧ outcome = others.map (signature :: ·) := by
  constructor
  · intro round
    cases round with
    | @signed signatures each =>
      obtain ⟨signature, signatures, rfl⟩ := List.exists_cons_of_length_eq_add_one each
      exact .inr ⟨signature, _, .ok signatures, rfl, .signed (Nat.succ.inj each), rfl⟩
    | @refused before after refusing signatures e stops each =>
      cases before with
      | nil =>
        cases stops
        cases List.length_eq_zero_iff.mp each
        exact .inl ⟨e, rfl, rfl⟩
      | cons first before =>
        cases stops
        obtain ⟨signature, signatures, rfl⟩ := List.exists_cons_of_length_eq_add_one each
        exact .inr ⟨signature, _, _, rfl, .refused rfl (Nat.succ.inj each), rfl⟩
  · rintro (⟨e, rfl, rfl⟩ | ⟨signature, later, others, rfl, round, rfl⟩)
    · exact @refused id _ [] rest signer [] e rfl rfl
    · cases round with
      | @signed signatures each =>
        exact @signed id _ (signature :: signatures) (congrArg (· + 1) each)
      | @refused before after refusing signatures e stops each =>
        exact @refused id _ (signer :: before) after refusing (signature :: signatures) e
          (congrArg (signer :: ·) stops) (congrArg (· + 1) each)

end SigningRound

theorem signAll_runs {id : TransactionId} {signers : List Signer}
    {outcome : Except Failure (List KeySignature)} :
    (signAll id signers).Runs trace outcome ↔ SigningRound id signers trace outcome := by
  induction signers generalizing trace outcome with
  | nil => rw [signAll, Action.runs_pure, SigningRound.nil_iff]
  | cons signer rest ih =>
    rw [signAll, Action.runs_request_bind, SigningRound.cons_iff]
    constructor
    · rintro ⟨answer, later, rfl, run⟩
      cases answer with
      | error e =>
        obtain ⟨rfl, rfl⟩ := Action.runs_throw.mp run
        exact .inl ⟨e, rfl, rfl⟩
      | ok signature =>
        simp only [bind_pure_comp] at run
        obtain ⟨others, rfl, signed⟩ := Action.runs_map.mp run
        exact .inr ⟨signature, later, others, rfl, ih.mp signed, rfl⟩
    · rintro (⟨e, rfl, rfl⟩ | ⟨signature, later, others, rfl, round, rfl⟩)
      · exact ⟨.error e, [], rfl, Action.runs_throw.mpr ⟨rfl, rfl⟩⟩
      · refine ⟨.ok signature, later, rfl, ?_⟩
        simp only [bind_pure_comp]
        exact Action.runs_map.mpr ⟨others, rfl, ih.mpr round⟩

theorem Intent.sign_runs {intent : Intent} {signers : List Signer}
    {result : Except Failure SignedIntent} : (intent.sign signers).Runs trace result ↔
      ∃ outcome, SigningRound intent.id signers trace outcome ∧
        result = outcome.map (SignedIntent.mk intent) := by
  rw [Intent.sign, bind_pure_comp, Action.runs_map]
  simp only [signAll_runs, and_comm]

theorem SignedIntent.notarize_runs {signed : SignedIntent} {notary : Signer}
    {result : Except Failure Notarized} :
    (signed.notarize notary).Runs trace result ↔ Notarizing notary signed trace result := by
  rw [notarize, Action.runs_request_bind]
  constructor
  · rintro ⟨answer, rest, rfl, run⟩
    cases answer with
    | error e =>
      obtain ⟨rfl, rfl⟩ := Action.runs_throw.mp run
      exact .refused
    | ok sealing =>
      simp only at run
      split at run
      · next named =>
        obtain ⟨rfl, rfl⟩ := Action.runs_pure.mp run
        exact .sealed named
      · next other =>
        obtain ⟨rfl, rfl⟩ := Action.runs_throw.mp run
        exact .mismatch rfl other
  · intro round
    cases round with
    | @sealed sealing named =>
      refine ⟨.ok sealing, [], rfl, ?_⟩
      simp only [named, if_true]
      exact Action.runs_pure.mpr ⟨rfl, rfl⟩
    | @mismatch sealing _ names other =>
      cases names
      refine ⟨.ok sealing, [], rfl, ?_⟩
      simp only [other, if_false]
      exact Action.runs_throw.mpr ⟨rfl, rfl⟩
    | @refused e => exact ⟨.error e, [], rfl, Action.runs_throw.mpr ⟨rfl, rfl⟩⟩

/-- The signatures of all signers, and then that of the notary. -/
def Intent.signAndSeal (intent : Intent) (signers : List Signer) (notary : Signer) :
    Action Notarized := do
  (← intent.sign signers).notarize notary

/-- After a refusal nobody else is asked. The notary is told what everybody signed. -/
theorem Intent.signAndSeal_runs {intent : Intent} {signers : List Signer} {notary : Signer}
    {result : Except Failure Notarized} : (intent.signAndSeal signers notary).Runs trace result ↔
      (∃ failure, result = .error failure ∧
        SigningRound intent.id signers trace (.error failure)) ∨
      ∃ signatures last, trace = signings intent.id signers signatures ++ last ∧
        signatures.length = signers.length ∧ Notarizing notary ⟨intent, signatures⟩ last result := by
  rw [signAndSeal, Action.runs_bind]
  simp only [sign_runs, SignedIntent.notarize_runs]
  constructor
  · rintro (⟨before, signed, last, rfl, ⟨outcome, round, same⟩, sealing⟩ |
      ⟨failure, rfl, outcome, round, same⟩)
    · cases round with
      | signed each =>
        cases same
        exact .inr ⟨_, last, rfl, each, sealing⟩
      | refused => contradiction
    · cases round with
      | signed => contradiction
      | refused stops each =>
        cases same
        exact .inl ⟨_, rfl, .refused stops each⟩
  · rintro (⟨failure, rfl, round⟩ | ⟨signatures, last, rfl, each, sealing⟩)
    · exact .inr ⟨failure, rfl, _, round, rfl⟩
    · exact .inl ⟨_, _, last, rfl, ⟨_, .signed each, rfl⟩, sealing⟩

/-- What signers were asked during a run, and what they answered. -/
def signerCalls (trace : List Exchange) : List Exchange := trace.filter (·.1.toSigner)

theorem signerCalls_append (before after : List Exchange) :
    signerCalls (before ++ after) = signerCalls before ++ signerCalls after :=
  List.filter_append before after

section Stages

variable {α : Type} {action : Action α} {result : Except Failure α}

theorem Action.SignersOnly.signerCalls_eq (signers : action.SignersOnly)
    (run : action.Runs trace result) : signerCalls trace = trace :=
  List.filter_eq_self.mpr (Flow.Uses.sound signers run).1

theorem Action.WalletOnly.signerCalls_eq (wallet : action.WalletOnly)
    (run : action.Runs trace result) : signerCalls trace = [] := by
  refine List.filter_eq_nil_iff.mpr fun exchange member => ?_
  have asked := (Flow.Uses.sound wallet run).1 exchange member
  obtain ⟨request, answer⟩ := exchange
  cases request <;> first | exact Bool.false_ne_true | contradiction

end Stages

theorem signerCalls_failureReport {α : Type} (result : Except Failure α) :
    signerCalls (failureReport result) = [] := by
  cases result <;> rfl

/-- What is left to do with a header is to sign and seal an intent. -/
theorem Settlement.sealWith_runs {settled : Settlement} {message : Option String} {header : Header}
    {result : Except Failure Prepared} : (settled.sealWith message header).Runs trace result ↔
      ∃ outcome, (Intent.signAndSeal ⟨header, settled.manifest, message⟩ settled.parties.signers
          settled.parties.notary).Runs trace outcome ∧
        result = outcome.map fun notarized => ⟨Intent.id ⟨header, settled.manifest, message⟩, header,
          settled.manifest, settled.feePayer, settled.parties.signers.map Signer.address, notarized,
          notarized.payload⟩ := by
  have stages : settled.sealWith message header = (fun notarized => Prepared.mk
      (Intent.id ⟨header, settled.manifest, message⟩) header settled.manifest settled.feePayer
      (settled.parties.signers.map Signer.address) notarized notarized.payload) <$>
        Intent.signAndSeal ⟨header, settled.manifest, message⟩ settled.parties.signers
          settled.parties.notary := by
    simp only [sealWith, Intent.signAndSeal, map_eq_pure_bind, bind_assoc]
  rw [stages, Action.runs_map]
  simp only [and_comm]

namespace ClientConfig

variable {config : ClientConfig} {manifest : Manifest} {options : SubmitOptions}

/-- Nobody signs anything before there is a header to sign. -/
theorem signerCalls_draft {outcome : Except Failure (Settlement × Header)}
    (run : (config.draft manifest options).Runs trace outcome) : signerCalls trace = [] := by
  rcases draft_runs.mp run with
    ⟨failure, rfl, failed⟩ | ⟨before, settled, made, header, rfl, rfl, first, second⟩
  · exact walletOnly_settle.signerCalls_eq failed
  · rw [signerCalls_append, walletOnly_settle.signerCalls_eq first, List.nil_append]
    rcases freshHeader_runs.mp second with
      ⟨e, rfl, -⟩ | ⟨start, rfl, -, -⟩ | ⟨start, last, nonce, rfl, -, -⟩ <;> rfl

theorem draft_notary {settled : Settlement} {header : Header}
    (run : (config.draft manifest options).Runs trace (.ok (settled, header))) :
    header.notary = settled.parties.notary.publicKey := by
  rcases draft_runs.mp run with ⟨_, ⟨⟩, -⟩ | ⟨before, own, made, outcome, rfl, same, -, second⟩
  cases outcome with
  | error e => contradiction
  | ok header =>
    cases same
    have yields : settled.header.Yields (fun _ => True) (.ok header) :=
      ⟨made, second, fun _ _ => trivial⟩
    exact freshHeader_notary yields

/-- All that signers are asked during a preparation is to seal one intent, whose header names the
notary. -/
theorem prepare_seals {result : Except Failure Prepared}
    (run : (config.prepare manifest options).Runs trace result) :
    (signerCalls trace = [] ∧ ∃ failure, result = .error failure) ∨
    ∃ intent signers notary feePayer outcome,
      (Intent.signAndSeal intent signers notary).Runs (signerCalls trace) outcome ∧
      intent.header.notary = notary.publicKey ∧
      result = outcome.map fun notarized => ⟨intent.id, intent.header, intent.manifest, feePayer,
        signers.map Signer.address, notarized, notarized.payload⟩ := by
  obtain ⟨before, rfl, prepared⟩ := prepare_runs.mp run
  rw [signerCalls_append, signerCalls_failureReport, List.append_nil]
  rcases prepared with
    ⟨drafting, settled, header, sealing, rfl, drafted, signed⟩ | ⟨failure, rfl, failed⟩
  · have asked := (settled.signersOnly_sealWith options.message header).signerCalls_eq signed
    rw [signerCalls_append, signerCalls_draft drafted, List.nil_append, asked]
    obtain ⟨outcome, sealed, rfl⟩ := Settlement.sealWith_runs.mp signed
    exact .inr ⟨_, _, _, settled.feePayer, outcome, sealed, draft_notary drafted, rfl⟩
  · exact .inl ⟨signerCalls_draft failed, failure, rfl⟩

end ClientConfig

/-- Signing is all or nothing. Signers are asked for the id in their order, up to the first refusal; the
notary is asked for what everybody signed, and has to answer with the key of the header. What comes of
it holds the intent, a signature of every signer in their order, and the seal. -/
theorem signing_allOrNothing :
    (∀ intent signers trace result, (Intent.sign intent signers).Runs trace result ↔
      ∃ outcome, SigningRound intent.id signers trace outcome ∧
        result = outcome.map (SignedIntent.mk intent)) ∧
    (∀ signed notary trace result, (SignedIntent.notarize signed notary).Runs trace result ↔
      Notarizing notary signed trace result) ∧
    (∀ intent signers notary trace notarized,
      (Intent.signAndSeal intent signers notary).Runs trace (.ok notarized) →
      ∃ signatures sealing, signatures.length = signers.length ∧
        trace = signings intent.id signers signatures ++
          [⟨.sign notary (doubleSha256 (SignedIntent.payload ⟨intent, signatures⟩)), .ok sealing⟩] ∧
        sealing.publicKey = intent.header.notary ∧
        notarized = ⟨⟨intent, signatures⟩, sealing.signature⟩ ∧
        (notarized.Fits → Notarized.ofPayload notarized.payload = .ok notarized)) ∧
    (∀ intent signers notary trace failure,
      (Intent.signAndSeal intent signers notary).Runs trace (.error failure) →
      SigningRound intent.id signers trace (.error failure) ∨
      ∃ signatures last reason, trace = signings intent.id signers signatures ++ last ∧
        signatures.length = signers.length ∧ failure = .prepareNotarized reason ∧
        Notarizing notary ⟨intent, signatures⟩ last (.error failure)) ∧
    ∀ config manifest options trace result,
      (ClientConfig.prepare config manifest options).Runs trace result →
      (signerCalls trace = [] ∧ ∃ failure, result = .error failure) ∨
      ∃ intent signers notary feePayer outcome,
        (Intent.signAndSeal intent signers notary).Runs (signerCalls trace) outcome ∧
        intent.header.notary = notary.publicKey ∧
        result = outcome.map fun notarized => ⟨intent.id, intent.header, intent.manifest, feePayer,
          signers.map Signer.address, notarized, notarized.payload⟩ := by
  refine ⟨fun _ _ _ _ => Intent.sign_runs, fun _ _ _ _ => SignedIntent.notarize_runs, ?_, ?_,
    fun _ _ _ _ _ => ClientConfig.prepare_seals⟩
  · intro intent signers notary trace notarized run
    rcases Intent.signAndSeal_runs.mp run with ⟨_, ⟨⟩, -⟩ | ⟨signatures, last, rfl, each, sealing⟩
    cases sealing with
    | @sealed given named =>
      exact ⟨signatures, given, each, rfl, named, rfl, Notarized.ofPayload_payload⟩
  · intro intent signers notary trace failure run
    rcases Intent.signAndSeal_runs.mp run with
      ⟨_, ⟨⟩, round⟩ | ⟨signatures, last, rfl, each, sealing⟩
    · exact .inl round
    · refine .inr ⟨signatures, last, ?_⟩
      cases sealing with
      | mismatch names other => exact ⟨_, rfl, each, rfl, .mismatch names other⟩
      | refused => exact ⟨_, rfl, each, rfl, .refused⟩

/-- Two signers, the first of whom notarizes. They seal a transaction, or the second one refuses. -/
theorem signing_allOrNothing_sample :
    let signer (n : UInt8) : Signer := ⟨⟨.account, ⟨17⟩, Address.wellKnownBody n⟩, default⟩
    let signers := [signer 1, signer 2]
    let signed := Notarized.sample.signed
    let trace := signings signed.intent.id signers signed.signatures ++
      [⟨.sign (signer 1) (doubleSha256 signed.payload), .ok ⟨default, ⟨[1, 2]⟩⟩⟩]
    let refusal := signings signed.intent.id [signer 1] [⟨default, ⟨[]⟩⟩] ++
      [⟨.sign (signer 2) signed.intent.id.bytes, .error (.rejected "not today")⟩]
    (signed.intent.signAndSeal signers (signer 1)).Runs trace (.ok .sample) ∧
      Notarized.ofPayload Notarized.sample.payload = .ok .sample ∧
      ∃ failure, (signed.intent.signAndSeal signers (signer 1)).Runs refusal (.error failure) := by
  intro signer signers signed trace refusal
  have sealed : (signed.intent.signAndSeal signers (signer 1)).Runs trace (.ok .sample) :=
    Intent.signAndSeal_runs.mpr (.inr ⟨signed.signatures, _, rfl, rfl, .sealed rfl⟩)
  obtain ⟨_, _, -, -, -, -, read⟩ := signing_allOrNothing.2.2.1 _ _ _ _ _ sealed
  have refused : SigningRound signed.intent.id signers refusal _ :=
    @SigningRound.refused _ signers [signer 1] [] (signer 2) [⟨default, ⟨[]⟩⟩] _ rfl rfl
  exact ⟨sealed, read Notarized.sample_fits, _, Intent.signAndSeal_runs.mpr (.inl ⟨_, rfl, refused⟩)⟩

end LedgerWallet
