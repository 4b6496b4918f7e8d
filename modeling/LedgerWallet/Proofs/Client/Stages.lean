import LedgerWallet.Proofs.Client.Requests
import LedgerWallet.Proofs.Client.Prepare

/-! A preparation as three stages: who signs and pays, the header, and the signatures. Only the middle
one asks anybody but the wallet and its signers, and it draws a nonce as the last thing it does. -/
namespace LedgerWallet

variable {α : Type} {trace : List Exchange}

/-- A header takes the current epoch, and a nonce where there is a window that begins with it. -/
theorem freshHeader_runs {network : Network} {notary : PublicKey} {outcome : Except Failure Header} :
    (freshHeader network notary).Runs trace outcome ↔
      (∃ e, trace = [⟨.epoch, .error e⟩] ∧ outcome = .error (.getEpoch e.message)) ∨
      (∃ start, trace = [⟨.epoch, .ok start⟩] ∧ Header.endOf? start = none ∧
        outcome = .error (.buildHeader s!"epoch {start} + {Header.epochWindow} overflows")) ∨
      ∃ start last nonce, trace = [⟨.epoch, .ok start⟩, ⟨.nonce, nonce⟩] ∧
        Header.endOf? start = some last ∧ outcome = .ok (.make network start last nonce notary) := by
  rw [freshHeader, Action.runs_request_bind]
  constructor
  · rintro ⟨answer, rest, rfl, run⟩
    cases answer with
    | error e =>
      obtain ⟨rfl, rfl⟩ := Action.runs_throw.mp run
      exact .inl ⟨e, rfl, rfl⟩
    | ok start =>
      cases window : Header.endOf? start with
      | none =>
        simp only [window] at run
        obtain ⟨rfl, rfl⟩ := Action.runs_throw.mp run
        exact .inr (.inl ⟨start, rfl, window, rfl⟩)
      | some last =>
        simp only [window] at run
        obtain ⟨nonce, _, rfl, drawn⟩ := Action.runs_request_bind.mp run
        obtain ⟨rfl, rfl⟩ := Action.runs_pure.mp drawn
        exact .inr (.inr ⟨start, last, nonce, rfl, window, rfl⟩)
  · rintro (⟨e, rfl, rfl⟩ | ⟨start, rfl, window, rfl⟩ | ⟨start, last, nonce, rfl, window, rfl⟩)
    · exact ⟨.error e, [], rfl, Action.runs_throw.mpr ⟨rfl, rfl⟩⟩
    · refine ⟨.ok start, [], rfl, ?_⟩
      simp only [window]
      exact Action.runs_throw.mpr ⟨rfl, rfl⟩
    · refine ⟨.ok start, _, rfl, ?_⟩
      simp only [window]
      exact Action.runs_request_bind.mpr ⟨nonce, [], rfl, Action.runs_pure.mpr ⟨rfl, rfl⟩⟩

/-- What is settled before the header of a transaction: the manifest to sign, who pays for it and who
signs it. -/
structure Settlement where
  manifest : Manifest
  feePayer : Option Address
  parties : Parties

namespace Settlement

/-- The header names the notary and the network of the manifest. -/
def header (settled : Settlement) : Action Header :=
  freshHeader settled.manifest.network settled.parties.notary.publicKey

/-- What is left to do with a header. -/
def sealWith (settled : Settlement) (message : Option String) (header : Header) : Action Prepared := do
  let intent : Intent := ⟨header, settled.manifest, message⟩
  let notarized ← (← intent.sign settled.parties.signers).notarize settled.parties.notary
  return {
    id := intent.id
    header := header
    manifest := settled.manifest
    feePayer := settled.feePayer
    signers := settled.parties.signers.map Signer.address
    notarized := notarized
    payload := notarized.payload }

theorem signersOnly_sealWith (settled : Settlement) (message : Option String) (header : Header) :
    (settled.sealWith message header).SignersOnly := by
  refine Action.uses_bind (ClientConfig.signersOnly_sign _ _) fun signed => ?_
  exact Action.uses_bind (ClientConfig.signersOnly_notarize _ _) fun notarized => Action.uses_pure

theorem sealWith_header {settled : Settlement} {message : Option String} {header : Header}
    {prepared : Prepared} (run : (settled.sealWith message header).Runs trace (.ok prepared)) :
    prepared.header = header := by
  have yields : (settled.sealWith message header).Yields (fun _ => True) (.ok prepared) :=
    ⟨trace, run, fun _ _ => trivial⟩
  obtain ⟨signed, -, sealing⟩ := Action.yields_bind_ok.mp yields
  obtain ⟨notarized, -, ended⟩ := Action.yields_bind_ok.mp sealing
  cases Action.yields_pure.mp ended
  rfl

end Settlement

namespace ClientConfig

variable {config : ClientConfig} {manifest : Manifest} {options : SubmitOptions}

def settle (config : ClientConfig) (manifest : Manifest) (options : SubmitOptions) :
    Action Settlement := do
  requireNetwork manifest.network
  let (amended, payer) ← config.withFee manifest options
  let parties ← resolveParties amended.network amended options.extraSigners
  return ⟨amended, payer, parties⟩

theorem walletOnly_settle : (config.settle manifest options).WalletOnly := by
  refine Action.uses_bind (walletOnly_requireNetwork _) fun _ => ?_
  refine Action.uses_bind (walletOnly_withFee _ _ _) fun (amended, payer) => ?_
  exact Action.uses_bind (walletOnly_resolveParties _ _ _) fun parties => Action.uses_pure

/-- A header, and what it is made for. -/
def draft (config : ClientConfig) (manifest : Manifest) (options : SubmitOptions) :
    Action (Settlement × Header) := do
  let settled ← config.settle manifest options
  return (settled, ← settled.header)

theorem draft_runs {outcome : Except Failure (Settlement × Header)} :
    (config.draft manifest options).Runs trace outcome ↔
      (∃ failure, outcome = .error failure ∧
        (config.settle manifest options).Runs trace (.error failure)) ∨
      ∃ before settled made header, trace = before ++ made ∧ outcome = header.map (settled, ·) ∧
        (config.settle manifest options).Runs before (.ok settled) ∧
        settled.header.Runs made header := by
  rw [draft, Action.runs_bind]
  simp only [bind_pure_comp, Action.runs_map]
  constructor
  · rintro (⟨before, settled, made, rfl, first, header, rfl, second⟩ | ⟨failure, rfl, failed⟩)
    · exact .inr ⟨before, settled, made, header, rfl, rfl, first, second⟩
    · exact .inl ⟨failure, rfl, failed⟩
  · rintro (⟨failure, rfl, failed⟩ | ⟨before, settled, made, header, rfl, rfl, first, second⟩)
    · exact .inr ⟨failure, rfl, failed⟩
    · exact .inl ⟨before, settled, made, rfl, first, header, rfl, second⟩

/-- A preparation fails with its draft, or seals it. Its failure is counted. -/
theorem prepare_runs {result : Except Failure Prepared} :
    (config.prepare manifest options).Runs trace result ↔
      ∃ before, trace = before ++ failureReport result ∧
        ((∃ drafting settled header sealing, before = drafting ++ sealing ∧
            (config.draft manifest options).Runs drafting (.ok (settled, header)) ∧
            (settled.sealWith options.message header).Runs sealing result) ∨
          ∃ failure, result = .error failure ∧
            (config.draft manifest options).Runs before (.error failure)) := by
  have stages : config.buildNotarized manifest options = (do
      let (settled, header) ← config.draft manifest options
      settled.sealWith options.message header) := by
    simp only [buildNotarized, draft, settle, Settlement.header, Settlement.sealWith, bind_assoc,
      pure_bind]
  rw [prepare, Action.counted_runs, stages]
  simp only [Action.runs_bind]
  refine exists_congr fun before => and_congr_right fun _ => or_congr_left ?_
  constructor
  · rintro ⟨drafting, ⟨settled, header⟩, sealing, rfl, drafted, signed⟩
    exact ⟨drafting, settled, header, sealing, rfl, drafted, signed⟩
  · rintro ⟨drafting, settled, header, sealing, rfl, drafted, signed⟩
    exact ⟨drafting, (settled, header), sealing, rfl, drafted, signed⟩

end ClientConfig

end LedgerWallet
