import LedgerWallet.Client.Prepare
import LedgerWallet.Proofs.Client.Notarize
import LedgerWallet.Proofs.Client.Signers

/-! The stages of preparing a transaction, and what each of them leaves to the next. -/
namespace LedgerWallet

variable {possible : Exchange → Prop} {wallet : Wallet}

/-- Only what is told to be the network of the wallet passes. -/
theorem requireNetwork_yields_ok {network : Network} :
    (ClientConfig.requireNetwork network).Yields possible (.ok ()) ↔
      possible ⟨.network, network⟩ := by
  rw [ClientConfig.requireNetwork, Action.yields_request_bind]
  constructor
  · rintro ⟨own, told, yields⟩
    split at yields
    · cases Action.yields_throw.mp yields
    · rename_i same
      exact Decidable.not_not.mp same ▸ told
  · exact fun told => ⟨network, told, by simpa using Action.yields_pure.mpr rfl⟩

theorem requireNetwork_yields {network : Network} :
    (ClientConfig.requireNetwork network).Yields wallet.Answers (.ok ()) ↔
      network = wallet.network := requireNetwork_yields_ok

/-- The signers for some addresses are picked out of those that are told. -/
theorem signersFor_yields_of_told {network : Network} {address : Address} {rest : List Address}
    {available : List Signer} (told : possible ⟨.signers network (address :: rest), available⟩) :
    (signersFor network (address :: rest)).Yields possible
      ((address :: rest).filterMap fun wanted => available.find? (·.address = wanted)) :=
  Flow.yields_bind.mpr ⟨available, Flow.yields_request.mpr told, Flow.yields_done.mpr rfl⟩

section Counted

variable {α : Type} {action : Action α}

/-- What is counted at the end of a run: the failure, if it ended in one. -/
def failureReport : Except Failure α → List Exchange
  | .ok _ => []
  | .error failure => [⟨.count (.failed failure.category), ()⟩]

theorem Action.counted_runs {trace : List Exchange} {result : Except Failure α} :
    action.counted.Runs trace result ↔
      ∃ before, trace = before ++ failureReport result ∧ action.Runs before result := by
  rw [Action.counted, Action.runs_tryCatch]
  constructor
  · rintro (⟨value, rfl, succeeded⟩ | ⟨before, failure, after, rfl, failed, handled⟩)
    · exact ⟨trace, (List.append_nil trace).symm, succeeded⟩
    · rcases Action.runs_bind.mp handled with
        ⟨counting, _, ended, rfl, counted, thrown⟩ | ⟨_, _, counted⟩
      · obtain ⟨_, -, rfl⟩ := Action.runs_request.mp counted
        obtain ⟨rfl, rfl⟩ := Action.runs_throw.mp thrown
        exact ⟨before, rfl, failed⟩
      · obtain ⟨_, ⟨⟩, -⟩ := Action.runs_request.mp counted
  · rintro ⟨before, rfl, run⟩
    cases result with
    | ok value => exact .inl ⟨value, rfl, by rwa [failureReport, List.append_nil]⟩
    | error failure =>
      refine .inr ⟨before, failure, failureReport (.error failure), rfl, run, ?_⟩
      refine Action.runs_bind.mpr (.inl ⟨_, (), [], (List.append_nil _).symm, ?_, ?_⟩)
      · exact Action.runs_request.mpr ⟨(), rfl, rfl⟩
      · exact Action.runs_throw.mpr ⟨rfl, rfl⟩

/-- To succeed where failures are counted is to succeed. -/
theorem counted_yields_ok {value : α} :
    action.counted.Yields possible (.ok value) ↔ action.Yields possible (.ok value) := by
  simp only [Action.Yields, Action.counted_runs, failureReport, List.append_nil, exists_eq_left']

end Counted

namespace ClientConfig

variable {config : ClientConfig} {manifest : Manifest} {options : SubmitOptions}
  {prepared : Prepared}

/-- A prepared transaction is what all its stages led to. -/
theorem buildNotarized_yields_ok :
    (config.buildNotarized manifest options).Yields possible (.ok prepared) ↔
      (requireNetwork manifest.network).Yields possible (.ok ()) ∧
      ∃ amended payer, (config.withFee manifest options).Yields possible (.ok (amended, payer)) ∧
      ∃ parties, (resolveParties amended.network amended options.extraSigners).Yields possible
        (.ok parties) ∧
      ∃ header, (freshHeader amended.network parties.notary.publicKey).Yields possible
        (.ok header) ∧
      ∃ signed, (Intent.sign ⟨header, amended, options.message⟩ parties.signers).Yields possible
        (.ok signed) ∧
      ∃ notarized, (signed.notarize parties.notary).Yields possible (.ok notarized) ∧
        prepared = ⟨Intent.id ⟨header, amended, options.message⟩, header, amended, payer,
          parties.signers.map Signer.address, notarized, notarized.payload⟩ := by
  rw [buildNotarized]
  simp only [Action.yields_bind_ok, Action.yields_pure, Prod.exists, Except.ok.injEq]
  exact ⟨fun ⟨(), required, rest⟩ => ⟨required, rest⟩, fun ⟨required, rest⟩ => ⟨(), required, rest⟩⟩

end ClientConfig

end LedgerWallet
