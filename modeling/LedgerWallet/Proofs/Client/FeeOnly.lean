import LedgerWallet.Proofs.Client.Prepare

/-! The smallest preparation: a manifest without instructions, for which the first account of the
wallet pays, signs and notarizes. -/
namespace LedgerWallet

namespace Prepared

variable (network : Network) (key : HeldKey)

def feeOnlyIntent : Intent where
  header := .make network 5 15 77 key.secret.publicKey
  manifest := ⟨network, .instructions [.lockFee key.address ClientConfig.default.lockFee], []⟩
  message := none

def feeOnlySigned : SignedIntent :=
  ⟨feeOnlyIntent network key, [key.secret.sign (feeOnlyIntent network key).id.bytes.toList]⟩

def feeOnlyNotarized : Notarized :=
  ⟨feeOnlySigned network key, (key.secret.sign (feeOnlySigned network key).hash.toList).signature⟩

def feeOnly : Prepared where
  id := (feeOnlyIntent network key).id
  header := (feeOnlyIntent network key).header
  manifest := (feeOnlyIntent network key).manifest
  feePayer := some key.address
  signers := [key.address]
  notarized := feeOnlyNotarized network key
  payload := (feeOnlyNotarized network key).payload

/-- All that has to be answered for it, by a wallet with one key, a ledger in its fifth epoch and a
source of nonces. -/
def feeOnlyExchanges : List Exchange :=
  [⟨.network, network⟩, ⟨.accounts, [key.address]⟩,
    ⟨.signers network [key.address], [key.signer]⟩, ⟨.epoch, .ok 5⟩, ⟨.nonce, (77 : UInt64)⟩,
    ⟨.sign key.signer (feeOnlyIntent network key).id.bytes,
      .ok (key.secret.sign (feeOnlyIntent network key).id.bytes.toList)⟩,
    ⟨.sign key.signer (feeOnlySigned network key).hash,
      .ok (key.secret.sign (feeOnlySigned network key).hash.toList)⟩]

variable {network : Network} {key : HeldKey} {possible : Exchange → Prop}

/-- The only account of a wallet resolves to its own signer. -/
theorem resolveParties_feeOnly (isAccount : key.address.isAccount)
    (held : possible ⟨.signers network [key.address], [key.signer]⟩) :
    (resolveParties network (feeOnlyIntent network key).manifest []).Yields possible
      (.ok ⟨key.signer, [key.signer]⟩) := by
  have required : ((feeOnlyIntent network key).manifest.authAccounts ++ []).eraseDups =
      [key.address] := by
    rw [Manifest.required_eq, Manifest.required, feeOnlyIntent, Manifest.instructions?,
      Option.getD_some, List.filterMap_cons_some (Instruction.authTarget?_lockFee isAccount _)]
    rfl
  have found : [key.address].filterMap (fun address =>
      [key.signer].find? (·.address = address)) = [key.signer] := by
    simp [HeldKey.signer]
  rw [resolveParties, required, Action.yields_lift_bind]
  refine ⟨[key.signer], ?_, ?_⟩
  · refine Flow.yields_bind.mpr ⟨[key.signer], Flow.yields_request.mpr held, ?_⟩
    rw [found]
    exact Flow.yields_done.mpr rfl
  · exact Action.yields_pure.mpr rfl

theorem prepare_feeOnly (network : Network) (isAccount : key.address.isAccount)
    (told : ∀ exchange ∈ feeOnlyExchanges network key, possible exchange) :
    (ClientConfig.default.prepare ⟨network, .instructions [], []⟩ .default).Yields possible
      (.ok (feeOnly network key)) := by
  simp only [feeOnlyExchanges, List.forall_mem_cons] at told
  obtain ⟨onNetwork, accounts, signers, epoch, nonce, signature, sealing, -⟩ := told
  have payer : (selectFeePayer network ⟨network, .instructions [], []⟩).Yields possible
      (.ok key.address) := by
    refine Action.yields_lift_bind.mpr ⟨[], Flow.yields_done.mpr rfl, ?_⟩
    exact Action.yields_request_bind.mpr ⟨[key.address], accounts, Action.yields_pure.mpr rfl⟩
  refine counted_yields_ok.mpr (ClientConfig.buildNotarized_yields_ok.mpr
    ⟨requireNetwork_yields_ok.mpr onNetwork, (feeOnlyIntent network key).manifest,
      some key.address, ?_, ⟨key.signer, [key.signer]⟩, resolveParties_feeOnly isAccount signers,
      (feeOnlyIntent network key).header, ?_, feeOnlySigned network key, ?_,
      feeOnlyNotarized network key, ?_, rfl⟩)
  · exact Action.yields_bind_ok.mpr ⟨key.address, payer, Action.yields_pure.mpr rfl⟩
  · exact freshHeader_yields_ok.mpr ⟨5, 15, 77, epoch, rfl, nonce, rfl⟩
  · exact Intent.sign_yields_ok.mpr ⟨rfl, .cons signature .nil⟩
  · exact SignedIntent.notarize_yields_ok.mpr ⟨_, sealing, rfl, rfl⟩

end Prepared

end LedgerWallet
