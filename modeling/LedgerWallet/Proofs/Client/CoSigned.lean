import LedgerWallet.Manifest.Call
import LedgerWallet.Proofs.Client.Prepare

/-! A transfer with a note that two keys sign. The sender, who pays the fee and notarizes, is not the
first key of the wallet; the other key signs because the caller asks for it. -/
namespace LedgerWallet.Prepared

def sampleKey : HeldKey := ⟨⟨.account, .stokenet, Address.wellKnownBody 7⟩, ⟨Bytes.zero 32⟩⟩

/-- A key that no instruction needs. -/
def coKey : HeldKey := ⟨⟨.account, .stokenet, Address.wellKnownBody 8⟩, ⟨⟨List.replicate 32 1, rfl⟩⟩⟩

def sampleCalls : List Instruction :=
  [.withdraw sampleKey.address (.nativeToken .stokenet) (.ofUnits 5),
    .take (.nativeToken .stokenet) (.ofUnits 5) ⟨"bucket0"⟩,
    .tryDeposit ⟨.account, .stokenet, Address.wellKnownBody 9⟩ ⟨"bucket0"⟩]

def sampleManifest : Manifest := ⟨.stokenet, .instructions sampleCalls, []⟩

def sampleOptions : SubmitOptions := ⟨some "für später", true, [coKey.address]⟩

/-- The wallet that signs for it, as it came about. -/
def sampleAdditions : List Addition := [.signer coKey, .signer sampleKey]

def sampleIntent : Intent where
  header := .make .stokenet 5 15 77 sampleKey.secret.publicKey
  manifest := {
    network := .stokenet
    body := .instructions (.lockFee sampleKey.address ClientConfig.default.lockFee :: sampleCalls)
    blobs := [] }
  message := sampleOptions.message

def sampleSigned : SignedIntent :=
  ⟨sampleIntent, [sampleKey.secret.sign sampleIntent.id.bytes.toList,
    coKey.secret.sign sampleIntent.id.bytes.toList]⟩

def sampleNotarized : Notarized :=
  ⟨sampleSigned, (sampleKey.secret.sign sampleSigned.hash.toList).signature⟩

def sample : Prepared where
  id := sampleIntent.id
  header := sampleIntent.header
  manifest := sampleIntent.manifest
  feePayer := some sampleKey.address
  signers := [sampleKey.address, coKey.address]
  notarized := sampleNotarized
  payload := sampleNotarized.payload

/-- All that has to be answered for it. The wallet tells its keys in the order of the store. -/
def sampleExchanges : List Exchange :=
  [⟨.network, .stokenet⟩, ⟨.signers .stokenet [sampleKey.address], [sampleKey.signer]⟩,
    ⟨.signers .stokenet [sampleKey.address, coKey.address], [coKey.signer, sampleKey.signer]⟩,
    ⟨.epoch, .ok 5⟩, ⟨.nonce, (77 : UInt64)⟩,
    ⟨.sign sampleKey.signer sampleIntent.id.bytes,
      .ok (sampleKey.secret.sign sampleIntent.id.bytes.toList)⟩,
    ⟨.sign coKey.signer sampleIntent.id.bytes,
      .ok (coKey.secret.sign sampleIntent.id.bytes.toList)⟩,
    ⟨.sign sampleKey.signer sampleSigned.hash, .ok (sampleKey.secret.sign sampleSigned.hash.toList)⟩]

variable {possible : Exchange → Prop}

theorem selectFeePayer_sample
    (held : possible ⟨.signers .stokenet [sampleKey.address], [sampleKey.signer]⟩) :
    (selectFeePayer .stokenet sampleManifest).Yields possible (.ok sampleKey.address) := by
  have asked : sampleManifest.authAccounts = [sampleKey.address] := by decide
  rw [selectFeePayer, asked]
  exact Action.yields_lift_bind.mpr
    ⟨[sampleKey.signer], signersFor_yields_of_told held, Action.yields_pure.mpr rfl⟩

theorem resolveParties_sample (held : possible
      ⟨.signers .stokenet [sampleKey.address, coKey.address], [coKey.signer, sampleKey.signer]⟩) :
    (resolveParties .stokenet sampleIntent.manifest sampleOptions.extraSigners).Yields possible
      (.ok ⟨sampleKey.signer, [sampleKey.signer, coKey.signer]⟩) := by
  have asked : (sampleIntent.manifest.authAccounts ++ sampleOptions.extraSigners).eraseDups =
      [sampleKey.address, coKey.address] := by decide
  rw [resolveParties, asked]
  exact Action.yields_lift_bind.mpr ⟨[sampleKey.signer, coKey.signer],
    signersFor_yields_of_told held, Action.yields_pure.mpr rfl⟩

theorem prepare_sample (told : ∀ exchange ∈ sampleExchanges, possible exchange) :
    (ClientConfig.default.prepare sampleManifest sampleOptions).Yields possible (.ok sample) := by
  simp only [sampleExchanges, List.forall_mem_cons] at told
  obtain ⟨onNetwork, paying, signing, epoch, nonce, signature, second, sealing, -⟩ := told
  refine counted_yields_ok.mpr (ClientConfig.buildNotarized_yields_ok.mpr
    ⟨requireNetwork_yields_ok.mpr onNetwork, sampleIntent.manifest, some sampleKey.address, ?_,
      ⟨sampleKey.signer, [sampleKey.signer, coKey.signer]⟩, resolveParties_sample signing,
      sampleIntent.header, ?_, sampleSigned, ?_, sampleNotarized, ?_, rfl⟩)
  · exact Action.yields_bind_ok.mpr
      ⟨sampleKey.address, selectFeePayer_sample paying, Action.yields_pure.mpr rfl⟩
  · exact freshHeader_yields_ok.mpr ⟨5, 15, 77, epoch, rfl, nonce, rfl⟩
  · exact Intent.sign_yields_ok.mpr ⟨rfl, .cons signature (.cons second .nil)⟩
  · exact SignedIntent.notarize_yields_ok.mpr ⟨_, sealing, rfl, rfl⟩

/-- The wallet answers all that is asked of it. -/
theorem answers_sample : ∀ exchange ∈ sampleExchanges,
    (Wallet.build .stokenet sampleAdditions).Answers exchange := by
  have built : Wallet.build .stokenet sampleAdditions = ⟨.stokenet, [coKey, sampleKey]⟩ := rfl
  rw [built]
  simp only [sampleExchanges, List.forall_mem_cons]
  exact ⟨rfl, rfl, rfl, trivial, trivial, trivial, trivial, trivial, List.forall_mem_nil _⟩

/-- What the wallet with both keys makes of the transfer. -/
theorem sample_succeeded : (ClientConfig.default.prepare sampleManifest sampleOptions).Yields
    (Wallet.build .stokenet sampleAdditions).Answers (.ok sample) :=
  prepare_sample answers_sample

end LedgerWallet.Prepared
