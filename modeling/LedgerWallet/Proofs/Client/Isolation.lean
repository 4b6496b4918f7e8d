import LedgerWallet.Proofs.Client.FeeOnly
import LedgerWallet.Proofs.Client.FeePayer

/-! Which prepared transactions stay on one network. The instructions of the caller do, since the
manifest was accepted. The payer of the fee does when an instruction names it, but the first account
of the wallet, which pays where no signer is named, may have been added for any network. -/
namespace LedgerWallet

variable {network : Network} {list : List Instruction} {blobs : List (List UInt8)}

/-- Whoever must sign is the receiver of a call. -/
theorem Manifest.mentions_of_mem_authAccounts {account : Address}
    (member : account ∈ authAccounts ⟨network, .instructions list, blobs⟩) :
    ∃ instruction ∈ list, instruction.Mentions account := by
  obtain ⟨instruction, inside, needs⟩ := List.mem_filterMap.mp (List.mem_eraseDups.mp member)
  obtain ⟨-, method, -, args, rfl⟩ := Instruction.authTarget?_eq_some.mp needs
  exact ⟨_, inside, .receiver⟩

theorem chosenPayer?_network {added : List HeldKey} {payer : Address}
    (wellFormed : WellFormed network list)
    (chosen : chosenPayer? added ⟨network, .instructions list, blobs⟩ = some payer) :
    payer.network = network ∨ firstAccount? added = some payer := by
  rw [chosenPayer?, Option.or_eq_some_iff] at chosen
  rcases chosen with signs | ⟨-, first⟩
  · obtain ⟨signer, first, rfl⟩ := Option.map_eq_some_iff.mp signs
    have required := address_mem_of_mem_heldSigners (List.mem_of_head? first)
    obtain ⟨instruction, inside, mentions⟩ := Manifest.mentions_of_mem_authAccounts required
    exact .inl (wellFormed.pure instruction inside signer.address mentions)
  · exact .inr first

namespace ClientConfig

variable {config : ClientConfig} {manifest : Manifest} {options : SubmitOptions}
  {prepared : Prepared}

/-- The fee is all that preparing adds to the manifest. Its payer is on the network or the first
account of the wallet. -/
theorem prepare_amends (wellFormed : WellFormed network list) {additions : List Addition}
    (succeeded : (config.prepare ⟨network, .instructions list, blobs⟩ options).Yields
      (Wallet.build network additions).Answers (.ok prepared)) :
    prepared.header.network = network ∧
    ((prepared.feePayer = none ∧ prepared.manifest = ⟨network, .instructions list, blobs⟩) ∨
      ∃ payer, prepared.feePayer = some payer ∧
        prepared.manifest =
          ⟨network, .instructions (.lockFee payer config.lockFee :: list), blobs⟩ ∧
        (payer.network = network ∨
          firstAccount? (additions.map (Addition.key network)) = some payer)) := by
  obtain ⟨required, amended, payer, fee, parties, -, header, headed, signed, -, notarized, -,
    rfl⟩ := buildNotarized_yields_ok.mp (counted_yields_ok.mp succeeded)
  obtain ⟨-, keeps⟩ := Wallet.build_spec network additions
  have sameNetwork := requireNetwork_yields.mp required
  obtain ⟨start, last, nonce, -, -, -, rfl⟩ := freshHeader_yields_ok.mp headed
  cases paid : options.lockFee with
  | false =>
    obtain ⟨rfl, rfl⟩ := withFee_yields_unpaid (.inl paid) fee
    exact ⟨rfl, .inl ⟨rfl, rfl⟩⟩
  | true =>
    obtain ⟨account, chosen, rfl, rfl⟩ :=
      (withFee_yields_paid keeps sameNetwork rfl paid).mp fee
    exact ⟨rfl, .inr ⟨account, rfl, rfl, chosenPayer?_network wellFormed chosen⟩⟩

/-- The instructions that are signed are accepted again on the network of the header exactly when
whoever pays the fee is on that network. A wallet whose first account is on it never fails that. -/
theorem prepare_isolated (additions : List Addition)
    (made : Manifest.make network list blobs = .ok manifest)
    (succeeded : (config.prepare manifest options).Yields (Wallet.build network additions).Answers
      (.ok prepared)) :
    let accepted := ∃ signed, prepared.manifest.body = .instructions signed ∧
      Manifest.make prepared.header.network signed prepared.manifest.blobs = .ok prepared.manifest
    prepared.header.network = network ∧
    (accepted ↔ ∀ payer, prepared.feePayer = some payer → payer.network = network) ∧
    ((∀ account, firstAccount? (additions.map (Addition.key network)) = some account →
      account.network = network) → accepted) := by
  obtain ⟨wellFormed, rfl⟩ := Manifest.make_eq_ok.mp made
  intro accepted
  obtain ⟨sameNetwork, amended⟩ := prepare_amends wellFormed succeeded
  have judged : accepted ↔ ∀ payer, prepared.feePayer = some payer → payer.network = network := by
    simp only [accepted, sameNetwork, Manifest.make_eq_ok]
    rcases amended with ⟨unpaid, signed⟩ | ⟨payer, paid, signed, -⟩
    · simp [unpaid, signed, wellFormed]
    · simp [paid, signed, wellFormed_lockFee, wellFormed]
  refine ⟨sameNetwork, judged, fun own => judged.mpr fun payer paid => ?_⟩
  rcases amended with ⟨unpaid, -⟩ | ⟨account, found, -, onNetwork | first⟩
  · rw [unpaid] at paid
    contradiction
  · cases found.symm.trans paid
    exact onNetwork
  · cases found.symm.trans paid
    exact own payer first

theorem prepare_isolated_sample :
    Manifest.make .stokenet Prepared.sampleCalls [] = .ok Prepared.sampleManifest ∧
    (ClientConfig.default.prepare Prepared.sampleManifest Prepared.sampleOptions).Yields
      (Wallet.build .stokenet Prepared.sampleAdditions).Answers (.ok .sample) ∧
    ∃ signed, Prepared.sample.manifest.body = .instructions signed ∧
      Manifest.make .stokenet signed [] = .ok Prepared.sample.manifest := by
  have made : Manifest.make .stokenet Prepared.sampleCalls [] = .ok Prepared.sampleManifest := rfl
  refine ⟨made, Prepared.sample_succeeded, ?_⟩
  refine (prepare_isolated Prepared.sampleAdditions made Prepared.sample_succeeded).2.2 ?_
  rintro account ⟨⟩
  rfl

/-- One account answers all that the smallest preparation asks of a wallet. -/
theorem answers_feeOnly (network : Network) {key : HeldKey} (isAccount : key.address.isAccount) :
    ∀ exchange ∈ Prepared.feeOnlyExchanges network key,
      (Wallet.build network [.signer key]).Answers exchange := by
  have built : Wallet.build network [.signer key] = ⟨network, [key]⟩ := rfl
  have accounts : (Wallet.mk network [key]).accounts = [key.address] := by
    simp [Wallet.accounts, isAccount]
  have signers : (Wallet.mk network [key]).signersFor network [key.address] = [key.signer] := by
    simp [Wallet.signersFor, Wallet.keysFor]
  rw [built]
  simp only [Prepared.feeOnlyExchanges, List.forall_mem_cons]
  exact ⟨rfl, accounts.symm, signers.symm, trivial, trivial, trivial, trivial, List.forall_mem_nil _⟩

/-- The preparation that one account is enough for. -/
theorem prepare_oneAccount (network : Network) {key : HeldKey} (isAccount : key.address.isAccount) :
    (ClientConfig.default.prepare ⟨network, .instructions [], []⟩ .default).Yields
      (Wallet.build network [.signer key]).Answers (.ok (.feeOnly network key)) :=
  Prepared.prepare_feeOnly network isAccount (answers_feeOnly network isAccount)

/-- A key that was added for an account on another network. -/
def foreignKey : HeldKey := ⟨⟨.account, .mainnet, Address.wellKnownBody 7⟩, ⟨Bytes.zero 32⟩⟩

/-- The wallet lists the accounts of all networks, so that its first account can make a transaction
that no manifest of the network of its header can be made of. -/
theorem prepare_not_isolated :
    (ClientConfig.default.prepare ⟨.stokenet, .instructions [], []⟩ .default).Yields
      (Wallet.build .stokenet [.signer foreignKey]).Answers
      (.ok (.feeOnly .stokenet foreignKey)) ∧
    (Prepared.feeOnly .stokenet foreignKey).header.network = .stokenet ∧
    (Prepared.feeOnly .stokenet foreignKey).manifest =
      ⟨.stokenet, .instructions [.lockFee foreignKey.address default.lockFee], []⟩ ∧
    Manifest.make .stokenet [.lockFee foreignKey.address default.lockFee] [] =
      .error (.wrongNetwork foreignKey.address .stokenet) :=
  ⟨prepare_oneAccount .stokenet rfl, rfl, rfl, rfl⟩

end ClientConfig

end LedgerWallet
