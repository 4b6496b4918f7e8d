import LedgerWallet.Proofs.Client.CoSigned
import LedgerWallet.Proofs.Manifest.Amendment

/-! Whoever pays the fee of a prepared transaction is its first signer and its notary. The payer is
chosen before the fee payment is in the manifest and the signers after it. That the payment needs the
payer's signature makes the two agree. -/
namespace LedgerWallet

variable {wallet : Wallet} {added : List HeldKey}

/-- The first account that signs anyway, or else the first account of all. -/
def chosenPayer? (added : List HeldKey) (manifest : Manifest) : Option Address :=
  ((heldSigners added manifest.authAccounts).head?.map Signer.address).or (firstAccount? added)

theorem selectFeePayer_yields (keeps : wallet.Keeps added) {manifest : Manifest}
    {result : Except Failure Address} :
    (selectFeePayer wallet.network manifest).Yields wallet.Answers result ↔
      result = (chosenPayer? added manifest).elim (.error .noFeePayer) .ok := by
  rw [selectFeePayer, Action.yields_lift_bind, chosenPayer?]
  simp only [signersFor_yields keeps, exists_eq_left]
  cases (heldSigners added manifest.authAccounts).head? with
  | none => exact firstAccount_yields keeps
  | some signer => exact Action.yields_pure

theorem isAccount_of_mem_authAccounts {manifest : Manifest} {account : Address}
    (member : account ∈ manifest.authAccounts) : account.isAccount := by
  obtain ⟨instruction, -, needs⟩ := List.mem_filterMap.mp (List.mem_eraseDups.mp member)
  exact (Instruction.authTarget?_eq_some.mp needs).1

theorem chosenPayer?_spec {manifest : Manifest} {payer : Address}
    (chosen : chosenPayer? added manifest = some payer) :
    payer.isAccount ∧ ∃ key, firstKey? added payer = some key := by
  rw [chosenPayer?, Option.or_eq_some_iff] at chosen
  rcases chosen with signs | ⟨-, first⟩
  · obtain ⟨signer, first, rfl⟩ := Option.map_eq_some_iff.mp signs
    have member := List.mem_of_head? first
    obtain ⟨key, found, -⟩ := mem_heldSigners member
    exact ⟨isAccount_of_mem_authAccounts (address_mem_of_mem_heldSigners member), key, found⟩
  · obtain ⟨isAccount, member⟩ := firstAccount?_eq_some first
    refine ⟨isAccount, Option.isSome_iff_exists.mp (Option.isSome_iff_ne_none.mpr ?_)⟩
    exact fun none => firstKey?_eq_none.mp none member

/-- The payer of a fee payment is the first who should sign. -/
theorem Manifest.required_lockFee {payer : Address} (isAccount : payer.isAccount) (amount : Amount)
    (network : Network) (list : List Instruction) (blobs : List (List UInt8))
    (extra : List Address) : ∃ rest,
      required ⟨network, .instructions (.lockFee payer amount :: list), blobs⟩ extra =
        payer :: rest := by
  rw [required, instructions?, Option.getD_some,
    List.filterMap_cons_some (Instruction.authTarget?_lockFee isAccount amount), List.cons_append,
    List.eraseDups_cons]
  exact ⟨_, rfl⟩

theorem chosenSigners_cons {payer : Address} {key : HeldKey}
    (found : firstKey? added payer = some key) (rest : List Address) :
    chosenSigners added (payer :: rest) = key.signer :: heldSigners added rest := by
  simp [chosenSigners, heldSigners, found]

namespace ClientConfig

variable {config : ClientConfig} {manifest : Manifest} {options : SubmitOptions}

theorem withFee_yields_unpaid {possible : Exchange → Prop} {amended : Manifest}
    {payer : Option Address} (unpaid : options.lockFee = false ∨ manifest.isText)
    (yields : (config.withFee manifest options).Yields possible (.ok (amended, payer))) :
    amended = manifest ∧ payer = none := by
  rw [withFee] at yields
  split at yields <;> rename_i isText
  · split at yields
    · cases Action.yields_pure.mp yields
      exact ⟨rfl, rfl⟩
    · cases Action.yields_throw.mp yields
  · rw [if_neg (by simpa using unpaid.resolve_right isText)] at yields
    cases Action.yields_pure.mp yields
    exact ⟨rfl, rfl⟩

theorem withFee_yields_paid (keeps : wallet.Keeps added) (sameNetwork : manifest.network = wallet.network)
    {list : List Instruction} (structured : manifest.body = .instructions list)
    (paid : options.lockFee = true) {amended : Manifest} {payer : Option Address} :
    (config.withFee manifest options).Yields wallet.Answers (.ok (amended, payer)) ↔
      ∃ account, chosenPayer? added manifest = some account ∧ payer = some account ∧
        amended = ⟨manifest.network, .instructions (.lockFee account config.lockFee :: list),
          manifest.blobs⟩ := by
  have isList : manifest.isText = false := by simp [Manifest.isText, Manifest.instructions?, structured]
  rw [withFee, isList, if_neg Bool.false_ne_true, if_pos paid, Action.yields_bind_ok, sameNetwork]
  simp only [selectFeePayer_yields keeps, Action.yields_pure,
    Manifest.lockFee_of_instructions structured, Except.ok.injEq, Prod.mk.injEq]
  cases chosenPayer? added manifest with
  | none => simp
  | some account => simp [and_comm, sameNetwork]

/-- The account that pays the fee is held by the wallet, signs first and is the notary, and the fee
payment is all that is added to the manifest. A manifest that nobody pays for is signed as it is. -/
theorem prepare_feePayer (network : Network) (additions : List Addition) (prepared : Prepared)
    (succeeded : (config.prepare manifest options).Yields (Wallet.build network additions).Answers
      (.ok prepared)) :
    (∀ list, manifest.body = .instructions list → options.lockFee = true → ∃ payer key,
      prepared.feePayer = some payer ∧ payer.isAccount ∧
      (Wallet.build network additions).find? payer = some key ∧
      prepared.manifest = ⟨manifest.network, .instructions
        (.callMethod payer "lock_fee" [.scalar (.amount config.lockFee)] :: list), manifest.blobs⟩ ∧
      prepared.signers.head? = some payer ∧ prepared.header.notary = key.secret.publicKey) ∧
    (options.lockFee = false ∨ manifest.isText →
      prepared.feePayer = none ∧ prepared.manifest = manifest) := by
  obtain ⟨required, amended, payer, fee, parties, resolved, header, headed, signed, -, notarized, -,
    rfl⟩ := buildNotarized_yields_ok.mp (counted_yields_ok.mp succeeded)
  obtain ⟨-, keeps⟩ := Wallet.build_spec network additions
  have sameNetwork := requireNetwork_yields.mp required
  refine ⟨fun list structured paid => ?_, fun unpaid => ?_⟩
  · obtain ⟨account, chosen, rfl, rfl⟩ :=
      (withFee_yields_paid keeps sameNetwork structured paid).mp fee
    obtain ⟨isAccount, key, first⟩ := chosenPayer?_spec chosen
    obtain ⟨rest, asked⟩ := Manifest.required_lockFee isAccount config.lockFee
      (Wallet.build network additions).network list manifest.blobs options.extraSigners
    simp only [sameNetwork] at resolved
    have agreed := (resolveParties_yields keeps).mp resolved
    rw [asked, chosenSigners_cons first] at agreed
    cases agreed
    refine ⟨account, key, rfl, isAccount, (keeps.find?_eq account).trans first, rfl, ?_, ?_⟩
    · exact congrArg some (address_of_firstKey? first)
    · exact freshHeader_notary headed
  · obtain ⟨rfl, rfl⟩ := withFee_yields_unpaid unpaid fee
    exact ⟨rfl, rfl⟩

theorem prepare_feePayer_sample :
    (ClientConfig.default.prepare Prepared.sampleManifest Prepared.sampleOptions).Yields
        (Wallet.build .stokenet Prepared.sampleAdditions).Answers (.ok .sample) ∧
    ∃ payer key, Prepared.sample.feePayer = some payer ∧ payer.isAccount ∧
      (Wallet.build .stokenet Prepared.sampleAdditions).find? payer = some key ∧
      Prepared.sample.manifest = ⟨.stokenet, .instructions (.callMethod payer "lock_fee"
        [.scalar (.amount ClientConfig.default.lockFee)] :: Prepared.sampleCalls), []⟩ ∧
      Prepared.sample.signers = [payer, Prepared.coKey.address] ∧
      Prepared.sample.header.notary = key.secret.publicKey := by
  refine ⟨Prepared.sample_succeeded, ?_⟩
  obtain ⟨payer, key, paid, isAccount, held, amended, first, notary⟩ := (prepare_feePayer .stokenet
    Prepared.sampleAdditions Prepared.sample Prepared.sample_succeeded).1 _ rfl rfl
  cases first
  exact ⟨_, key, paid, isAccount, held, amended, rfl, notary⟩

end ClientConfig

end LedgerWallet
