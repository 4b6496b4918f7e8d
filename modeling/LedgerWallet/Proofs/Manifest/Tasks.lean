import LedgerWallet.Proofs.Manifest.Emission

/-! The templates for the tasks of a wallet, and when they come to a manifest. Their instructions use
each bucket once whatever they are asked for, so that only an address of another network or an amount
that is too large stands in the way. -/
namespace LedgerWallet

/-- Instructions of a template. Those of their addresses that are not on the network come from the
input, and every such address of the input is among them. -/
structure Emits (network : Network) (input : List Address) (list : List Instruction) : Prop where
  linear : Linear list
  foreign : ∀ address, address.network ≠ network →
    (address ∈ list.flatMap Instruction.addresses ↔ address ∈ input)

namespace Emits

variable {network : Network} {input : List Address} {list : List Instruction}

theorem wellFormed_iff (emits : Emits network input list) :
    WellFormed network list ↔ ∀ address ∈ input, address.network = network := by
  constructor
  · intro wellFormed address member
    by_contra foreign
    obtain ⟨instruction, inside, named⟩ :=
      List.mem_flatMap.mp ((emits.foreign address foreign).mpr member)
    exact foreign (wellFormed.pure instruction inside address (Instruction.mem_addresses.mp named))
  · intro onNetwork
    refine ⟨fun instruction inside address mentions => ?_, emits.linear⟩
    by_contra foreign
    have named := List.mem_flatMap.mpr ⟨instruction, inside, Instruction.mem_addresses.mpr mentions⟩
    exact foreign (onNetwork address ((emits.foreign address foreign).mp named))

/-- What is wrong with the instructions of a template is an address of its input. -/
theorem error (emits : Emits network input list) {blobs : List (List UInt8)} {e : ManifestError}
    (refused : Manifest.make network list blobs = .error e) :
    ∃ address ∈ input, address.network ≠ network ∧ e = .wrongNetwork address network := by
  rcases Manifest.make_eq_error.mp refused with
    ⟨before, act, after, split, -, fault⟩ | ⟨bucket, -, -, unconsumed, -⟩
  · obtain ⟨address, rfl, foreign, same⟩ := Act.fault_of_linear emits.linear split fault
    have named : .names address ∈ list.flatMap Instruction.acts := split ▸ by simp
    obtain ⟨instruction, inside, mentions⟩ := List.mem_flatMap.mp named
    have listed : address ∈ list.flatMap Instruction.addresses := List.mem_flatMap.mpr
      ⟨instruction, inside, Instruction.mem_addresses.mpr (Instruction.mem_acts_names.mp mentions)⟩
    exact ⟨address, (emits.foreign address foreign).mp listed, foreign, same⟩
  · exact absurd unconsumed (Act.not_unconsumed_of_linear emits.linear bucket)

end Emits

namespace Template

/-- What a wallet can be asked to put into a manifest. -/
inductive Task where
  | faucet (recipient : Address)
  | transfer (sender : Address) (fungibles : List FungibleLeg) (nonFungibles : List NonFungibleLeg)
  | claim (account : Address) (claims : List Claim)
  | depositSettings (settings : DepositSettings)
  | ownerKeys (entity : Address) (hashes : List KeyHash)

namespace Task

def manifest : Task → Except Failure Manifest
  | faucet recipient => Template.faucet recipient
  | transfer sender fungibles nonFungibles => Template.transfer sender fungibles nonFungibles
  | claim account claims => Template.claim account claims
  | depositSettings settings => Template.depositSettings settings
  | ownerKeys entity hashes => Template.ownerKeys entity hashes

/-- The entity whose network the manifest is for. -/
def subject : Task → Address
  | faucet recipient => recipient
  | transfer sender _ _ => sender
  | claim account _ => account
  | depositSettings settings => settings.account
  | ownerKeys entity _ => entity

/-- All addresses of the input. -/
def addresses : Task → List Address
  | faucet recipient => [recipient]
  | transfer sender fungibles nonFungibles =>
    sender :: (fungibles.flatMap fun leg => [leg.recipient, leg.resource]) ++
      nonFungibles.flatMap fun leg => [leg.recipient, leg.id.resource]
  | claim account claims => account :: claims.flatMap fun claim => [claim.resource, claim.validator]
  | depositSettings settings =>
    settings.account :: settings.removeExceptions ++ settings.addExceptions.map (·.1) ++
      (settings.removeDepositors ++ settings.addDepositors).map Badge.shown
  | ownerKeys entity _ => [entity]

/-- The amounts of the input can be summed up, with every partial sum on the way. -/
def SumsFit : Task → Prop
  | transfer _ fungibles _ => LegsFit fungibles
  | claim _ claims => ∀ claim ∈ claims, claim.Fits
  | faucet _ | depositSettings _ | ownerKeys _ _ => True

/-- What is told where they cannot. -/
def overflow : Task → String
  | transfer _ _ _ => "transfer total overflows"
  | _ => AmountError.overflow.message

/-- There are so few legs or claims that the numbers of the buckets do not start over. -/
def Small : Task → Prop
  | transfer _ fungibles nonFungibles => fungibles.length < 2 ^ 31 ∧ nonFungibles.length < 2 ^ 31
  | claim _ claims => claims.length < 2 ^ 31
  | faucet _ | depositSettings _ | ownerKeys _ _ => True

/-- The instructions, or what is told where an amount is too large. -/
def instructions : Task → Except String (List Instruction)
  | faucet recipient => .ok (faucetInstructions recipient)
  | transfer sender fungibles nonFungibles => transferInstructions sender fungibles nonFungibles
  | claim account claims => (claimAll account 0 claims).mapError AmountError.message
  | depositSettings settings => .ok (depositSettingsInstructions settings)
  | ownerKeys entity hashes => .ok [.setOwnerKeys entity hashes]

theorem manifest_eq (task : Task) : task.manifest = convert task.subject task.instructions := by
  cases task <;> rfl

theorem emits_faucet (recipient : Address) :
    Emits recipient.network [recipient] (faucetInstructions recipient) := by
  have bucketless : ∀ instruction ∈ faucetInstructions recipient, instruction.Bucketless := by
    simp only [faucetInstructions, List.forall_mem_cons]
    exact ⟨Instruction.bucketless_of rfl fun _ => rfl, Instruction.bucketless_of rfl fun _ => rfl,
      Instruction.bucketless_of rfl fun _ => rfl, List.forall_mem_nil _⟩
  have named : (faucetInstructions recipient).flatMap Instruction.addresses =
      [Address.faucet recipient.network, Address.faucet recipient.network, recipient] := rfl
  refine ⟨linear_of_bucketless bucketless, fun address foreign => ?_⟩
  have unknown : address ≠ Address.faucet recipient.network := fun same => foreign (same ▸ rfl)
  simp [named, unknown]

theorem emits_transfer {sender : Address} {fungibles : List FungibleLeg}
    {nonFungibles : List NonFungibleLeg} (few : fungibles.length < 2 ^ 31)
    (few' : nonFungibles.length < 2 ^ 31) {totals : Totals} (sums : totals.Sums fungibles) :
    Emits sender.network (transfer sender fungibles nonFungibles).addresses
      (fungibleTransfers sender fungibles 0 totals ++
        nonFungibleTransfers sender fungibles.length nonFungibles) := by
  have size : UInt32.size = 2 ^ 32 := rfl
  have dealt := dealt_le (sums.resources ▸ nodup_eraseDups _) fungibles
  have first : Deals 0 fungibles.length (fungibleTransfers sender fungibles 0 totals) :=
    (deals_fungibleTransfers sender fungibles totals (by omega)).mono (by omega)
  have second : Deals fungibles.length _ (nonFungibleTransfers sender fungibles.length nonFungibles) :=
    deals_nonFungibleTransfers sender nonFungibles (by omega)
  refine ⟨(first.append second ⟨by omega, by omega⟩ (by omega)).linear, ?_⟩
  intro address foreign
  have other : address ≠ sender := fun same => foreign (congrArg Address.network same)
  rw [List.flatMap_append, List.mem_append, mem_addresses_fungibleTransfers other sums,
    mem_addresses_nonFungibleTransfers other]
  simp [addresses, other, or_comm]

theorem emits_claim {account : Address} {claims : List Claim} (few : claims.length < 2 ^ 31)
    {list : List Instruction} (told : claimAll account 0 claims = .ok list) :
    Emits account.network (claim account claims).addresses list := by
  have size : UInt32.size = 2 ^ 32 := rfl
  refine ⟨(deals_claimAll told (by omega)).linear, fun address foreign => ?_⟩
  have other : address ≠ account := fun same => foreign (congrArg Address.network same)
  rw [mem_addresses_claimAll foreign told]
  simp [addresses, other]

theorem emits_depositSettings (settings : DepositSettings) :
    Emits settings.account.network (depositSettings settings).addresses
      (depositSettingsInstructions settings) := by
  refine ⟨linear_of_bucketless (bucketless_depositSettings settings), fun address foreign => ?_⟩
  have other : address ≠ settings.account := fun same => foreign (congrArg Address.network same)
  rw [mem_addresses_depositSettings other, addresses, List.cons_append, List.cons_append, List.mem_cons,
    or_iff_right other]

theorem emits_ownerKeys (entity : Address) (hashes : List KeyHash) :
    Emits entity.network [entity] [.setOwnerKeys entity hashes] := by
  have deals : Deals 0 0 [.setOwnerKeys entity hashes] :=
    .single (Instruction.bucketless_setOwnerKeys entity hashes)
  refine ⟨deals.linear, fun address _ => ?_⟩
  rw [List.flatMap_singleton, Instruction.addresses_setOwnerKeys]

/-- A task comes to instructions, or it is about an amount that is too large. -/
theorem instructions_cases (task : Task) (small : task.Small) :
    (task.SumsFit ∧ ∃ list, task.instructions = .ok list ∧
      Emits task.subject.network task.addresses list) ∨
    ¬ task.SumsFit ∧ task.instructions = .error task.overflow := by
  cases task with
  | faucet recipient => exact .inl ⟨trivial, _, rfl, emits_faucet recipient⟩
  | transfer sender fungibles nonFungibles =>
    rcases Totals.of_cases fungibles with ⟨fits, totals, told, sums⟩ | ⟨large, untold⟩
    · exact .inl ⟨fits, _, by rw [instructions, transferInstructions, told]; rfl,
        emits_transfer small.1 small.2 sums⟩
    · exact .inr ⟨large, by rw [instructions, transferInstructions, untold]; rfl⟩
  | claim account claims =>
    rcases claimAll_cases account 0 claims with ⟨fits, list, told⟩ | ⟨large, failed⟩
    · exact .inl ⟨fits, list, by rw [instructions, told]; rfl, emits_claim small told⟩
    · exact .inr ⟨large, by rw [instructions, failed]; rfl⟩
  | depositSettings settings => exact .inl ⟨trivial, _, rfl, emits_depositSettings settings⟩
  | ownerKeys entity hashes => exact .inl ⟨trivial, _, rfl, emits_ownerKeys entity hashes⟩

/-- A task comes to a manifest exactly when its addresses are on the network of its subject and its sums
fit. Otherwise the failure tells which of the two is not so. The check of the instructions never
finds anything wrong with their buckets. -/
theorem manifest_spec (task : Task) (small : task.Small) :
    let network := task.subject.network
    ((∃ manifest, task.manifest = .ok manifest) ↔
      (∀ address ∈ task.addresses, address.network = network) ∧ task.SumsFit) ∧
    (∀ failure, task.manifest = .error failure →
      (¬ task.SumsFit ∧ failure = .convertManifest task.overflow) ∨
      ∃ address ∈ task.addresses, address.network ≠ network ∧
        failure = .convertManifest (ManifestError.wrongNetwork address network).message) ∧
    task.manifest = convert task.subject task.instructions ∧
    ∀ list, task.instructions = .ok list → ∀ e, Manifest.make network list [] = .error e →
      ∃ address ∈ task.addresses, address.network ≠ network ∧ e = .wrongNetwork address network := by
  intro network
  rw [manifest_eq]
  rcases task.instructions_cases small with ⟨fits, list, told, emits⟩ | ⟨large, untold⟩
  · have accepted : (∃ manifest, Manifest.make network list [] = .ok manifest) ↔ _ :=
      Manifest.exists_make_iff.trans emits.wellFormed_iff
    rw [told, convert, Manifest.convert]
    simp only [Except.ok.injEq, forall_eq']
    cases made : Manifest.make network list [] with
    | ok manifest =>
      have onNetwork := accepted.mp ⟨manifest, made⟩
      exact ⟨iff_of_true ⟨manifest, rfl⟩ ⟨onNetwork, fits⟩, nofun, trivial, nofun⟩
    | error e =>
      obtain ⟨address, member, foreign, rfl⟩ := emits.error made
      refine ⟨iff_of_false nofun fun both => foreign (both.1 address member), ?_, trivial, ?_⟩
      · rintro failure ⟨⟩
        exact .inr ⟨address, member, foreign, rfl⟩
      · rintro other ⟨⟩
        exact ⟨address, member, foreign, rfl⟩
  · rw [untold, convert]
    refine ⟨iff_of_false nofun fun both => large both.2, ?_, rfl, nofun⟩
    rintro failure ⟨⟩
    exact .inl ⟨large, rfl⟩

/-- Five units for an account of the same network, and for one of another network. -/
theorem manifest_spec_sample :
    let sender : Address := ⟨.account, .stokenet, Address.wellKnownBody 7⟩
    let leg (network : Network) : FungibleLeg :=
      ⟨⟨.account, network, Address.wellKnownBody 8⟩, .nativeToken .stokenet, .ofUnits 5, false⟩
    let task (network : Network) : Task := .transfer sender [leg network] []
    (task .stokenet).Small ∧ (task .mainnet).Small ∧
      (∃ manifest, (task .stokenet).manifest = .ok manifest) ∧
      ¬ ∃ manifest, (task .mainnet).manifest = .ok manifest := by
  intro sender leg task
  have few : 1 < 2 ^ 31 ∧ 0 < 2 ^ 31 := by decide
  have fits (network : Network) : LegsFit ([] ++ [leg network]) := by
    have sum : Amount.attosSum (owed (leg network).resource []) + (leg network).amount.attos =
        5000000000000000000 := rfl
    exact legsFit_concat.mpr ⟨legsFit_nil, sum ▸ ⟨by decide, by decide⟩⟩
  have onNetwork : ∀ address ∈ (task .stokenet).addresses, address.network = .stokenet := by
    simp only [task, addresses, List.flatMap_cons, List.flatMap_nil, List.append_nil,
      List.forall_mem_cons]
    exact ⟨rfl, rfl, rfl, List.forall_mem_nil _⟩
  refine ⟨few, few, (manifest_spec (task .stokenet) few).1.mpr ⟨onNetwork, fits .stokenet⟩, fun made => ?_⟩
  have own : Network.mainnet = Network.stokenet := ((manifest_spec (task .mainnet) few).1.mp made).1 (leg .mainnet).recipient
    (by simp [task, addresses])
  exact absurd own (by decide)

end Task

/-- A template comes to its instructions, when they are told and well formed. -/
theorem convert_eq_ok {subject : Address} {instructions : Except String (List Instruction)}
    {manifest : Manifest} : convert subject instructions = .ok manifest ↔
      ∃ list, instructions = .ok list ∧ WellFormed subject.network list ∧
        manifest = ⟨subject.network, .instructions list, []⟩ := by
  cases instructions with
  | error reason => simp [convert]
  | ok list =>
    simp only [convert, Except.ok.injEq, exists_eq_left', ← Manifest.make_eq_ok, Manifest.convert]
    cases Manifest.make subject.network list [] <;> simp [Except.mapError]

theorem Task.exists_manifest (task : Task) (small : task.Small) (fits : task.SumsFit)
    (onNetwork : ∀ address ∈ task.addresses, address.network = task.subject.network) :
    ∃ manifest, task.manifest = .ok manifest := by
  rcases task.instructions_cases small with ⟨-, list, told, emits⟩ | ⟨large, -⟩
  · rw [task.manifest_eq]
    exact ⟨_, convert_eq_ok.mpr ⟨list, told, emits.wellFormed_iff.mpr onNetwork, rfl⟩⟩
  · exact absurd fits large

end Template

end LedgerWallet
