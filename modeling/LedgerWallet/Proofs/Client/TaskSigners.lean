import LedgerWallet.Proofs.Client.Signers
import LedgerWallet.Proofs.Manifest.Tasks

/-! Who signs the manifest of a template. The account that acts signs for the calls that are made on its
behalf, and of the others those sign whose signature was asked for. -/
namespace LedgerWallet

namespace Instruction

theorem authTarget?_callAccount (account : Address) (method : AccountMethod) (args : List Value) :
    (callAccount account method args).authTarget? =
      if account.isAccount && method.needsAuth then some account else none := by
  rw [callAccount, authTarget?, AccountMethod.ofName?_eq_some.mpr rfl, Option.any_some]

theorem authTarget?_callAccount_of_needsAuth {account : Address} (isAccount : account.isAccount)
    {method : AccountMethod} (needed : method.needsAuth) (args : List Value) :
    (callAccount account method args).authTarget? = some account := by
  rw [authTarget?_callAccount, isAccount, needed]
  rfl

theorem authTarget?_withdraw {account : Address} (isAccount : account.isAccount) (resource : Address)
    (amount : Amount) : (withdraw account resource amount).authTarget? = some account :=
  authTarget?_callAccount_of_needsAuth isAccount rfl _

theorem authTarget?_withdrawNonFungibles {account : Address} (isAccount : account.isAccount)
    (resource : Address) (ids : List LocalId) :
    (withdrawNonFungibles account resource ids).authTarget? = some account :=
  authTarget?_callAccount_of_needsAuth isAccount rfl _

/-- A method that accounts do not have needs nobody's signature, not even where an account is called. -/
theorem authTarget?_callMethod_of_unknown {method : String}
    (unknown : AccountMethod.ofName? method = none) (receiver : Address) (args : List Value) :
    (callMethod receiver method args).authTarget? = none := by
  rw [authTarget?, unknown, Option.any_none, Bool.and_false]
  rfl

end Instruction

namespace Template

/-- The account that has to sign for what it gets. -/
def signerFor (recipient : Address) (signatureRequired : Bool) : Option Address :=
  if recipient.isAccount && signatureRequired then some recipient else none

theorem authTarget?_depositFor (recipient : Address) (signatureRequired : Bool) (bucket : Bucket) :
    (depositFor recipient signatureRequired bucket).authTarget? =
      signerFor recipient signatureRequired := by
  cases signatureRequired <;> exact Instruction.authTarget?_callAccount recipient _ _

theorem signerFor_eq_some {recipient account : Address} {signatureRequired : Bool} :
    signerFor recipient signatureRequired = some account ↔
      recipient = account ∧ account.isAccount ∧ signatureRequired := by
  rw [signerFor, Option.ite_none_right_eq_some, Option.some_inj, Bool.and_eq_true]
  constructor
  · rintro ⟨signs, rfl⟩
    exact ⟨rfl, signs⟩
  · rintro ⟨rfl, signs⟩
    exact ⟨signs, rfl⟩

/-- Who signs for what the legs bring, leg by leg. -/
def legSigners (fungibles : List FungibleLeg) (nonFungibles : List NonFungibleLeg) : List Address :=
  (fungibles.filterMap fun leg => signerFor leg.recipient leg.signatureRequired) ++
    nonFungibles.filterMap fun leg => signerFor leg.recipient leg.signatureRequired

/-- Nothing is asked to change. -/
def DepositSettings.unchanged (settings : DepositSettings) : Bool :=
  settings.defaultRule.isNone && settings.removeExceptions.isEmpty && settings.addExceptions.isEmpty &&
    settings.removeDepositors.isEmpty && settings.addDepositors.isEmpty

namespace Task

/-- What is done on behalf of an account is done by one. -/
def ByAccount : Task → Prop
  | transfer sender _ _ => sender.isAccount
  | claim account _ => account.isAccount
  | depositSettings settings => settings.account.isAccount
  | faucet _ | ownerKeys _ _ => True

/-- Who is asked to sign: the account that acts, if there is anything to do, and then those who sign for
what they get. -/
def signers : Task → List Address
  | transfer sender fungibles nonFungibles =>
    if fungibles.isEmpty && nonFungibles.isEmpty then []
    else (sender :: legSigners (byResource fungibles) nonFungibles).eraseDups
  | claim account claims => if claims.isEmpty then [] else [account]
  | depositSettings settings => if settings.unchanged then [] else [settings.account]
  | faucet _ | ownerKeys _ _ => []

/-- A leg for the account asks for its signature. -/
def AsksFor (account : Address) : Task → Prop
  | transfer _ fungibles nonFungibles =>
    (∃ leg ∈ fungibles, leg.recipient = account ∧ leg.signatureRequired) ∨
      ∃ leg ∈ nonFungibles, leg.recipient = account ∧ leg.signatureRequired
  | _ => False

end Task

section Transfers

variable {sender : Address} {first : Nat}

theorem authTargets_fungibleLegs (legs : List FungibleLeg) :
    (fungibleLegs first legs).filterMap Instruction.authTarget? =
      legs.filterMap fun leg => signerFor leg.recipient leg.signatureRequired := by
  induction legs generalizing first with
  | nil => rfl
  | cons leg rest ih =>
    have taken (bucket : Bucket) :
        (Instruction.take leg.resource leg.amount bucket).authTarget? = none := rfl
    rw [fungibleLegs_cons, List.filterMap_append, ih, List.filterMap_cons_none (taken _),
      List.filterMap_cons, authTarget?_depositFor, List.filterMap_cons]
    cases signerFor leg.recipient leg.signatureRequired <;> rfl

/-- The sender signs for each resource, and apart from that those sign who sign for a leg. -/
theorem authTargets_fungibleTransfers (isAccount : sender.isAccount) (legs : List FungibleLeg)
    (totals : Totals) :
    ((fungibleTransfers sender legs first totals).filterMap Instruction.authTarget?).filter
        (fun other => !other == sender) =
      (((totals.map (·.1)).flatMap fun resource => legs.filter (·.resource = resource)).filterMap
        fun leg => signerFor leg.recipient leg.signatureRequired).filter fun other => !other == sender := by
  induction totals generalizing first with
  | nil => rfl
  | cons entry rest ih =>
    obtain ⟨resource, total⟩ := entry
    rw [fungibleTransfers, List.filterMap_append,
      List.filterMap_cons_some (Instruction.authTarget?_withdraw isAccount _ _),
      authTargets_fungibleLegs, List.map_cons, List.flatMap_cons, List.filterMap_append,
      List.filter_append, List.filter_append, ih, List.filter_cons_of_neg (by simp)]

@[inherit_doc authTargets_fungibleTransfers]
theorem authTargets_nonFungibleTransfers (isAccount : sender.isAccount) (legs : List NonFungibleLeg) :
    ((nonFungibleTransfers sender first legs).filterMap Instruction.authTarget?).filter
        (fun other => !other == sender) =
      (legs.filterMap fun leg => signerFor leg.recipient leg.signatureRequired).filter
        fun other => !other == sender := by
  induction legs generalizing first with
  | nil => rfl
  | cons leg rest ih =>
    have taken (ids : List LocalId) (bucket : Bucket) :
        (Instruction.takeNonFungibles leg.id.resource ids bucket).authTarget? = none := rfl
    rw [nonFungibleTransfers_cons, List.append_assoc, List.singleton_append,
      List.filterMap_cons_some (Instruction.authTarget?_withdrawNonFungibles isAccount _ _),
      List.filterMap_append, List.filterMap_cons_none (taken _ _), List.filterMap_cons,
      authTarget?_depositFor, List.filter_cons_of_neg (by simp), List.filter_append, ih,
      List.filterMap_cons]
    cases signerFor leg.recipient leg.signatureRequired with
    | none => rfl
    | some recipient =>
      rw [← List.filter_append]
      rfl

/-- Whatever is sent, the first instruction withdraws it. -/
theorem head?_authTargets (isAccount : sender.isAccount) {fungibles : List FungibleLeg}
    {nonFungibles : List NonFungibleLeg} (legs : ¬ (fungibles.isEmpty && nonFungibles.isEmpty))
    {totals : Totals} (sums : totals.Sums fungibles) :
    ((fungibleTransfers sender fungibles 0 totals ++
      nonFungibleTransfers sender fungibles.length nonFungibles).filterMap
        Instruction.authTarget?).head? = some sender := by
  cases totals with
  | cons entry rest =>
    rw [fungibleTransfers, List.cons_append, List.cons_append,
      List.filterMap_cons_some (Instruction.authTarget?_withdraw isAccount _ _), List.head?_cons]
  | nil =>
    have none : fungibles = [] := List.eq_nil_iff_forall_not_mem.mpr fun leg member =>
      List.not_mem_nil ((mem_resources sums).mpr ⟨leg, member, rfl⟩)
    subst none
    cases nonFungibles with
    | nil => exact absurd rfl legs
    | cons leg rest =>
      rw [fungibleTransfers, List.nil_append, nonFungibleTransfers_cons, List.append_assoc,
        List.singleton_append,
        List.filterMap_cons_some (Instruction.authTarget?_withdrawNonFungibles isAccount _ _),
        List.head?_cons]

theorem authTargets_transfer (isAccount : sender.isAccount) {fungibles : List FungibleLeg}
    {nonFungibles : List NonFungibleLeg} {totals : Totals} (sums : totals.Sums fungibles) :
    ((fungibleTransfers sender fungibles 0 totals ++
      nonFungibleTransfers sender fungibles.length nonFungibles).filterMap
        Instruction.authTarget?).eraseDups = (Task.transfer sender fungibles nonFungibles).signers := by
  rw [Task.signers]
  split
  · next none =>
    rw [Bool.and_eq_true, List.isEmpty_iff, List.isEmpty_iff] at none
    obtain ⟨rfl, rfl⟩ := none
    rw [List.map_eq_nil_iff.mp sums.resources]
    rfl
  · next legs =>
    refine eraseDups_of_head? _ (head?_authTargets isAccount legs sums) ?_
    rw [List.filterMap_append, List.filter_append, authTargets_fungibleTransfers isAccount,
      authTargets_nonFungibleTransfers isAccount, ← List.filter_append, sums.resources]
    rfl

end Transfers

section Others

variable {account : Address}

/-- Each claim is made by the account, which also keeps what it gets. -/
theorem authTargets_claimAll (isAccount : account.isAccount) {first : Nat} {claims : List Claim}
    {list : List Instruction} (told : claimAll account first claims = .ok list) :
    list.filterMap Instruction.authTarget? = claims.flatMap fun _ => [account, account] := by
  induction claims generalizing first list with
  | nil =>
    cases told
    rfl
  | cons claim rest ih =>
    obtain ⟨total, later, -, others, rfl⟩ := claimAll_cons.mp told
    have own : (claimInstructions account claim total first).filterMap Instruction.authTarget? =
        [account, account] := by
      have handed := Instruction.authTarget?_callMethod_of_unknown
        (show AccountMethod.ofName? "claim_xrd" = none by decide) claim.validator
        [.ofBucket (.numbered first)]
      have kept : (Instruction.deposit account (.numbered (first + 1))).authTarget? = some account :=
        Instruction.authTarget?_callAccount_of_needsAuth isAccount rfl _
      rw [claimInstructions,
        List.filterMap_cons_some (Instruction.authTarget?_withdrawNonFungibles isAccount _ _),
        List.filterMap_cons_none rfl, List.filterMap_cons_none handed, List.filterMap_cons_none rfl,
        List.filterMap_cons_some kept, List.filterMap_nil]
    rw [List.filterMap_append, own, ih others, List.flatMap_cons]

/-- Every change is made by the account itself. -/
theorem authTarget?_depositSettings {settings : DepositSettings}
    (isAccount : settings.account.isAccount) {instruction : Instruction}
    (member : instruction ∈ depositSettingsInstructions settings) :
    instruction.authTarget? = some settings.account := by
  simp only [depositSettingsInstructions, List.mem_append, List.mem_map] at member
  rcases member with (((⟨_, -, rfl⟩ | ⟨_, -, rfl⟩) | ⟨_, -, rfl⟩) | ⟨_, -, rfl⟩) | ⟨_, -, rfl⟩
  all_goals exact Instruction.authTarget?_callAccount_of_needsAuth isAccount rfl _

theorem depositSettingsInstructions_eq_nil {settings : DepositSettings} :
    depositSettingsInstructions settings = [] ↔ settings.unchanged := by
  simp [depositSettingsInstructions, DepositSettings.unchanged, and_assoc]

end Others

namespace Task

/-- Those who sign the instructions of a task are its signers. -/
theorem eraseDups_authTargets {task : Task} (acts : task.ByAccount) {list : List Instruction}
    (told : task.instructions = .ok list) :
    (list.filterMap Instruction.authTarget?).eraseDups = task.signers := by
  cases task with
  | faucet recipient =>
    cases told
    have locked : (Instruction.faucetLockFee (.faucet recipient.network) faucetFee).authTarget? = none :=
      rfl
    have freed : (Instruction.faucetFree (.faucet recipient.network)).authTarget? = none := rfl
    have deposited : (Instruction.tryDepositWorktop recipient).authTarget? = none := by
      rw [Instruction.tryDepositWorktop, Instruction.authTarget?_callAccount,
        show AccountMethod.tryDepositBatchOrAbort.needsAuth = false from rfl, Bool.and_false]
      rfl
    rw [faucetInstructions, List.filterMap_cons_none locked, List.filterMap_cons_none freed,
      List.filterMap_cons_none deposited]
    rfl
  | transfer sender fungibles nonFungibles =>
    rw [instructions, transferInstructions] at told
    rcases Totals.of_cases fungibles with ⟨-, totals, summed, sums⟩ | ⟨-, untold⟩
    · rw [summed] at told
      cases told
      exact authTargets_transfer acts sums
    · rw [untold] at told
      contradiction
  | claim account claims =>
    rw [instructions] at told
    cases claimed : claimAll account 0 claims with
    | error reason =>
      rw [claimed] at told
      contradiction
    | ok list' =>
      rw [claimed] at told
      cases told
      rw [authTargets_claimAll acts claimed, signers]
      cases claims with
      | nil => rfl
      | cons claim rest => exact (eraseDups_of_head? [] rfl (by simp)).trans rfl
  | depositSettings settings =>
    cases told
    have same : (depositSettingsInstructions settings).filterMap Instruction.authTarget? =
        (depositSettingsInstructions settings).map fun _ => settings.account := by
      rw [← List.filterMap_eq_map]
      exact List.filterMap_congr fun _ member => authTarget?_depositSettings acts member
    have idle : depositSettingsInstructions settings = [] ↔ settings.unchanged :=
      depositSettingsInstructions_eq_nil
    rw [same, signers]
    cases changes : depositSettingsInstructions settings with
    | nil =>
      rw [if_pos (idle.mp changes)]
      rfl
    | cons change rest =>
      rw [if_neg (mt idle.mpr (by rw [changes]; exact List.cons_ne_nil change rest))]
      exact (eraseDups_of_head? [] rfl (by simp)).trans rfl
  | ownerKeys entity hashes =>
    cases told
    rfl

theorem mem_signers {task : Task} {account : Address} (member : account ∈ task.signers) :
    account = task.subject ∨ task.AsksFor account := by
  cases task with
  | faucet _ => exact absurd member List.not_mem_nil
  | transfer sender fungibles nonFungibles =>
    rw [signers] at member
    split at member
    · exact absurd member List.not_mem_nil
    · rw [List.mem_eraseDups, List.mem_cons, legSigners, List.mem_append] at member
      simp only [List.mem_filterMap, signerFor_eq_some, (byResource_perm fungibles).mem_iff] at member
      rcases member with rfl | ⟨leg, member, same, -, asked⟩ | ⟨leg, member, same, -, asked⟩
      · exact .inl rfl
      · exact .inr (.inl ⟨leg, member, same, asked⟩)
      · exact .inr (.inr ⟨leg, member, same, asked⟩)
  | claim acting claims =>
    rw [signers] at member
    split at member
    · exact absurd member List.not_mem_nil
    · exact .inl (List.mem_singleton.mp member)
  | depositSettings settings =>
    rw [signers] at member
    split at member
    · exact absurd member List.not_mem_nil
    · exact .inl (List.mem_singleton.mp member)
  | ownerKeys _ _ => exact absurd member List.not_mem_nil

/-- Who signs for what a template does, if it comes to a manifest: the account that acts, and then each
account that is sent something with its signature, as the legs are dealt with. An account that gets
something without being asked is not among them. -/
theorem authAccounts_eq (task : Task) (acts : task.ByAccount) {manifest : Manifest}
    (made : task.manifest = .ok manifest) :
    manifest.authAccounts = task.signers ∧
      ∀ account ∈ manifest.authAccounts, account = task.subject ∨ task.AsksFor account := by
  rw [manifest_eq] at made
  obtain ⟨list, told, -, rfl⟩ := convert_eq_ok.mp made
  have signs : Manifest.authAccounts ⟨task.subject.network, .instructions list, []⟩ = task.signers :=
    eraseDups_authTargets acts told
  exact ⟨signs, fun account member => mem_signers (signs ▸ member)⟩

/-- Two resources go to the sender, to a friend without being asked and to one who is asked, and to a
component that cannot be. -/
theorem authAccounts_eq_sample :
    let account (n : UInt8) : Address := ⟨.account, .stokenet, Address.wellKnownBody n⟩
    let coin (n : UInt8) : Address := ⟨.resource, .stokenet, Address.wellKnownBody n⟩
    let leg (recipient : Address) (n : UInt8) (signed : Bool) : FungibleLeg :=
      ⟨recipient, coin n, .ofUnits 5, signed⟩
    let task : Task := .transfer (account 1)
      [leg (account 2) 1 false, leg (account 1) 2 true, leg (account 3) 1 true,
        leg (.faucet .stokenet) 2 true] [⟨account 3, ⟨coin 3, .integer 1⟩, true⟩]
    ∃ manifest, task.manifest = .ok manifest ∧ manifest.authAccounts = [account 1, account 3] := by
  intro account coin leg task
  have fits : task.SumsFit := Totals.legsFit_of_isSome (by decide)
  obtain ⟨manifest, made⟩ := task.exists_manifest ⟨by decide, by decide⟩ fits (by decide)
  exact ⟨manifest, made, (authAccounts_eq task rfl made).1.trans (by decide)⟩

end Task

end Template

end LedgerWallet
