import LedgerWallet.Proofs.Client.Signers
import LedgerWallet.Proofs.Manifest.Amendment

/-! Manifests that are amended again and again. An amended manifest is not judged anew, and does not
have to be: what an amendment adds handles no bucket, so that it can stand anywhere. -/
namespace LedgerWallet

namespace Instruction

theorem bucketless_assertContains (resource : Address) (amount : Amount) :
    (assertContains resource amount).Bucketless := by
  intro bucket
  rw [not_handles_iff]
  exact ⟨id, rfl⟩

theorem mentions_assertContains {resource address : Address} {amount : Amount} :
    (assertContains resource amount).Mentions address ↔ address = resource := by
  constructor
  · rintro ⟨⟩
    rfl
  · rintro rfl
    exact .asserted

end Instruction

/-- A guarantee that is put in at an index, or a fee payment that is put in front. -/
inductive Amendment where
  | guarantee (index : Nat) (resource : Address) (amount : Amount)
  | lockFee (payer : Address) (amount : Amount)

namespace Amendment

def outcome (manifest : Manifest) : Amendment → Except ManifestError Manifest
  | guarantee index resource amount => manifest.guarantee index resource amount
  | lockFee payer amount => .ok (manifest.lockFee payer amount)

/-- The manifest after an amendment. One that fails leaves it as it was. -/
def apply (manifest : Manifest) (amendment : Amendment) : Manifest :=
  match amendment.outcome manifest with
  | .ok amended => amended
  | .error _ => manifest

theorem apply_of_ok {manifest amended : Manifest} {amendment : Amendment}
    (granted : amendment.outcome manifest = .ok amended) : amendment.apply manifest = amended := by
  rw [apply, granted]

theorem apply_of_error {manifest : Manifest} {amendment : Amendment} {e : ManifestError}
    (refused : amendment.outcome manifest = .error e) : amendment.apply manifest = manifest := by
  rw [apply, refused]

/-- Fees are paid by accounts on the network. -/
def Payable (network : Network) : Amendment → Prop
  | guarantee _ _ _ => True
  | lockFee payer _ => payer.isAccount ∧ payer.network = network

end Amendment

namespace Manifest

def amend (manifest : Manifest) (amendments : List Amendment) : Manifest :=
  amendments.foldl Amendment.apply manifest

theorem amend_concat (manifest : Manifest) (amendments : List Amendment) (last : Amendment) :
    manifest.amend (amendments ++ [last]) = last.apply (manifest.amend amendments) :=
  List.foldl_concat ..

variable {network : Network} {list : List Instruction} {blobs : List (List UInt8)}

theorem guarantee_of_instructions (index : Nat) (resource : Address) (amount : Amount) :
    guarantee ⟨network, .instructions list, blobs⟩ index resource amount =
      if resource.network ≠ network then .error (.wrongNetwork resource network)
      else if list.length < index then .error (.indexOutOfBounds index list.length)
      else .ok ⟨network, .instructions
        (list.take index ++ .assertContains resource amount :: list.drop index), blobs⟩ := by
  rw [guarantee, Network.check]
  by_cases same : resource.network = network
  · rw [if_pos same, if_neg (not_not.mpr same)]
    rfl
  · rw [if_neg same, if_pos same]
    rfl

theorem guarantee_eq_error {index : Nat} {resource : Address} {amount : Amount} {e : ManifestError} :
    guarantee ⟨network, .instructions list, blobs⟩ index resource amount = .error e ↔
      resource.network ≠ network ∧ e = .wrongNetwork resource network ∨
      resource.network = network ∧ list.length < index ∧
        e = .indexOutOfBounds index list.length := by
  rw [guarantee_of_instructions]
  by_cases foreign : resource.network ≠ network
  · simp [foreign, eq_comm]
  · by_cases outside : list.length < index
    · simp [not_not.mp foreign, outside, eq_comm]
    · simp [foreign, outside]

theorem guarantee_eq_ok {index : Nat} {resource : Address} {amount : Amount} {amended : Manifest} :
    guarantee ⟨network, .instructions list, blobs⟩ index resource amount = .ok amended ↔
      resource.network = network ∧ ∃ before after, list = before ++ after ∧ before.length = index ∧
        amended = ⟨network,
          .instructions (before ++ .assertContains resource amount :: after), blobs⟩ := by
  rw [guarantee_of_instructions]
  constructor
  · intro amends
    split at amends
    · contradiction
    next same =>
    split at amends
    · contradiction
    next inside =>
    cases amends
    refine ⟨not_not.mp same, list.take index, list.drop index, ?_, ?_, rfl⟩
    · exact (List.take_append_drop index list).symm
    · exact List.length_take_of_le (Nat.le_of_not_lt inside)
  · rintro ⟨same, before, after, rfl, rfl, rfl⟩
    simp [same]

/-- An assertion needs no signature, wherever it stands. -/
theorem authAccounts_guaranteed (before after : List Instruction) (resource : Address)
    (amount : Amount) :
    authAccounts ⟨network, .instructions (before ++ .assertContains resource amount :: after), blobs⟩ =
      authAccounts ⟨network, .instructions (before ++ after), blobs⟩ := by
  simp only [authAccounts, instructions?, Option.getD_some, List.filterMap_append]
  rw [List.filterMap_cons_none rfl]

/-- The payer of a fee comes before all others, and not again among them. -/
theorem authAccounts_lockFee {payer : Address} (isAccount : payer.isAccount) (amount : Amount) :
    authAccounts ⟨network, .instructions (.lockFee payer amount :: list), blobs⟩ =
      payer :: (authAccounts ⟨network, .instructions list, blobs⟩).filter (· ≠ payer) := by
  simp only [authAccounts, instructions?, Option.getD_some]
  rw [List.filterMap_cons_some (Instruction.authTarget?_lockFee isAccount amount),
    List.eraseDups_cons, eraseDups_filter]
  exact congrArg (payer :: ·) (List.filter_congr fun other _ => by rw [decide_not, beq_eq_decide])

end Manifest

section Run

variable {network : Network} {list : List Instruction} {blobs : List (List UInt8)}

theorem Amendment.apply_wellFormed (wellFormed : WellFormed network list) {amendment : Amendment}
    (payable : amendment.Payable network) : ∃ amended,
      amendment.apply ⟨network, .instructions list, blobs⟩ =
        ⟨network, .instructions amended, blobs⟩ ∧ WellFormed network amended := by
  cases amendment with
  | guarantee index resource amount =>
    cases judged : Manifest.guarantee ⟨network, .instructions list, blobs⟩ index resource amount with
    | error e => exact ⟨list, apply_of_error judged, wellFormed⟩
    | ok amended =>
      obtain ⟨same, before, after, rfl, -, rfl⟩ := Manifest.guarantee_eq_ok.mp judged
      refine ⟨_, apply_of_ok judged, ?_⟩
      refine (wellFormed_insert (Instruction.bucketless_assertContains resource amount)).mpr
        ⟨wellFormed, ?_⟩
      simpa only [Instruction.mentions_assertContains, forall_eq] using same
  | lockFee payer amount =>
    have paid : Manifest.lockFee ⟨network, .instructions list, blobs⟩ payer amount = _ :=
      Manifest.lockFee_of_instructions rfl payer amount
    exact ⟨_, paid, wellFormed_lockFee.mpr ⟨wellFormed, payable.2⟩⟩

theorem Manifest.amend_wellFormed (wellFormed : WellFormed network list)
    {amendments : List Amendment} (payable : ∀ amendment ∈ amendments, amendment.Payable network) :
    ∃ amended, amend ⟨network, .instructions list, blobs⟩ amendments =
      ⟨network, .instructions amended, blobs⟩ ∧ WellFormed network amended := by
  induction amendments generalizing list with
  | nil => exact ⟨list, rfl, wellFormed⟩
  | cons amendment rest ih =>
    obtain ⟨now, payableRest⟩ := List.forall_mem_cons.mp payable
    obtain ⟨amended, applied, kept⟩ := Amendment.apply_wellFormed wellFormed now
    rw [amend, List.foldl_cons, applied]
    exact ih kept payableRest

end Run

namespace Manifest

/-- However often an accepted manifest is amended, it would be accepted again. A guarantee is refused
for its resource, then for its index, and changes nothing then. Otherwise it is the only instruction
that is new and asks nobody for a signature. The payer of a fee signs before all others. -/
theorem amend_spec {network : Network} {list : List Instruction} {blobs : List (List UInt8)}
    {manifest : Manifest} (accepted : make network list blobs = .ok manifest)
    (amendments : List Amendment) (payable : ∀ amendment ∈ amendments, amendment.Payable network) :
    ∃ current,
      manifest.amend amendments = ⟨network, .instructions current, blobs⟩ ∧
      make network current blobs = .ok (manifest.amend amendments) ∧
      (∀ index resource amount,
        let outcome := (manifest.amend amendments).guarantee index resource amount
        let next := manifest.amend (amendments ++ [.guarantee index resource amount])
        (∀ e, outcome = .error e ↔
          resource.network ≠ network ∧ e = .wrongNetwork resource network ∨
          resource.network = network ∧ current.length < index ∧
            e = .indexOutOfBounds index current.length) ∧
        (∀ e, outcome = .error e → next = manifest.amend amendments) ∧
        ∀ amended, outcome = .ok amended →
          next = amended ∧
          (∃ before after, current = before ++ after ∧ before.length = index ∧
            amended = ⟨network,
              .instructions (before ++ .assertContains resource amount :: after), blobs⟩) ∧
          amended.authAccounts = (manifest.amend amendments).authAccounts) ∧
      ∀ payer amount, payer.isAccount → payer.network = network →
        let next := manifest.amend (amendments ++ [.lockFee payer amount])
        next = ⟨network, .instructions (.lockFee payer amount :: current), blobs⟩ ∧
        next.authAccounts =
          payer :: (manifest.amend amendments).authAccounts.filter (· ≠ payer) := by
  obtain ⟨wellFormed, made⟩ := make_eq_ok.mp accepted
  obtain ⟨current, amended, kept⟩ := amend_wellFormed wellFormed payable
  rw [← made] at amended
  refine ⟨current, amended, make_eq_ok.mpr ⟨kept, amended⟩, fun index resource amount => ?_,
    fun payer amount isAccount _ => ?_⟩
  · intro outcome next
    have next_eq : next = _ := amend_concat manifest amendments (.guarantee index resource amount)
    have same : outcome = guarantee ⟨network, .instructions current, blobs⟩ index resource amount :=
      congrArg (guarantee · index resource amount) amended
    refine ⟨fun e => same ▸ guarantee_eq_error, fun e refused => ?_, fun result granted => ?_⟩
    · exact next_eq.trans (Amendment.apply_of_error refused)
    · obtain ⟨-, before, after, split, position, rfl⟩ := guarantee_eq_ok.mp (same.symm.trans granted)
      refine ⟨?_, ⟨before, after, split, position, rfl⟩, ?_⟩
      · exact next_eq.trans (Amendment.apply_of_ok granted)
      · rw [authAccounts_guaranteed, amended, split]
  · intro next
    have next_eq : next = (manifest.amend amendments).lockFee payer amount :=
      amend_concat _ amendments (.lockFee payer amount)
    rw [next_eq, amended, lockFee_of_instructions rfl]
    exact ⟨rfl, authAccounts_lockFee isAccount amount⟩

/-- A bucket is filled and handed on. The bucket is guarded twice, a fee is paid, and a guarantee beyond
the end is refused. -/
theorem amend_spec_sample :
    let account (n : UInt8) : Address := ⟨.account, .stokenet, Address.wellKnownBody n⟩
    let coin : Address := .nativeToken .stokenet
    let bucket : Bucket := ⟨"bucket0"⟩
    let paid : Instruction := .callAccount (account 1) .withdraw []
    let taken : Instruction := .takeAll coin bucket
    let handed : Instruction := .callAccount (account 2) .deposit [.ofBucket bucket]
    let manifest : Manifest := ⟨.stokenet, .instructions [paid, taken, handed], []⟩
    let amendments : List Amendment := [.guarantee 1 coin (.ofUnits 5), .lockFee (account 2) (.ofUnits 1),
      .guarantee 4 coin .zero, .guarantee 7 coin .zero]
    let amended := manifest.amend amendments
    make .stokenet [paid, taken, handed] [] = .ok manifest ∧
      amended.body = .instructions [.lockFee (account 2) (.ofUnits 1), paid,
        .assertContains coin (.ofUnits 5), taken, .assertContains coin .zero, handed] ∧
      make .stokenet (amended.instructions?.getD []) [] = .ok amended ∧
      manifest.authAccounts = [account 1, account 2] ∧ amended.authAccounts = [account 2, account 1] := by
  intro account coin bucket paid taken handed manifest amendments amended
  have accepted : make .stokenet [paid, taken, handed] [] = .ok manifest := by decide
  have payable : ∀ amendment ∈ amendments, amendment.Payable .stokenet := by
    simp [amendments, Amendment.Payable, account, Address.isAccount]
  obtain ⟨current, stands, again, -, -⟩ := amend_spec accepted amendments payable
  refine ⟨accepted, by decide, ?_, by decide, by decide⟩
  have list : amended.instructions? = some current := congrArg instructions? stands
  rw [list]
  exact again

end Manifest

end LedgerWallet
