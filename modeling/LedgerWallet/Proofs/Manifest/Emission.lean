import LedgerWallet.Proofs.Manifest.Grouping
import LedgerWallet.Proofs.Manifest.Numbering
import LedgerWallet.Proofs.Manifest.Totals

/-! What the templates put into their manifests: the buckets that each part deals with, and the
addresses that it names. -/
namespace LedgerWallet

namespace Instruction

theorem bucketless_of {instruction : Instruction} (creatorless : instruction.newBucket? = none)
    (unused : ∀ bucket, instruction.uses bucket = 0) : instruction.Bucketless := by
  intro bucket
  rw [not_handles_iff, ← newBucket?_eq_some, creatorless]
  exact ⟨nofun, unused bucket⟩

section Plain

variable {α : Type} {make : α → Scalar}

/-- An array of scalars that are no buckets. -/
theorem usesIn_plain (plain : ∀ part, (make part).bucket? = none) (bucket : Bucket) (parts : List α) :
    Value.usesIn bucket (parts.map fun part => .scalar (make part)) = 0 := by
  induction parts with
  | nil => rfl
  | cons part rest ih =>
    have unused : (Value.scalar (make part)).uses bucket = 0 := by
      have none := plain part
      generalize make part = scalar at none ⊢
      cases scalar <;> first | rfl | contradiction
    rw [List.map_cons, Value.usesIn, ih, unused]

/-- An array of scalars that are no addresses. -/
theorem addresses_plain (plain : ∀ part, (make part).address? = none) (parts : List α) :
    (Value.array (parts.map fun part => .scalar (make part))).addresses = [] := by
  rw [Value.addresses, Value.array, Value.scalars]
  induction parts with
  | nil => rfl
  | cons part rest ih =>
    rw [List.map_cons, Value.scalarsOf, List.filterMap_append, ih, Value.scalars]
    simp [plain]

end Plain

theorem bucketless_withdraw (account resource : Address) (amount : Amount) :
    (withdraw account resource amount).Bucketless :=
  bucketless_of rfl fun _ => rfl

theorem bucketless_withdrawNonFungibles (account resource : Address) (ids : List LocalId) :
    (withdrawNonFungibles account resource ids).Bucketless := by
  refine bucketless_of rfl fun bucket => ?_
  have unused : Value.usesIn bucket (ids.map Value.ofLocalId) = 0 :=
    usesIn_plain (fun _ => rfl) bucket ids
  simp only [withdrawNonFungibles, callAccount, uses, Value.usesIn, Value.array, Value.uses, unused]
  rfl

theorem bucketless_setOwnerKeys (entity : Address) (hashes : List KeyHash) :
    (setOwnerKeys entity hashes).Bucketless :=
  bucketless_of rfl fun bucket => usesIn_plain (fun _ => rfl) bucket hashes

theorem addresses_withdraw (account resource : Address) (amount : Amount) :
    (withdraw account resource amount).addresses = [account, resource] := rfl

theorem addresses_withdrawNonFungibles (account resource : Address) (ids : List LocalId) :
    (withdrawNonFungibles account resource ids).addresses = [account, resource] := by
  have none : (Value.array (ids.map Value.ofLocalId)).addresses = [] :=
    addresses_plain (fun _ => rfl) ids
  rw [withdrawNonFungibles, callAccount, addresses, args, List.flatMap_cons, List.flatMap_cons, none]
  rfl

theorem addresses_setOwnerKeys (entity : Address) (hashes : List KeyHash) :
    (setOwnerKeys entity hashes).addresses = [entity] := by
  have none : (Value.array (hashes.map fun hash => .scalar (.keyHash hash))).addresses = [] :=
    addresses_plain (fun _ => rfl) hashes
  rw [setOwnerKeys, addresses, args, List.flatMap_singleton, none]
  rfl

theorem addresses_depositFor (recipient : Address) (signatureRequired : Bool) (bucket : Bucket) :
    (Template.depositFor recipient signatureRequired bucket).addresses = [recipient] := by
  cases signatureRequired <;> rfl

end Instruction

/-- The resource that a depositor shows. -/
def Badge.shown : Badge → Address
  | nonFungible id => id.resource
  | resource address => address

namespace Template

variable {first : Nat} {address sender : Address}

section Fungible

theorem fungibleLegs_cons (first : Nat) (leg : FungibleLeg) (rest : List FungibleLeg) :
    fungibleLegs first (leg :: rest) =
      [.take leg.resource leg.amount (.numbered first),
        depositFor leg.recipient leg.signatureRequired (.numbered first)] ++
          fungibleLegs (first + 1) rest := by
  rw [fungibleLegs, List.zipIdx_cons, List.flatMap_cons, ← fungibleLegs]

theorem deals_fungibleLegs (legs : List FungibleLeg) (small : first + legs.length ≤ UInt32.size) :
    Deals first (first + legs.length) (fungibleLegs first legs) := by
  induction legs generalizing first with
  | nil => exact Deals.nil
  | cons leg rest ih =>
    rw [List.length_cons] at small ⊢
    have later := ih (show first + 1 + rest.length ≤ UInt32.size by omega)
    rw [fungibleLegs_cons, show first + (rest.length + 1) = first + 1 + rest.length by omega]
    have own := Deals.pair
      (show (Instruction.take leg.resource leg.amount (.numbered first)).Creates _ from rfl)
      (Instruction.empties_depositFor leg.recipient leg.signatureRequired (.numbered first))
    exact own.append later ⟨by omega, by omega⟩ (by omega)

theorem mem_addresses_fungibleLegs (legs : List FungibleLeg) :
    address ∈ (fungibleLegs first legs).flatMap Instruction.addresses ↔
      ∃ leg ∈ legs, address = leg.resource ∨ address = leg.recipient := by
  induction legs generalizing first with
  | nil => simp [fungibleLegs]
  | cons leg rest ih =>
    have taken (amount : Amount) (bucket : Bucket) :
        (Instruction.take leg.resource amount bucket).addresses = [leg.resource] := rfl
    rw [fungibleLegs_cons, List.flatMap_append, List.mem_append, ih]
    simp [Instruction.addresses_depositFor, taken]

/-- How many legs the resources of some totals have. -/
def dealt (legs : List FungibleLeg) (resources : List Address) : Nat :=
  (resources.map fun resource => (legs.filter (·.resource = resource)).length).sum

/-- No leg is dealt with twice. -/
theorem dealt_le {resources : List Address} (distinct : resources.Nodup) (legs : List FungibleLeg) :
    dealt legs resources ≤ legs.length := by
  induction resources generalizing legs with
  | nil => exact Nat.zero_le _
  | cons resource rest ih =>
    obtain ⟨fresh, distinct⟩ := List.nodup_cons.mp distinct
    let others := legs.filter fun leg => !decide (leg.resource = resource)
    have same : dealt legs rest = dealt others rest := by
      rw [dealt, dealt, ← List.length_flatMap, ← List.length_flatMap, flatMap_filter_of_not_mem fresh]
    have count := List.length_eq_length_filter_add (l := legs) (·.resource = resource)
    have later : dealt others rest ≤ (legs.filter fun leg => !decide (leg.resource = resource)).length :=
      ih distinct others
    rw [dealt, List.map_cons, List.sum_cons, ← dealt, same]
    omega

theorem deals_fungibleTransfers (sender : Address) (legs : List FungibleLeg) (totals : Totals)
    (small : first + dealt legs (totals.map (·.1)) ≤ UInt32.size) :
    Deals first (first + dealt legs (totals.map (·.1))) (fungibleTransfers sender legs first totals) := by
  induction totals generalizing first with
  | nil => exact Deals.nil
  | cons entry rest ih =>
    obtain ⟨resource, total⟩ := entry
    let own := legs.filter (·.resource = resource)
    have parts : dealt legs (((resource, total) :: rest).map (·.1)) =
        own.length + dealt legs (rest.map (·.1)) := rfl
    rw [parts] at small ⊢
    have withdrawn : Deals first first [.withdraw sender resource total] :=
      .single (Instruction.bucketless_withdraw sender resource total)
    have legsDealt := deals_fungibleLegs own (show first + own.length ≤ UInt32.size by omega)
    have later := ih (show first + own.length + dealt legs (rest.map (·.1)) ≤ UInt32.size by omega)
    rw [Nat.add_assoc] at later
    have both := legsDealt.append later ⟨by omega, by omega⟩ (by omega)
    exact withdrawn.append both ⟨by omega, by omega⟩ (by omega)

theorem mem_resources {totals : Totals} {legs : List FungibleLeg} (sums : totals.Sums legs)
    {resource : Address} : resource ∈ totals.map (·.1) ↔ ∃ leg ∈ legs, leg.resource = resource := by
  rw [sums.resources, List.mem_eraseDups, List.mem_map]

/-- Apart from the sender, transfers name what is sent and who gets it. -/
theorem mem_addresses_fungibleTransfers (other : address ≠ sender) {legs : List FungibleLeg}
    {totals : Totals} (sums : totals.Sums legs) :
    address ∈ (fungibleTransfers sender legs first totals).flatMap Instruction.addresses ↔
      ∃ leg ∈ legs, address = leg.resource ∨ address = leg.recipient := by
  have parts (part : Totals) (first : Nat) :
      address ∈ (fungibleTransfers sender legs first part).flatMap Instruction.addresses ↔
        ∃ resource ∈ part.map (·.1), address = resource ∨ ∃ leg ∈ legs,
          leg.resource = resource ∧ (address = leg.resource ∨ address = leg.recipient) := by
    induction part generalizing first with
    | nil => simp [fungibleTransfers]
    | cons entry rest ih =>
      obtain ⟨resource, total⟩ := entry
      rw [fungibleTransfers, List.flatMap_append, List.flatMap_cons, List.mem_append, List.mem_append,
        ih, mem_addresses_fungibleLegs, Instruction.addresses_withdraw]
      simp [other, and_assoc, or_assoc]
  rw [parts]
  constructor
  · rintro ⟨resource, listed, rfl | ⟨leg, member, -, named⟩⟩
    · obtain ⟨leg, member, same⟩ := (mem_resources sums).mp listed
      exact ⟨leg, member, .inl same.symm⟩
    · exact ⟨leg, member, named⟩
  · rintro ⟨leg, member, named⟩
    exact ⟨leg.resource, (mem_resources sums).mpr ⟨leg, member, rfl⟩, .inr ⟨leg, member, rfl, named⟩⟩

end Fungible

section NonFungible

theorem nonFungibleTransfers_cons (sender : Address) (first : Nat) (leg : NonFungibleLeg)
    (rest : List NonFungibleLeg) : nonFungibleTransfers sender first (leg :: rest) =
      [.withdrawNonFungibles sender leg.id.resource [leg.id.localId]] ++
        [.takeNonFungibles leg.id.resource [leg.id.localId] (.numbered first),
          depositFor leg.recipient leg.signatureRequired (.numbered first)] ++
          nonFungibleTransfers sender (first + 1) rest := by
  rw [nonFungibleTransfers, List.zipIdx_cons, List.flatMap_cons, ← nonFungibleTransfers]
  rfl

theorem deals_nonFungibleTransfers (sender : Address) (legs : List NonFungibleLeg)
    (small : first + legs.length ≤ UInt32.size) :
    Deals first (first + legs.length) (nonFungibleTransfers sender first legs) := by
  induction legs generalizing first with
  | nil => exact Deals.nil
  | cons leg rest ih =>
    rw [List.length_cons] at small ⊢
    have later := ih (show first + 1 + rest.length ≤ UInt32.size by omega)
    rw [nonFungibleTransfers_cons, show first + (rest.length + 1) = first + 1 + rest.length by omega]
    have own := Deals.pair
      (show (Instruction.takeNonFungibles leg.id.resource [leg.id.localId] (.numbered first)).Creates _
        from rfl)
      (Instruction.empties_depositFor leg.recipient leg.signatureRequired (.numbered first))
    have withdrawn : Deals first first
        [.withdrawNonFungibles sender leg.id.resource [leg.id.localId]] :=
      .single (Instruction.bucketless_withdrawNonFungibles _ _ _)
    exact (withdrawn.append own ⟨by omega, by omega⟩ (by omega)).append later
      ⟨by omega, by omega⟩ (by omega)

theorem mem_addresses_nonFungibleTransfers (other : address ≠ sender) (legs : List NonFungibleLeg) :
    address ∈ (nonFungibleTransfers sender first legs).flatMap Instruction.addresses ↔
      ∃ leg ∈ legs, address = leg.id.resource ∨ address = leg.recipient := by
  induction legs generalizing first with
  | nil => simp [nonFungibleTransfers]
  | cons leg rest ih =>
    have taken (ids : List LocalId) (bucket : Bucket) :
        (Instruction.takeNonFungibles leg.id.resource ids bucket).addresses = [leg.id.resource] := rfl
    rw [nonFungibleTransfers_cons, List.flatMap_append, List.mem_append, ih]
    simp [Instruction.addresses_depositFor, Instruction.addresses_withdrawNonFungibles, taken, other]

end NonFungible

section Claims

variable {account : Address}

/-- What a claim is worth fits, and so does every sum on the way to it. -/
def Claim.Fits (claim : Claim) : Prop := Amount.SumsFit (claim.tokens.map (·.2))

theorem deals_claimInstructions (account : Address) (claim : Claim) (total : Amount)
    (small : first + 2 ≤ UInt32.size) :
    Deals first (first + 2) (claimInstructions account claim total first) := by
  have withdrawn : Deals first first
      [.withdrawNonFungibles account claim.resource (claim.tokens.map (·.1))] :=
    .single (Instruction.bucketless_withdrawNonFungibles _ _ _)
  have handed := Deals.pair
    (show (Instruction.takeAll claim.resource (.numbered first)).Creates _ from rfl)
    (Instruction.empties_callMethod claim.validator "claim_xrd" (.numbered first))
  have kept := Deals.pair
    (show (Instruction.take (Address.nativeToken account.network) total
      (.numbered (first + 1))).Creates _ from rfl)
    (Instruction.empties_depositFor account true (.numbered (first + 1)))
  exact (withdrawn.append handed ⟨by omega, by omega⟩ (by omega)).append kept
    ⟨by omega, by omega⟩ (by omega)

theorem claimAll_cons {claim : Claim} {rest : List Claim} {list : List Instruction} :
    claimAll account first (claim :: rest) = .ok list ↔ ∃ total later,
      Amount.sum (claim.tokens.map (·.2)) = .ok total ∧ claimAll account (first + 2) rest = .ok later ∧
        list = claimInstructions account claim total first ++ later := by
  rw [claimAll]
  cases Amount.sum (claim.tokens.map (·.2)) with
  | error e => simp [bind, Except.bind]
  | ok total =>
    cases claimAll account (first + 2) rest with
    | error e => simp [bind, Except.bind]
    | ok later => simp [bind, Except.bind, pure, Except.pure, eq_comm]

/-- The claims are made when each of them fits. -/
theorem claimAll_cases (account : Address) (first : Nat) (claims : List Claim) :
    ((∀ claim ∈ claims, claim.Fits) ∧ ∃ list, claimAll account first claims = .ok list) ∨
      ¬ (∀ claim ∈ claims, claim.Fits) ∧ claimAll account first claims = .error .overflow := by
  induction claims generalizing first with
  | nil => exact .inl ⟨fun _ member => absurd member List.not_mem_nil, [], rfl⟩
  | cons claim rest ih =>
    rw [List.forall_mem_cons]
    rcases Amount.sum_cases (claim.tokens.map (·.2)) with ⟨fits, total, summed, -⟩ | ⟨large, summed⟩
    · rcases ih (first + 2) with ⟨others, later, told⟩ | ⟨tooLarge, failed⟩
      · exact .inl ⟨⟨fits, others⟩, _, claimAll_cons.mpr ⟨total, later, summed, told, rfl⟩⟩
      · refine .inr ⟨fun both => tooLarge both.2, ?_⟩
        rw [claimAll, summed, failed]
        rfl
    · refine .inr ⟨fun both => large both.1, ?_⟩
      rw [claimAll, summed]
      rfl

theorem deals_claimAll {claims : List Claim} {list : List Instruction}
    (told : claimAll account first claims = .ok list)
    (small : first + 2 * claims.length ≤ UInt32.size) :
    Deals first (first + 2 * claims.length) list := by
  induction claims generalizing first list with
  | nil =>
    cases told
    exact Deals.nil
  | cons claim rest ih =>
    obtain ⟨total, later, -, others, rfl⟩ := claimAll_cons.mp told
    rw [List.length_cons] at small ⊢
    have after := ih others (by omega)
    rw [show first + 2 + 2 * rest.length = first + 2 * (rest.length + 1) by omega] at after
    exact (deals_claimInstructions account claim total (by omega)).append after
      ⟨by omega, by omega⟩ small

/-- Of other networks, claims name only their tokens and their validators. -/
theorem mem_addresses_claimAll (foreign : address.network ≠ account.network) {claims : List Claim}
    {list : List Instruction} (told : claimAll account first claims = .ok list) :
    address ∈ list.flatMap Instruction.addresses ↔
      ∃ claim ∈ claims, address = claim.resource ∨ address = claim.validator := by
  have other : address ≠ account := fun same => foreign (congrArg Address.network same)
  have unknown : address ≠ Address.nativeToken account.network := fun same => foreign (same ▸ rfl)
  induction claims generalizing first list with
  | nil =>
    cases told
    simp
  | cons claim rest ih =>
    obtain ⟨total, later, -, others, rfl⟩ := claimAll_cons.mp told
    have named : (claimInstructions account claim total first).flatMap Instruction.addresses =
        [account, claim.resource] ++ [claim.resource, claim.validator,
          Address.nativeToken account.network, account] := by
      rw [claimInstructions, List.flatMap_cons, Instruction.addresses_withdrawNonFungibles]
      rfl
    rw [List.flatMap_append, named]
    simp [ih others, other, unknown, or_assoc]

end Claims

section Settings

theorem bucketless_depositSettings (settings : DepositSettings) :
    ∀ instruction ∈ depositSettingsInstructions settings, instruction.Bucketless := by
  intro instruction member
  simp only [depositSettingsInstructions, List.mem_append, List.mem_map] at member
  rcases member with (((⟨rule, -, rfl⟩ | ⟨resource, -, rfl⟩) | ⟨⟨resource, preference⟩, -, rfl⟩) |
    ⟨badge, -, rfl⟩) | ⟨badge, -, rfl⟩
  · exact Instruction.bucketless_of rfl fun _ => by cases rule <;> rfl
  · exact Instruction.bucketless_of rfl fun _ => rfl
  · exact Instruction.bucketless_of rfl fun _ => by cases preference <;> rfl
  · exact Instruction.bucketless_of rfl fun _ => by cases badge <;> rfl
  · exact Instruction.bucketless_of rfl fun _ => by cases badge <;> rfl

/-- Apart from the account, deposit settings name resources and what depositors show. -/
theorem mem_addresses_depositSettings {settings : DepositSettings}
    (other : address ≠ settings.account) :
    address ∈ (depositSettingsInstructions settings).flatMap Instruction.addresses ↔
      address ∈ settings.removeExceptions ++ settings.addExceptions.map (·.1) ++
        (settings.removeDepositors ++ settings.addDepositors).map Badge.shown := by
  have rules (rule : DepositRule) :
      (Instruction.setDefaultDepositRule settings.account rule).addresses = [settings.account] := by
    cases rule <;> rfl
  have preferences (resource : Address) (preference : ResourcePreference) :
      (Instruction.setResourcePreference settings.account resource preference).addresses =
        [settings.account, resource] := by
    cases preference <;> rfl
  have removals (resource : Address) :
      (Instruction.removeResourcePreference settings.account resource).addresses =
        [settings.account, resource] := rfl
  have removed (badge : Badge) : (Instruction.removeAuthorizedDepositor settings.account badge).addresses =
      [settings.account, badge.shown] := by
    cases badge <;> rfl
  have added (badge : Badge) : (Instruction.addAuthorizedDepositor settings.account badge).addresses =
      [settings.account, badge.shown] := by
    cases badge <;> rfl
  simp [depositSettingsInstructions, rules, preferences, removals, removed, added, other,
    @eq_comm _ address]

end Settings

end Template

end LedgerWallet
