import LedgerWallet.Client.Signers
import LedgerWallet.Proofs.Client.Trace
import LedgerWallet.Proofs.List.FirstSeen
import LedgerWallet.Proofs.Wallet.History

/-! The signers of a manifest are told by its instructions, by the caller's extra addresses and by the
keys that were added to the wallet. -/
namespace LedgerWallet

/-- The answers of a wallet. What others answer, and what a signature looks like, stays open. -/
def Wallet.Answers (wallet : Wallet) : Exchange → Prop
  | ⟨.network, network⟩ => network = wallet.network
  | ⟨.accounts, accounts⟩ => accounts = wallet.accounts
  | ⟨.signers network addresses, signers⟩ => signers = wallet.signersFor network addresses
  | _ => True

/-- The account of a call to one of its methods that needs its signature, and nothing else. -/
theorem Instruction.authTarget?_eq_some {instruction : Instruction} {account : Address} :
    instruction.authTarget? = some account ↔ account.isAccount ∧ ∃ method : AccountMethod,
      method.needsAuth ∧ ∃ args, instruction = .callMethod account method.name args := by
  cases instruction with
  | callMethod receiver name args =>
    have listed : (AccountMethod.ofName? name).any AccountMethod.needsAuth ↔
        ∃ method : AccountMethod, method.name = name ∧ method.needsAuth := by
      simp only [Option.any_eq_true, AccountMethod.ofName?_eq_some]
    rw [authTarget?, Option.ite_none_right_eq_some, Bool.and_eq_true, listed]
    constructor
    · rintro ⟨⟨isAccount, method, rfl, needed⟩, ⟨⟩⟩
      exact ⟨isAccount, method, needed, args, rfl⟩
    · rintro ⟨isAccount, method, needed, _, ⟨⟩⟩
      exact ⟨⟨isAccount, method, rfl, needed⟩, rfl⟩
  | _ => simp [authTarget?]

theorem Instruction.authTarget?_lockFee {payer : Address} (isAccount : payer.isAccount)
    (amount : Amount) : (lockFee payer amount).authTarget? = some payer :=
  authTarget?_eq_some.mpr ⟨isAccount, .lockFee, rfl, _, rfl⟩

/-- The accounts whose signature some instructions need, in the order of the instructions. -/
inductive NeededSigners : List Instruction → List Address → Prop
  | nil : NeededSigners [] []
  | needed {account : Address} {method : AccountMethod} {rest : List Instruction}
      {others : List Address} (isAccount : account.isAccount) (needsAuth : method.needsAuth)
      (args : List Value) (later : NeededSigners rest others) :
      NeededSigners (.callMethod account method.name args :: rest) (account :: others)
  | free {instruction : Instruction} {rest : List Instruction} {others : List Address}
      (unneeded : ∀ (account : Address) (method : AccountMethod) (args : List Value),
        account.isAccount → method.needsAuth → instruction ≠ .callMethod account method.name args)
      (later : NeededSigners rest others) : NeededSigners (instruction :: rest) others

theorem neededSigners_iff {list : List Instruction} {accounts : List Address} :
    NeededSigners list accounts ↔ accounts = list.filterMap Instruction.authTarget? := by
  constructor
  · intro needed
    induction needed with
    | nil => rfl
    | needed isAccount needsAuth args _ ih =>
      rw [List.filterMap_cons_some
        (Instruction.authTarget?_eq_some.mpr ⟨isAccount, _, needsAuth, args, rfl⟩), ih]
    | free unneeded _ ih =>
      rw [ih, List.filterMap_cons_none]
      refine Option.eq_none_iff_forall_ne_some.mpr fun account target => ?_
      obtain ⟨isAccount, method, needsAuth, args, same⟩ := Instruction.authTarget?_eq_some.mp target
      exact unneeded account method args isAccount needsAuth same
  · rintro rfl
    induction list with
    | nil => exact .nil
    | cons instruction rest ih =>
      cases target : instruction.authTarget? with
      | none =>
        rw [List.filterMap_cons_none target]
        refine .free (fun account method args isAccount needsAuth same => ?_) ih
        rw [Instruction.authTarget?_eq_some.mpr ⟨isAccount, method, needsAuth, args, same⟩] at target
        contradiction
      | some account =>
        obtain ⟨isAccount, method, needsAuth, args, rfl⟩ := Instruction.authTarget?_eq_some.mp target
        rw [List.filterMap_cons_some target]
        exact .needed isAccount needsAuth args ih

/-- Who should sign: the accounts that the instructions need and then the extra addresses, each at its
first place. -/
def Manifest.required (manifest : Manifest) (extra : List Address) : List Address :=
  ((manifest.instructions?.getD []).filterMap Instruction.authTarget? ++ extra).eraseDups

theorem Manifest.required_eq (manifest : Manifest) (extra : List Address) :
    (manifest.authAccounts ++ extra).eraseDups = manifest.required extra :=
  eraseDups_append_left _ extra

/-- The signers of those addresses that a key was added for. -/
def heldSigners (added : List HeldKey) (addresses : List Address) : List Signer :=
  addresses.filterMap fun address => (firstKey? added address).map HeldKey.signer

section Held

variable {added : List HeldKey} {addresses : List Address}

theorem map_address_heldSigners : (heldSigners added addresses).map Signer.address =
    addresses.filter ((added.map HeldKey.address).contains ·) := by
  induction addresses with
  | nil => rfl
  | cons address rest ih =>
    rw [heldSigners, List.filterMap_cons, List.filter_cons]
    cases first : firstKey? added address with
    | none =>
      have absent := firstKey?_eq_none.mp first
      rw [if_neg (by simpa using absent)]
      exact ih
    | some key =>
      have present : address ∈ added.map HeldKey.address := by
        apply Decidable.byContradiction
        intro absent
        rw [firstKey?_eq_none.mpr absent] at first
        contradiction
      rw [if_pos (List.contains_iff_mem.mpr present), ← ih]
      exact congrArg (· :: _) (address_of_firstKey? first)

theorem address_mem_of_mem_heldSigners {signer : Signer}
    (member : signer ∈ heldSigners added addresses) : signer.address ∈ addresses := by
  have listed := List.mem_map_of_mem (f := Signer.address) member
  rw [map_address_heldSigners] at listed
  exact (List.mem_filter.mp listed).1

theorem mem_heldSigners {signer : Signer} (member : signer ∈ heldSigners added addresses) :
    ∃ key, firstKey? added signer.address = some key ∧ signer = key.signer := by
  obtain ⟨address, -, found⟩ := List.mem_filterMap.mp member
  obtain ⟨key, first, rfl⟩ := Option.map_eq_some_iff.mp found
  refine ⟨key, ?_, rfl⟩
  rwa [HeldKey.signer, address_of_firstKey? first]

theorem nodup_heldSigners (distinct : addresses.Nodup) :
    ((heldSigners added addresses).map Signer.address).Nodup := by
  rw [map_address_heldSigners]
  exact distinct.filter _

end Held

/-- The signers of some addresses or, where there is none, that of the first account. -/
def chosenSigners (added : List HeldKey) (required : List Address) : List Signer :=
  let asked := heldSigners added required
  if asked.isEmpty then heldSigners added (firstAccount? added).toList else asked

/-- The first signer is the notary. -/
def partiesOf : List Signer → Except Failure Parties
  | [] => .error .noFeePayer
  | notary :: rest => .ok ⟨notary, notary :: rest⟩

section Answered

variable {wallet : Wallet} {added : List HeldKey} (keeps : wallet.Keeps added)
include keeps

theorem signersFor_yields {addresses : List Address} {signers : List Signer} :
    (signersFor wallet.network addresses).Yields wallet.Answers signers ↔
      signers = heldSigners added addresses := by
  rw [signersFor]
  cases addresses with
  | nil => exact Flow.yields_done
  | cons address rest =>
    rw [if_neg (by simp), heldSigners, ← keeps.filterMap_signersFor]
    constructor
    · intro yields
      obtain ⟨available, answered, ended⟩ := Flow.yields_bind.mp yields
      rw [← Flow.yields_request.mp answered]
      exact Flow.yields_done.mp ended
    · rintro rfl
      exact Flow.yields_bind.mpr ⟨_, Flow.yields_request.mpr rfl, Flow.yields_done.mpr rfl⟩

theorem firstAccount_yields {result : Except Failure Address} :
    firstAccount.Yields wallet.Answers result ↔
      result = (firstAccount? added).elim (.error .noFeePayer) .ok := by
  rw [← keeps.head?_accounts, firstAccount, Action.yields_request_bind]
  constructor
  · rintro ⟨accounts, rfl, rest⟩
    cases first : wallet.accounts.head? with
    | none =>
      rw [first] at rest
      exact Action.yields_throw.mp rest
    | some account =>
      rw [first] at rest
      exact Action.yields_pure.mp rest
  · rintro rfl
    refine ⟨wallet.accounts, rfl, ?_⟩
    cases wallet.accounts.head? with
    | none => exact Action.yields_throw.mpr rfl
    | some account => exact Action.yields_pure.mpr rfl

theorem resolveParties_yields {manifest : Manifest} {extra : List Address}
    {result : Except Failure Parties} :
    (resolveParties wallet.network manifest extra).Yields wallet.Answers result ↔
      result = partiesOf (chosenSigners added (manifest.required extra)) := by
  rw [resolveParties, manifest.required_eq, Action.yields_lift_bind]
  simp only [signersFor_yields keeps, exists_eq_left]
  rw [chosenSigners]
  split
  · rw [Action.yields_bind]
    simp only [firstAccount_yields keeps, Action.yields_lift_bind, signersFor_yields keeps,
      exists_eq_left]
    cases firstAccount? added with
    | none =>
      constructor
      · rintro (⟨_, ⟨⟩, -⟩ | ⟨failure, rfl, same⟩)
        cases same
        rfl
      · rintro rfl
        exact .inr ⟨.noFeePayer, rfl, rfl⟩
    | some account =>
      simp only [Option.elim_some, Except.ok.injEq, exists_eq_left, reduceCtorEq, and_false,
        exists_false, or_false, Option.toList_some]
      cases heldSigners added [account] with
      | nil => exact Action.yields_throw
      | cons notary rest => exact Action.yields_pure
  · cases heldSigners added (manifest.required extra) with
    | nil => exact Action.yields_throw
    | cons notary rest => exact Action.yields_pure

end Answered

theorem partiesOf_eq_error {signers : List Signer} {failure : Failure} :
    partiesOf signers = .error failure ↔ failure = .noFeePayer ∧ signers = [] := by
  cases signers <;> simp [partiesOf, eq_comm]

theorem partiesOf_eq_ok {signers : List Signer} {parties : Parties}
    (resolved : partiesOf signers = .ok parties) :
    parties.signers = signers ∧ signers.head? = some parties.notary := by
  cases signers <;> cases resolved
  exact ⟨rfl, rfl⟩

theorem map_address_chosenSigners {added : List HeldKey} {required : List Address} :
    (chosenSigners added required).map Signer.address =
      let owned := required.filter ((added.map HeldKey.address).contains ·)
      if owned = [] then (firstAccount? added).toList else owned := by
  have none : (heldSigners added required).isEmpty ↔
      required.filter ((added.map HeldKey.address).contains ·) = [] := by
    rw [← map_address_heldSigners, List.map_eq_nil_iff, List.isEmpty_iff]
  simp only [chosenSigners, none]
  split
  · rw [map_address_heldSigners, List.filter_eq_self]
    intro account member
    have found := firstAccount?_eq_some (Option.mem_toList.mp member)
    exact List.contains_iff_mem.mpr found.2
  · exact map_address_heldSigners

theorem nodup_chosenSigners {added : List HeldKey} {required : List Address}
    (distinct : required.Nodup) : ((chosenSigners added required).map Signer.address).Nodup := by
  rw [chosenSigners]
  split
  · apply nodup_heldSigners
    cases firstAccount? added with
    | none => exact List.nodup_nil
    | some account => simp
  · exact nodup_heldSigners distinct

theorem mem_chosenSigners {added : List HeldKey} {required : List Address} {signer : Signer}
    (member : signer ∈ chosenSigners added required) :
    ∃ key, firstKey? added signer.address = some key ∧ signer = key.signer := by
  rw [chosenSigners] at member
  split at member
  · exact mem_heldSigners member
  · exact mem_heldSigners member

/-- A wallet that came about by additions resolves the signers of a manifest in one way only. They are
the required addresses that a key was added for, or else the first account. Without either there is
nobody to notarize. Required are the accounts whose signature the instructions need and the extra
addresses after them, each of them once. -/
theorem resolveParties_exact (manifest : Manifest) (extra : List Address)
    (additions : List Addition) :
    let wallet := Wallet.build manifest.network additions
    let added := additions.map (Addition.key manifest.network)
    let resolve := resolveParties manifest.network manifest extra
    let owned := (manifest.required extra).filter ((added.map HeldKey.address).contains ·)
    (∃ needed, NeededSigners (manifest.instructions?.getD []) needed ∧
      manifest.required extra = (needed ++ extra).eraseDups) ∧
    (∃ result, ∀ other, resolve.Yields wallet.Answers other ↔ other = result) ∧
    (∀ failure, resolve.Yields wallet.Answers (.error failure) ↔
      failure = .noFeePayer ∧ owned = [] ∧ ∀ key ∈ added, key.address.isAccount = false) ∧
    ∀ parties, resolve.Yields wallet.Answers (.ok parties) →
      (parties.signers.map Signer.address =
        if owned = [] then (firstAccount? added).toList else owned) ∧
      (parties.signers.map Signer.address).Nodup ∧
      (∀ signer ∈ parties.signers, ∃ key,
        firstKey? added signer.address = some key ∧ signer = key.signer) ∧
      parties.signers.head? = some parties.notary := by
  intro wallet added resolve owned
  obtain ⟨network, keeps⟩ := Wallet.build_spec manifest.network additions
  have resolved (result : Except Failure Parties) : resolve.Yields wallet.Answers result ↔
      result = partiesOf (chosenSigners added (manifest.required extra)) := by
    have spec : (resolveParties wallet.network manifest extra).Yields wallet.Answers result ↔ _ :=
      resolveParties_yields keeps
    rwa [network] at spec
  have addresses : (chosenSigners added (manifest.required extra)).map Signer.address = _ :=
    map_address_chosenSigners
  refine ⟨⟨_, neededSigners_iff.mpr rfl, rfl⟩, ⟨_, resolved⟩, fun failure => ?_,
    fun parties yields => ?_⟩
  · rw [resolved, eq_comm, partiesOf_eq_error, ← List.map_eq_nil_iff (f := Signer.address),
      addresses, ← firstAccount?_eq_none]
    apply and_congr_right
    intro _
    by_cases unowned : owned = []
    · rw [if_pos unowned, Option.toList_eq_nil_iff]
      exact (and_iff_right unowned).symm
    · rw [if_neg unowned]
      exact (and_iff_left_of_imp fun none => absurd none unowned).symm
  · obtain ⟨signers, notary⟩ := partiesOf_eq_ok ((resolved _).mp yields).symm
    rw [signers]
    exact ⟨addresses, nodup_chosenSigners (nodup_eraseDups _), fun _ => mem_chosenSigners, notary⟩

end LedgerWallet
