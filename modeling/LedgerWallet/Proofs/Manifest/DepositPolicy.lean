import LedgerWallet.Manifest.Call
import Mathlib.Data.Finset.Basic

/-! What an account accepts from others, and the calls that change it. A call tells the change by the name
of its method and by its arguments, which are read here as a ledger reads them, by names and numbers of
their own. Of all changes to one thing the last one decides. -/
namespace LedgerWallet

/-- What an account accepts from others. -/
@[ext]
structure DepositPolicy where
  rule : DepositRule
  /-- The exceptions to the rule. -/
  preference : Address → Option ResourcePreference
  /-- With these badges anything may be deposited. -/
  depositors : Finset Badge

inductive DepositChange where
  | setRule (rule : DepositRule)
  | prefer (resource : Address) (preference : ResourcePreference)
  | forget (resource : Address)
  | authorize (badge : Badge)
  | revoke (badge : Badge)
deriving DecidableEq

/-- Variants without fields are told apart by their discriminators alone. -/
def DepositRule.ofValue? : Value → Option DepositRule
  | .compound (.variant 0) [] => some accept
  | .compound (.variant 1) [] => some reject
  | .compound (.variant 2) [] => some allowExisting
  | _ => none

theorem DepositRule.ofValue?_eq_some {value : Value} {rule : DepositRule} :
    ofValue? value = some rule ↔ value = rule.value := by
  constructor
  · intro read
    rw [ofValue?.eq_def] at read
    split at read
    all_goals cases read
    all_goals rfl
  · rintro rfl
    cases rule <;> rfl

@[inherit_doc DepositRule.ofValue?]
def ResourcePreference.ofValue? : Value → Option ResourcePreference
  | .compound (.variant 0) [] => some allowed
  | .compound (.variant 1) [] => some disallowed
  | _ => none

theorem ResourcePreference.ofValue?_eq_some {value : Value} {preference : ResourcePreference} :
    ofValue? value = some preference ↔ value = preference.value := by
  constructor
  · intro read
    rw [ofValue?.eq_def] at read
    split at read
    all_goals cases read
    all_goals rfl
  · rintro rfl
    cases preference <;> rfl

def Badge.ofValue? : Value → Option Badge
  | .compound (.variant 0) [.compound .tuple [.scalar (.address owner), .scalar (.localId id)]] =>
    some (nonFungible ⟨owner, id⟩)
  | .compound (.variant 1) [.scalar (.address address)] => some (resource address)
  | _ => none

theorem Badge.ofValue?_eq_some {value : Value} {badge : Badge} :
    ofValue? value = some badge ↔ value = badge.value := by
  constructor
  · intro read
    rw [ofValue?.eq_def] at read
    split at read
    all_goals cases read
    all_goals rfl
  · rintro rfl
    cases badge <;> rfl

namespace DepositChange

/-- What a call to a method of an account changes. -/
def ofCall? : (method : String) → (args : List Value) → Option DepositChange
  | "set_default_deposit_rule", [value] => (DepositRule.ofValue? value).map setRule
  | "set_resource_preference", [.scalar (.address resource), value] =>
    (ResourcePreference.ofValue? value).map (prefer resource)
  | "remove_resource_preference", [.scalar (.address resource)] => some (forget resource)
  | "add_authorized_depositor", [value] => (Badge.ofValue? value).map authorize
  | "remove_authorized_depositor", [value] => (Badge.ofValue? value).map revoke
  | _, _ => none

variable (account : Address)

/-- What an instruction changes for an account. -/
def ofInstruction? : Instruction → Option DepositChange
  | .callMethod receiver method args => if receiver = account then ofCall? method args else none
  | _ => none

/-- The instruction that makes a change. -/
def call : DepositChange → Instruction
  | setRule rule => .setDefaultDepositRule account rule
  | prefer resource preference => .setResourcePreference account resource preference
  | forget resource => .removeResourcePreference account resource
  | authorize badge => .addAuthorizedDepositor account badge
  | revoke badge => .removeAuthorizedDepositor account badge

variable {change : DepositChange}

theorem ofCall?_eq_some {method : String} {args : List Value} :
    ofCall? method args = some change ↔ .callMethod account method args = change.call account := by
  constructor
  · intro told
    rw [ofCall?.eq_def] at told
    split at told
    · obtain ⟨rule, read, rfl⟩ := Option.map_eq_some_iff.mp told
      rw [DepositRule.ofValue?_eq_some.mp read]
      rfl
    · obtain ⟨preference, read, rfl⟩ := Option.map_eq_some_iff.mp told
      rw [ResourcePreference.ofValue?_eq_some.mp read]
      rfl
    · cases told
      rfl
    · obtain ⟨badge, read, rfl⟩ := Option.map_eq_some_iff.mp told
      rw [Badge.ofValue?_eq_some.mp read]
      rfl
    · obtain ⟨badge, read, rfl⟩ := Option.map_eq_some_iff.mp told
      rw [Badge.ofValue?_eq_some.mp read]
      rfl
    · contradiction
  · intro same
    cases change
    all_goals cases same
    all_goals simp [ofCall?, AccountMethod.name, Value.ofAddress, DepositRule.ofValue?_eq_some,
      ResourcePreference.ofValue?_eq_some, Badge.ofValue?_eq_some]

variable {account}

/-- A change is read off its own call, and off no other instruction. -/
theorem ofInstruction?_eq_some {instruction : Instruction} :
    ofInstruction? account instruction = some change ↔ instruction = change.call account := by
  have isCall : ∃ method args, change.call account = .callMethod account method args := by
    cases change <;> exact ⟨_, _, rfl⟩
  obtain ⟨method, args, called⟩ := isCall
  cases instruction with
  | callMethod receiver method' args' =>
    rw [ofInstruction?, Option.ite_none_right_eq_some, ofCall?_eq_some account]
    constructor
    · rintro ⟨rfl, same⟩
      exact same
    · intro same
      cases same.trans called
      exact ⟨rfl, same⟩
  | _ =>
    rw [called]
    exact iff_of_false nofun nofun

/-- The rule that a change brings. -/
def rule? : DepositChange → Option DepositRule
  | setRule rule => some rule
  | _ => none

/-- What a change makes of the exception for a resource, if it is about that. -/
def preference? (resource : Address) : DepositChange → Option (Option ResourcePreference)
  | prefer other preference => if other = resource then some (some preference) else none
  | forget other => if other = resource then some none else none
  | _ => none

/-- Whether a change lets a badge in or keeps it out, if it is about that. -/
def authorized? (badge : Badge) : DepositChange → Option Bool
  | authorize other => if other = badge then some true else none
  | revoke other => if other = badge then some false else none
  | _ => none

end DepositChange

/-- Where each change either writes what is read or leaves it alone, the last one that writes decides. -/
theorem foldl_last_write {State Change Value : Type} {apply : State → Change → State}
    (read : State → Value) (write? : Change → Option Value)
    (written : ∀ state change, read (apply state change) = (write? change).getD (read state))
    (state : State) (changes : List Change) :
    read (changes.foldl apply state) = (changes.filterMap write?).getLast?.getD (read state) := by
  induction changes generalizing state with
  | nil => rfl
  | cons change rest ih =>
    rw [List.foldl_cons, ih, written, List.filterMap_cons]
    cases write? change with
    | none => rfl
    | some value =>
      rw [List.getLast?_cons]
      rfl

namespace DepositPolicy

def apply (policy : DepositPolicy) : DepositChange → DepositPolicy
  | .setRule rule => { policy with rule }
  | .prefer resource preference =>
    { policy with preference := Function.update policy.preference resource (some preference) }
  | .forget resource => { policy with preference := Function.update policy.preference resource none }
  | .authorize badge => { policy with depositors := insert badge policy.depositors }
  | .revoke badge => { policy with depositors := policy.depositors.erase badge }

def applyAll (policy : DepositPolicy) (changes : List DepositChange) : DepositPolicy :=
  changes.foldl apply policy

section Changes

variable (policy : DepositPolicy) (change : DepositChange)

theorem rule_apply : (policy.apply change).rule = change.rule?.getD policy.rule := by
  cases change <;> rfl

theorem preference_apply (resource : Address) : (policy.apply change).preference resource =
    (change.preference? resource).getD (policy.preference resource) := by
  cases change with
  | setRule | authorize | revoke => rfl
  | prefer other | forget other =>
    by_cases same : other = resource
    · simp [apply, DepositChange.preference?, same]
    · simp [apply, DepositChange.preference?, same, Function.update_of_ne (Ne.symm same)]

theorem mem_depositors_apply (badge : Badge) : (badge ∈ (policy.apply change).depositors : Bool) =
    (change.authorized? badge).getD (badge ∈ policy.depositors) := by
  cases change with
  | setRule | prefer | forget => rfl
  | authorize other | revoke other =>
    by_cases same : other = badge
    · simp [apply, DepositChange.authorized?, same]
    · simp [apply, DepositChange.authorized?, same, Ne.symm same]

variable (changes : List DepositChange)

theorem rule_applyAll : (policy.applyAll changes).rule =
    (changes.filterMap DepositChange.rule?).getLast?.getD policy.rule :=
  foldl_last_write rule _ rule_apply policy changes

theorem preference_applyAll (resource : Address) : (policy.applyAll changes).preference resource =
    (changes.filterMap (DepositChange.preference? resource)).getLast?.getD (policy.preference resource) :=
  foldl_last_write (fun policy => policy.preference resource) _
    (fun policy change => preference_apply policy change resource) policy changes

theorem mem_depositors_applyAll (badge : Badge) : (badge ∈ (policy.applyAll changes).depositors : Bool) =
    (changes.filterMap (DepositChange.authorized? badge)).getLast?.getD (badge ∈ policy.depositors) :=
  foldl_last_write (fun policy => decide (badge ∈ policy.depositors)) _
    (fun policy change => mem_depositors_apply policy change badge) policy changes

/-- Changes that are made a second time change nothing. -/
theorem applyAll_applyAll : (policy.applyAll changes).applyAll changes = policy.applyAll changes := by
  have again {Value : Type} (written : Option Value) (old : Value) :
      written.getD (written.getD old) = written.getD old := by cases written <;> rfl
  ext
  · simp only [rule_applyAll, again]
  · simp only [preference_applyAll, again]
  · rw [← decide_eq_decide, mem_depositors_applyAll, mem_depositors_applyAll, again]

end Changes

/-- Only what changes the account can be carried out. -/
def step (account : Address) (policy : DepositPolicy) (instruction : Instruction) : Option DepositPolicy :=
  (DepositChange.ofInstruction? account instruction).map policy.apply

def run (account : Address) (policy : DepositPolicy) (list : List Instruction) : Option DepositPolicy :=
  list.foldlM (step account) policy

variable {account : Address} {policy after : DepositPolicy}

theorem step_eq_some {instruction : Instruction} : step account policy instruction = some after ↔
    ∃ change : DepositChange, instruction = change.call account ∧ policy.apply change = after := by
  simp only [step, Option.map_eq_some_iff, DepositChange.ofInstruction?_eq_some]

/-- Exactly the calls that make changes can be carried out, one after the other. -/
theorem run_eq_some {list : List Instruction} : run account policy list = some after ↔
    ∃ changes : List DepositChange, list = changes.map (·.call account) ∧
      policy.applyAll changes = after := by
  induction list generalizing policy with
  | nil =>
    constructor
    · rintro ⟨⟩
      exact ⟨[], rfl, rfl⟩
    · rintro ⟨changes, none, rfl⟩
      rw [List.map_eq_nil_iff.mp none.symm]
      rfl
  | cons instruction rest ih =>
    constructor
    · intro ran
      obtain ⟨middle, stepped, later⟩ := Option.bind_eq_some_iff.mp ran
      obtain ⟨change, rfl, rfl⟩ := step_eq_some.mp stepped
      obtain ⟨changes, rfl, rfl⟩ := ih.mp later
      exact ⟨change :: changes, rfl, rfl⟩
    · rintro ⟨changes, split, rfl⟩
      obtain ⟨change, others, rfl, rfl, rfl⟩ := List.map_eq_cons_iff.mp split.symm
      have stepped : step account policy (change.call account) = some (policy.apply change) :=
        step_eq_some.mpr ⟨change, rfl, rfl⟩
      exact Option.bind_eq_some_iff.mpr ⟨_, stepped, ih.mpr ⟨others, rfl, rfl⟩⟩

/-- What was carried out can be carried out again, and is without effect then. -/
theorem run_again {list : List Instruction} (ran : run account policy list = some after) :
    run account after list = some after := by
  obtain ⟨changes, rfl, rfl⟩ := run_eq_some.mp ran
  exact run_eq_some.mpr ⟨changes, rfl, applyAll_applyAll policy changes⟩

end DepositPolicy

end LedgerWallet
