import LedgerWallet.Proofs.Manifest.DepositPolicy
import LedgerWallet.Proofs.Manifest.Tasks

/-! What an account accepts after its deposit settings were changed by one transaction. What is listed more
than once, or both removed and added, is settled by the order of the calls. -/
namespace LedgerWallet

/-- Where only what is wanted stands for a value, the last value tells whether that occurs. -/
theorem getLast?_filterMap_ite {α β : Type} [DecidableEq α] (wanted : α) (value : β) (list : List α) :
    (list.filterMap fun other => if other = wanted then some value else none).getLast? =
      if wanted ∈ list then some value else none := by
  induction list with
  | nil => rfl
  | cons first rest ih =>
    rw [List.filterMap_cons]
    by_cases same : first = wanted
    · subst same
      rw [if_pos rfl, if_pos List.mem_cons_self, List.getLast?_cons, ih]
      split <;> rfl
    · rw [if_neg same, ih]
      simp [Ne.symm same]

namespace Template

namespace DepositSettings

variable (settings : DepositSettings)

/-- The changes that are asked for, in their order. -/
def changes : List DepositChange :=
  settings.defaultRule.toList.map .setRule ++
  settings.removeExceptions.map .forget ++
  settings.addExceptions.map (fun (resource, preference) => .prefer resource preference) ++
  settings.removeDepositors.map .revoke ++
  settings.addDepositors.map .authorize

theorem instructions_eq :
    depositSettingsInstructions settings = settings.changes.map (·.call settings.account) := by
  simp only [depositSettingsInstructions, changes, List.map_append, List.map_map]
  rfl

/-- The last preference that is listed for a resource. -/
def listed? (resource : Address) : Option ResourcePreference :=
  ((settings.addExceptions.filter (·.1 = resource)).map (·.2)).getLast?

theorem isSome_listed? {entry : Address × ResourcePreference} (member : entry ∈ settings.addExceptions) :
    (settings.listed? entry.1).isSome := by
  rw [listed?, List.getLast?_isSome, ne_eq, List.map_eq_nil_iff]
  exact List.ne_nil_of_mem (List.mem_filter.mpr ⟨member, decide_eq_true rfl⟩)

theorem filterMap_rule? :
    settings.changes.filterMap DepositChange.rule? = settings.defaultRule.toList := by
  simp [changes, List.filterMap_append, List.filterMap_map, Function.comp_def, DepositChange.rule?]

theorem filterMap_preference? (resource : Address) :
    settings.changes.filterMap (DepositChange.preference? resource) =
      (settings.removeExceptions.filterMap fun other => if other = resource then some none else none) ++
        ((settings.addExceptions.filter (·.1 = resource)).map (·.2)).map some := by
  rw [List.map_map, ← List.filterMap_eq_map, List.filterMap_filter]
  simp [changes, List.filterMap_append, List.filterMap_map, Function.comp_def, DepositChange.preference?]

theorem filterMap_authorized? (badge : Badge) :
    settings.changes.filterMap (DepositChange.authorized? badge) =
      (settings.removeDepositors.filterMap fun other => if other = badge then some false else none) ++
        settings.addDepositors.filterMap fun other => if other = badge then some true else none := by
  simp [changes, List.filterMap_append, List.filterMap_map, Function.comp_def, DepositChange.authorized?]

variable (before : DepositPolicy)

theorem rule_changed :
    (before.applyAll settings.changes).rule = settings.defaultRule.getD before.rule := by
  rw [DepositPolicy.rule_applyAll, filterMap_rule?]
  cases settings.defaultRule <;> rfl

theorem preference_changed (resource : Address) :
    (before.applyAll settings.changes).preference resource =
      match settings.listed? resource with
      | some preference => some preference
      | none => if resource ∈ settings.removeExceptions then none else before.preference resource := by
  rw [DepositPolicy.preference_applyAll, filterMap_preference?, List.getLast?_append, List.getLast?_map,
    getLast?_filterMap_ite, ← listed?]
  cases settings.listed? resource with
  | some preference => rfl
  | none =>
    by_cases removed : resource ∈ settings.removeExceptions
    · rw [if_pos removed, if_pos removed]
      rfl
    · rw [if_neg removed, if_neg removed]
      rfl

/-- Additions come last, so that removals only matter for what is not added. -/
theorem depositors_changed : (before.applyAll settings.changes).depositors =
    before.depositors \ settings.removeDepositors.toFinset ∪ settings.addDepositors.toFinset := by
  ext badge
  rw [← decide_eq_true_iff (p := badge ∈ (before.applyAll settings.changes).depositors),
    DepositPolicy.mem_depositors_applyAll, filterMap_authorized?, List.getLast?_append,
    getLast?_filterMap_ite, getLast?_filterMap_ite]
  by_cases added : badge ∈ settings.addDepositors
  · simp [added]
  · by_cases removed : badge ∈ settings.removeDepositors
    · simp [added, removed]
    · simp [added, removed]

end DepositSettings

/-- Deposit settings that come to a manifest are in effect once its calls are carried out, whatever the
account accepted before. The rule is the one that is asked for. The exception for a resource is the last
one that is listed, even if it is also removed. A depositor is let in if it is both removed and added.
All else is as it was. -/
theorem depositSettings_inEffect {settings : DepositSettings} {manifest : Manifest}
    (made : depositSettings settings = .ok manifest) (before : DepositPolicy) :
    ∃ list after, manifest.instructions? = some list ∧
      DepositPolicy.run settings.account before list = some after ∧
      after.rule = settings.defaultRule.getD before.rule ∧
      (∀ resource, after.preference resource =
        match settings.listed? resource with
        | some preference => some preference
        | none => if resource ∈ settings.removeExceptions then none else before.preference resource) ∧
      after.depositors =
        before.depositors \ settings.removeDepositors.toFinset ∪ settings.addDepositors.toFinset ∧
      ∀ entry ∈ settings.addExceptions, (after.preference entry.1).isSome := by
  obtain ⟨list, told, -, rfl⟩ := convert_eq_ok.mp made
  cases told
  have ran : DepositPolicy.run settings.account before (depositSettingsInstructions settings) =
      some (before.applyAll settings.changes) :=
    DepositPolicy.run_eq_some.mpr ⟨settings.changes, settings.instructions_eq, rfl⟩
  refine ⟨_, _, rfl, ran, settings.rule_changed before, settings.preference_changed before,
    settings.depositors_changed before, fun entry member => ?_⟩
  obtain ⟨preference, listed⟩ := Option.isSome_iff_exists.mp (settings.isSome_listed? member)
  rw [settings.preference_changed, listed]
  rfl

/-- An exception is removed and listed twice, another one is only removed. Of two badges that are removed
one comes back. -/
theorem depositSettings_inEffect_sample :
    let address (kind : EntityKind) (n : UInt8) : Address := ⟨kind, .stokenet, Address.wellKnownBody n⟩
    let coin : UInt8 → Address := address .resource
    let token : Badge := .nonFungible ⟨coin 3, .integer 1⟩
    let settings : DepositSettings := ⟨address .account 1, some .reject, [coin 1, coin 2],
      [(coin 1, .allowed), (coin 1, .disallowed)], [token, .resource (coin 3)], [.resource (coin 3)]⟩
    let before : DepositPolicy := ⟨.accept, fun _ => some .allowed, {token}⟩
    ∃ manifest list after, depositSettings settings = .ok manifest ∧ manifest.instructions? = some list ∧
      DepositPolicy.run settings.account before list = some after ∧ after.rule = .reject ∧
      after.preference (coin 1) = some .disallowed ∧ after.preference (coin 2) = none ∧
      after.preference (coin 3) = some .allowed ∧ after.depositors = {.resource (coin 3)} := by
  intro address coin token settings before
  obtain ⟨manifest, made⟩ := (Task.depositSettings settings).exists_manifest trivial trivial (by decide)
  obtain ⟨list, after, instructions, ran, rule, preference, depositors, -⟩ :=
    depositSettings_inEffect made before
  refine ⟨manifest, list, after, made, instructions, ran, rule, ?_, ?_, ?_, ?_⟩
  · rw [preference]
    decide
  · rw [preference]
    decide
  · rw [preference]
    decide
  · rw [depositors]
    decide

end Template

end LedgerWallet
