import LedgerWallet.Manifest.Template
import LedgerWallet.Proofs.List.FirstSeen
import Mathlib.Data.List.Basic

/-! Legs grouped by their resources. No leg is lost or repeated, and those of one resource keep their
order. -/
namespace LedgerWallet.Template

/-- The legs in the order in which they are dealt with: one resource after the other, as they are first
seen. -/
def byResource (legs : List FungibleLeg) : List FungibleLeg :=
  (legs.map (·.resource)).eraseDups.flatMap fun resource => legs.filter (·.resource = resource)

/-- Legs of a resource that is not among some others do not count for these. -/
theorem flatMap_filter_of_not_mem {resource : Address} {others : List Address}
    (fresh : resource ∉ others) (legs : List FungibleLeg) :
    (others.flatMap fun other =>
      (legs.filter fun leg => !decide (leg.resource = resource)).filter (·.resource = other)) =
        others.flatMap fun other => legs.filter (·.resource = other) := by
  refine List.flatMap_congr fun other member => ?_
  rw [List.filter_filter]
  refine List.filter_congr fun leg _ => ?_
  by_cases own : leg.resource = other
  · have different : leg.resource ≠ resource := fun same => fresh (same ▸ own ▸ member)
    simp [own, own ▸ different]
  · simp [own]

theorem byResource_perm_of {resources : List Address} (distinct : resources.Nodup)
    {legs : List FungibleLeg} (all : ∀ leg ∈ legs, leg.resource ∈ resources) :
    (resources.flatMap fun resource => legs.filter (·.resource = resource)).Perm legs := by
  induction resources generalizing legs with
  | nil =>
    have none : legs = [] := List.eq_nil_iff_forall_not_mem.mpr fun leg member =>
      List.not_mem_nil (all leg member)
    rw [none]
    exact .nil
  | cons resource rest ih =>
    obtain ⟨fresh, distinct⟩ := List.nodup_cons.mp distinct
    have others : ∀ leg ∈ legs.filter fun leg => !decide (leg.resource = resource),
        leg.resource ∈ rest := by
      intro leg member
      rw [List.mem_filter, Bool.not_eq_true', decide_eq_false_iff_not] at member
      exact (List.mem_cons.mp (all leg member.1)).resolve_left member.2
    rw [List.flatMap_cons, ← flatMap_filter_of_not_mem fresh]
    exact ((ih distinct others).append_left _).trans
      (List.filter_append_perm (·.resource = resource) legs)

/-- Each leg is dealt with once. -/
theorem byResource_perm (legs : List FungibleLeg) : (byResource legs).Perm legs :=
  byResource_perm_of (nodup_eraseDups _) fun _ member =>
    List.mem_eraseDups.mpr (List.mem_map_of_mem member)

theorem filter_flatMap_resource {resources : List Address} (distinct : resources.Nodup)
    (legs : List FungibleLeg) (resource : Address) :
    (resources.flatMap fun other => legs.filter (·.resource = other)).filter (·.resource = resource) =
      if resource ∈ resources then legs.filter (·.resource = resource) else [] := by
  have own (other : Address) : (legs.filter (·.resource = other)).filter (·.resource = resource) =
      if other = resource then legs.filter (·.resource = resource) else [] := by
    rw [List.filter_filter]
    split
    · next same => simp [same]
    · next different =>
      refine List.filter_eq_nil_iff.mpr fun leg _ both => different ?_
      simp only [Bool.and_eq_true, decide_eq_true_eq] at both
      exact both.2 ▸ both.1
  induction resources with
  | nil => rfl
  | cons other rest ih =>
    obtain ⟨fresh, distinct⟩ := List.nodup_cons.mp distinct
    rw [List.flatMap_cons, List.filter_append, ih distinct, own]
    by_cases same : other = resource
    · subst same
      simp [fresh]
    · simp [same, @eq_comm _ resource]

/-- Legs of one resource keep their order. -/
theorem filter_byResource (legs : List FungibleLeg) (resource : Address) :
    (byResource legs).filter (·.resource = resource) = legs.filter (·.resource = resource) := by
  rw [byResource, filter_flatMap_resource (nodup_eraseDups _)]
  split
  · rfl
  · next none =>
    refine (List.filter_eq_nil_iff.mpr fun leg member same => none ?_).symm
    exact List.mem_eraseDups.mpr (decide_eq_true_eq.mp same ▸ List.mem_map_of_mem member)

end LedgerWallet.Template
