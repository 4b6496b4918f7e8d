import LedgerWallet.Manifest.Template
import LedgerWallet.Proofs.List.FirstSeen
import Mathlib.Algebra.Ring.Int.Defs
import Mathlib.Algebra.Ring.Nat
import Mathlib.Data.List.Induction

/-! Sums of amounts, which exist as long as no sum on the way is too large. -/
namespace LedgerWallet

namespace Amount

variable {a b c : Amount} {amounts : List Amount}

/-- A count of attos that an amount can have. -/
def Fits (attos : Int) : Prop :=
  -0x80000000000000000000000000000000 ≤ attos ∧ attos < 0x80000000000000000000000000000000

theorem add?_eq_some : a.add? b = some c ↔ c.attos = a.attos + b.attos := by
  obtain ⟨attos, lower, upper⟩ := c
  rw [add?, ofInt?]
  split
  · simp [eq_comm]
  · next large =>
    apply iff_of_false (by simp)
    rintro rfl
    exact large ⟨lower, upper⟩

theorem add?_eq_none : a.add? b = none ↔ ¬ Fits (a.attos + b.attos) := by
  rw [add?, ofInt?, Fits]
  split <;> simp [*]

/-- The attos of some amounts together. -/
def attosSum (amounts : List Amount) : Int := (amounts.map attos).sum

theorem attosSum_cons (first : Amount) (rest : List Amount) :
    attosSum (first :: rest) = first.attos + attosSum rest := rfl

theorem attosSum_concat (amounts : List Amount) (last : Amount) :
    attosSum (amounts ++ [last]) = attosSum amounts + last.attos := by
  simp [attosSum]

/-- No partial sum is too large. -/
def SumsFit (amounts : List Amount) : Prop := ∀ part, part <+: amounts → Fits (attosSum part)

theorem sumsFit_nil : SumsFit [] := by
  intro part early
  rw [List.prefix_nil.mp early]
  exact ⟨by decide, by decide⟩

theorem sumsFit_concat {last : Amount} :
    SumsFit (amounts ++ [last]) ↔ SumsFit amounts ∧ Fits (attosSum (amounts ++ [last])) := by
  simp only [SumsFit, List.prefix_concat_iff, or_imp, forall_and, forall_eq, and_comm]

/-- The sum is told when all partial sums fit. -/
theorem sum_cases (amounts : List Amount) :
    (SumsFit amounts ∧ ∃ total, sum amounts = .ok total ∧ total.attos = attosSum amounts) ∨
      ¬ SumsFit amounts ∧ sum amounts = .error .overflow := by
  have summed : (SumsFit amounts ∧ ∃ total, amounts.foldlM add? zero = some total ∧
      total.attos = attosSum amounts) ∨ ¬ SumsFit amounts ∧ amounts.foldlM add? zero = none := by
    induction amounts using List.reverseRecOn with
    | nil => exact .inl ⟨sumsFit_nil, zero, rfl, rfl⟩
    | append_singleton amounts last ih =>
      rw [sumsFit_concat, List.foldlM_append, attosSum_concat]
      rcases ih with ⟨fits, total, early, same⟩ | ⟨large, early⟩
      · rw [early, ← same]
        cases added : total.add? last with
        | none => exact .inr ⟨fun both => add?_eq_none.mp added both.2, by simp [added]⟩
        | some sum =>
          have attos := add?_eq_some.mp added
          refine .inl ⟨⟨fits, attos ▸ ⟨sum.lower, sum.upper⟩⟩, sum, by simp [added], attos⟩
      · rw [early]
        exact .inr ⟨fun both => large both.1, rfl⟩
  rw [sum]
  rcases summed with ⟨fits, total, folded, same⟩ | ⟨large, folded⟩
  · rw [folded]
    exact .inl ⟨fits, total, rfl, same⟩
  · rw [folded]
    exact .inr ⟨large, rfl⟩

end Amount

namespace Template

/-- What the legs of one resource come to, leg by leg. -/
def owed (resource : Address) (legs : List FungibleLeg) : List Amount :=
  (legs.filter (·.resource = resource)).map (·.amount)

theorem owed_concat (resource : Address) (legs : List FungibleLeg) (leg : FungibleLeg) :
    owed resource (legs ++ [leg]) =
      if leg.resource = resource then owed resource legs ++ [leg.amount] else owed resource legs := by
  rw [owed, List.filter_append, List.map_append]
  split
  · next same => simp [owed, same]
  · next other => simp [owed, other]

/-- The total of each resource fits, and so does every sum on the way to it. -/
def LegsFit (legs : List FungibleLeg) : Prop := ∀ resource, Amount.SumsFit (owed resource legs)

theorem legsFit_nil : LegsFit [] := fun _ => Amount.sumsFit_nil

theorem legsFit_concat {legs : List FungibleLeg} {leg : FungibleLeg} : LegsFit (legs ++ [leg]) ↔
    LegsFit legs ∧ Amount.Fits (Amount.attosSum (owed leg.resource legs) + leg.amount.attos) := by
  have own : owed leg.resource (legs ++ [leg]) = owed leg.resource legs ++ [leg.amount] := by
    rw [owed_concat, if_pos rfl]
  constructor
  · intro fits
    refine ⟨fun resource => ?_, ?_⟩
    · have whole := fits resource
      rw [owed_concat] at whole
      split at whole
      · exact (Amount.sumsFit_concat.mp whole).1
      · exact whole
    · rw [← Amount.attosSum_concat]
      exact (Amount.sumsFit_concat.mp (own ▸ fits leg.resource)).2
  · rintro ⟨fits, last⟩ resource
    rw [owed_concat]
    split
    · next same =>
      subst same
      exact Amount.sumsFit_concat.mpr ⟨fits _, by rwa [Amount.attosSum_concat]⟩
    · exact fits resource

namespace Totals

/-- The totals of some legs: each resource once, as they are first seen, with what its legs come to. -/
structure Sums (totals : Totals) (legs : List FungibleLeg) : Prop where
  resources : totals.map (·.1) = (legs.map (·.resource)).eraseDups
  sums : ∀ entry ∈ totals, entry.2.attos = Amount.attosSum (owed entry.1 legs)

/-- A leg adds to the total of its resource, or its resource is new. -/
theorem add_cases (totals : Totals) (leg : FungibleLeg) :
    (∃ before total after, totals = before ++ (leg.resource, total) :: after ∧
      leg.resource ∉ before.map (·.1) ∧ totals.add leg =
        (total.add? leg.amount).map fun sum => before ++ (leg.resource, sum) :: after) ∨
    (leg.resource ∉ totals.map (·.1) ∧ totals.add leg = some (totals ++ [(leg.resource, leg.amount)])) := by
  induction totals with
  | nil => exact .inr ⟨List.not_mem_nil, rfl⟩
  | cons entry rest ih =>
    obtain ⟨resource, total⟩ := entry
    by_cases same : resource = leg.resource
    · subst same
      refine .inl ⟨[], total, rest, rfl, List.not_mem_nil, ?_⟩
      rw [add, if_pos rfl]
      cases total.add? leg.amount <;> rfl
    · rw [add, if_neg same]
      rcases ih with ⟨before, own, after, rfl, fresh, added⟩ | ⟨fresh, added⟩
      · refine .inl ⟨(resource, total) :: before, own, after, rfl, ?_, ?_⟩
        · rw [List.map_cons, List.mem_cons]
          exact fun either => either.elim (fun other => same other.symm) fresh
        · rw [added]
          cases own.add? leg.amount <;> rfl
      · refine .inr ⟨?_, ?_⟩
        · rw [List.map_cons, List.mem_cons]
          exact fun either => either.elim (fun other => same other.symm) fresh
        · rw [added]
          rfl

/-- The totals of other resources stay as they are. -/
theorem Sums.other {totals : Totals} {legs : List FungibleLeg} (sums : totals.Sums legs)
    {leg : FungibleLeg} {entry : Address × Amount} (member : entry ∈ totals)
    (other : leg.resource ≠ entry.1) :
    entry.2.attos = Amount.attosSum (owed entry.1 (legs ++ [leg])) := by
  rw [owed_concat, if_neg other]
  exact sums.sums entry member

/-- One more leg fits, or its total does not. -/
theorem Sums.add {totals : Totals} {legs : List FungibleLeg} (sums : totals.Sums legs)
    (leg : FungibleLeg) :
    let sum := Amount.attosSum (owed leg.resource legs) + leg.amount.attos
    (Amount.Fits sum ∧ ∃ after, totals.add leg = some after ∧ after.Sums (legs ++ [leg])) ∨
      ¬ Amount.Fits sum ∧ totals.add leg = none := by
  intro sum
  have known : leg.resource ∈ totals.map (·.1) ↔ leg.resource ∈ legs.map (·.resource) := by
    rw [sums.resources, List.mem_eraseDups]
  have own : Amount.attosSum (owed leg.resource (legs ++ [leg])) = sum := by
    rw [owed_concat, if_pos rfl, Amount.attosSum_concat]
  rcases totals.add_cases leg with ⟨before, total, after, rfl, fresh, added⟩ | ⟨fresh, added⟩
  · have same : total.attos = Amount.attosSum (owed leg.resource legs) :=
      sums.sums (leg.resource, total) (by simp)
    have distinct : ((before ++ (leg.resource, total) :: after).map (·.1)).Nodup :=
      sums.resources ▸ nodup_eraseDups _
    rw [List.map_append, List.map_cons, List.nodup_append, List.nodup_cons] at distinct
    obtain ⟨-, ⟨unrepeated, -⟩, -⟩ := distinct
    cases next : total.add? leg.amount with
    | none =>
      have large := Amount.add?_eq_none.mp next
      rw [same] at large
      exact .inr ⟨large, by rw [added, next]; rfl⟩
    | some larger =>
      have attos : larger.attos = sum := by rw [Amount.add?_eq_some.mp next, same]
      refine .inl ⟨attos ▸ ⟨larger.lower, larger.upper⟩, _, by rw [added, next]; rfl, ?_, ?_⟩
      · have resources := sums.resources
        rw [List.map_append, List.map_cons] at resources
        rw [List.map_append, List.map_cons, List.map_append, List.map_singleton, eraseDups_concat,
          if_pos (known.mp (by simp)), resources]
      · intro entry member
        rw [List.mem_append, List.mem_cons] at member
        rcases member with inside | rfl | inside
        · refine sums.other (List.mem_append_left _ inside) fun same => ?_
          exact fresh (same ▸ List.mem_map_of_mem inside)
        · rw [own, attos]
        · refine sums.other (List.mem_append_right _ (List.mem_cons_of_mem _ inside)) fun same => ?_
          have repeated : leg.resource ∈ after.map (·.1) := same ▸ List.mem_map_of_mem inside
          exact unrepeated repeated
  · have none : owed leg.resource legs = [] := by
      rw [owed, List.map_eq_nil_iff, List.filter_eq_nil_iff]
      intro other inside same
      rw [decide_eq_true_eq] at same
      exact fresh (known.mpr (same ▸ List.mem_map_of_mem inside))
    have attos : leg.amount.attos = sum := by simp [sum, none, Amount.attosSum]
    refine .inl ⟨attos ▸ ⟨leg.amount.lower, leg.amount.upper⟩, _, added, ?_, ?_⟩
    · rw [List.map_append, List.map_append, List.map_singleton, List.map_singleton, eraseDups_concat,
        if_neg (mt known.mpr fresh), sums.resources]
    · intro entry member
      rcases List.mem_append.mp member with inside | last
      · exact sums.other inside fun same => fresh (same ▸ List.mem_map_of_mem inside)
      · rw [List.mem_singleton.mp last, own, attos]

/-- The totals are told when all sums on the way to them fit. -/
theorem of_cases (legs : List FungibleLeg) :
    (LegsFit legs ∧ ∃ totals, Totals.of legs = some totals ∧ totals.Sums legs) ∨
      ¬ LegsFit legs ∧ Totals.of legs = none := by
  induction legs using List.reverseRecOn with
  | nil =>
    exact .inl ⟨legsFit_nil, [], rfl, rfl, fun _ member => absurd member List.not_mem_nil⟩
  | append_singleton legs leg ih =>
    have step : Totals.of (legs ++ [leg]) = Totals.of legs >>= fun totals => totals.add leg := by
      rw [Totals.of, List.foldlM_append, ← Totals.of]
      simp
    rw [legsFit_concat, step]
    rcases ih with ⟨fits, totals, early, sums⟩ | ⟨large, early⟩
    · rw [early]
      rcases sums.add leg with ⟨room, after, added, later⟩ | ⟨tooLarge, added⟩
      · exact .inl ⟨⟨fits, room⟩, after, added, later⟩
      · exact .inr ⟨fun both => tooLarge both.2, added⟩
    · rw [early]
      exact .inr ⟨fun both => large both.1, rfl⟩

theorem legsFit_of_isSome {legs : List FungibleLeg} (told : (Totals.of legs).isSome) : LegsFit legs := by
  rcases of_cases legs with ⟨fits, -⟩ | ⟨-, untold⟩
  · exact fits
  · rw [untold] at told
    contradiction

end Totals

end Template

end LedgerWallet
