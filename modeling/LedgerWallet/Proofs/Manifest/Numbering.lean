import LedgerWallet.Manifest.Template
import LedgerWallet.Proofs.Manifest.Amendment
import LedgerWallet.Proofs.Text.Digits

/-! Instructions that deal with numbered buckets. Each part of a manifest has a range of numbers of its
own, so that parts can be put one after the other as long as the numbers do not start over. -/
namespace LedgerWallet

theorem Bucket.numbered_inj {m n : Nat} (small : m < UInt32.size) (small' : n < UInt32.size)
    (same : numbered m = numbered n) : m = n := by
  have names : "bucket" ++ toString (m % UInt32.size) = "bucket" ++ toString (n % UInt32.size) := by
    simpa [numbered] using same
  have texts := (String.append_right_inj "bucket").mp names
  rw [Nat.mod_eq_of_lt small, Nat.mod_eq_of_lt small', Nat.toString_eq_repr, Nat.toString_eq_repr,
    Nat.repr_eq_ofList_toDigits, Nat.repr_eq_ofList_toDigits, String.ofList_inj] at texts
  exact Text.toDigits_inj texts

/-- The instruction consumes the bucket once and nothing else. -/
def Instruction.Empties (bucket : Bucket) (instruction : Instruction) : Prop :=
  instruction.newBucket? = none ∧ ∀ other, instruction.uses other = if bucket = other then 1 else 0

theorem Instruction.empties_callMethod (receiver : Address) (method : String) (bucket : Bucket) :
    (callMethod receiver method [.ofBucket bucket]).Empties bucket :=
  ⟨rfl, fun _ => Nat.add_zero _⟩

theorem Instruction.empties_depositFor (recipient : Address) (signatureRequired : Bool)
    (bucket : Bucket) : (Template.depositFor recipient signatureRequired bucket).Empties bucket := by
  cases signatureRequired <;> exact ⟨rfl, fun _ => Nat.add_zero _⟩

/-- The instructions handle only buckets from `first` up to `last`, and each of these once. -/
structure Deals (first last : Nat) (list : List Instruction) : Prop where
  within : ∀ instruction ∈ list, ∀ bucket, instruction.handles bucket →
    ∃ n, first ≤ n ∧ n < last ∧ bucket = .numbered n
  once : ∀ bucket, (∃ instruction ∈ list, instruction.handles bucket) → UsedOnce list bucket

namespace Deals

variable {first middle last : Nat} {list rest : List Instruction}

theorem linear (deals : Deals first last list) : Linear list := by
  rintro bucket ⟨instruction, member, occurs⟩
  exact deals.once bucket ⟨instruction, member, Instruction.handles_iff.mpr occurs⟩

theorem of_bucketless (bucketless : ∀ instruction ∈ list, instruction.Bucketless) :
    Deals first first list := by
  refine ⟨fun instruction member bucket handles => ?_, ?_⟩
  · exact absurd handles (bucketless instruction member bucket)
  · rintro bucket ⟨instruction, member, handles⟩
    exact absurd handles (bucketless instruction member bucket)

theorem single {instruction : Instruction} (bucketless : instruction.Bucketless) :
    Deals first first [instruction] :=
  of_bucketless fun _ member => List.mem_singleton.mp member ▸ bucketless

theorem nil : Deals first first [] := of_bucketless fun _ member => absurd member List.not_mem_nil

theorem mono {wider : Nat} (deals : Deals first last list) (fits : last ≤ wider) :
    Deals first wider list := by
  refine ⟨fun instruction member bucket handles => ?_, deals.once⟩
  obtain ⟨n, above, below, same⟩ := deals.within instruction member bucket handles
  exact ⟨n, above, Nat.lt_of_lt_of_le below fits, same⟩

/-- A bucket that is filled and emptied at once. -/
theorem pair {n : Nat} {creator user : Instruction} (creates : creator.Creates (.numbered n))
    (empties : user.Empties (.numbered n)) : Deals n (n + 1) [creator, user] := by
  obtain ⟨creatorless, uses⟩ := empties
  have only (instruction : Instruction) (member : instruction ∈ [creator, user]) (bucket : Bucket)
      (handles : instruction.handles bucket) : bucket = .numbered n := by
    rw [Instruction.handles_iff, ← Instruction.newBucket?_eq_some] at handles
    rcases List.mem_cons.mp member with rfl | other
    · rw [Instruction.newBucket?_eq_some.mpr creates, Instruction.uses_of_creates creates] at handles
      rcases handles with same | positive
      · exact (Option.some.inj same).symm
      · contradiction
    · cases List.mem_singleton.mp other
      rw [creatorless, uses bucket] at handles
      rcases handles with same | positive
      · contradiction
      · by_cases same : Bucket.numbered n = bucket
        · exact same.symm
        · rw [if_neg same] at positive
          contradiction
  refine ⟨fun instruction member bucket handles => ⟨n, Nat.le_refl n, Nat.lt_succ_self n,
    only instruction member bucket handles⟩, ?_⟩
  rintro bucket ⟨instruction, member, handles⟩
  cases only instruction member bucket handles
  exact ⟨[], creator, [], user, [], rfl, creates, by rw [uses, if_pos rfl], by simp⟩

/-- The buckets of two parts are different, so that each is used once in the part that it is in. -/
theorem append (early : Deals first middle list) (late : Deals middle last rest)
    (ordered : first ≤ middle ∧ middle ≤ last) (small : last ≤ UInt32.size) :
    Deals first last (list ++ rest) := by
  have apart {one other : Instruction} (inside : one ∈ list) (inside' : other ∈ rest)
      {bucket : Bucket} (handles : one.handles bucket) : ¬ other.handles bucket := by
    intro handles'
    obtain ⟨m, -, below, rfl⟩ := early.within one inside bucket handles
    obtain ⟨n, above, below', same⟩ := late.within other inside' _ handles'
    have := Bucket.numbered_inj (by omega) (by omega) same
    omega
  refine ⟨fun instruction member bucket handles => ?_, ?_⟩
  · rcases List.mem_append.mp member with inside | inside
    · obtain ⟨n, above, below, same⟩ := early.within instruction inside bucket handles
      exact ⟨n, above, by omega, same⟩
    · obtain ⟨n, above, below, same⟩ := late.within instruction inside bucket handles
      exact ⟨n, by omega, below, same⟩
  · rintro bucket ⟨instruction, member, handles⟩
    rw [usedOnce_iff_filter, List.filter_append]
    rcases List.mem_append.mp member with inside | inside
    · have other : rest.filter (Instruction.handles bucket) = [] :=
        List.filter_eq_nil_iff.mpr fun _ inside' => apart inside inside' handles
      rw [other, List.append_nil]
      exact usedOnce_iff_filter.mp (early.once bucket ⟨instruction, inside, handles⟩)
    · have other : list.filter (Instruction.handles bucket) = [] :=
        List.filter_eq_nil_iff.mpr fun _ inside' handles' => apart inside' inside handles' handles
      rw [other, List.nil_append]
      exact usedOnce_iff_filter.mp (late.once bucket ⟨instruction, inside, handles⟩)

end Deals

theorem linear_of_bucketless {list : List Instruction}
    (bucketless : ∀ instruction ∈ list, instruction.Bucketless) : Linear list :=
  have deals : Deals 0 0 list := .of_bucketless bucketless
  deals.linear

end LedgerWallet
