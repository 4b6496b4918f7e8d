import LedgerWallet.Proofs.Manifest.Acceptance

/-! What becomes of well-formed instructions when one more is put among them. The buckets of a list
are those of the instructions that name one, so an instruction that names none can only be on the
wrong network. -/
namespace LedgerWallet

namespace Instruction

/-- An instruction creates the bucket or consumes it. -/
def handles (bucket : Bucket) (instruction : Instruction) : Bool :=
  instruction.newBucket? = some bucket || 0 < instruction.uses bucket

theorem handles_iff {bucket : Bucket} {instruction : Instruction} :
    instruction.handles bucket ↔ instruction.Creates bucket ∨ 0 < instruction.uses bucket := by
  rw [handles, Bool.or_eq_true, decide_eq_true_eq, decide_eq_true_eq, newBucket?_eq_some]

theorem not_handles_iff {bucket : Bucket} {instruction : Instruction} :
    ¬ instruction.handles bucket ↔ ¬ instruction.Creates bucket ∧ instruction.uses bucket = 0 := by
  rw [handles_iff, not_or, Nat.pos_iff_ne_zero, Ne, Decidable.not_not]

/-- An instruction without buckets. -/
def Bucketless (instruction : Instruction) : Prop := ∀ bucket, ¬ instruction.handles bucket

theorem bucketless_lockFee (payer : Address) (amount : Amount) :
    (lockFee payer amount).Bucketless := by
  intro bucket
  rw [not_handles_iff]
  exact ⟨id, rfl⟩

theorem mentions_lockFee {payer address : Address} {amount : Amount} :
    (lockFee payer amount).Mentions address ↔ address = payer := by
  constructor
  · intro mentions
    cases mentions with
    | receiver => rfl
    | methodArgument member holds =>
      cases List.mem_singleton.mp member
      nomatch holds
  · rintro rfl
    exact .receiver

end Instruction

section Insertion

variable {network : Network} {before after : List Instruction} {extra : Instruction}

/-- A bucket is used once when two instructions handle it, the first of which creates it. -/
theorem usedOnce_iff_filter {list : List Instruction} {bucket : Bucket} :
    UsedOnce list bucket ↔ ∃ creator user, list.filter (Instruction.handles bucket) = [creator, user] ∧
      creator.Creates bucket ∧ user.uses bucket = 1 := by
  constructor
  · rintro ⟨before, creator, between, user, after, rfl, creates, uses, others⟩
    have none (part : List Instruction) (sub : part ⊆ before ++ between ++ after) :
        part.filter (Instruction.handles bucket) = [] := by
      rw [List.filter_eq_nil_iff]
      intro other member
      exact Instruction.not_handles_iff.mpr (others other (sub member))
    have first : creator.handles bucket := Instruction.handles_iff.mpr (.inl creates)
    have second : user.handles bucket := Instruction.handles_iff.mpr (.inr (by omega))
    refine ⟨creator, user, ?_, creates, uses⟩
    rw [List.filter_append, List.filter_append, List.filter_cons_of_pos first,
      List.filter_cons_of_pos second, none before (by simp), none between (by simp),
      none after (by simp)]
    rfl
  · rintro ⟨creator, user, filtered, creates, uses⟩
    obtain ⟨before, rest, rfl, early, -, filtered⟩ := List.filter_eq_cons_iff.mp filtered
    obtain ⟨between, after, rfl, middle, -, filtered⟩ := List.filter_eq_cons_iff.mp filtered
    have late := List.filter_eq_nil_iff.mp filtered
    refine ⟨before, creator, between, user, after, by simp, creates, uses, ?_⟩
    intro other member
    rw [List.mem_append, List.mem_append] at member
    rw [← Instruction.not_handles_iff]
    rcases member with (inside | inside) | inside
    · exact early other inside
    · exact middle other inside
    · exact late other inside

/-- What names no bucket can stand anywhere, provided that its addresses are on the network. -/
theorem wellFormed_insert (bucketless : extra.Bucketless) :
    WellFormed network (before ++ extra :: after) ↔
      WellFormed network (before ++ after) ∧
        ∀ address, extra.Mentions address → address.network = network := by
  have used (bucket : Bucket) :
      UsedOnce (before ++ extra :: after) bucket ↔ UsedOnce (before ++ after) bucket := by
    rw [usedOnce_iff_filter, usedOnce_iff_filter, List.filter_append, List.filter_append,
      List.filter_cons_of_neg (bucketless bucket)]
  constructor
  · intro whole
    refine ⟨⟨fun instruction member => ?_, fun bucket occurs => ?_⟩, ?_⟩
    · rw [List.mem_append] at member
      exact whole.pure instruction (by simpa using member.imp_right .inr)
    · obtain ⟨instruction, member, handled⟩ := occurs
      rw [List.mem_append] at member
      exact (used bucket).mp
        (whole.linear bucket ⟨instruction, by simpa using member.imp_right .inr, handled⟩)
    · exact whole.pure extra (by simp)
  · rintro ⟨rest, onNetwork⟩
    refine ⟨fun instruction member => ?_, fun bucket occurs => ?_⟩
    · rw [List.mem_append, List.mem_cons] at member
      rcases member with inside | rfl | inside
      · exact rest.pure instruction (List.mem_append_left after inside)
      · exact onNetwork
      · exact rest.pure instruction (List.mem_append_right before inside)
    · obtain ⟨instruction, member, handled⟩ := occurs
      rw [List.mem_append, List.mem_cons] at member
      refine (used bucket).mpr (rest.linear bucket ⟨instruction, ?_, handled⟩)
      rcases member with inside | rfl | inside
      · exact List.mem_append_left after inside
      · exact absurd (Instruction.handles_iff.mpr handled) (bucketless bucket)
      · exact List.mem_append_right before inside

/-- A fee payment in front leaves a list well formed exactly when its payer is on the network. -/
theorem wellFormed_lockFee {list : List Instruction} {payer : Address} {amount : Amount} :
    WellFormed network (.lockFee payer amount :: list) ↔
      WellFormed network list ∧ payer.network = network := by
  have inserted : WellFormed network ([] ++ .lockFee payer amount :: list) ↔ _ :=
    wellFormed_insert (Instruction.bucketless_lockFee payer amount)
  rw [List.nil_append, List.nil_append] at inserted
  simpa only [Instruction.mentions_lockFee, forall_eq] using inserted

end Insertion

theorem Manifest.lockFee_of_instructions {manifest : Manifest} {list : List Instruction}
    (structured : manifest.body = .instructions list) (payer : Address) (amount : Amount) :
    manifest.lockFee payer amount =
      ⟨manifest.network, .instructions (.lockFee payer amount :: list), manifest.blobs⟩ := by
  simp [lockFee, insertAt, instructions?, structured]

end LedgerWallet
