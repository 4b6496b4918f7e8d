import LedgerWallet.Proofs.Manifest.Faults
import LedgerWallet.Proofs.Manifest.Occurrence
import LedgerWallet.Proofs.Text.ByteOrder
import LedgerWallet.Proofs.Text.Cutting

/-! Which instructions make a manifest: those that stay on its network and use each of their buckets
once. All others are refused for their first fault. -/
namespace LedgerWallet

namespace Instruction

variable {bucket : Bucket} {instruction : Instruction} {list : List Instruction}

theorem mem_acts_names {address : Address} :
    .names address ∈ instruction.acts ↔ instruction.Mentions address := by
  rw [← mem_addresses]
  simp [acts]

theorem count_acts_consumes :
    instruction.acts.count (.consumes bucket) = instruction.uses bucket := by
  have named : (instruction.addresses.map Act.names).count (.consumes bucket) = 0 :=
    List.count_eq_zero.mpr (by simp)
  have filled : (instruction.newBucket?.toList.map Act.fills).count (.consumes bucket) = 0 :=
    List.count_eq_zero.mpr (by simp)
  have consumed (buckets : List Bucket) :
      (buckets.map Act.consumes).count (.consumes bucket) = buckets.count bucket := by
    rw [List.count, List.countP_map, List.count]
    exact List.countP_congr fun other _ => by simp
  rw [acts, List.count_append, List.count_append, named, filled, consumed, count_consumedBuckets,
    Nat.zero_add, Nat.add_zero]

theorem mem_acts_fills : .fills bucket ∈ instruction.acts ↔ instruction.Creates bucket := by
  rw [← newBucket?_eq_some]
  simp [acts]

theorem count_acts_fills (creates : instruction.Creates bucket) :
    instruction.acts.count (.fills bucket) = 1 := by
  have others : Act.fills bucket ∉
      instruction.addresses.map Act.names ++ instruction.consumedBuckets.map Act.consumes := by simp
  rw [acts, newBucket?_eq_some.mpr creates, List.count_append, List.count_eq_zero.mpr others]
  simp

theorem mem_acts_consumes : .consumes bucket ∈ instruction.acts ↔ 0 < instruction.uses bucket := by
  rw [← count_acts_consumes, List.count_pos_iff]

/-- The acts of an instruction are its places: each address that it mentions, each use of a bucket and the
bucket that it creates, in this order. -/
structure ToldBy (instruction : Instruction) (acts : List Act) : Prop where
  names : ∀ address, .names address ∈ acts ↔ instruction.Mentions address
  consumes : ∀ bucket, acts.count (.consumes bucket) = instruction.uses bucket
  fills : ∀ bucket, .fills bucket ∈ acts ↔ instruction.Creates bucket
  inOrder : acts.Pairwise fun earlier later => earlier.rank ≤ later.rank

theorem toldBy_acts (instruction : Instruction) : instruction.ToldBy instruction.acts where
  names _ := mem_acts_names
  consumes _ := count_acts_consumes
  fills _ := mem_acts_fills
  inOrder := by
    have alike {α : Type} (act : α → Act) (rank : Nat) (same : ∀ a, (act a).rank = rank)
        (list : List α) : (list.map act).Pairwise fun earlier later => earlier.rank ≤ later.rank := by
      rw [List.pairwise_map]
      exact List.pairwise_of_forall fun a b => Nat.le_of_eq ((same a).trans (same b).symm)
    rw [acts, List.pairwise_append, List.pairwise_append]
    refine ⟨⟨alike _ 0 (fun _ => rfl) _, alike _ 1 (fun _ => rfl) _, ?_⟩,
      alike _ 2 (fun _ => rfl) _, ?_⟩
    · simp [Act.rank]
    · simp only [List.mem_append, List.mem_map]
      rintro _ (⟨_, -, rfl⟩ | ⟨_, -, rfl⟩) _ ⟨_, -, rfl⟩ <;> simp [Act.rank]

theorem mem_flatMap_fills :
    .fills bucket ∈ list.flatMap acts ↔ ∃ instruction ∈ list, instruction.Creates bucket := by
  simp only [List.mem_flatMap, mem_acts_fills]

theorem mem_flatMap_consumes :
    .consumes bucket ∈ list.flatMap acts ↔ ∃ instruction ∈ list, 0 < instruction.uses bucket := by
  simp only [List.mem_flatMap, mem_acts_consumes]

/-- A bucket is neither created nor consumed where no act is about it. -/
theorem unnamed_iff : (∀ other ∈ list, ¬ other.Creates bucket ∧ other.uses bucket = 0) ↔
    (list.flatMap acts).count (.fills bucket) = 0 ∧
      (list.flatMap acts).count (.consumes bucket) = 0 := by
  rw [List.count_eq_zero, List.count_eq_zero, mem_flatMap_fills, mem_flatMap_consumes]
  constructor
  · intro unnamed
    refine ⟨?_, ?_⟩
    · rintro ⟨other, member, creates⟩
      exact (unnamed other member).1 creates
    · rintro ⟨other, member, uses⟩
      exact Nat.ne_of_gt uses (unnamed other member).2
  · rintro ⟨uncreated, unused⟩ other member
    exact ⟨fun creates => uncreated ⟨other, member, creates⟩,
      Nat.eq_zero_of_not_pos fun uses => unused ⟨other, member, uses⟩⟩

end Instruction

/-- One instruction creates the bucket and a later one consumes it. No other instruction names it. -/
def UsedOnce (list : List Instruction) (bucket : Bucket) : Prop :=
  ∃ before creator between user after, list = before ++ creator :: between ++ user :: after ∧
    creator.Creates bucket ∧ user.uses bucket = 1 ∧
    ∀ other ∈ before ++ between ++ after, ¬ other.Creates bucket ∧ other.uses bucket = 0

/-- Every bucket that occurs is used once. -/
def Linear (list : List Instruction) : Prop :=
  ∀ bucket, (∃ instruction ∈ list, instruction.Creates bucket ∨ 0 < instruction.uses bucket) →
    UsedOnce list bucket

/-- Every address is on the network and every bucket that occurs is used once. -/
structure WellFormed (network : Network) (list : List Instruction) : Prop where
  pure : ∀ instruction ∈ list, ∀ address, instruction.Mentions address → address.network = network
  linear : Linear list

/-- A bucket that is created, but never consumed. -/
def Unconsumed (list : List Instruction) (bucket : Bucket) : Prop :=
  (∃ instruction ∈ list, instruction.Creates bucket) ∧
    ∀ instruction ∈ list, instruction.uses bucket = 0

/-- The unconsumed bucket whose name comes first in the order of bytes. -/
def LeastUnconsumed (list : List Instruction) (bucket : Bucket) : Prop :=
  Unconsumed list bucket ∧
    ∀ other, Unconsumed list other → Utf8.encode bucket.name ≤ Utf8.encode other.name

theorem LeastUnconsumed.unique {list : List Instruction} {bucket other : Bucket}
    (first : LeastUnconsumed list bucket) (second : LeastUnconsumed list other) : bucket = other := by
  have same := List.le_antisymm (first.2 other second.1) (second.2 bucket first.1)
  have decoded := congrArg Utf8.decode same
  rw [Utf8.decode_encode, Utf8.decode_encode] at decoded
  cases bucket
  cases other
  exact congrArg Bucket.mk (Except.ok.inj decoded)

namespace Act

variable {network : Network} {list : List Instruction} {bucket : Bucket}

theorem unconsumed_iff : Unconsumed list bucket ↔
    fills bucket ∈ list.flatMap Instruction.acts ∧ consumes bucket ∉ list.flatMap Instruction.acts := by
  rw [Instruction.mem_flatMap_fills, Instruction.mem_flatMap_consumes, Unconsumed]
  simp only [not_exists, not_and, Nat.pos_iff_ne_zero, ne_eq, Decidable.not_not]

/-- A bucket of a faultless list is used once when something consumes it. -/
theorem Faultless.usedOnce (sound : Faultless network (list.flatMap Instruction.acts))
    (consumed : consumes bucket ∈ list.flatMap Instruction.acts) : UsedOnce list bucket := by
  obtain ⟨user, member, uses⟩ := Instruction.mem_flatMap_consumes.mp consumed
  obtain ⟨earlier, after, rfl⟩ := List.append_of_mem member
  have fillsOnce := sound.count_fills_le bucket
  have usedOnce := sound.count_consumes_le bucket
  obtain ⟨front, back, split⟩ := List.append_of_mem (Instruction.mem_acts_consumes.mpr uses)
  have placed : (earlier ++ user :: after).flatMap Instruction.acts =
      (earlier.flatMap Instruction.acts ++ front) ++
        consumes bucket :: (back ++ after.flatMap Instruction.acts) := by simp [split]
  have filled := (sound.filled_before placed).1
  have unfilled : fills bucket ∉ front := by
    intro inside
    have creates := Instruction.mem_acts_fills.mp (split ▸ List.mem_append_left _ inside)
    rw [Instruction.uses_of_creates creates] at uses
    contradiction
  obtain ⟨creator, earlierMember, creates⟩ := Instruction.mem_flatMap_fills.mp
    ((List.mem_append.mp filled).resolve_right unfilled)
  obtain ⟨before, between, rfl⟩ := List.append_of_mem earlierMember
  simp only [List.flatMap_append, List.flatMap_cons, List.count_append,
    Instruction.count_acts_fills creates, Instruction.count_acts_consumes] at fillsOnce usedOnce
  refine ⟨before, creator, between, user, after, rfl, creates, by omega, ?_⟩
  rw [List.append_assoc, List.forall_mem_append, List.forall_mem_append, Instruction.unnamed_iff,
    Instruction.unnamed_iff, Instruction.unnamed_iff]
  exact ⟨⟨by omega, by omega⟩, ⟨by omega, by omega⟩, by omega, by omega⟩

/-- What the acts say about a bucket that is used once. -/
theorem usedOnce_acts (used : UsedOnce list bucket) :
    ∃ front back, list.flatMap Instruction.acts = front ++ back ∧
      fills bucket ∈ front ∧ consumes bucket ∉ front ∧
      (list.flatMap Instruction.acts).count (fills bucket) = 1 ∧
      (list.flatMap Instruction.acts).count (consumes bucket) = 1 := by
  obtain ⟨before, creator, between, user, after, rfl, creates, uses, others⟩ := used
  rw [List.append_assoc, List.forall_mem_append, List.forall_mem_append, Instruction.unnamed_iff,
    Instruction.unnamed_iff, Instruction.unnamed_iff] at others
  obtain ⟨first, middle, last⟩ := others
  have idle := Instruction.uses_of_creates creates bucket
  have distinct : fills bucket ∉ user.acts := by
    intro inside
    have := Instruction.uses_of_creates (Instruction.mem_acts_fills.mp inside) bucket
    omega
  refine ⟨before.flatMap Instruction.acts ++ creator.acts,
    between.flatMap Instruction.acts ++ (user.acts ++ after.flatMap Instruction.acts),
    by simp, ?_, ?_, ?_, ?_⟩
  · exact List.mem_append_right _ (Instruction.mem_acts_fills.mpr creates)
  · rw [List.mem_append, Instruction.mem_acts_consumes, idle]
    exact fun either => either.elim (List.count_eq_zero.mp first.2) (Nat.lt_irrefl 0)
  · simp only [List.flatMap_append, List.flatMap_cons, List.count_append, first.1, middle.1, last.1,
      List.count_eq_zero.mpr distinct, Instruction.count_acts_fills creates]
  · simp only [List.flatMap_append, List.flatMap_cons, List.count_append, first.2, middle.2, last.2,
      Instruction.count_acts_consumes, idle, uses]

/-- Where every bucket is used once, a fault is an address on another network. -/
theorem fault_of_linear (linear : Linear list) {earlier later : List Act} {act : Act}
    (split : list.flatMap Instruction.acts = earlier ++ act :: later) {e : ManifestError}
    (fault : act.fault? network earlier = some e) :
    ∃ address, act = names address ∧ address.network ≠ network ∧ e = .wrongNetwork address network := by
  have member : act ∈ list.flatMap Instruction.acts := split ▸ by simp
  cases act with
  | names address =>
    simp only [fault?] at fault
    split at fault
    · contradiction
    · next foreign => exact ⟨address, rfl, foreign, (Option.some.inj fault).symm⟩
  | consumes bucket =>
    obtain ⟨user, inside, uses⟩ := Instruction.mem_flatMap_consumes.mp member
    obtain ⟨front, back, cut, filled, unspent, -, once⟩ :=
      usedOnce_acts (linear bucket ⟨user, inside, .inr uses⟩)
    have early : fills bucket ∈ earlier := by
      rcases List.append_eq_append_iff.mp (cut.symm.trans split) with ⟨more, rfl, -⟩ | ⟨more, rfl, tail⟩
      · exact List.mem_append_left _ filled
      · cases more with
        | nil => simpa using filled
        | cons act more =>
          rw [List.cons_append, List.cons.injEq] at tail
          exact absurd (tail.1 ▸ by simp) unspent
    have fresh : consumes bucket ∉ earlier := by
      rw [split, List.count_append, List.count_cons_self] at once
      exact List.count_eq_zero.mp (by omega)
    simp only [fault?, early, fresh, not_true, if_false] at fault
    contradiction
  | fills bucket =>
    obtain ⟨creator, inside, creates⟩ := Instruction.mem_flatMap_fills.mp member
    obtain ⟨-, -, -, -, -, once, -⟩ := usedOnce_acts (linear bucket ⟨creator, inside, .inl creates⟩)
    have fresh : fills bucket ∉ earlier := by
      rw [split, List.count_append, List.count_cons_self] at once
      exact List.count_eq_zero.mp (by omega)
    simp only [fault?, fresh, if_false] at fault
    contradiction

theorem not_unconsumed_of_linear (linear : Linear list) (bucket : Bucket) :
    ¬ Unconsumed list bucket := by
  rintro ⟨⟨creator, inside, creates⟩, unused⟩
  obtain ⟨before, creator, between, user, after, rfl, -, uses, -⟩ :=
    linear bucket ⟨creator, inside, .inl creates⟩
  have := unused user (by simp)
  omega

theorem faultless_of_wellFormed (wellFormed : WellFormed network list) :
    Faultless network (list.flatMap Instruction.acts) := by
  intro earlier act later split
  cases fault : act.fault? network earlier with
  | none => rfl
  | some e =>
    obtain ⟨address, rfl, foreign, -⟩ := fault_of_linear wellFormed.linear split fault
    have member : names address ∈ list.flatMap Instruction.acts := split ▸ by simp
    obtain ⟨instruction, inside, named⟩ := List.mem_flatMap.mp member
    exact absurd (wellFormed.pure instruction inside address (Instruction.mem_acts_names.mp named))
      foreign

/-- A list is well formed when no act is at fault and no bucket is left over. -/
theorem wellFormed_iff : WellFormed network list ↔
    Faultless network (list.flatMap Instruction.acts) ∧ ∀ bucket, ¬ Unconsumed list bucket := by
  constructor
  · intro wellFormed
    exact ⟨faultless_of_wellFormed wellFormed, not_unconsumed_of_linear wellFormed.linear⟩
  · rintro ⟨sound, consumed⟩
    refine ⟨fun instruction inside address mentions => ?_, fun bucket occurs => ?_⟩
    · exact sound.network_eq
        (List.mem_flatMap.mpr ⟨instruction, inside, Instruction.mem_acts_names.mpr mentions⟩)
    · refine sound.usedOnce (Decidable.byContradiction fun unconsumed => ?_)
      obtain ⟨instruction, inside, creates | uses⟩ := occurs
      · exact consumed bucket (unconsumed_iff.mpr
          ⟨Instruction.mem_flatMap_fills.mpr ⟨instruction, inside, creates⟩, unconsumed⟩)
      · exact unconsumed (Instruction.mem_flatMap_consumes.mpr ⟨instruction, inside, uses⟩)

end Act

theorem Buckets.first_spec (bucket : Bucket) (rest : List Bucket) :
    first bucket rest ∈ bucket :: rest ∧ ∀ other ∈ bucket :: rest,
      Utf8.encode (first bucket rest).name ≤ Utf8.encode other.name := by
  induction rest generalizing bucket with
  | nil => exact ⟨List.mem_singleton_self bucket, by simp [first]⟩
  | cons next rest ih =>
    rw [first]
    split <;> rename_i smaller
    · obtain ⟨member, least⟩ := ih next
      refine ⟨List.mem_cons_of_mem bucket member, fun other inside => ?_⟩
      rcases List.mem_cons.mp inside with rfl | later
      · exact List.le_trans (least next List.mem_cons_self) (List.le_of_lt (Utf8.encode_lt smaller))
      · exact least other later
    · obtain ⟨member, least⟩ := ih bucket
      have among (other : Bucket) (inside : other ∈ bucket :: rest) :
          other ∈ bucket :: next :: rest := by
        rcases List.mem_cons.mp inside with rfl | later
        · exact List.mem_cons_self
        · exact List.mem_cons_of_mem bucket (List.mem_cons_of_mem next later)
      refine ⟨among _ member, fun other inside => ?_⟩
      rcases List.mem_cons.mp inside with rfl | later
      · exact least other List.mem_cons_self
      · rcases List.mem_cons.mp later with rfl | last
        · exact List.le_trans (least bucket List.mem_cons_self) (Utf8.encode_le_of_not_lt smaller)
        · exact least other (List.mem_cons_of_mem bucket last)

namespace Manifest

variable {network : Network} {list : List Instruction}

theorem validate_cases (network : Network) (list : List Instruction) :
    (validate network list = .ok () ∧ WellFormed network list) ∨
    (∃ e, validate network list = .error e ∧
      Act.FirstFault network (list.flatMap Instruction.acts) e) ∨
    ∃ bucket, validate network list = .error (.neverConsumed bucket) ∧
      Act.Faultless network (list.flatMap Instruction.acts) ∧ LeastUnconsumed list bucket := by
  have start : Act.Faultless network [] := fun before _ _ split => by cases before <;> contradiction
  have run := Act.perform_all Act.recorded_empty start (list.flatMap Instruction.acts)
  rw [← Act.foldlM_check_eq, List.nil_append] at run
  rcases run with ⟨final, performed, recorded, sound⟩ | ⟨e, failed, fault⟩
  · have left (bucket : Bucket) : Unconsumed list bucket ↔ bucket ∈ final.held :=
      Act.unconsumed_iff.trans (recorded.held bucket).symm
    cases held : final.held with
    | nil =>
      refine .inl ⟨?_, Act.wellFormed_iff.mpr ⟨sound, fun bucket unconsumed => ?_⟩⟩
      · rw [validate, performed]
        change final.finish = _
        rw [Buckets.finish, held]
      · rw [left, held] at unconsumed
        contradiction
    | cons bucket rest =>
      obtain ⟨member, least⟩ := Buckets.first_spec bucket rest
      simp only [held] at left
      refine .inr (.inr ⟨Buckets.first bucket rest, ?_, sound, (left _).mpr member, ?_⟩)
      · rw [validate, performed]
        change final.finish = _
        rw [Buckets.finish, held]
      · exact fun other unconsumed => least other ((left other).mp unconsumed)
  · exact .inr (.inl ⟨e, by rw [validate, failed]; rfl, fault⟩)

theorem validate_eq_ok : validate network list = .ok () ↔ WellFormed network list := by
  rcases validate_cases network list with
    ⟨valid, wellFormed⟩ | ⟨e, refused, fault⟩ | ⟨bucket, refused, -, least⟩
  · exact iff_of_true valid wellFormed
  · rw [refused]
    apply iff_of_false nofun
    intro wellFormed
    exact (Act.wellFormed_iff.mp wellFormed).1.not_firstFault e fault
  · rw [refused]
    apply iff_of_false nofun
    intro wellFormed
    exact (Act.wellFormed_iff.mp wellFormed).2 bucket least.1

theorem validate_eq_error {e : ManifestError} : validate network list = .error e ↔
    Act.FirstFault network (list.flatMap Instruction.acts) e ∨
    ∃ bucket, e = .neverConsumed bucket ∧
      (∀ fault, ¬ Act.FirstFault network (list.flatMap Instruction.acts) fault) ∧
      LeastUnconsumed list bucket := by
  rcases validate_cases network list with
    ⟨valid, wellFormed⟩ | ⟨first, refused, fault⟩ | ⟨bucket, refused, sound, least⟩
  · obtain ⟨sound, consumed⟩ := Act.wellFormed_iff.mp wellFormed
    rw [valid]
    apply iff_of_false nofun
    rintro (fault | ⟨bucket, -, -, unconsumed, -⟩)
    · exact sound.not_firstFault e fault
    · exact consumed bucket unconsumed
  · rw [refused, Except.error.injEq]
    constructor
    · rintro rfl
      exact .inl fault
    · rintro (same | ⟨bucket, -, none, -⟩)
      · exact fault.unique same
      · exact absurd fault (none first)
  · rw [refused, Except.error.injEq]
    constructor
    · rintro rfl
      exact .inr ⟨bucket, rfl, sound.not_firstFault, least⟩
    · rintro (fault | ⟨other, rfl, -, smallest⟩)
      · exact absurd fault (sound.not_firstFault e)
      · exact congrArg ManifestError.neverConsumed (least.unique smallest)

theorem make_eq (network : Network) (list : List Instruction) (blobs : List (List UInt8)) :
    make network list blobs =
      (validate network list).map fun _ => ⟨network, .instructions list, blobs⟩ := by
  rw [make]
  cases validate network list <;> rfl

variable {blobs : List (List UInt8)} {manifest : Manifest}

theorem make_eq_ok : make network list blobs = .ok manifest ↔
    WellFormed network list ∧ manifest = ⟨network, .instructions list, blobs⟩ := by
  rw [make_eq, ← validate_eq_ok]
  cases validate network list with
  | ok _ => simp [Except.map, eq_comm]
  | error e => simp [Except.map]

theorem exists_make_iff : (∃ manifest, make network list blobs = .ok manifest) ↔
    WellFormed network list := by
  simp only [make_eq_ok, exists_and_left, exists_eq, and_true]

theorem make_eq_error {e : ManifestError} : make network list blobs = .error e ↔
    Act.FirstFault network (list.flatMap Instruction.acts) e ∨
    ∃ bucket, e = .neverConsumed bucket ∧
      (∀ fault, ¬ Act.FirstFault network (list.flatMap Instruction.acts) fault) ∧
      LeastUnconsumed list bucket := by
  rw [make_eq, ← validate_eq_error]
  cases validate network list <;> simp [Except.map]

/-- Well-formed instructions are made into a manifest that holds them as they are. Others are refused
for the first fault in the order of the instructions or, without one, for the unconsumed bucket
whose name comes first. The acts of an instruction, among which the fault is, are told by the places
where it mentions addresses, uses buckets and creates one. Its arguments are gone through from left to
right at any depth. -/
theorem make_spec (network : Network) (list : List Instruction) (blobs : List (List UInt8)) :
    (∀ instruction : Instruction, instruction.ToldBy instruction.acts) ∧
    ((∃ manifest, make network list blobs = .ok manifest) ↔ WellFormed network list) ∧
    (∀ manifest, make network list blobs = .ok manifest →
      manifest = ⟨network, .instructions list, blobs⟩) ∧
    ∀ e, make network list blobs = .error e ↔
      Act.FirstFault network (list.flatMap Instruction.acts) e ∨
      ∃ bucket, e = .neverConsumed bucket ∧
        (∀ fault, ¬ Act.FirstFault network (list.flatMap Instruction.acts) fault) ∧
        LeastUnconsumed list bucket :=
  ⟨Instruction.toldBy_acts, exists_make_iff, fun _ made => (make_eq_ok.mp made).2,
    fun _ => make_eq_error⟩

end Manifest

end LedgerWallet
