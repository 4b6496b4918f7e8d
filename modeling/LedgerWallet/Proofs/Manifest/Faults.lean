import LedgerWallet.Manifest.Basic

/-! The check of a manifest as a run over what its instructions do, one act after the other. The run
stops at the first fault, and each fault is told from the acts before it. -/
namespace LedgerWallet

/-- What an instruction does that a check can object to. -/
inductive Act where
  | names (address : Address)
  | consumes (bucket : Bucket)
  | fills (bucket : Bucket)
deriving DecidableEq

/-- An instruction names its addresses, then consumes its buckets and last fills the new one. -/
def Instruction.acts (instruction : Instruction) : List Act :=
  instruction.addresses.map .names ++ instruction.consumedBuckets.map .consumes ++
    instruction.newBucket?.toList.map .fills

namespace Act

/-- The place of an act among those of one instruction. -/
def rank : Act → Nat
  | names _ => 0
  | consumes _ => 1
  | fills _ => 2

/-- What is wrong with an act after some others. -/
def fault? (network : Network) (before : List Act) : Act → Option ManifestError
  | names address =>
    if address.network = network then none else some (.wrongNetwork address network)
  | consumes bucket =>
    if fills bucket ∉ before then some (.unknownBucket bucket)
    else if consumes bucket ∈ before then some (.consumedTwice bucket)
    else none
  | fills bucket => if fills bucket ∈ before then some (.filledTwice bucket) else none

/-- No act is at fault after those before it. -/
def Faultless (network : Network) (acts : List Act) : Prop :=
  ∀ before act after, acts = before ++ act :: after → act.fault? network before = none

/-- An act is at fault, and none before it is. -/
def FirstFault (network : Network) (acts : List Act) (e : ManifestError) : Prop :=
  ∃ before act after, acts = before ++ act :: after ∧ Faultless network before ∧
    act.fault? network before = some e

def perform (network : Network) (buckets : Buckets) : Act → Except ManifestError Buckets
  | names address => do
    network.check address
    return buckets
  | consumes bucket => buckets.consume bucket
  | fills bucket => buckets.fill bucket

theorem foldlM_names (network : Network) (addresses : List Address) (buckets : Buckets) :
    (addresses.map names).foldlM (perform network) buckets = do
      addresses.forM network.check
      return buckets := by
  induction addresses with
  | nil => rfl
  | cons address rest ih =>
    simp only [List.map_cons, List.foldlM_cons, perform, List.forM, bind_assoc, pure_bind, ih]

theorem check_eq (network : Network) (buckets : Buckets) (instruction : Instruction) :
    instruction.check network buckets = instruction.acts.foldlM (perform network) buckets := by
  have consumed (buckets : Buckets) :
      (instruction.consumedBuckets.map consumes).foldlM (perform network) buckets =
        instruction.consumedBuckets.foldlM Buckets.consume buckets := List.foldlM_map
  rw [Instruction.acts, List.foldlM_append, List.foldlM_append, foldlM_names, Instruction.check]
  simp only [bind_assoc, pure_bind, consumed]
  cases instruction.newBucket? with
  | none => rfl
  | some bucket =>
    simp only [Option.toList_some, List.map_cons, List.map_nil, List.foldlM_cons, List.foldlM_nil,
      bind_pure, perform]

theorem foldlM_check_eq (network : Network) (list : List Instruction) (buckets : Buckets) :
    list.foldlM (Instruction.check network) buckets =
      (list.flatMap Instruction.acts).foldlM (perform network) buckets := by
  induction list generalizing buckets with
  | nil => rfl
  | cons instruction rest ih =>
    rw [List.foldlM_cons, List.flatMap_cons, List.foldlM_append, check_eq]
    simp only [ih]

/-- What the buckets tell of the acts that led to them. -/
structure Recorded (before : List Act) (buckets : Buckets) : Prop where
  held : ∀ bucket, bucket ∈ buckets.held ↔ fills bucket ∈ before ∧ consumes bucket ∉ before
  spent : ∀ bucket, bucket ∈ buckets.spent ↔ consumes bucket ∈ before
  filled : ∀ bucket, consumes bucket ∈ before → fills bucket ∈ before
  once : buckets.held.Nodup

theorem recorded_empty : Recorded [] Buckets.empty := by
  constructor <;> simp [Buckets.empty]

variable {network : Network} {before : List Act} {buckets : Buckets}

theorem Recorded.names (recorded : Recorded before buckets) (address : Address) :
    Recorded (before ++ [.names address]) buckets := by
  refine ⟨?_, ?_, ?_, recorded.once⟩
  · simpa using recorded.held
  · simpa using recorded.spent
  · simpa using recorded.filled

/-- To consume a held bucket moves it to the spent ones. -/
theorem Recorded.consumes (recorded : Recorded before buckets) {bucket : Bucket}
    (held : bucket ∈ buckets.held) :
    Recorded (before ++ [.consumes bucket])
      ⟨buckets.held.erase bucket, bucket :: buckets.spent⟩ := by
  obtain ⟨filled, unspent⟩ := (recorded.held bucket).mp held
  refine ⟨fun other => ?_, fun other => ?_, fun other consumed => ?_, recorded.once.erase bucket⟩
  · have left : other ∈ buckets.held.erase bucket ↔ other ≠ bucket ∧ other ∈ buckets.held :=
      recorded.once.mem_erase_iff
    simp only [left, recorded.held other, List.mem_append, List.mem_singleton, reduceCtorEq,
      or_false, consumes.injEq, not_or]
    exact ⟨fun h => ⟨h.2.1, h.2.2, h.1⟩, fun h => ⟨h.2.2, h.1, h.2.1⟩⟩
  · rw [List.mem_cons, recorded.spent other, List.mem_append, List.mem_singleton, consumes.injEq,
      or_comm]
  · simp only [List.mem_append, List.mem_singleton, consumes.injEq, reduceCtorEq, or_false]
      at consumed ⊢
    rcases consumed with earlier | rfl
    · exact recorded.filled other earlier
    · exact filled

/-- To fill a bucket that was never filled adds it to the held ones. -/
theorem Recorded.fills (recorded : Recorded before buckets) {bucket : Bucket}
    (unfilled : Act.fills bucket ∉ before) :
    Recorded (before ++ [.fills bucket]) { buckets with held := bucket :: buckets.held } := by
  have unheld : bucket ∉ buckets.held := fun held => unfilled ((recorded.held bucket).mp held).1
  have unspent : Act.consumes bucket ∉ before := mt (recorded.filled bucket) unfilled
  refine ⟨fun other => ?_, ?_, fun other consumed => ?_, List.nodup_cons.mpr ⟨unheld, recorded.once⟩⟩
  · simp only [List.mem_cons, recorded.held other, List.mem_append, reduceCtorEq, fills.injEq]
    grind
  · simpa using recorded.spent
  · simp only [List.mem_append, List.mem_singleton, reduceCtorEq, or_false] at consumed
    exact List.mem_append_left _ (recorded.filled other consumed)

theorem Recorded.held_or_spent (recorded : Recorded before buckets) (bucket : Bucket) :
    bucket ∈ buckets.held ∨ bucket ∈ buckets.spent ↔ Act.fills bucket ∈ before := by
  rw [recorded.held, recorded.spent]
  have filled := recorded.filled bucket
  grind

/-- One act: it is performed and recorded, or its fault is the error. -/
theorem perform_spec (network : Network) (recorded : Recorded before buckets) (act : Act) :
    match act.fault? network before with
    | none => ∃ next, perform network buckets act = .ok next ∧ Recorded (before ++ [act]) next
    | some e => perform network buckets act = .error e := by
  cases act with
  | names address =>
    by_cases own : address.network = network
    · simp only [fault?, own, if_true]
      exact ⟨buckets, by simp only [perform, Network.check, own, if_true]; rfl,
        recorded.names address⟩
    · simp only [fault?, perform, Network.check, own, if_false]
      rfl
  | consumes bucket =>
    by_cases held : bucket ∈ buckets.held
    · obtain ⟨filled, unspent⟩ := (recorded.held bucket).mp held
      simp only [fault?, filled, unspent, not_true, if_false]
      exact ⟨_, if_pos held, recorded.consumes held⟩
    · by_cases spent : bucket ∈ buckets.spent
      · have consumed := (recorded.spent bucket).mp spent
        simp only [fault?, perform, Buckets.consume, held, spent, consumed,
          recorded.filled bucket consumed, not_true, if_false, if_true]
      · have unfilled := mt (recorded.held_or_spent bucket).mpr (not_or.mpr ⟨held, spent⟩)
        simp only [fault?, perform, Buckets.consume, held, spent, unfilled, not_false_iff, if_false,
          if_true]
  | fills bucket =>
    have known := recorded.held_or_spent bucket
    by_cases filled : fills bucket ∈ before
    · simp only [fault?, perform, Buckets.fill, known, filled, if_true]
    · simp only [fault?, perform, Buckets.fill, known, filled, if_false]
      exact ⟨_, rfl, recorded.fills filled⟩

/-- A further act after acts without a fault. -/
theorem Faultless.concat (sound : Faultless network before) {act : Act}
    (passes : act.fault? network before = none) : Faultless network (before ++ [act]) := by
  intro earlier other later split
  rcases List.eq_nil_or_concat later with rfl | ⟨between, last, rfl⟩
  · obtain ⟨rfl, same⟩ := List.append_inj' split rfl
    exact (List.cons.inj same).1 ▸ passes
  · rw [List.concat_eq_append, ← List.cons_append, ← List.append_assoc] at split
    exact sound earlier other between (List.append_inj' split rfl).1

/-- All acts: they are performed and recorded, or the first fault among them is the error. -/
theorem perform_all (recorded : Recorded before buckets) (sound : Faultless network before)
    (acts : List Act) :
    (∃ final, acts.foldlM (perform network) buckets = .ok final ∧
        Recorded (before ++ acts) final ∧ Faultless network (before ++ acts)) ∨
      ∃ e, acts.foldlM (perform network) buckets = .error e ∧
        FirstFault network (before ++ acts) e := by
  induction acts generalizing before buckets with
  | nil => exact .inl ⟨buckets, rfl, by simpa using recorded, by simpa using sound⟩
  | cons act rest ih =>
    have step := perform_spec network recorded act
    cases fault : act.fault? network before with
    | none =>
      rw [fault] at step
      obtain ⟨next, performed, recorded⟩ := step
      rw [List.foldlM_cons, performed, List.append_cons]
      exact ih recorded (sound.concat fault)
    | some e =>
      rw [fault] at step
      exact .inr ⟨e, by rw [List.foldlM_cons, step]; rfl, before, act, rest, rfl, sound, fault⟩

/-- Faultless acts have no first fault. -/
theorem Faultless.not_firstFault {acts : List Act} (sound : Faultless network acts)
    (e : ManifestError) : ¬ FirstFault network acts e := by
  rintro ⟨earlier, act, later, split, -, fault⟩
  rw [sound earlier act later split] at fault
  contradiction

theorem fault_agrees {earlier more back rest : List Act} {act again : Act} {e other : ManifestError}
    (fault : act.fault? network earlier = some e) (sound : Faultless network (earlier ++ more))
    (found : again.fault? network (earlier ++ more) = some other)
    (tail : act :: rest = more ++ again :: back) : e = other := by
  cases more with
  | nil =>
    rw [List.nil_append, List.cons.injEq] at tail
    rw [List.append_nil, ← tail.1, fault] at found
    exact Option.some.inj found
  | cons first more =>
    rw [List.cons_append, List.cons.injEq] at tail
    rw [tail.1, sound earlier first more rfl] at fault
    contradiction

theorem FirstFault.unique {acts : List Act} {e other : ManifestError}
    (first : FirstFault network acts e) (second : FirstFault network acts other) : e = other := by
  obtain ⟨earlier, act, later, rfl, sound, fault⟩ := first
  obtain ⟨front, again, back, split, faultless, found⟩ := second
  rcases List.append_eq_append_iff.mp split with ⟨more, rfl, tail⟩ | ⟨more, rfl, tail⟩
  · exact fault_agrees fault faultless found tail
  · exact (fault_agrees found sound fault tail).symm

/-- What must be new whenever it happens happens once at most. -/
theorem count_le_one {acts : List Act} {act : Act}
    (fresh : ∀ earlier later, acts = earlier ++ act :: later → act ∉ earlier) :
    acts.count act ≤ 1 := by
  by_cases member : act ∈ acts
  · obtain ⟨earlier, later, rfl, unseen⟩ := List.eq_append_cons_of_mem member
    have unrepeated : act ∉ later := by
      intro again
      obtain ⟨between, rest, rfl⟩ := List.append_of_mem again
      apply fresh (earlier ++ act :: between) rest (by simp)
      exact List.mem_append_right _ List.mem_cons_self
    have early := List.count_eq_zero.mpr unseen
    have late := List.count_eq_zero.mpr unrepeated
    rw [List.count_append, List.count_cons_self]
    omega
  · rw [List.count_eq_zero.mpr member]
    exact Nat.zero_le 1

namespace Faultless

variable {acts : List Act} (sound : Faultless network acts)
include sound

theorem network_eq {address : Address} (named : names address ∈ acts) :
    address.network = network := by
  obtain ⟨earlier, later, split⟩ := List.append_of_mem named
  have passes := sound _ _ _ split
  simp only [fault?] at passes
  split at passes
  · assumption
  · contradiction

theorem filled_before {bucket : Bucket} {earlier later : List Act}
    (split : acts = earlier ++ consumes bucket :: later) :
    fills bucket ∈ earlier ∧ consumes bucket ∉ earlier := by
  have passes := sound _ _ _ split
  simp only [fault?] at passes
  grind

theorem count_fills_le (bucket : Bucket) : acts.count (fills bucket) ≤ 1 := by
  apply count_le_one
  intro earlier later split
  have passes := sound _ _ _ split
  simp only [fault?] at passes
  grind

theorem count_consumes_le (bucket : Bucket) : acts.count (consumes bucket) ≤ 1 :=
  count_le_one fun _ _ split => (sound.filled_before split).2

end Faultless

end Act

end LedgerWallet
