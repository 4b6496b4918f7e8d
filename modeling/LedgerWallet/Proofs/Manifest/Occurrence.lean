import LedgerWallet.Manifest.Instruction

/-! Where addresses and buckets occur in instructions, said place by place and at any depth of the
arguments. What the instructions list as their addresses and buckets is exactly what occurs. -/
namespace LedgerWallet

/-- A scalar is part of a value, at some depth. -/
inductive Value.Holds (scalar : Scalar) : Value → Prop where
  | here : Holds scalar (.scalar scalar)
  | inside {shape : Shape} {parts : List Value} {part : Value} (member : part ∈ parts)
      (holds : Holds scalar part) : Holds scalar (.compound shape parts)

namespace Value

mutual

/-- How often a bucket is named in a value. -/
def uses (bucket : Bucket) : Value → Nat
  | .scalar (.bucket named) => if named = bucket then 1 else 0
  | .scalar _ => 0
  | .compound _ parts => usesIn bucket parts

def usesIn (bucket : Bucket) : List Value → Nat
  | [] => 0
  | value :: rest => value.uses bucket + usesIn bucket rest

end

theorem mem_scalarsOf {scalar : Scalar} {values : List Value} :
    scalar ∈ scalarsOf values ↔ ∃ value ∈ values, scalar ∈ value.scalars := by
  induction values with
  | nil => simp [scalarsOf]
  | cons value rest ih => simp [scalarsOf, ih]

theorem mem_scalars_of_holds {scalar : Scalar} {value : Value} (holds : value.Holds scalar) :
    scalar ∈ value.scalars := by
  induction holds with
  | here => simp [scalars]
  | inside member _ ih =>
    rw [scalars]
    exact mem_scalarsOf.mpr ⟨_, member, ih⟩

mutual

theorem holds_of_mem_scalars {scalar : Scalar} :
    (value : Value) → scalar ∈ value.scalars → value.Holds scalar
  | .scalar inner, member => by
    rw [scalars, List.mem_singleton] at member
    exact member ▸ .here
  | .compound shape parts, member => by
    rw [scalars] at member
    obtain ⟨part, inside, holds⟩ := holds_of_mem_scalarsOf parts member
    exact .inside inside holds

theorem holds_of_mem_scalarsOf {scalar : Scalar} :
    (values : List Value) → scalar ∈ scalarsOf values → ∃ value ∈ values, value.Holds scalar
  | [], member => by
    rw [scalarsOf] at member
    contradiction
  | value :: rest, member => by
    rw [scalarsOf, List.mem_append] at member
    rcases member with first | later
    · exact ⟨value, List.mem_cons_self, holds_of_mem_scalars value first⟩
    · obtain ⟨other, inside, holds⟩ := holds_of_mem_scalarsOf rest later
      exact ⟨other, List.mem_cons_of_mem value inside, holds⟩

end

theorem mem_addresses {address : Address} {value : Value} :
    address ∈ value.addresses ↔ value.Holds (.address address) := by
  have only (scalar : Scalar) : scalar.address? = some address ↔ scalar = .address address := by
    cases scalar <;> simp [Scalar.address?]
  rw [addresses, List.mem_filterMap]
  constructor
  · rintro ⟨scalar, member, named⟩
    exact (only scalar).mp named ▸ holds_of_mem_scalars value member
  · intro holds
    exact ⟨_, mem_scalars_of_holds holds, (only _).mpr rfl⟩

mutual

theorem count_buckets (bucket : Bucket) :
    (value : Value) → value.buckets.count bucket = value.uses bucket
  | .scalar inner => by
    cases inner with
    | bucket named => simp [buckets, scalars, uses, Scalar.bucket?, List.count_singleton]
    | _ => rfl
  | .compound shape parts => by
    rw [buckets, scalars, uses]
    exact count_bucketsIn bucket parts

theorem count_bucketsIn (bucket : Bucket) : (values : List Value) →
    ((scalarsOf values).filterMap Scalar.bucket?).count bucket = usesIn bucket values
  | [] => rfl
  | value :: rest => by
    rw [scalarsOf, List.filterMap_append, List.count_append, usesIn, count_bucketsIn bucket rest]
    exact congrArg (· + usesIn bucket rest) (count_buckets bucket value)

end

theorem count_flatMap_buckets (bucket : Bucket) (values : List Value) :
    (values.flatMap buckets).count bucket = usesIn bucket values := by
  induction values with
  | nil => rfl
  | cons value rest ih =>
    rw [List.flatMap_cons, List.count_append, count_buckets, ih, usesIn]

end Value

namespace Instruction

/-- The places of an instruction where an address stands. -/
inductive Mentions (address : Address) : Instruction → Prop where
  | taken {amount : Amount} {into : Bucket} : Mentions address (.take address amount into)
  | takenNonFungibles {ids : List LocalId} {into : Bucket} :
      Mentions address (.takeNonFungibles address ids into)
  | takenAll {into : Bucket} : Mentions address (.takeAll address into)
  | asserted {amount : Amount} : Mentions address (.assertContains address amount)
  | package {blueprint function : String} {args : List Value} :
      Mentions address (.callFunction address blueprint function args)
  | functionArgument {package : Address} {blueprint function : String} {args : List Value}
      {arg : Value} (member : arg ∈ args) (holds : arg.Holds (.address address)) :
      Mentions address (.callFunction package blueprint function args)
  | receiver {method : String} {args : List Value} :
      Mentions address (.callMethod address method args)
  | methodArgument {receiver : Address} {method : String} {args : List Value} {arg : Value}
      (member : arg ∈ args) (holds : arg.Holds (.address address)) :
      Mentions address (.callMethod receiver method args)
  | target {key : String} {value : Value} : Mentions address (.setMetadata address key value)
  | metadata {target : Address} {key : String} {value : Value}
      (holds : value.Holds (.address address)) : Mentions address (.setMetadata target key value)

/-- The three instructions that take from the worktop create the bucket they fill. -/
def Creates (bucket : Bucket) : Instruction → Prop
  | take _ _ into => into = bucket
  | takeNonFungibles _ _ into => into = bucket
  | takeAll _ into => into = bucket
  | assertContains _ _ | callFunction _ _ _ _ | callMethod _ _ _ | setMetadata _ _ _ => False

/-- How often an instruction consumes a bucket. -/
def uses (bucket : Bucket) : Instruction → Nat
  | callFunction _ _ _ args => Value.usesIn bucket args
  | callMethod _ _ args => Value.usesIn bucket args
  | setMetadata _ _ value => value.uses bucket
  | take _ _ _ | takeNonFungibles _ _ _ | takeAll _ _ | assertContains _ _ => 0

theorem mem_addresses {address : Address} {instruction : Instruction} :
    address ∈ instruction.addresses ↔ instruction.Mentions address := by
  have listed : address ∈ instruction.addresses ↔ address = instruction.subject ∨
      ∃ arg ∈ instruction.args, arg.Holds (.address address) := by
    simp only [addresses, List.mem_cons, List.mem_flatMap, Value.mem_addresses]
  rw [listed]
  constructor
  · rintro (rfl | ⟨arg, member, holds⟩)
    · cases instruction <;> constructor
    · cases instruction with
      | callFunction => exact .functionArgument member holds
      | callMethod => exact .methodArgument member holds
      | setMetadata => exact .metadata (List.mem_singleton.mp member ▸ holds)
      | _ => contradiction
  · intro mentions
    cases mentions with
    | functionArgument member holds => exact .inr ⟨_, member, holds⟩
    | methodArgument member holds => exact .inr ⟨_, member, holds⟩
    | metadata holds => exact .inr ⟨_, List.mem_singleton_self _, holds⟩
    | _ => exact .inl rfl

theorem newBucket?_eq_some {bucket : Bucket} {instruction : Instruction} :
    instruction.newBucket? = some bucket ↔ instruction.Creates bucket := by
  cases instruction <;> simp [newBucket?, Creates]

theorem count_consumedBuckets (bucket : Bucket) (instruction : Instruction) :
    instruction.consumedBuckets.count bucket = instruction.uses bucket := by
  rw [consumedBuckets, Value.count_flatMap_buckets]
  cases instruction <;> simp [args, uses, Value.usesIn]

/-- What creates a bucket has no arguments. -/
theorem uses_of_creates {bucket : Bucket} {instruction : Instruction}
    (creates : instruction.Creates bucket) (other : Bucket) : instruction.uses other = 0 := by
  cases instruction <;> first | rfl | exact creates.elim

end Instruction

end LedgerWallet
