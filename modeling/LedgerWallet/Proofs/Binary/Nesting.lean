import LedgerWallet.Proofs.Binary.Soundness

/-! Values nest as deep as their bytes allow. No reader gives back more than it was given, so the
depth that the reader of values counts down is never used up, and it is the reader of its own parts. -/
namespace LedgerWallet.Binary

variable {α β : Type}

/-- What a reader leaves is no longer than what it was given. -/
def Shrinks (reader : Reader α) : Prop :=
  ∀ input value rest, reader input = .ok (value, rest) → rest.length ≤ input.length

theorem Consumes.shrinks {reader : Reader α} {made : α → Layout → Prop}
    (consumes : Consumes reader made) : Shrinks reader := by
  intro input value rest read
  obtain ⟨layout, bytes, -, -, rfl⟩ := consumes input value rest read
  rw [List.length_append]
  exact Nat.le_add_left _ _

theorem readValueWithin_shrinks (depth : Nat) : Shrinks (readValueWithin depth) :=
  (readValueWithin_consumes depth).shrinks

/-- An index takes four bytes. -/
theorem length_of_readVariant {input rest : List UInt8} {index : Nat}
    (read : readVariant input = .ok (index, rest)) : rest.length + 4 = input.length := by
  obtain ⟨_, bytes, ⟨-, rfl⟩, spelled, rfl⟩ := readVariant_rewrites input index rest read
  rw [spells_fixed.mp spelled, List.length_append, writeVariant, LittleEndian.length_encode,
    Nat.add_comm]

/-- The shape of the reader of values, given what reads the parts. -/
def readValueOf (part : Reader Value) : Reader Value := do
  let index ← readVariant
  match readShape? index with
  | some shape => return .compound (← shape) (← readList part)
  | none => return .scalar (← readScalar index)

/-- Two readers give the same on every input shorter than a bound. -/
def AgreeBelow (bound : Nat) (first second : Reader α) : Prop :=
  ∀ input, input.length < bound → first input = second input

namespace AgreeBelow

theorem bind_right {bound : Nat} {reader : Reader α} {first second : α → Reader β}
    (shrinks : Shrinks reader) (rest : ∀ value, AgreeBelow bound (first value) (second value)) :
    AgreeBelow bound (reader >>= first) (reader >>= second) := by
  intro input short
  cases read : reader input with
  | error fault => rw [bind_error read, bind_error read]
  | ok pair =>
    obtain ⟨value, middle⟩ := pair
    rw [bind_ok read, bind_ok read]
    exact rest value middle (Nat.lt_of_le_of_lt (shrinks input value middle read) short)

theorem bind_left {bound : Nat} {first second : Reader α} {next : α → Reader β}
    (agree : AgreeBelow bound first second) :
    AgreeBelow bound (first >>= next) (second >>= next) := by
  intro input short
  simp only [Bind.bind, StateT.bind, agree input short]

theorem trans {bound : Nat} {first second third : Reader α} (left : AgreeBelow bound first second)
    (right : AgreeBelow bound second third) : AgreeBelow bound first third := fun input short =>
  (left input short).trans (right input short)

theorem readMany {bound : Nat} {first second : Reader α} (agree : AgreeBelow bound first second)
    (shrinks : Shrinks second) (count : Nat) :
    AgreeBelow bound (Binary.readMany first count) (Binary.readMany second count) := by
  induction count with
  | zero => exact fun input short => rfl
  | succ count ih =>
    have heads : AgreeBelow bound (Binary.readMany first (count + 1))
        (second >>= fun head => Binary.readMany first count >>= fun tail => pure (head :: tail)) :=
      agree.bind_left
    exact heads.trans (bind_right shrinks fun head => ih.bind_left)

end AgreeBelow

/-- A value takes its index off before its parts, so the parts are read from something shorter. -/
theorem readValueOf_agree {bound : Nat} {first second : Reader Value}
    (agree : AgreeBelow bound first second) (shrinks : Shrinks second) :
    AgreeBelow (bound + 1) (readValueOf first) (readValueOf second) := by
  intro input short
  cases read : readVariant input with
  | error fault => simp only [readValueOf, bind_error read]
  | ok pair =>
    obtain ⟨index, rest⟩ := pair
    have length := length_of_readVariant read
    have shorter : rest.length < bound := by omega
    simp only [readValueOf, bind_ok read]
    cases found : readShape? index with
    | none => rfl
    | some shape =>
      have parts := AgreeBelow.bind_right readCount_rewrites.shrinks fun count => agree.readMany shrinks count
      exact AgreeBelow.bind_right (readShape_rewrites found).shrinks (fun shape => parts.bind_left) rest shorter

theorem readValueWithin_succ (depth : Nat) :
    AgreeBelow depth (readValueWithin depth) (readValueWithin (depth + 1)) := by
  induction depth with
  | zero => exact fun input short => absurd short (Nat.not_lt_zero _)
  | succ depth ih => exact readValueOf_agree ih (readValueWithin_shrinks (depth + 1))

theorem readValueWithin_of_le {low high : Nat} (enough : low ≤ high) :
    AgreeBelow low (readValueWithin low) (readValueWithin high) := by
  induction enough with
  | refl => exact fun input short => rfl
  | @step high enough ih =>
    apply ih.trans
    intro input short
    exact readValueWithin_succ high input (Nat.lt_of_lt_of_le short enough)

theorem readValueWithin_eq {depth : Nat} {input : List UInt8} (enough : input.length < depth) :
    readValueWithin depth input = readValue input :=
  (readValueWithin_of_le enough input (Nat.lt_succ_self _)).symm

/-- The reader of values reads parts with itself. -/
theorem readValue_eq : readValue = readValueOf readValue := by
  funext input
  have parts : AgreeBelow input.length (readValueWithin input.length) readValue := fun part short =>
    readValueWithin_eq short
  have shrinks : Shrinks readValue := fun input value rest read =>
    readValueWithin_shrinks (input.length + 1) input value rest read
  exact readValueOf_agree parts shrinks input (Nat.lt_succ_self _)

end LedgerWallet.Binary
