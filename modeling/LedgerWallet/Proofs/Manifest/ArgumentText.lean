import LedgerWallet.Proofs.Manifest.Occurrence
import LedgerWallet.Proofs.Manifest.ScalarText

/-! The texts of arguments. What comes before the first bracket tells scalars and values with parts
apart, and the parts tell where they end. -/
namespace LedgerWallet

open Text (Unmistakable)

/-- What stands in front of several values in brackets. -/
inductive Heading where
  | shape (shape : Shape)
  | ids

namespace Heading

def text : Heading → String
  | shape form => form.text
  | ids => "Array<NonFungibleLocalId>"

theorem toList_variant (discriminator : UInt8) :
    (shape (.variant discriminator)).text.toList =
      ['E', 'n', 'u', 'm', '<'] ++ (Nat.toDigits 10 discriminator.toNat ++ ['u', '8', '>']) := by
  have number : (toString discriminator).toList = Nat.toDigits 10 discriminator.toNat := by
    rw [← String.toList_ofList (l := Nat.toDigits 10 discriminator.toNat),
      ← Nat.repr_eq_ofList_toDigits]
    rfl
  simp only [text, Shape.text, String.toList_append, number, List.append_assoc]
  rfl

theorem text_inj {first second : Heading} (same : first.text = second.text) : first = second := by
  have sameChars := congrArg String.toList same
  rcases first with (discriminator | _ | _) | _ <;> rcases second with (discriminator' | _ | _) | _
  case shape.variant.shape.variant =>
    rw [toList_variant, toList_variant, List.append_cancel_left_eq] at sameChars
    have absent (n : Nat) : 'u' ∉ Nat.toDigits 10 n := Text.not_mem_toDigits (by decide) n
    have digits := Text.eq_of_separator_append (absent _) (absent _) sameChars
    rw [UInt8.toNat_inj.mp (Text.toDigits_inj digits.1)]
  all_goals first
    | rfl
    | exact absurd same (by decide)
    | rw [toList_variant] at sameChars
      exact absurd (List.head_eq_of_cons_eq sameChars) (by decide)

theorem text_start (heading : Heading) : ∃ c tail,
    heading.text.toList = c :: tail ∧ Opening.of c = .heading ∧ c ≠ ')' := by
  rcases heading with (discriminator | _ | _) | _
  · exact ⟨_, _, toList_variant discriminator, by decide, by decide⟩
  all_goals exact ⟨_, _, rfl, by decide, by decide⟩

theorem bracket_not_mem (heading : Heading) : '(' ∉ heading.text.toList := by
  rcases heading with (discriminator | _ | _) | _
  · have digits := Text.not_mem_toDigits (c := '(') (by decide) discriminator.toNat
    rw [toList_variant]
    simp [digits]
  all_goals decide

/-- No single text has a heading in front. -/
theorem text_not_mem_names (heading : Heading) : heading.text ∉ Rendered.names := by
  have plain : ∀ name ∈ Rendered.names, '<' ∉ name.toList := by decide
  rcases heading with (discriminator | _ | _) | _
  · intro member
    refine plain _ member ?_
    rw [toList_variant]
    simp
  all_goals decide

end Heading

/-- What a line of an instruction holds. -/
inductive Operand where
  | scalar (value : Scalar)
  | group (heading : Heading) (parts : List Value)

namespace Operand

def text : Operand → String
  | scalar value => value.text
  | group heading parts => heading.text ++ "(" ++ Value.textOf parts ++ ")"

def scalars : Operand → List Scalar
  | scalar value => [value]
  | group _ parts => Value.scalarsOf parts

/-- What has to hold for an operand to be told from its text. -/
def Legible (operand : Operand) : Prop := ∀ scalar ∈ operand.scalars, scalar.Legible

theorem toList_group (heading : Heading) (parts : List Value) :
    (group heading parts).text.toList =
      heading.text.toList ++ '(' :: ((Value.textOf parts).toList ++ [')']) := by
  simp [text]

theorem text_start {operand : Operand} (legible : operand.Legible) : ∃ c tail,
    operand.text.toList = c :: tail ∧ c ≠ ')' := by
  cases operand with
  | scalar value =>
    have regular := Scalar.rendered_regular (legible value (List.mem_singleton_self value))
    obtain ⟨c, tail, shown, -, other⟩ := Rendered.text_start regular
    exact ⟨c, tail, by rw [text, ← Scalar.text_rendered, shown], other⟩
  | group heading parts =>
    obtain ⟨c, tail, shown, -, other⟩ := heading.text_start
    exact ⟨c, _, by rw [toList_group, shown, List.cons_append], other⟩

/-- A scalar does not look like several values in brackets: only a wrapped text starts like a heading
does, and its name is not a heading. -/
theorem scalar_ne_group {value : Scalar} (legible : value.Legible) (heading : Heading)
    {rest rest' : List Char} :
    value.text.toList ++ rest ≠ heading.text.toList ++ '(' :: rest' := by
  intro same
  rw [← Scalar.text_rendered] at same
  have regular := Scalar.rendered_regular legible
  obtain ⟨c, tail, shown, opening, -⟩ := Rendered.text_start regular
  obtain ⟨c', tail', shown', opening', -⟩ := heading.text_start
  cases form : value.rendered with
  | wrapped name content =>
    rw [form] at same regular
    rw [Rendered.toList_wrapped, List.append_assoc, List.cons_append] at same
    have front := Text.eq_of_separator_append (Rendered.names_bracket name regular.1)
      heading.bracket_not_mem same
    exact heading.text_not_mem_names (String.toList_inj.mp front.1 ▸ regular.1)
  | _ =>
    rw [shown, shown', List.cons_append, List.cons_append, List.cons.injEq] at same
    rw [← same.1, opening, form] at opening'
    contradiction

end Operand

namespace Value

/-- What has to hold for a value to be told from its text. -/
def Legible (value : Value) : Prop := ∀ scalar ∈ value.scalars, scalar.Legible

def operand : Value → Operand
  | scalar value => .scalar value
  | compound shape parts => .group (.shape shape) parts

theorem operand_inj {first second : Value} (same : first.operand = second.operand) :
    first = second := by
  cases first <;> cases second <;> cases same <;> rfl

theorem text_operand (value : Value) : value.operand.text = value.text := by
  cases value <;> rfl

theorem scalars_operand (value : Value) : value.operand.scalars = value.scalars := by
  cases value <;> rfl

theorem operand_legible {value : Value} : value.operand.Legible ↔ value.Legible := by
  rw [Operand.Legible, scalars_operand, Legible]

theorem text_start {value : Value} (legible : value.Legible) : ∃ c tail,
    value.text.toList = c :: tail ∧ c ≠ ')' := by
  rw [← text_operand]
  exact Operand.text_start (operand_legible.mpr legible)

theorem forall_legible {parts : List Value} :
    (∀ scalar ∈ scalarsOf parts, scalar.Legible) ↔ ∀ part ∈ parts, part.Legible := by
  simp only [mem_scalarsOf, Legible]
  exact ⟨fun all part member scalar inside => all scalar ⟨part, member, inside⟩,
    fun all scalar ⟨part, member, inside⟩ => all part member scalar inside⟩

theorem toList_textOf_cons (value : Value) (rest : List Value) : (textOf (value :: rest)).toList =
    value.text.toList ++ rest.flatMap fun value => ", ".toList ++ value.text.toList ++ [] := by
  induction rest generalizing value with
  | nil => simp [textOf]
  | cons next rest ih =>
    have split : textOf (value :: next :: rest) = value.text ++ ", " ++ textOf (next :: rest) := rfl
    rw [split, String.toList_append, String.toList_append, ih]
    simp

/-- Values between brackets are told apart, where each of them is. -/
theorem eq_of_textOf {parts others : List Value}
    (whole : ∀ part ∈ parts, part.Legible ∧
      Unmistakable Legible (fun value => value.text.toList) part)
    (legible : ∀ part ∈ others, part.Legible) {rest rest' : List Char}
    (same : (textOf parts).toList ++ ')' :: rest = (textOf others).toList ++ ')' :: rest') :
    parts = others ∧ rest = rest' := by
  cases parts with
  | nil =>
    cases others with
    | nil => exact ⟨rfl, List.tail_eq_of_cons_eq same⟩
    | cons other others =>
      obtain ⟨c, tail, shown, differs⟩ := text_start (legible other List.mem_cons_self)
      rw [toList_textOf_cons, shown] at same
      exact absurd (List.head_eq_of_cons_eq same).symm differs
  | cons part parts =>
    obtain ⟨⟨good, first⟩, later⟩ := List.forall_mem_cons.mp whole
    cases others with
    | nil =>
      obtain ⟨c, tail, shown, differs⟩ := text_start good
      rw [toList_textOf_cons, shown] at same
      exact absurd (List.head_eq_of_cons_eq same) differs
    | cons other others =>
      obtain ⟨good', later'⟩ := List.forall_mem_cons.mp legible
      rw [toList_textOf_cons, toList_textOf_cons, List.append_assoc, List.append_assoc] at same
      obtain ⟨rfl, tails⟩ := first good' same
      obtain ⟨rfl, ends⟩ := Text.eq_of_flatMap Legible
        (fun _ _ => ⟨',', _, rfl, by decide⟩)
        (fun part member => ⟨(later part member).1, (later part member).2.between ", ".toList []⟩)
        later' tails
      exact ⟨rfl, ends⟩

end Value

/-- An operand is told apart where its parts are. -/
theorem Operand.unmistakable_of_parts {operand : Operand} (legible : operand.Legible)
    (whole : ∀ heading parts, operand = group heading parts → ∀ part ∈ parts,
      Unmistakable Value.Legible (fun value => value.text.toList) part) :
    Unmistakable Legible (fun operand => operand.text.toList) operand := by
  intro other legible' rest rest' same
  cases operand with
  | scalar value =>
    have single := legible value (List.mem_singleton_self value)
    cases other with
    | scalar value' =>
      obtain ⟨rfl, later⟩ :=
        Scalar.unmistakable single (legible' value' (List.mem_singleton_self value')) same
      exact ⟨rfl, later⟩
    | group heading' parts' =>
      simp only [toList_group, List.append_assoc, List.cons_append] at same
      exact absurd same (scalar_ne_group single heading')
  | group heading parts =>
    cases other with
    | scalar value' =>
      simp only [toList_group, List.append_assoc, List.cons_append] at same
      exact absurd same.symm
        (scalar_ne_group (legible' value' (List.mem_singleton_self value')) heading)
    | group heading' parts' =>
      simp only [toList_group, List.append_assoc, List.cons_append] at same
      obtain ⟨front, inside⟩ :=
        Text.eq_of_separator_append heading.bracket_not_mem heading'.bracket_not_mem same
      obtain ⟨rfl, later⟩ := Value.eq_of_textOf
        (fun part member => ⟨Value.forall_legible.mp legible part member,
          whole heading parts rfl part member⟩)
        (Value.forall_legible.mp legible') inside
      rw [Heading.text_inj (String.toList_inj.mp front)]
      exact ⟨rfl, later⟩

theorem Value.unmistakable_of_operand {value : Value}
    (told : Unmistakable Operand.Legible (fun operand => operand.text.toList) value.operand) :
    Unmistakable Legible (fun value => value.text.toList) value :=
  .comap operand told (fun value => congrArg String.toList value.text_operand)
    (fun _ => operand_legible.mpr) (fun _ _ => operand_inj)

mutual

/-- What holds for the parts of a value is all that its operand asks for. -/
theorem Value.unmistakable : (value : Value) → value.Legible →
    Unmistakable Value.Legible (fun value => value.text.toList) value
  | .scalar _, legible =>
    Value.unmistakable_of_operand
      (Operand.unmistakable_of_parts (Value.operand_legible.mpr legible) nofun)
  | .compound shape parts, legible => by
    have inside := Value.unmistakable_of_mem parts (Value.forall_legible.mp legible)
    apply Value.unmistakable_of_operand
    apply Operand.unmistakable_of_parts (Value.operand_legible.mpr legible)
    rintro heading same ⟨rfl⟩
    exact inside

theorem Value.unmistakable_of_mem : (parts : List Value) → (∀ part ∈ parts, part.Legible) →
    ∀ part ∈ parts, Unmistakable Value.Legible (fun value => value.text.toList) part
  | [], _ => nofun
  | value :: rest, legible => by
    obtain ⟨first, later⟩ := List.forall_mem_cons.mp legible
    exact List.forall_mem_cons.mpr
      ⟨Value.unmistakable value first, Value.unmistakable_of_mem rest later⟩

end

theorem Operand.unmistakable {operand : Operand} (legible : operand.Legible) :
    Unmistakable Legible (fun operand => operand.text.toList) operand := by
  apply unmistakable_of_parts legible
  rintro heading parts rfl part member
  exact part.unmistakable (Value.forall_legible.mp legible part member)

end LedgerWallet
