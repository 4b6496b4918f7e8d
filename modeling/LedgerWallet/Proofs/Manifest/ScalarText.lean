import LedgerWallet.Manifest.Builder
import LedgerWallet.Manifest.Text
import LedgerWallet.Proofs.Address.Correspondence
import LedgerWallet.Proofs.Amount.RoundTrip
import LedgerWallet.Proofs.NonFungible.RoundTrip
import LedgerWallet.Proofs.Text.Unmistakable

/-! The texts of scalars. The first character tells the form of a scalar, the name in front of a quote
tells its kind, and every form tells where it ends. -/
namespace LedgerWallet

open Text (Unmistakable)

/-- The bucket was handed out by a builder. -/
def Bucket.Issued (bucket : Bucket) : Prop := ∃ builder : Builder, builder.newBucket.1 = bucket

/-- What can stand between two quotes without escapes. -/
def QuoteFree (text : String) : Prop := '"' ∉ text.toList

theorem Amount.quoteFree (amount : Amount) : QuoteFree amount.text := by
  intro member
  rw [text, String.toList_ofList] at member
  rcases amount.mem_chars member with digit | other | other
  · exact absurd digit (by decide)
  · exact absurd other (by decide)
  · exact absurd other (by decide)

theorem Address.quoteFree (address : Address) : QuoteFree address.text := by
  intro member
  rw [text, String.toList_ofList] at member
  exact absurd (address.isWordChar_of_mem_chars _ member) (by decide)

theorem Hex.quoteFree (bytes : List UInt8) : QuoteFree (Hex.text bytes) := by
  rw [QuoteFree, Hex.text, String.toList_ofList]
  exact not_mem_encode (by decide) bytes

theorem Bucket.Issued.quoteFree {bucket : Bucket} (issued : bucket.Issued) :
    QuoteFree bucket.name := by
  obtain ⟨builder, rfl⟩ := issued
  have digits := Text.not_mem_toDigits (c := '"') (by decide) (builder.nextBucket % UInt32.size)
  have named : '"' ∉ (toString "bucket").toList := by decide
  simp [QuoteFree, Builder.newBucket, Bucket.numbered, Nat.repr_eq_ofList_toDigits, digits, named]

theorem LocalId.Valid.quoteFree {id : LocalId} (valid : id.Valid) : QuoteFree id.text := by
  rw [QuoteFree, text, String.toList_ofList]
  cases id with
  | integer value =>
    have digits := Text.not_mem_toDigits (c := '"') (by decide) value.toNat
    simp [chars, digits]
  | string name =>
    have absent : '"' ∉ name.toList := by
      intro member
      obtain ⟨-, -, named⟩ := valid
      exact absurd (named '"' member) (by decide)
    simp [chars, absent]
  | bytes value =>
    have absent : '"' ∉ Hex.encode value := Hex.not_mem_encode (by decide) value
    simp [chars, absent]
  | random value =>
    have absent : '"' ∉ Hex.encode value.toList := Hex.not_mem_encode (by decide) value.toList
    have groups : '"' ∉ randomChars (Hex.encode value.toList) := fun member =>
      (mem_randomChars member).elim absent (by decide)
    simp [chars, groups]

/-- How the text of an argument starts. -/
inductive Opening where
  | word
  | number
  | quotation
  | heading
deriving DecidableEq

def Opening.of (c : Char) : Opening :=
  if c.isDigit then number else if c.isLower then word else if c = '"' then quotation else heading

/-- The forms that the text of a scalar takes. -/
inductive Rendered where
  | word (value : Bool)
  | number (value bits : Nat)
  | quotation (text : String)
  | wrapped (name content : String)

namespace Rendered

def text : Rendered → String
  | word value => toString value
  | number value bits => toString value ++ ("u" ++ toString bits)
  | quotation text => quoted text
  | wrapped name content => LedgerWallet.wrapped name content

def opening : Rendered → Opening
  | word _ => .word
  | number _ _ => .number
  | quotation _ => .quotation
  | wrapped _ _ => .heading

/-- The names that stand in front of a text. -/
def names : List String :=
  ["Decimal", "Address", "Bucket", "NonFungibleLocalId", "Expression", "Blob", "PublicKeyHash"]

/-- The sizes of numbers. -/
def widths : List Nat := [8, 32, 64]

/-- The forms that scalars can have. -/
def Regular : Rendered → Prop
  | word _ => True
  | number _ bits => bits ∈ widths
  | quotation _ => True
  | wrapped name content => name ∈ names ∧ QuoteFree content

theorem toList_number (value bits : Nat) : (number value bits).text.toList =
    Nat.toDigits 10 value ++ 'u' :: Nat.toDigits 10 bits := by
  simp [text, Nat.repr_eq_ofList_toDigits]

theorem toList_wrapped (name content : String) : (wrapped name content).text.toList =
    name.toList ++ '(' :: '"' :: (content.toList ++ ['"', ')']) := by
  simp [text, LedgerWallet.wrapped]

theorem toList_quotation (content : String) :
    (quotation content).text.toList = Text.quote content.toList := by
  rw [text, quoted, String.toList_ofList]

theorem names_start : ∀ name ∈ names, ∃ c tail,
    name.toList = c :: tail ∧ Opening.of c = .heading ∧ c ≠ ')' := by
  simp only [names, List.forall_mem_cons]
  refine ⟨?_, ?_, ?_, ?_, ?_, ?_, ?_, nofun⟩ <;> exact ⟨_, _, rfl, by decide, by decide⟩

theorem names_bracket : ∀ name ∈ names, '(' ∉ name.toList := by decide

theorem width_unmistakable {bits : Nat} (member : bits ∈ widths) :
    Unmistakable (· ∈ widths) (Nat.toDigits 10) bits := by
  intro other member' rest rest' same
  simp only [widths, List.mem_cons, List.not_mem_nil, or_false] at member member'
  rcases member with rfl | rfl | rfl <;> rcases member' with rfl | rfl | rfl <;> first
    | exact ⟨rfl, List.append_cancel_left same⟩
    | exact absurd (List.head_eq_of_cons_eq same) (by decide)

/-- The first character tells the form. -/
theorem text_start {rendered : Rendered} (regular : rendered.Regular) : ∃ c tail,
    rendered.text.toList = c :: tail ∧ Opening.of c = rendered.opening ∧ c ≠ ')' := by
  cases rendered with
  | word value => cases value <;> exact ⟨_, _, rfl, by decide, by decide⟩
  | number value bits =>
    cases shown : Nat.toDigits 10 value with
    | nil => exact absurd shown Nat.toDigits_ne_nil
    | cons c rest =>
      have digit : c.isDigit := Nat.isDigit_of_mem_toDigits (b := 10) (n := value) (by decide)
        (Nat.le_refl 10) (shown ▸ List.mem_cons_self)
      refine ⟨c, _, by rw [toList_number, shown, List.cons_append], if_pos digit, ?_⟩
      rintro rfl
      exact absurd digit (by decide)
  | quotation content => exact ⟨_, _, toList_quotation content, rfl, by decide⟩
  | wrapped name content =>
    obtain ⟨c, tail, shown, heading, other⟩ := names_start name regular.1
    exact ⟨c, _, by rw [toList_wrapped, shown, List.cons_append], heading, other⟩

/-- Two forms start differently, so that each is only mistaken for one of its own. -/
theorem unmistakable (rendered : Rendered) (regular : rendered.Regular) :
    Unmistakable Regular (fun rendered => rendered.text.toList) rendered := by
  intro other regular' rest rest' same
  have sameOpening : rendered.opening = other.opening := by
    obtain ⟨c, tail, shown, opening, -⟩ := text_start regular
    obtain ⟨c', tail', shown', opening', -⟩ := text_start regular'
    dsimp only at same
    rw [shown, shown', List.cons_append, List.cons_append, List.cons.injEq] at same
    rw [← opening, ← opening', same.1]
  cases rendered with
  | word value =>
    cases other with
    | word value' =>
      cases value <;> cases value' <;> first
        | exact ⟨rfl, List.append_cancel_left same⟩
        | exact absurd (List.head_eq_of_cons_eq same) (by decide)
    | _ => cases sameOpening
  | number value bits =>
    cases other with
    | number value' bits' =>
      have digits (n : Nat) : 'u' ∉ Nat.toDigits 10 n := Text.not_mem_toDigits (by decide) n
      simp only [toList_number, List.append_assoc, List.cons_append] at same
      obtain ⟨sameValue, unit⟩ := Text.eq_of_separator_append (digits value) (digits value') same
      obtain ⟨rfl, later⟩ := width_unmistakable regular regular' unit
      rw [Text.toDigits_inj sameValue]
      exact ⟨rfl, later⟩
    | _ => cases sameOpening
  | quotation content =>
    cases other with
    | quotation content' =>
      simp only [toList_quotation] at same
      obtain ⟨sameContent, later⟩ := Text.quote_unmistakable content.toList trivial same
      exact ⟨congrArg quotation (String.toList_inj.mp sameContent), later⟩
    | _ => cases sameOpening
  | wrapped name content =>
    cases other with
    | wrapped name' content' =>
      simp only [toList_wrapped, List.append_assoc, List.cons_append] at same
      obtain ⟨sameName, inside⟩ := Text.eq_of_separator_append (names_bracket name regular.1)
        (names_bracket name' regular'.1) same
      obtain ⟨sameContent, after⟩ := Text.eq_of_separator_append regular.2 regular'.2
        (List.tail_eq_of_cons_eq inside)
      rw [String.toList_inj.mp sameName, String.toList_inj.mp sameContent]
      exact ⟨rfl, List.tail_eq_of_cons_eq after⟩
    | _ => cases sameOpening

end Rendered

namespace Scalar

/-- What has to hold for a scalar to be told from its text. -/
def Legible : Scalar → Prop
  | bucket value => value.Issued
  | localId value => value.Valid
  | _ => True

def rendered : Scalar → Rendered
  | bool value => .word value
  | u8 value => .number value.toNat 8
  | u32 value => .number value.toNat 32
  | u64 value => .number value.toNat 64
  | string value => .quotation value
  | amount value => .wrapped "Decimal" value.text
  | address value => .wrapped "Address" value.text
  | bucket value => .wrapped "Bucket" value.name
  | localId value => .wrapped "NonFungibleLocalId" value.text
  | entireWorktop => .wrapped "Expression" "ENTIRE_WORKTOP"
  | blob value => .wrapped "Blob" (Hex.text value.hash.toList)
  | keyHash value => .wrapped "PublicKeyHash" value.text

theorem text_rendered (scalar : Scalar) : scalar.rendered.text = scalar.text := by
  cases scalar <;> rfl

theorem rendered_regular {scalar : Scalar} (legible : scalar.Legible) : scalar.rendered.Regular := by
  cases scalar with
  | bool | string => trivial
  | u8 value => exact (by decide : 8 ∈ Rendered.widths)
  | u32 value => exact (by decide : 32 ∈ Rendered.widths)
  | u64 value => exact (by decide : 64 ∈ Rendered.widths)
  | amount value => exact ⟨by decide, value.quoteFree⟩
  | address value => exact ⟨by decide, value.quoteFree⟩
  | bucket value => exact ⟨by decide, Bucket.Issued.quoteFree legible⟩
  | localId value => exact ⟨by decide, LocalId.Valid.quoteFree legible⟩
  | entireWorktop => exact ⟨by decide, (by decide : '"' ∉ "ENTIRE_WORKTOP".toList)⟩
  | blob value => exact ⟨by decide, Hex.quoteFree _⟩
  | keyHash value => exact ⟨by decide, Hex.quoteFree _⟩

theorem rendered_inj {first second : Scalar} (legible : first.Legible) (legible' : second.Legible)
    (same : first.rendered = second.rendered) : first = second := by
  cases first <;> cases second <;> simp only [rendered, reduceCtorEq, Rendered.word.injEq,
    Rendered.number.injEq, Rendered.quotation.injEq, Rendered.wrapped.injEq, String.reduceEq,
    Nat.reduceEqDiff, and_false, false_and, true_and, and_true] at same
  case bool.bool => rw [same]
  case u8.u8 => rw [UInt8.toNat_inj.mp same]
  case u32.u32 => rw [UInt32.toNat_inj.mp same]
  case u64.u64 => rw [UInt64.toNat_inj.mp same]
  case string.string => rw [same]
  case amount.amount => rw [Amount.text_inj same]
  case address.address => rw [Address.text_inj.mp same]
  case bucket.bucket => exact congrArg bucket (congrArg Bucket.mk same)
  case localId.localId => rw [LocalId.text_inj legible legible' same]
  case entireWorktop.entireWorktop => rfl
  case blob.blob => exact congrArg blob (congrArg BlobRef.mk (Bytes.ext (Hex.text_inj same)))
  case keyHash.keyHash => exact congrArg keyHash (congrArg KeyHash.mk (Bytes.ext (Hex.text_inj same)))

theorem unmistakable {scalar : Scalar} (legible : scalar.Legible) :
    Unmistakable Legible (fun scalar => scalar.text.toList) scalar :=
  .comap rendered (scalar.rendered.unmistakable (rendered_regular legible))
    (fun scalar => congrArg String.toList scalar.text_rendered)
    (fun _ => rendered_regular) (fun _ => rendered_inj legible)

end Scalar

end LedgerWallet
