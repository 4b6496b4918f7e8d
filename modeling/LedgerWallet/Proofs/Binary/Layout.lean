import LedgerWallet.Transaction.Payload

/-! Where the addresses stand in a binary form. Everything else in it is a fixed byte; an address is
a text, and it is left to a relation which texts may stand for it. -/
namespace LedgerWallet

namespace Binary

inductive Token where
  | byte (value : UInt8)
  | address (value : Address)

abbrev Layout := List Token

def fixed (bytes : List UInt8) : Layout := bytes.map .byte

def layoutList {α : Type} (item : α → Layout) (list : List α) : Layout :=
  fixed (writeCount list.length) ++ list.flatMap item

/-- Bytes of a layout with a text for each of its addresses. -/
inductive Spells (spelling : Address → String → Prop) : Layout → List UInt8 → Prop where
  | nil : Spells spelling [] []
  | byte {value : UInt8} {layout : Layout} {bytes : List UInt8} (rest : Spells spelling layout bytes) :
      Spells spelling (.byte value :: layout) (value :: bytes)
  | address {value : Address} {text : String} {layout : Layout} {bytes : List UInt8}
      (spelled : spelling value text) (rest : Spells spelling layout bytes) :
      Spells spelling (.address value :: layout) (writeText text ++ bytes)

end Binary

open Binary (Layout fixed layoutList writeCount writeVariant writeText writeList)

def Scalar.layout : Scalar → Layout
  | .address value => fixed (writeVariant 6) ++ [.address value]
  | scalar => fixed (Binary.writeScalar scalar)

mutual

def Value.layout : Value → Layout
  | .scalar value => value.layout
  | .compound shape parts =>
    fixed (Binary.writeShape shape ++ writeCount parts.length) ++ Value.layoutParts parts

def Value.layoutParts : List Value → Layout
  | [] => []
  | value :: rest => value.layout ++ Value.layoutParts rest

end

def Instruction.layout : Instruction → Layout
  | .take resource amount into =>
    fixed (writeVariant 0) ++ .address resource ::
      fixed (Binary.writeAmount amount ++ Binary.writeBucket into)
  | .takeNonFungibles resource ids into =>
    fixed (writeVariant 1) ++ .address resource ::
      fixed (writeList Binary.writeLocalId ids ++ Binary.writeBucket into)
  | .takeAll resource into =>
    fixed (writeVariant 2) ++ .address resource :: fixed (Binary.writeBucket into)
  | .assertContains resource amount =>
    fixed (writeVariant 3) ++ .address resource :: fixed (Binary.writeAmount amount)
  | .callFunction package blueprint function args =>
    fixed (writeVariant 4) ++ .address package ::
      (fixed (writeText blueprint ++ writeText function) ++ layoutList Value.layout args)
  | .callMethod receiver method args =>
    fixed (writeVariant 5) ++ .address receiver ::
      (fixed (writeText method) ++ layoutList Value.layout args)
  | .setMetadata target key value =>
    fixed (writeVariant 6) ++ .address target :: (fixed (writeText key) ++ value.layout)

def Manifest.Body.layout : Manifest.Body → Layout
  | .instructions list => fixed (writeVariant 0) ++ layoutList Instruction.layout list
  | .text words => fixed (writeVariant 1 ++ writeText words)

def Manifest.layout (manifest : Manifest) : Layout :=
  fixed (Binary.writeNetwork manifest.network) ++ manifest.body.layout ++
    fixed (writeList Binary.writeBytes manifest.blobs)

def Intent.layout (intent : Intent) : Layout :=
  fixed (Binary.writeHeader intent.header) ++ intent.manifest.layout ++
    fixed (Binary.writeMessage intent.message)

def SignedIntent.layout (signed : SignedIntent) : Layout :=
  signed.intent.layout ++ fixed (writeList Binary.writeKeySignature signed.signatures)

def Notarized.layout (notarized : Notarized) : Layout :=
  notarized.signed.layout ++ fixed (Binary.writeSignature notarized.notarySignature)

namespace Binary

variable {spelling : Address → String → Prop} {first second : Layout} {bytes : List UInt8}

theorem fixed_append (front back : List UInt8) : fixed (front ++ back) = fixed front ++ fixed back :=
  List.map_append

theorem layoutList_fixed {α : Type} (write : α → List UInt8) (list : List α) :
    layoutList (fun item => fixed (write item)) list = fixed (writeList write list) := by
  rw [layoutList, writeList, fixed_append]
  exact congrArg (_ ++ ·) List.map_flatMap.symm

theorem layoutParts_eq_flatMap (parts : List Value) :
    Value.layoutParts parts = parts.flatMap Value.layout := by
  induction parts with
  | nil => rfl
  | cons head tail ih => rw [Value.layoutParts, ih, List.flatMap_cons]

theorem layout_compound (shape : Shape) (parts : List Value) :
    (Value.compound shape parts).layout =
      fixed (writeShape shape) ++ layoutList Value.layout parts := by
  rw [Value.layout, fixed_append, layoutParts_eq_flatMap, List.append_assoc]
  rfl

theorem spells_append : Spells spelling (first ++ second) bytes ↔
    ∃ front back, Spells spelling first front ∧ Spells spelling second back ∧ bytes = front ++ back := by
  constructor
  · intro spelled
    induction first generalizing bytes with
    | nil => exact ⟨[], bytes, .nil, spelled, rfl⟩
    | cons token first ih =>
      cases spelled with
      | byte rest =>
        obtain ⟨front, back, left, right, rfl⟩ := ih rest
        exact ⟨_, back, .byte left, right, rfl⟩
      | address named rest =>
        obtain ⟨front, back, left, right, rfl⟩ := ih rest
        exact ⟨_, back, .address named left, right, (List.append_assoc ..).symm⟩
  · rintro ⟨front, back, left, right, rfl⟩
    induction left with
    | nil => exact right
    | byte _ ih => exact .byte ih
    | address named _ ih =>
      rw [List.append_assoc]
      exact .address named ih

theorem spells_fixed {written : List UInt8} :
    Spells spelling (fixed written) bytes ↔ bytes = written := by
  constructor
  · intro spelled
    induction written generalizing bytes with
    | nil =>
      cases spelled
      rfl
    | cons byte written ih =>
      cases spelled with
      | byte rest => rw [ih rest]
  · rintro rfl
    induction bytes with
    | nil => exact .nil
    | cons byte bytes ih => exact .byte ih

theorem spells_address {address : Address} {layout : Layout} :
    Spells spelling (.address address :: layout) bytes ↔ ∃ text rest,
      spelling address text ∧ Spells spelling layout rest ∧ bytes = writeText text ++ rest := by
  constructor
  · intro spelled
    cases spelled with
    | address named rest => exact ⟨_, _, named, rest, rfl⟩
  · rintro ⟨text, rest, named, spelled, rfl⟩
    exact .address named spelled

/-- An address after fixed bytes, and what comes after it. -/
theorem spells_subject {head : List UInt8} {address : Address} {layout : Layout} :
    Spells spelling (fixed head ++ .address address :: layout) bytes ↔ ∃ text rest,
      spelling address text ∧ Spells spelling layout rest ∧ bytes = head ++ (writeText text ++ rest) := by
  constructor
  · intro spelled
    obtain ⟨_, back, first, later, rfl⟩ := spells_append.mp spelled
    obtain ⟨text, rest, named, last, rfl⟩ := spells_address.mp later
    exact ⟨text, rest, named, last, by rw [spells_fixed.mp first]⟩
  · rintro ⟨text, rest, named, spelled, rfl⟩
    exact spells_append.mpr ⟨head, _, spells_fixed.mpr rfl, .address named spelled, rfl⟩

def Token.written (spell : Address → String) : Token → List UInt8
  | byte value => [value]
  | address value => writeText (spell value)

/-- The bytes of a layout when every address is spelled by one function. -/
def written (spell : Address → String) (layout : Layout) : List UInt8 :=
  layout.flatMap (Token.written spell)

theorem spells_written {spell : Address → String} (each : ∀ address, spelling address (spell address))
    (layout : Layout) : Spells spelling layout (written spell layout) := by
  induction layout with
  | nil => exact .nil
  | cons token layout ih =>
    cases token with
    | byte value => exact .byte ih
    | address value => exact .address (each value) ih

theorem spells_eq_written {spell : Address → String} {layout : Layout} :
    Spells (fun address text => text = spell address) layout bytes ↔ bytes = written spell layout := by
  constructor
  · intro spelled
    induction spelled with
    | nil => rfl
    | byte _ ih =>
      rw [ih]
      rfl
    | address named _ ih =>
      rw [ih, named]
      rfl
  · rintro rfl
    apply spells_written
    intro address
    rfl

section

variable (spell : Address → String)

@[simp] theorem written_append (first second : Layout) :
    written spell (first ++ second) = written spell first ++ written spell second :=
  List.flatMap_append

@[simp] theorem written_fixed (bytes : List UInt8) : written spell (fixed bytes) = bytes := by
  rw [written, fixed, List.flatMap_map]
  exact List.flatMap_singleton' bytes

@[simp] theorem written_nil : written spell [] = [] := rfl

@[simp] theorem written_address (address : Address) (layout : Layout) :
    written spell (.address address :: layout) = writeText (spell address) ++ written spell layout :=
  rfl

end

/-! With every address as it is displayed, a layout is what the writer puts out. -/

theorem written_layoutList {α : Type} {item : α → Layout} {write : α → List UInt8} {list : List α}
    (each : ∀ value, written Address.text (item value) = write value) :
    written Address.text (layoutList item list) = writeList write list := by
  have items : written Address.text (list.flatMap item) = list.flatMap write := by
    rw [written, List.flatMap_assoc]
    exact congrArg list.flatMap (funext each)
  rw [layoutList, written_append, written_fixed, items, writeList]

@[simp] theorem written_scalar (scalar : Scalar) :
    written Address.text scalar.layout = writeScalar scalar := by
  cases scalar <;> simp [Scalar.layout, writeScalar, writeAddress]

mutual

@[simp] theorem written_value : (value : Value) → written Address.text value.layout = writeValue value
  | .scalar value => by rw [Value.layout, writeValue, written_scalar]
  | .compound shape parts => by
    rw [Value.layout, writeValue, written_append, written_fixed, written_parts]

@[simp] theorem written_parts : (parts : List Value) →
    written Address.text (Value.layoutParts parts) = writeParts parts
  | [] => rfl
  | value :: rest => by
    rw [Value.layoutParts, writeParts, written_append, written_value, written_parts]

end

@[simp] theorem written_arguments (args : List Value) :
    written Address.text (layoutList Value.layout args) = writeList writeValue args :=
  written_layoutList written_value

@[simp] theorem written_instruction (instruction : Instruction) :
    written Address.text instruction.layout = writeInstruction instruction := by
  cases instruction <;> simp [Instruction.layout, writeInstruction, writeAddress]

@[simp] theorem written_body (body : Manifest.Body) :
    written Address.text body.layout = writeBody body := by
  cases body with
  | instructions list =>
    rw [Manifest.Body.layout, written_append, written_fixed, writeBody]
    exact congrArg (_ ++ ·) (written_layoutList written_instruction)
  | text words => rw [Manifest.Body.layout, written_fixed, writeBody]

@[simp] theorem written_manifest (manifest : Manifest) :
    written Address.text manifest.layout = writeManifest manifest := by
  simp [Manifest.layout, writeManifest]

@[simp] theorem written_intent (intent : Intent) :
    written Address.text intent.layout = writeIntent intent := by
  simp [Intent.layout, writeIntent]

@[simp] theorem written_signedIntent (signed : SignedIntent) :
    written Address.text signed.layout = writeSignedIntent signed := by
  simp [SignedIntent.layout, writeSignedIntent]

@[simp] theorem written_notarized (notarized : Notarized) :
    written Address.text notarized.layout = writeNotarized notarized := by
  simp [Notarized.layout, writeNotarized]

end Binary

end LedgerWallet
