import LedgerWallet.Proofs.Manifest.ArgumentText

/-! The text of a manifest tells its instructions. An instruction is its name and one operand to a line,
and neither an operand nor the end of an instruction can be spelled inside a string. -/
namespace LedgerWallet

open Text (Unmistakable)

def Scalar.localId? : Scalar → Option LocalId
  | localId value => some value
  | _ => none

theorem Value.textOf_eq_intercalate (values : List Value) :
    textOf values = ", ".intercalate (values.map text) := by
  induction values with
  | nil => rfl
  | cons value rest ih =>
    cases rest with
    | nil => rfl
    | cons next rest =>
      rw [List.map_cons, List.map_cons, String.intercalate_cons_cons, ← List.map_cons, ← ih]
      rfl

namespace Instruction

/-- The local ids that an instruction names. -/
def localIds : Instruction → List LocalId
  | takeNonFungibles _ ids _ => ids
  | instruction => instruction.args.flatMap fun arg => arg.scalars.filterMap Scalar.localId?

/-- The buckets come from builders and the local ids follow the rules. -/
structure Legible (instruction : Instruction) : Prop where
  created : ∀ bucket, instruction.newBucket? = some bucket → bucket.Issued
  consumed : ∀ bucket ∈ instruction.consumedBuckets, bucket.Issued
  ids : ∀ id ∈ instruction.localIds, id.Valid

/-- What the lines after the name hold. -/
def operandList : Instruction → List Operand
  | take resource amount into =>
    [.scalar (.address resource), .scalar (.amount amount), .scalar (.bucket into)]
  | takeNonFungibles resource ids into =>
    [.scalar (.address resource), .group .ids (ids.map .ofLocalId), .scalar (.bucket into)]
  | takeAll resource into => [.scalar (.address resource), .scalar (.bucket into)]
  | assertContains resource amount => [.scalar (.address resource), .scalar (.amount amount)]
  | callFunction package blueprint function args =>
    .scalar (.address package) :: .scalar (.string blueprint) :: .scalar (.string function) ::
      args.map Value.operand
  | callMethod receiver method args =>
    .scalar (.address receiver) :: .scalar (.string method) :: args.map Value.operand
  | setMetadata target key value =>
    [.scalar (.address target), .scalar (.string key), value.operand]

theorem text_ids (ids : List LocalId) :
    (Operand.group .ids (ids.map .ofLocalId)).text = idsText ids := by
  rw [Operand.text, Value.textOf_eq_intercalate, List.map_map]
  rfl

theorem operandList_text (instruction : Instruction) : instruction.operandList.map Operand.text =
    wrapped "Address" instruction.subject.text :: instruction.operands := by
  have args (values : List Value) :
      (values.map Value.operand).map Operand.text = values.map Value.text := by
    rw [List.map_map]
    exact List.map_congr_left fun value _ => value.text_operand
  cases instruction with
  | takeNonFungibles resource ids into =>
    simp only [operandList, List.map_cons, text_ids]
    rfl
  | callFunction package blueprint function values =>
    simp only [operandList, List.map_cons, args]
    rfl
  | callMethod receiver method values =>
    simp only [operandList, List.map_cons, args]
    rfl
  | setMetadata target key value =>
    simp only [operandList, List.map_cons, Value.text_operand]
    rfl
  | _ => rfl

/-- The line of an operand. -/
def line (operand : Operand) : List Char := "    ".toList ++ operand.text.toList ++ ['\n']

theorem toList_text (instruction : Instruction) : instruction.text.toList =
    instruction.name.toList ++ '\n' :: (instruction.operandList.flatMap line ++ [';', '\n']) := by
  simp only [text, ← operandList_text, String.toList_append, String.toList_join, List.flatMap_map,
    List.append_assoc]
  rfl

theorem name_closed (instruction : Instruction) : '\n' ∉ instruction.name.toList := by
  cases instruction <;> simp only [name] <;> decide

theorem text_start (instruction : Instruction) : ∃ c tail,
    instruction.text.toList = c :: tail ∧ c ≠ ';' := by
  have named : ∃ c tail, instruction.name.toList = c :: tail ∧ c ≠ ';' := by
    cases instruction <;> simp only [name] <;> exact ⟨_, _, rfl, by decide⟩
  obtain ⟨c, tail, shown, other⟩ := named
  exact ⟨c, _, by rw [toList_text, shown, List.cons_append], other⟩

theorem eq_of_operandList {first second : Instruction} (names : first.name = second.name)
    (operands : first.operandList = second.operandList) : first = second := by
  have args (values others : List Value) :
      values.map Value.operand = others.map Value.operand ↔ values = others :=
    List.map_inj_right fun _ _ => Value.operand_inj
  have ids (list others : List LocalId) :
      list.map Value.ofLocalId = others.map Value.ofLocalId ↔ list = others :=
    List.map_inj_right fun _ _ same => by cases same; rfl
  cases first <;> cases second <;> simp only [name, String.reduceEq] at names
  case setMetadata.setMetadata =>
    simp only [operandList, List.cons.injEq, Operand.scalar.injEq, Scalar.address.injEq,
      Scalar.string.injEq] at operands
    rw [operands.1, operands.2.1, Value.operand_inj operands.2.2.1]
  all_goals simpa [operandList, args, ids] using operands

theorem Legible.arg {instruction : Instruction} (legible : instruction.Legible) {arg : Value}
    (member : arg ∈ instruction.args) : arg.Legible := by
  intro scalar inside
  cases scalar with
  | bucket value =>
    exact legible.consumed value
      (List.mem_flatMap.mpr ⟨arg, member, List.mem_filterMap.mpr ⟨_, inside, rfl⟩⟩)
  | localId value =>
    have listed : value ∈ instruction.args.flatMap fun arg =>
        arg.scalars.filterMap Scalar.localId? :=
      List.mem_flatMap.mpr ⟨arg, member, List.mem_filterMap.mpr ⟨_, inside, rfl⟩⟩
    cases instruction with
    | takeNonFungibles => contradiction
    | _ => exact legible.ids value listed
  | _ => trivial

theorem Legible.operand {instruction : Instruction} (legible : instruction.Legible) :
    ∀ operand ∈ instruction.operandList, operand.Legible := by
  have single {scalar : Scalar} (good : scalar.Legible) : (Operand.scalar scalar).Legible :=
    List.forall_mem_singleton.mpr good
  have args : ∀ operand ∈ instruction.args.map Value.operand, operand.Legible :=
    List.forall_mem_map.mpr fun arg member => Value.operand_legible.mpr (legible.arg member)
  cases instruction <;> simp only [operandList, List.forall_mem_cons,
    List.not_mem_nil, false_implies, implies_true, and_true]
  case take resource amount into =>
    exact ⟨single trivial, single trivial, single (legible.created into rfl)⟩
  case takeNonFungibles resource ids into =>
    have parts : (Operand.group .ids (ids.map .ofLocalId)).Legible :=
      Value.forall_legible.mpr (List.forall_mem_map.mpr fun id member =>
        List.forall_mem_singleton.mpr (legible.ids id member))
    exact ⟨single trivial, parts, single (legible.created into rfl)⟩
  case takeAll resource into => exact ⟨single trivial, single (legible.created into rfl)⟩
  case assertContains resource amount => exact ⟨single trivial, single trivial⟩
  case callFunction package blueprint function values =>
    exact ⟨single trivial, single trivial, single trivial, args⟩
  case callMethod receiver method values => exact ⟨single trivial, single trivial, args⟩
  case setMetadata target key value =>
    exact ⟨single trivial, single trivial, args _ (List.mem_singleton_self _)⟩

theorem unmistakable {instruction : Instruction} (legible : instruction.Legible) :
    Unmistakable Legible (fun instruction => instruction.text.toList) instruction := by
  intro other legible' rest rest' same
  simp only [toList_text, List.append_assoc, List.cons_append] at same
  obtain ⟨names, lines⟩ :=
    Text.eq_of_separator_append instruction.name_closed other.name_closed same
  obtain ⟨operands, ends⟩ := Text.eq_of_flatMap Operand.Legible
    (fun _ _ => ⟨' ', _, rfl, by decide⟩)
    (fun operand member => ⟨legible.operand operand member,
      (Operand.unmistakable (legible.operand operand member)).between "    ".toList ['\n']⟩)
    legible'.operand lines
  exact ⟨eq_of_operandList (String.toList_inj.mp names) operands, List.tail_eq_of_cons_eq ends⟩

/-- Instructions written one after the other are told apart. No instruction starts with a semicolon, so
that one put behind the last tells where it ends. -/
theorem eq_of_texts {list others : List Instruction} (legible : ∀ i ∈ list, i.Legible)
    (legible' : ∀ i ∈ others, i.Legible)
    (same : (list.flatMap fun i => i.text.toList) = others.flatMap fun i => i.text.toList) :
    list = others := by
  have stopped := congrArg (· ++ [';']) same
  exact (Text.eq_of_flatMap Legible (fun i _ => i.text_start)
    (fun i member => ⟨legible i member, unmistakable (legible i member)⟩) legible' stopped).1

end Instruction

namespace Manifest

theorem toList_bodyText {manifest : Manifest} {list : List Instruction}
    (structured : manifest.instructions? = some list) :
    manifest.bodyText.toList = list.flatMap fun i => i.text.toList := by
  cases body : manifest.body with
  | instructions shown =>
    rw [instructions?, body, Option.some.injEq] at structured
    rw [bodyText, body, structured, String.toList_join, List.flatMap_map]
  | text shown =>
    rw [instructions?, body] at structured
    contradiction

/-- Manifests with the same text hold the same instructions. The text of an instruction, and that of an
argument, tells what it is and where it ends, whatever its strings hold and whatever comes after it. -/
theorem instructions_of_bodyText :
    (∀ (first second : Manifest) (list others : List Instruction),
      first.instructions? = some list → second.instructions? = some others →
      (∀ i ∈ list, i.Legible) → (∀ i ∈ others, i.Legible) →
      first.bodyText = second.bodyText → list = others) ∧
    (∀ first second : Instruction, first.Legible → second.Legible → ∀ rest rest' : String,
      first.text ++ rest = second.text ++ rest' → first = second ∧ rest = rest') ∧
    (∀ first second : Value, first.Legible → second.Legible → ∀ rest rest' : String,
      first.text ++ rest = second.text ++ rest' → first = second ∧ rest = rest') := by
  refine ⟨?_, ?_, ?_⟩
  · intro first second list others structured structured' legible legible' same
    have shown := congrArg String.toList same
    rw [toList_bodyText structured, toList_bodyText structured'] at shown
    exact Instruction.eq_of_texts legible legible' shown
  · exact fun first second legible legible' rest rest' same =>
      (Instruction.unmistakable legible).eq_of_append legible' same
  · exact fun first second legible legible' rest rest' same =>
      (first.unmistakable legible).eq_of_append legible' same

/-- A bucket of tokens is handed on with a note that ends a string, an argument and an instruction. Two
strings are not mistaken for one that holds what stands between them. -/
theorem instructions_of_bodyText_sample :
    let bucket := Builder.empty.newBucket.1
    let taken : Instruction := .takeNonFungibles (.faucet .stokenet) [.string "no_1", .integer 7] bucket
    let handed : Instruction := .callMethod (.faucet .stokenet) "accept"
      [.ofBucket bucket, .scalar (.string "all\")\n;\nCALL_METHOD\n")]
    let built := ((Builder.empty.add taken).add handed).instructions
    let first : Manifest := ⟨.stokenet, .instructions built, []⟩
    let second : Manifest := ⟨.mainnet, .instructions [taken, handed], [[1]]⟩
    (∀ i ∈ built, i.Legible) ∧ first.bodyText = second.bodyText ∧ built = [taken, handed] ∧
      ∀ rest rest' : String, (Value.tuple [.scalar (.string "a\", \"b")]).text ++ rest ≠
        (Value.tuple [.scalar (.string "a"), .scalar (.string "b")]).text ++ rest' := by
  intro bucket taken handed built first second
  have issued : bucket.Issued := ⟨Builder.empty, rfl⟩
  have legibleTaken : taken.Legible := by
    refine ⟨fun other same => ?_, nofun, ?_⟩
    · cases same
      exact issued
    · decide
  have legibleHanded : handed.Legible := by
    refine ⟨nofun, ?_, nofun⟩
    exact List.forall_mem_singleton.mpr issued
  have legible : ∀ i ∈ [taken, handed], i.Legible :=
    List.forall_mem_cons.mpr ⟨legibleTaken, List.forall_mem_singleton.mpr legibleHanded⟩
  have strings (texts : List String) :
      (Value.tuple (texts.map fun text => .scalar (.string text))).Legible :=
    Value.forall_legible.mpr (List.forall_mem_map.mpr fun _ _ => List.forall_mem_singleton.mpr trivial)
  refine ⟨legible, rfl, instructions_of_bodyText.1 first second built [taken, handed] rfl rfl legible
    legible rfl, fun rest rest' same => ?_⟩
  have both := instructions_of_bodyText.2.2 _ _ (strings ["a\", \"b"]) (strings ["a", "b"]) rest
    rest' same
  exact absurd both.1 (by decide)

end Manifest

end LedgerWallet
