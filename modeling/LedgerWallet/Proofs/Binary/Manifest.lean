import LedgerWallet.Proofs.Binary.Nesting

/-! Manifests delimit themselves: addresses, amounts and ids, values of any depth, instructions and
blobs. The only condition is that they fit. Each address may stand there in any of its spellings. -/
namespace LedgerWallet.Binary

/-- The text that an address is displayed as is one of its spellings. -/
theorem spells_displayed (layout : Layout) :
    Spells Address.Spelling layout (written Address.text layout) :=
  spells_written Address.spelling_text layout

theorem readAddress_delimits {address : Address} {text : String} (spelling : address.Spelling text) :
    Delimits readAddress (writeText text) address := by
  have fits : TextFits text := by
    have chars := spelling.length_le
    apply TextFits.of_length
    rw [countBound, UInt64.size]
    omega
  exact (readText_delimits fits).bind_pure (by rw [Address.parse_eq_ok.mpr spelling])

theorem amountOf_attos (amount : Amount) :
    amountOf (amount.attos % 0x100000000000000000000000000000000).toNat = amount := by
  obtain ⟨attos, lower, upper⟩ := amount
  unfold amountOf
  split
  · rename_i small
    have same : ((attos % 0x100000000000000000000000000000000).toNat : Int) = attos := by
      dsimp only at small
      omega
    simp only [Amount.ofNat, same]
  · rename_i large
    dsimp only at large
    have bound : (attos % 0x100000000000000000000000000000000).toNat <
        0x100000000000000000000000000000000 := by omega
    have same : ((attos % 0x100000000000000000000000000000000).toNat : Int) -
        0x100000000000000000000000000000000 = attos := by omega
    simp only [bound, dite_true, same]

theorem readAmount_delimits (amount : Amount) : Delimits readAmount (writeAmount amount) amount := by
  have fits : (amount.attos % 0x100000000000000000000000000000000).toNat <
      LittleEndian.capacity 16 := by
    simp only [LittleEndian.capacity]
    omega
  have read := (readNat_delimits fits).map amountOf
  rwa [amountOf_attos] at read

theorem readNetwork_delimits (network : Network) :
    Delimits readNetwork (writeNetwork network) network :=
  (readU8_delimits network.id).map Network.mk

theorem readBucket_delimits {bucket : Bucket} (fits : TextFits bucket.name) :
    Delimits readBucket (writeBucket bucket) bucket :=
  (readText_delimits fits).map Bucket.mk

theorem readLocalId_delimits {id : LocalId} (fits : id.Fits) :
    Delimits readLocalId (writeLocalId id) id := by
  cases id with
  | integer value =>
    exact (readVariant_delimits (by decide)).bind ((readU64_delimits value).map _)
  | string name =>
    exact (readVariant_delimits (by decide)).bind ((readText_delimits fits).map _)
  | bytes value =>
    exact (readVariant_delimits (by decide)).bind ((readCountedBytes_delimits fits).map _)
  | random value =>
    exact (readVariant_delimits (by decide)).bind ((readFixed_delimits value).map _)

/-- The index of a scalar among the alternatives of a value. -/
def scalarIndex : Scalar → Nat
  | .bool _ => 0
  | .u8 _ => 1
  | .u32 _ => 2
  | .u64 _ => 3
  | .string _ => 4
  | .amount _ => 5
  | .address _ => 6
  | .bucket _ => 7
  | .localId _ => 11
  | .entireWorktop => 12
  | .blob _ => 13
  | .keyHash _ => 14

theorem scalarIndex_lt (scalar : Scalar) : scalarIndex scalar < LittleEndian.capacity 4 := by
  cases scalar <;> simp [scalarIndex, LittleEndian.capacity]

theorem readShape?_scalarIndex (scalar : Scalar) : readShape? (scalarIndex scalar) = none := by
  cases scalar <;> rfl

theorem readScalar_delimits {scalar : Scalar} {bytes : List UInt8} (fits : scalar.Fits)
    (spelled : Spells Address.Spelling scalar.layout bytes) :
    ∃ rest, bytes = writeVariant (scalarIndex scalar) ++ rest ∧
      Delimits (readScalar (scalarIndex scalar)) rest scalar := by
  cases scalar with
  | address value =>
    obtain ⟨text, _, named, rest, rfl⟩ := spells_subject.mp spelled
    cases rest
    rw [List.append_nil]
    exact ⟨_, rfl, (readAddress_delimits named).map Scalar.address⟩
  | bool value => exact ⟨_, spells_fixed.mp spelled, (readBool_delimits value).map Scalar.bool⟩
  | u8 value => exact ⟨_, spells_fixed.mp spelled, (readU8_delimits value).map Scalar.u8⟩
  | u32 value => exact ⟨_, spells_fixed.mp spelled, (readU32_delimits value).map Scalar.u32⟩
  | u64 value => exact ⟨_, spells_fixed.mp spelled, (readU64_delimits value).map Scalar.u64⟩
  | string value => exact ⟨_, spells_fixed.mp spelled, (readText_delimits fits).map Scalar.string⟩
  | amount value => exact ⟨_, spells_fixed.mp spelled, (readAmount_delimits value).map Scalar.amount⟩
  | bucket value => exact ⟨_, spells_fixed.mp spelled, (readBucket_delimits fits).map Scalar.bucket⟩
  | localId value => exact ⟨_, spells_fixed.mp spelled, (readLocalId_delimits fits).map Scalar.localId⟩
  | entireWorktop =>
    exact ⟨_, spells_fixed.mp spelled, (readVariant_delimits (by decide)).bind_pure rfl⟩
  | blob value => exact ⟨_, spells_fixed.mp spelled, (readFixed_delimits value.hash).bind_pure rfl⟩
  | keyHash value => exact ⟨_, spells_fixed.mp spelled, (readFixed_delimits value.bytes).bind_pure rfl⟩

theorem readShape_delimits (shape : Shape) : ∃ index bytes reader,
    writeShape shape = writeVariant index ++ bytes ∧ index < LittleEndian.capacity 4 ∧
      readShape? index = some reader ∧ Delimits reader bytes shape := by
  cases shape with
  | variant discriminator =>
    exact ⟨8, _, _, rfl, by decide, rfl, (readU8_delimits discriminator).map Shape.variant⟩
  | tuple => exact ⟨9, [], _, rfl, by decide, rfl, .pure _⟩
  | array => exact ⟨10, [], _, rfl, by decide, rfl, .pure _⟩

theorem readMany_spelled {α : Type} {item : Reader α} {layout : α → Layout} {list : List α}
    {bytes : List UInt8} (spelled : Spells Address.Spelling (list.flatMap layout) bytes)
    (each : ∀ value ∈ list, ∀ part, Spells Address.Spelling (layout value) part →
      Delimits item part value) : Delimits (readMany item list.length) bytes list := by
  induction list generalizing bytes with
  | nil =>
    cases spelled
    exact .pure []
  | cons head tail ih =>
    obtain ⟨front, back, first, later, rfl⟩ := spells_append.mp spelled
    have rest := ih later fun value member => each value (List.mem_cons_of_mem head member)
    exact (each head List.mem_cons_self front first).bind (rest.map (head :: ·))

theorem readList_spelled {α : Type} {item : Reader α} {layout : α → Layout} {list : List α}
    {bytes : List UInt8} (count : list.length < countBound)
    (spelled : Spells Address.Spelling (layoutList layout list) bytes)
    (each : ∀ value ∈ list, ∀ part, Spells Address.Spelling (layout value) part →
      Delimits item part value) : Delimits (readList item) bytes list := by
  obtain ⟨_, rest, counted, items, rfl⟩ := spells_append.mp spelled
  rw [spells_fixed.mp counted]
  exact (readCount_delimits count).bind (readMany_spelled items each)

/-- A value of any depth delimits itself. The induction is on the value; each level takes its index
and its shape off and hands the rest to the reader of its parts. -/
theorem readValue_delimits {value : Value} {bytes : List UInt8} (fits : value.Fits)
    (spelled : Spells Address.Spelling value.layout bytes) : Delimits readValue bytes value := by
  induction fits generalizing bytes with
  | @scalar scalar fits =>
    obtain ⟨rest, rfl, read⟩ := readScalar_delimits fits spelled
    rw [readValue_eq]
    apply (readVariant_delimits (scalarIndex_lt scalar)).bind
    rw [readShape?_scalarIndex]
    exact read.map Value.scalar
  | @compound shape parts count each ih =>
    rw [layout_compound] at spelled
    obtain ⟨front, back, shaped, listed, rfl⟩ := spells_append.mp spelled
    obtain ⟨index, rest, reader, written, small, found, read⟩ := readShape_delimits shape
    have inside : Delimits (readList readValue) back parts :=
      readList_spelled count listed fun value member _ => ih value member
    rw [readValue_eq, spells_fixed.mp shaped, written, List.append_assoc]
    apply (readVariant_delimits small).bind
    rw [found]
    exact read.bind (inside.map (Value.compound shape))

theorem readArguments_delimits {args : List Value} {bytes : List UInt8}
    (fits : ListFits Value.Fits args)
    (spelled : Spells Address.Spelling (layoutList Value.layout args) bytes) :
    Delimits (readList readValue) bytes args :=
  readList_spelled fits.count spelled fun value member _ =>
    readValue_delimits (fits.each value member)

theorem readInstruction_delimits {instruction : Instruction} {bytes : List UInt8}
    (fits : instruction.Fits) (spelled : Spells Address.Spelling instruction.layout bytes) :
    Delimits readInstruction bytes instruction := by
  cases instruction with
  | take resource amount into =>
    obtain ⟨text, _, named, rest, rfl⟩ := spells_subject.mp spelled
    rw [spells_fixed.mp rest]
    exact (readVariant_delimits (by decide)).bind <| (readAddress_delimits named).bind <|
      (readAmount_delimits amount).bind <| (readBucket_delimits fits).map _
  | takeNonFungibles resource ids into =>
    obtain ⟨text, _, named, rest, rfl⟩ := spells_subject.mp spelled
    obtain ⟨listed, titled⟩ := fits
    rw [spells_fixed.mp rest]
    exact (readVariant_delimits (by decide)).bind <| (readAddress_delimits named).bind <|
      (readList_delimits listed fun _ => readLocalId_delimits).bind <|
        (readBucket_delimits titled).map _
  | takeAll resource into =>
    obtain ⟨text, _, named, rest, rfl⟩ := spells_subject.mp spelled
    rw [spells_fixed.mp rest]
    exact (readVariant_delimits (by decide)).bind <| (readAddress_delimits named).bind <|
      (readBucket_delimits fits).map _
  | assertContains resource amount =>
    obtain ⟨text, _, named, rest, rfl⟩ := spells_subject.mp spelled
    rw [spells_fixed.mp rest]
    exact (readVariant_delimits (by decide)).bind <| (readAddress_delimits named).bind <|
      (readAmount_delimits amount).map _
  | callFunction package blueprint function args =>
    obtain ⟨text, _, named, rest, rfl⟩ := spells_subject.mp spelled
    obtain ⟨_, back, texts, arguments, rfl⟩ := spells_append.mp rest
    obtain ⟨first, second, listed⟩ := fits
    rw [spells_fixed.mp texts, List.append_assoc]
    exact (readVariant_delimits (by decide)).bind <| (readAddress_delimits named).bind <|
      (readText_delimits first).bind <| (readText_delimits second).bind <|
        (readArguments_delimits listed arguments).map _
  | callMethod receiver method args =>
    obtain ⟨text, _, named, rest, rfl⟩ := spells_subject.mp spelled
    obtain ⟨_, back, called, arguments, rfl⟩ := spells_append.mp rest
    obtain ⟨titled, listed⟩ := fits
    rw [spells_fixed.mp called]
    exact (readVariant_delimits (by decide)).bind <| (readAddress_delimits named).bind <|
      (readText_delimits titled).bind <| (readArguments_delimits listed arguments).map _
  | setMetadata target key value =>
    obtain ⟨text, _, named, rest, rfl⟩ := spells_subject.mp spelled
    obtain ⟨_, back, called, held, rfl⟩ := spells_append.mp rest
    obtain ⟨titled, set⟩ := fits
    rw [spells_fixed.mp called]
    exact (readVariant_delimits (by decide)).bind <| (readAddress_delimits named).bind <|
      (readText_delimits titled).bind <| (readValue_delimits set held).map _

theorem readBody_delimits {body : Manifest.Body} {bytes : List UInt8} (fits : body.Fits)
    (spelled : Spells Address.Spelling body.layout bytes) : Delimits readBody bytes body := by
  cases body with
  | instructions list =>
    obtain ⟨_, back, index, listed, rfl⟩ := spells_append.mp spelled
    rw [spells_fixed.mp index]
    exact (readVariant_delimits (by decide)).bind
      ((readList_spelled fits.count listed fun value member _ =>
        readInstruction_delimits (fits.each value member)).map _)
  | text words =>
    rw [spells_fixed.mp spelled]
    exact (readVariant_delimits (by decide)).bind ((readText_delimits fits).map _)

theorem readManifest_delimits {manifest : Manifest} {bytes : List UInt8} (fits : manifest.Fits)
    (spelled : Spells Address.Spelling manifest.layout bytes) :
    Delimits readManifest bytes manifest := by
  obtain ⟨front, _, before, last, rfl⟩ := spells_append.mp spelled
  obtain ⟨_, middle, first, held, rfl⟩ := spells_append.mp before
  have blobs : Delimits (readList readCountedBytes) (writeList writeBytes manifest.blobs)
      manifest.blobs :=
    readList_delimits fits.blobs fun _ => readCountedBytes_delimits
  rw [spells_fixed.mp first, spells_fixed.mp last, List.append_assoc]
  exact (readNetwork_delimits manifest.network).bind <| (readBody_delimits fits.body held).bind <|
    blobs.map _

end LedgerWallet.Binary
