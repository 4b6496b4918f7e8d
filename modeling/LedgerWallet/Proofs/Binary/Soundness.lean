import LedgerWallet.Proofs.Address.Spelling
import LedgerWallet.Proofs.Binary.Delimited
import LedgerWallet.Proofs.Binary.Layout

/-! What is read was written. Whenever a reader accepts, it has taken bytes off its input that spell
the value it gives, and the lengths of that value fit. Numbers, texts and alternatives have one form
each, so that only the addresses in a value leave a choice. -/
namespace LedgerWallet.Binary

variable {α β : Type}

/-- Whatever the reader accepts, the bytes it has taken spell a layout that the value is made of. -/
def Consumes (reader : Reader α) (made : α → Layout → Prop) : Prop :=
  ∀ input value rest, reader input = .ok (value, rest) →
    ∃ layout bytes, made value layout ∧ Spells Address.Spelling layout bytes ∧ input = bytes ++ rest

namespace Consumes

variable {reader : Reader α} {made : α → Layout → Prop}

theorem pure {value : α} (empty : made value []) : Consumes (Pure.pure value) made := by
  intro input result rest read
  cases read
  exact ⟨[], [], empty, .nil, rfl⟩

theorem fail (fault : Fault) : Consumes (Binary.fail fault : Reader α) made := by
  intro input result rest read
  contradiction

theorem bind {next : α → Reader β} {made' : β → Layout → Prop} (first : Consumes reader made)
    (second : ∀ value layout, made value layout →
      Consumes (next value) fun result more => made' result (layout ++ more)) :
    Consumes (reader >>= next) made' := by
  intro input result rest read
  obtain ⟨value, middle, before, after⟩ := bind_eq_ok read
  obtain ⟨layout, front, held, spelled, rfl⟩ := first input value middle before
  obtain ⟨more, back, held', spelled', rfl⟩ := second value layout held middle result rest after
  have whole := spells_append.mpr ⟨front, back, spelled, spelled', rfl⟩
  exact ⟨_, _, held', whole, (List.append_assoc ..).symm⟩

theorem map {f : α → β} {made' : β → Layout → Prop} (first : Consumes reader made)
    (last : ∀ value layout, made value layout → made' (f value) layout) :
    Consumes (reader >>= fun value => Pure.pure (f value)) made' := by
  apply first.bind
  intro value layout held
  apply pure
  rw [List.append_nil]
  exact last value layout held

theorem weaken {made' : α → Layout → Prop} (first : Consumes reader made)
    (weaker : ∀ value layout, made value layout → made' value layout) : Consumes reader made' := by
  intro input value rest read
  obtain ⟨layout, bytes, held, spelled, whole⟩ := first input value rest read
  exact ⟨layout, bytes, weaker value layout held, spelled, whole⟩

end Consumes

/-- The reader takes what the writer puts out for the value, and the value fits. -/
def Rewrites (reader : Reader α) (fits : α → Prop) (write : α → List UInt8) : Prop :=
  Consumes reader fun value layout => fits value ∧ layout = fixed (write value)

theorem rewrites_of_eq {reader : Reader α} {fits : α → Prop} {write : α → List UInt8}
    (each : ∀ input value rest, reader input = .ok (value, rest) →
      fits value ∧ input = write value ++ rest) : Rewrites reader fits write := by
  intro input value rest read
  obtain ⟨held, whole⟩ := each input value rest read
  exact ⟨_, _, ⟨held, rfl⟩, spells_fixed.mpr rfl, whole⟩

/-- What an alternative holds comes after its index. -/
theorem Rewrites.alternative {reader : Reader α} {fits : α → Prop} {write : α → List UInt8}
    {head : List UInt8} {f : α → β} {fits' : β → Prop} {layout : β → Layout}
    (held : Rewrites reader fits write)
    (each : ∀ value, fits value → fits' (f value) ∧ layout (f value) = fixed (head ++ write value)) :
    Consumes (reader >>= fun value => pure (f value)) fun result more =>
      fits' result ∧ fixed head ++ more = layout result := by
  apply held.map
  rintro value _ ⟨fitting, rfl⟩
  obtain ⟨whole, same⟩ := each value fitting
  exact ⟨whole, by rw [same, fixed_append]⟩

theorem readBytes_rewrites (count : Nat) :
    Rewrites (readBytes count) (fun bytes => bytes.length = count) fun bytes => bytes := by
  apply rewrites_of_eq
  intro input bytes rest read
  rw [readBytes] at read
  split at read
  · contradiction
  · cases read
    rw [List.length_take] at *
    exact ⟨by omega, (List.take_append_drop count input).symm⟩

theorem readFixed_rewrites (n : Nat) : Rewrites (readFixed n) (fun _ => True) Bytes.toList := by
  apply rewrites_of_eq
  intro input bytes rest read
  rw [readFixed] at read
  split at read
  · rename_i found
    cases read
    rw [Bytes.toList_of_ofList? found]
    exact ⟨trivial, (List.take_append_drop n input).symm⟩
  · contradiction

theorem readNat_rewrites (width : Nat) :
    Rewrites (readNat width) (· < LittleEndian.capacity width) (LittleEndian.encode width) := by
  apply (readBytes_rewrites width).map
  rintro bytes _ ⟨rfl, rfl⟩
  exact ⟨LittleEndian.decode_lt bytes, by rw [LittleEndian.encode_decode]⟩

theorem readU8_rewrites : Rewrites readU8 (fun _ => True) writeU8 := by
  apply (readNat_rewrites 1).map
  rintro n _ ⟨-, rfl⟩
  exact ⟨trivial, rfl⟩

theorem readU16_rewrites : Rewrites readU16 (fun _ => True) writeU16 := by
  apply (readNat_rewrites 2).map
  rintro n _ ⟨small, rfl⟩
  have small : n < 2 ^ 16 := small
  rw [writeU16, UInt16.toNat_ofNat', Nat.mod_eq_of_lt small]
  exact ⟨trivial, rfl⟩

theorem readU32_rewrites : Rewrites readU32 (fun _ => True) writeU32 := by
  apply (readNat_rewrites 4).map
  rintro n _ ⟨small, rfl⟩
  have small : n < 2 ^ 32 := small
  rw [writeU32, UInt32.toNat_ofNat', Nat.mod_eq_of_lt small]
  exact ⟨trivial, rfl⟩

theorem readU64_rewrites : Rewrites readU64 (fun _ => True) writeU64 := by
  apply (readNat_rewrites 8).map
  rintro n _ ⟨small, rfl⟩
  have small : n < 2 ^ 64 := small
  rw [writeU64, UInt64.toNat_ofNat', Nat.mod_eq_of_lt small]
  exact ⟨trivial, rfl⟩

/-- A flag has two forms, and no third byte stands for one. -/
theorem readBool_rewrites : Rewrites readBool (fun _ => True) writeBool := by
  apply readU8_rewrites.bind
  rintro byte _ ⟨-, rfl⟩
  split
  · rename_i zero
    exact .pure ⟨trivial, by rw [zero]; rfl⟩
  · split
    · rename_i one
      exact .pure ⟨trivial, by rw [one]; rfl⟩
    · exact .fail _

theorem readVariant_rewrites : Rewrites readVariant (· < LittleEndian.capacity 4) writeVariant :=
  readNat_rewrites 4

theorem readCount_rewrites : Rewrites readCount (· < countBound) writeCount := readNat_rewrites 8

theorem readCountedBytes_rewrites :
    Rewrites readCountedBytes (fun bytes => bytes.length < countBound) writeBytes := by
  apply readCount_rewrites.bind
  rintro count _ ⟨small, rfl⟩
  apply (readBytes_rewrites count).weaken
  rintro bytes _ ⟨rfl, rfl⟩
  exact ⟨small, (fixed_append ..).symm⟩

theorem readText_rewrites : Rewrites readText TextFits writeText := by
  apply readCountedBytes_rewrites.bind
  rintro bytes _ ⟨small, rfl⟩
  split
  · rename_i text decoded
    obtain rfl := Utf8.encode_of_decode decoded
    exact .pure ⟨small, List.append_nil _⟩
  · exact .fail _

theorem readAddress_consumes :
    Consumes readAddress fun address layout => layout = [.address address] := by
  intro input address rest read
  obtain ⟨text, middle, before, after⟩ := bind_eq_ok read
  obtain ⟨_, bytes, ⟨-, rfl⟩, spelled, rfl⟩ := readText_rewrites input text middle before
  cases parsed : Address.parse text with
  | error e =>
    rw [parsed] at after
    contradiction
  | ok value =>
    rw [parsed] at after
    cases after
    refine ⟨_, _, rfl, .address (Address.parse_eq_ok.mp parsed) .nil, ?_⟩
    rw [spells_fixed.mp spelled, List.append_nil]

theorem readMany_consumes {item : Reader α} {fits : α → Prop} {layout : α → Layout}
    (each : Consumes item fun value made => fits value ∧ made = layout value) (count : Nat) :
    Consumes (readMany item count) fun list made =>
      list.length = count ∧ (∀ value ∈ list, fits value) ∧ made = list.flatMap layout := by
  induction count with
  | zero => exact .pure ⟨rfl, List.forall_mem_nil _, rfl⟩
  | succ count ih =>
    apply each.bind
    rintro head _ ⟨first, rfl⟩
    apply ih.map
    rintro tail _ ⟨rfl, later, rfl⟩
    exact ⟨rfl, List.forall_mem_cons.mpr ⟨first, later⟩, rfl⟩

theorem readList_consumes {item : Reader α} {fits : α → Prop} {layout : α → Layout}
    (each : Consumes item fun value made => fits value ∧ made = layout value) :
    Consumes (readList item) fun list made => ListFits fits list ∧ made = layoutList layout list := by
  apply readCount_rewrites.bind
  rintro count _ ⟨small, rfl⟩
  apply (readMany_consumes each count).weaken
  rintro list _ ⟨rfl, fits, rfl⟩
  exact ⟨⟨small, fits⟩, rfl⟩

theorem readList_rewrites {item : Reader α} {fits : α → Prop} {write : α → List UInt8}
    (each : Rewrites item fits write) :
    Rewrites (readList item) (ListFits fits) (writeList write) := by
  apply (readList_consumes each).weaken
  rintro list _ ⟨fits, rfl⟩
  exact ⟨fits, layoutList_fixed write list⟩

/-- Sixteen bytes are one amount, whatever its sign. -/
theorem attos_amountOf {n : Nat} (small : n < LittleEndian.capacity 16) :
    ((amountOf n).attos % 0x100000000000000000000000000000000).toNat = n := by
  have small : n < 0x100000000000000000000000000000000 := small
  unfold amountOf
  split
  · dsimp only [Amount.ofNat]
    omega
  · dsimp only [small, dite_true]
    omega

theorem readAmount_rewrites : Rewrites readAmount (fun _ => True) writeAmount := by
  apply (readNat_rewrites 16).map
  rintro n _ ⟨small, rfl⟩
  rw [writeAmount, attos_amountOf small]
  exact ⟨trivial, rfl⟩

theorem readNetwork_rewrites : Rewrites readNetwork (fun _ => True) writeNetwork :=
  readU8_rewrites.map fun _ _ held => held

theorem readBucket_rewrites : Rewrites readBucket (fun bucket => TextFits bucket.name) writeBucket :=
  readText_rewrites.map fun _ _ held => held

theorem readLocalId_rewrites : Rewrites readLocalId LocalId.Fits writeLocalId := by
  apply readVariant_rewrites.bind
  rintro index _ ⟨-, rfl⟩
  split
  · exact readU64_rewrites.alternative fun _ _ => ⟨trivial, rfl⟩
  · exact readText_rewrites.alternative fun _ fits => ⟨fits, rfl⟩
  · exact readCountedBytes_rewrites.alternative fun _ fits => ⟨fits, rfl⟩
  · exact (readFixed_rewrites 32).alternative fun _ _ => ⟨trivial, rfl⟩
  · exact .fail _

/-- The index of a scalar has been taken off before. -/
theorem readScalar_consumes (index : Nat) : Consumes (readScalar index) fun scalar layout =>
    scalar.Fits ∧ fixed (writeVariant index) ++ layout = scalar.layout := by
  unfold readScalar
  split
  · exact readBool_rewrites.alternative fun _ _ => ⟨trivial, rfl⟩
  · exact readU8_rewrites.alternative fun _ _ => ⟨trivial, rfl⟩
  · exact readU32_rewrites.alternative fun _ _ => ⟨trivial, rfl⟩
  · exact readU64_rewrites.alternative fun _ _ => ⟨trivial, rfl⟩
  · exact readText_rewrites.alternative fun _ fits => ⟨fits, rfl⟩
  · exact readAmount_rewrites.alternative fun _ _ => ⟨trivial, rfl⟩
  · apply readAddress_consumes.map
    rintro address _ rfl
    exact ⟨trivial, rfl⟩
  · exact readBucket_rewrites.alternative fun _ fits => ⟨fits, rfl⟩
  · exact readLocalId_rewrites.alternative fun _ fits => ⟨fits, rfl⟩
  · apply readVariant_rewrites.bind
    rintro inner _ ⟨-, rfl⟩
    split
    · exact .pure ⟨trivial, by rw [List.append_nil]; exact (fixed_append ..).symm⟩
    · exact .fail _
  · exact (readFixed_rewrites 32).alternative fun _ _ => ⟨trivial, rfl⟩
  · exact (readFixed_rewrites 29).alternative fun _ _ => ⟨trivial, rfl⟩
  · exact .fail _

theorem readShape_rewrites {index : Nat} {reader : Reader Shape}
    (found : readShape? index = some reader) : Consumes reader fun shape layout =>
      fixed (writeVariant index) ++ layout = fixed (writeShape shape) := by
  unfold readShape? at found
  split at found
  · cases found
    apply readU8_rewrites.map
    rintro discriminator _ ⟨-, rfl⟩
    exact (fixed_append ..).symm
  · cases found
    exact .pure (List.append_nil _)
  · cases found
    exact .pure (List.append_nil _)
  · contradiction

/-- The depth that is counted down bounds the values that are read, not their form. -/
theorem readValueWithin_consumes (depth : Nat) : Consumes (readValueWithin depth)
    fun value layout => value.Fits ∧ layout = value.layout := by
  induction depth with
  | zero => exact .fail _
  | succ depth ih =>
    apply readVariant_rewrites.bind
    rintro index _ ⟨-, rfl⟩
    split
    · rename_i reader found
      apply (readShape_rewrites found).bind
      intro shape front shaped
      apply (readList_consumes ih).map
      rintro parts _ ⟨fits, rfl⟩
      rw [layout_compound, ← shaped, List.append_assoc]
      exact ⟨.compound fits.count fits.each, rfl⟩
    · apply (readScalar_consumes index).map
      rintro scalar layout ⟨fits, written⟩
      exact ⟨.scalar fits, written⟩

theorem readValue_consumes : Consumes readValue fun value layout =>
    value.Fits ∧ layout = value.layout := fun input =>
  readValueWithin_consumes (input.length + 1) input

theorem readArguments_consumes : Consumes (readList readValue) fun args layout =>
    ListFits Value.Fits args ∧ layout = layoutList Value.layout args :=
  readList_consumes readValue_consumes

theorem readInstruction_consumes : Consumes readInstruction fun instruction layout =>
    instruction.Fits ∧ layout = instruction.layout := by
  apply readVariant_rewrites.bind
  rintro index _ ⟨-, rfl⟩
  split
  · apply readAddress_consumes.bind
    rintro resource _ rfl
    apply readAmount_rewrites.bind
    rintro amount _ ⟨-, rfl⟩
    apply readBucket_rewrites.map
    rintro into _ ⟨fits, rfl⟩
    exact ⟨fits, by simp [Instruction.layout, fixed_append]⟩
  · apply readAddress_consumes.bind
    rintro resource _ rfl
    apply (readList_rewrites readLocalId_rewrites).bind
    rintro ids _ ⟨listed, rfl⟩
    apply readBucket_rewrites.map
    rintro into _ ⟨titled, rfl⟩
    exact ⟨⟨listed, titled⟩, by simp [Instruction.layout, fixed_append]⟩
  · apply readAddress_consumes.bind
    rintro resource _ rfl
    apply readBucket_rewrites.map
    rintro into _ ⟨fits, rfl⟩
    exact ⟨fits, by simp [Instruction.layout]⟩
  · apply readAddress_consumes.bind
    rintro resource _ rfl
    apply readAmount_rewrites.map
    rintro amount _ ⟨-, rfl⟩
    exact ⟨trivial, by simp [Instruction.layout]⟩
  · apply readAddress_consumes.bind
    rintro package _ rfl
    apply readText_rewrites.bind
    rintro blueprint _ ⟨first, rfl⟩
    apply readText_rewrites.bind
    rintro function _ ⟨second, rfl⟩
    apply readArguments_consumes.map
    rintro args _ ⟨listed, rfl⟩
    exact ⟨⟨first, second, listed⟩, by simp [Instruction.layout, fixed_append]⟩
  · apply readAddress_consumes.bind
    rintro receiver _ rfl
    apply readText_rewrites.bind
    rintro method _ ⟨titled, rfl⟩
    apply readArguments_consumes.map
    rintro args _ ⟨listed, rfl⟩
    exact ⟨⟨titled, listed⟩, by simp [Instruction.layout]⟩
  · apply readAddress_consumes.bind
    rintro target _ rfl
    apply readText_rewrites.bind
    rintro key _ ⟨titled, rfl⟩
    apply readValue_consumes.map
    rintro value _ ⟨set, rfl⟩
    exact ⟨⟨titled, set⟩, by simp [Instruction.layout]⟩
  · exact .fail _

theorem readBody_consumes : Consumes readBody fun body layout =>
    body.Fits ∧ layout = body.layout := by
  apply readVariant_rewrites.bind
  rintro index _ ⟨-, rfl⟩
  split
  · apply (readList_consumes readInstruction_consumes).map
    rintro list _ ⟨fits, rfl⟩
    exact ⟨fits, rfl⟩
  · exact readText_rewrites.alternative fun _ fits => ⟨fits, rfl⟩
  · exact .fail _

theorem readManifest_consumes : Consumes readManifest fun manifest layout =>
    manifest.Fits ∧ layout = manifest.layout := by
  apply readNetwork_rewrites.bind
  rintro network _ ⟨-, rfl⟩
  apply readBody_consumes.bind
  rintro body _ ⟨held, rfl⟩
  apply (readList_rewrites readCountedBytes_rewrites).map
  rintro blobs _ ⟨listed, rfl⟩
  exact ⟨⟨held, listed⟩, (List.append_assoc ..).symm⟩

theorem readPublicKey_rewrites : Rewrites readPublicKey (fun _ => True) writePublicKey :=
  (readFixed_rewrites 32).map fun _ _ held => held

theorem readSignature_rewrites :
    Rewrites readSignature (fun s => s.bytes.length < countBound) writeSignature :=
  readCountedBytes_rewrites.map fun _ _ held => held

theorem readKeySignature_rewrites :
    Rewrites readKeySignature (fun s => s.signature.bytes.length < countBound) writeKeySignature := by
  apply readPublicKey_rewrites.bind
  rintro key _ ⟨-, rfl⟩
  apply readSignature_rewrites.map
  rintro signature _ ⟨fits, rfl⟩
  exact ⟨fits, (fixed_append ..).symm⟩

theorem readHeader_rewrites : Rewrites readHeader (fun _ => True) writeHeader := by
  apply readU8_rewrites.bind
  rintro version _ ⟨-, rfl⟩
  apply readNetwork_rewrites.bind
  rintro network _ ⟨-, rfl⟩
  apply readU64_rewrites.bind
  rintro startEpoch _ ⟨-, rfl⟩
  apply readU64_rewrites.bind
  rintro endEpoch _ ⟨-, rfl⟩
  apply readU64_rewrites.bind
  rintro nonce _ ⟨-, rfl⟩
  apply readPublicKey_rewrites.bind
  rintro notary _ ⟨-, rfl⟩
  apply readBool_rewrites.bind
  rintro notaryIsSignatory _ ⟨-, rfl⟩
  apply readU32_rewrites.bind
  rintro costUnitLimit _ ⟨-, rfl⟩
  apply readU16_rewrites.map
  rintro tipPercentage _ ⟨-, rfl⟩
  exact ⟨trivial, by simp [writeHeader, fixed_append]⟩

theorem readMessage_rewrites : Rewrites readMessage
    (fun message => ∀ text, message = some text → TextFits text) writeMessage := by
  apply readVariant_rewrites.bind
  rintro index _ ⟨-, rfl⟩
  split
  · exact .pure ⟨nofun, List.append_nil _⟩
  · refine readText_rewrites.alternative fun text fits => ⟨?_, rfl⟩
    rintro _ ⟨⟩
    exact fits
  · exact .fail _

theorem readIntent_consumes : Consumes readIntent fun intent layout =>
    intent.Fits ∧ layout = intent.layout := by
  apply readHeader_rewrites.bind
  rintro header _ ⟨-, rfl⟩
  apply readManifest_consumes.bind
  rintro manifest _ ⟨held, rfl⟩
  apply readMessage_rewrites.map
  rintro message _ ⟨noted, rfl⟩
  exact ⟨⟨held, noted⟩, (List.append_assoc ..).symm⟩

theorem readSignedIntent_consumes : Consumes readSignedIntent fun signed layout =>
    signed.Fits ∧ layout = signed.layout := by
  apply readIntent_consumes.bind
  rintro intent _ ⟨held, rfl⟩
  apply (readList_rewrites readKeySignature_rewrites).map
  rintro signatures _ ⟨listed, rfl⟩
  exact ⟨⟨held, listed⟩, rfl⟩

theorem readNotarized_consumes : Consumes readNotarized fun notarized layout =>
    notarized.Fits ∧ layout = notarized.layout := by
  apply readSignedIntent_consumes.bind
  rintro signed _ ⟨held, rfl⟩
  apply readSignature_rewrites.map
  rintro signature _ ⟨sealed, rfl⟩
  exact ⟨⟨held, sealed⟩, rfl⟩

end LedgerWallet.Binary
