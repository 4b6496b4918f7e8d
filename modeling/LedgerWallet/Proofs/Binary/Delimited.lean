import LedgerWallet.Proofs.Binary.Fits

/-! Self-delimiting readers. What a writer puts out is taken off the front of any input, and an input
that ends before all of it is there is refused. Sequences of such readers are such readers. -/
namespace LedgerWallet.Binary

variable {α β : Type}

/-- The reader takes exactly these bytes off its input, whatever comes after them, and refuses an
input that ends among them. -/
structure Delimits (reader : Reader α) (bytes : List UInt8) (value : α) : Prop where
  reads : ∀ rest, reader (bytes ++ rest) = .ok (value, rest)
  refuses : ∀ front back, front ++ back = bytes → back ≠ [] → ∃ fault, reader front = .error fault

theorem bind_ok {reader : Reader α} {next : α → Reader β} {input rest : List UInt8} {value : α}
    (read : reader input = .ok (value, rest)) : (reader >>= next) input = next value rest := by
  simp only [bind, StateT.bind, read, Except.bind]

theorem bind_error {reader : Reader α} {next : α → Reader β} {input : List UInt8} {fault : Fault}
    (refused : reader input = .error fault) : (reader >>= next) input = .error fault := by
  simp only [bind, StateT.bind, refused, Except.bind]

theorem bind_eq_ok {reader : Reader α} {next : α → Reader β} {input rest : List UInt8} {result : β}
    (read : (reader >>= next) input = .ok (result, rest)) :
    ∃ value middle, reader input = .ok (value, middle) ∧ next value middle = .ok (result, rest) := by
  cases first : reader input with
  | error fault =>
    rw [bind_error first] at read
    contradiction
  | ok pair =>
    obtain ⟨value, middle⟩ := pair
    rw [bind_ok first] at read
    exact ⟨value, middle, rfl, read⟩

namespace Delimits

variable {reader : Reader α} {next : α → Reader β} {bytes more : List UInt8} {value : α} {result : β}

theorem pure (value : α) : Delimits (Pure.pure value : Reader α) [] value where
  reads _ := rfl
  refuses front back whole remains := by
    obtain ⟨rfl, rfl⟩ := List.append_eq_nil_iff.mp whole
    contradiction

theorem bind (first : Delimits reader bytes value) (second : Delimits (next value) more result) :
    Delimits (reader >>= next) (bytes ++ more) result where
  reads rest := by
    rw [List.append_assoc, bind_ok (first.reads _)]
    exact second.reads rest
  refuses front back whole remains := by
    rcases List.append_eq_append_iff.mp whole with ⟨rest, cut, rfl⟩ | ⟨part, rfl, cut⟩
    · by_cases none : rest = []
      · subst none
        rw [List.append_nil] at cut
        subst cut
        obtain ⟨fault, refused⟩ := second.refuses [] more rfl remains
        have read := first.reads []
        rw [List.append_nil] at read
        exact ⟨fault, (bind_ok read).trans refused⟩
      · obtain ⟨fault, refused⟩ := first.refuses front rest cut.symm none
        exact ⟨fault, bind_error refused⟩
    · obtain ⟨fault, refused⟩ := second.refuses part back cut.symm remains
      exact ⟨fault, (bind_ok (first.reads part)).trans refused⟩

theorem bind_pure (first : Delimits reader bytes value) (last : next value = Pure.pure result) :
    Delimits (reader >>= next) bytes result := by
  have second : Delimits (next value) [] result := by
    rw [last]
    exact pure result
  simpa only [List.append_nil] using first.bind second

theorem map (f : α → β) (first : Delimits reader bytes value) :
    Delimits (reader >>= fun value => Pure.pure (f value)) bytes (f value) :=
  first.bind_pure rfl

end Delimits

theorem readBytes_delimits (bytes : List UInt8) : Delimits (readBytes bytes.length) bytes bytes where
  reads rest := by
    simp [readBytes]
  refuses front back whole remains := by
    have shorter : front.length < bytes.length := by
      have := List.length_pos_iff.mpr remains
      rw [← whole, List.length_append]
      omega
    refine ⟨.endOfInput, ?_⟩
    simp only [readBytes, List.take_of_length_le (Nat.le_of_lt shorter), shorter, if_true]

theorem readFixed_delimits {n : Nat} (bytes : Bytes n) :
    Delimits (readFixed n) bytes.toList bytes where
  reads rest := by
    have taken : (bytes.toList ++ rest).take n = bytes.toList :=
      List.take_left' bytes.length_toList
    have left : (bytes.toList ++ rest).drop n = rest := List.drop_left' bytes.length_toList
    simp only [readFixed, taken, left, Bytes.ofList?_toList]
  refuses front back whole remains := by
    have shorter : front.length < n := by
      have := List.length_pos_iff.mpr remains
      rw [← bytes.length_toList, ← whole, List.length_append]
      omega
    refine ⟨.endOfInput, ?_⟩
    have missing : ¬ (front.take n).length = n := by
      rw [List.take_of_length_le (Nat.le_of_lt shorter)]
      omega
    simp only [readFixed, Bytes.ofList?, missing, dite_false]

theorem readNat_delimits {width value : Nat} (fits : value < LittleEndian.capacity width) :
    Delimits (readNat width) (LittleEndian.encode width value) value := by
  have taken := (readBytes_delimits (LittleEndian.encode width value)).map LittleEndian.decode
  rwa [LittleEndian.length_encode, LittleEndian.decode_encode fits] at taken

theorem readU8_delimits (value : UInt8) : Delimits readU8 (writeU8 value) value := by
  have fits : value.toNat < LittleEndian.capacity 1 := value.toNat_lt
  have read := (readNat_delimits fits).map UInt8.ofNat
  rwa [LittleEndian.encode, LittleEndian.encode, UInt8.ofNat_toNat] at read

theorem readU16_delimits (value : UInt16) : Delimits readU16 (writeU16 value) value := by
  have fits : value.toNat < LittleEndian.capacity 2 := value.toNat_lt
  have read := (readNat_delimits fits).map UInt16.ofNat
  rwa [UInt16.ofNat_toNat] at read

theorem readU32_delimits (value : UInt32) : Delimits readU32 (writeU32 value) value := by
  have fits : value.toNat < LittleEndian.capacity 4 := value.toNat_lt
  have read := (readNat_delimits fits).map UInt32.ofNat
  rwa [UInt32.ofNat_toNat] at read

theorem readU64_delimits (value : UInt64) : Delimits readU64 (writeU64 value) value := by
  have fits : value.toNat < LittleEndian.capacity 8 := value.toNat_lt
  have read := (readNat_delimits fits).map UInt64.ofNat
  rwa [UInt64.ofNat_toNat] at read

theorem readBool_delimits (value : Bool) : Delimits readBool (writeBool value) value := by
  cases value with
  | false => exact (readU8_delimits 0).bind (.pure false)
  | true => exact (readU8_delimits 1).bind (.pure true)

theorem readVariant_delimits {index : Nat} (small : index < LittleEndian.capacity 4) :
    Delimits readVariant (writeVariant index) index :=
  readNat_delimits small

theorem readCount_delimits {count : Nat} (fits : count < countBound) :
    Delimits readCount (writeCount count) count :=
  readNat_delimits fits

theorem readCountedBytes_delimits {bytes : List UInt8} (fits : bytes.length < countBound) :
    Delimits readCountedBytes (writeBytes bytes) bytes :=
  (readCount_delimits fits).bind (readBytes_delimits bytes)

theorem readMany_delimits {item : Reader α} {write : α → List UInt8} (list : List α)
    (each : ∀ value ∈ list, Delimits item (write value) value) :
    Delimits (readMany item list.length) (list.flatMap write) list := by
  induction list with
  | nil => exact .pure []
  | cons head tail ih =>
    have rest := ih fun value member => each value (List.mem_cons_of_mem head member)
    rw [List.flatMap_cons]
    exact (each head List.mem_cons_self).bind (rest.map (head :: ·))

theorem readList_delimits {item : Reader α} {write : α → List UInt8} {fits : α → Prop}
    {list : List α} (all : ListFits fits list)
    (each : ∀ value, fits value → Delimits item (write value) value) :
    Delimits (readList item) (writeList write list) list :=
  (readCount_delimits all.count).bind
    (readMany_delimits list fun value member => each value (all.each value member))

theorem readText_delimits {text : String} (fits : TextFits text) :
    Delimits readText (writeText text) text :=
  (readCountedBytes_delimits fits).bind_pure (by rw [Utf8.decode_encode])

end LedgerWallet.Binary
