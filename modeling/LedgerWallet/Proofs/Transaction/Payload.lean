import LedgerWallet.Address.Known
import LedgerWallet.Proofs.Binary.Transaction
import LedgerWallet.Transaction.Payload

/-! Payloads are read back and end by themselves: a payload is refused when it is cut short, continued
or taken for one of another kind, so its bytes tell its kind and its content. -/
namespace LedgerWallet

open Binary (Reader Delimits TextFits ListFits Layout Spells written)

namespace Payload

variable {α : Type} {kind : PayloadKind} {reader : Reader α} {body : List UInt8} {value : α}

theorem decode_encode (read : Delimits reader body value) :
    decode kind reader (encode kind body) = .ok value := by
  have whole := read.reads []
  rw [List.append_nil] at whole
  simp only [encode, decode, ne_eq, not_true_eq_false, if_false, whole]

theorem decode_continued (read : Delimits reader body value) {more : List UInt8} (goes : more ≠ []) :
    decode kind reader (encode kind body ++ more) = .error (.trailing more.length) := by
  cases more with
  | nil => contradiction
  | cons byte rest =>
    simp only [encode, decode, List.cons_append, ne_eq, not_true_eq_false, if_false,
      read.reads (byte :: rest)]

theorem decode_cut (read : Delimits reader body value) {front back : List UInt8}
    (whole : front ++ back = encode kind body) (remains : back ≠ []) :
    ∃ e, decode kind reader front = .error e := by
  match front, whole with
  | [], _ => exact ⟨.tooShort, rfl⟩
  | [_], _ => exact ⟨.tooShort, rfl⟩
  | first :: second :: rest, whole =>
    obtain ⟨rfl, rfl, cut⟩ : first = mark ∧ second = kind.byte ∧ rest ++ back = body := by
      simpa [encode] using whole
    obtain ⟨fault, refused⟩ := read.refuses rest back cut remains
    exact ⟨.undecodable fault, by simp only [decode, ne_eq, not_true_eq_false, if_false, refused]⟩

theorem decode_otherKind {other : PayloadKind} (different : other ≠ kind) (reader : Reader α)
    (body : List UInt8) :
    decode other reader (encode kind body) = .error (.wrongKind other kind.byte) := by
  have bytes : kind.byte ≠ other.byte := by
    cases kind <;> cases other <;> first | contradiction | decide
  simp only [encode, decode, ne_eq, not_true_eq_false, if_false, bytes, not_false_eq_true, if_true]

end Payload

namespace PayloadKind

/-- What a payload of some kind holds. -/
@[reducible] def Content : PayloadKind → Type
  | intent => Intent
  | signedIntent => SignedIntent
  | notarized => Notarized

def payload : (kind : PayloadKind) → kind.Content → List UInt8
  | intent, value => value.payload
  | signedIntent, value => value.payload
  | notarized, value => value.payload

def ofPayload : (kind : PayloadKind) → List UInt8 → Except PayloadError kind.Content
  | intent, bytes => Payload.decode .intent Binary.readIntent bytes
  | signedIntent, bytes => Payload.decode .signedIntent Binary.readSignedIntent bytes
  | notarized, bytes => Notarized.ofPayload bytes

/-- The counts in a payload can tell how long every text and list in it is. -/
def Fits : (kind : PayloadKind) → kind.Content → Prop
  | intent, value => value.Fits
  | signedIntent, value => value.Fits
  | notarized, value => value.Fits

def reader : (kind : PayloadKind) → Reader kind.Content
  | intent => Binary.readIntent
  | signedIntent => Binary.readSignedIntent
  | notarized => Binary.readNotarized

theorem ofPayload_eq (kind : PayloadKind) : kind.ofPayload = Payload.decode kind kind.reader := by
  cases kind <;> rfl

/-- Where the addresses stand in what comes after the mark and the kind. -/
def bodyLayout : (kind : PayloadKind) → kind.Content → Layout
  | intent, value => value.layout
  | signedIntent, value => value.layout
  | notarized, value => value.layout

theorem payload_written (kind : PayloadKind) (value : kind.Content) :
    kind.payload value = Payload.encode kind (written Address.text (kind.bodyLayout value)) := by
  cases kind <;> exact congrArg (Payload.encode _) (by simp [bodyLayout])

theorem reader_delimits {kind : PayloadKind} {value : kind.Content} {body : List UInt8}
    (fits : kind.Fits value) (spelled : Spells Address.Spelling (kind.bodyLayout value) body) :
    Delimits kind.reader body value := by
  cases kind with
  | intent => exact Binary.readIntent_delimits fits spelled
  | signedIntent => exact Binary.readSignedIntent_delimits fits spelled
  | notarized => exact Binary.readNotarized_delimits fits spelled

theorem payload_eq {kind : PayloadKind} {value : kind.Content} (fits : kind.Fits value) :
    ∃ body, kind.payload value = Payload.encode kind body ∧ Delimits kind.reader body value :=
  ⟨_, kind.payload_written value, reader_delimits fits (Binary.spells_displayed _)⟩

theorem ofPayload_payload {kind : PayloadKind} {value : kind.Content} (fits : kind.Fits value) :
    kind.ofPayload (kind.payload value) = .ok value := by
  obtain ⟨body, written, read⟩ := payload_eq fits
  rw [ofPayload_eq, written, Payload.decode_encode read]

theorem ofPayload_otherKind {kind other : PayloadKind} {value : kind.Content}
    (fits : kind.Fits value) (different : other ≠ kind) :
    other.ofPayload (kind.payload value) = .error (.wrongKind other kind.byte) := by
  obtain ⟨body, written, _⟩ := payload_eq fits
  rw [ofPayload_eq, written, Payload.decode_otherKind different]

/-- Equal payloads are of one kind and hold the same. -/
theorem eq_of_payload_eq {kind other : PayloadKind} {value : kind.Content} {second : other.Content}
    (fits : kind.Fits value) (fits' : other.Fits second)
    (same : other.payload second = kind.payload value) :
    (⟨other, second⟩ : Σ kind : PayloadKind, kind.Content) = ⟨kind, value⟩ := by
  have read := ofPayload_payload fits'
  rw [same] at read
  by_cases one : other = kind
  · subst one
    rw [ofPayload_payload fits] at read
    cases read
    rfl
  · rw [ofPayload_otherKind fits one] at read
    contradiction

/-- Every payload whose lengths fit is read back as what it holds. No front of it can be read; what
comes after it is counted as trailing; under another kind, whatever is read there, it is refused for
its kind. No other content, of its own kind or another, has its bytes, and so no intent is hashed
like another intent or like a signed one. -/
theorem payload_selfDelimiting (kind : PayloadKind) (value : kind.Content) (fits : kind.Fits value) :
    kind.ofPayload (kind.payload value) = .ok value ∧
      (∀ front back, front ++ back = kind.payload value → back ≠ [] →
        ∃ e, kind.ofPayload front = .error e) ∧
      (∀ more, more ≠ [] →
        kind.ofPayload (kind.payload value ++ more) = .error (.trailing more.length)) ∧
      (∀ other, other ≠ kind → ∀ (β : Type) (reader : Reader β),
        Payload.decode other reader (kind.payload value) = .error (.wrongKind other kind.byte)) ∧
      ∀ (other : PayloadKind) (second : other.Content), other.Fits second →
        other.payload second = kind.payload value →
        (⟨other, second⟩ : Σ kind : PayloadKind, kind.Content) = ⟨kind, value⟩ := by
  obtain ⟨body, written, read⟩ := payload_eq fits
  refine ⟨ofPayload_payload fits, ?_, ?_, ?_, ?_⟩
  · intro front back whole remains
    rw [written] at whole
    rw [ofPayload_eq]
    exact Payload.decode_cut read whole remains
  · intro more goes
    rw [ofPayload_eq, written]
    exact Payload.decode_continued read goes
  · intro other different β reader
    rw [written]
    exact Payload.decode_otherKind different reader body
  · intro other second fits' same
    exact eq_of_payload_eq fits fits' same

end PayloadKind

theorem Notarized.ofPayload_payload {notarized : Notarized} (fits : notarized.Fits) :
    ofPayload notarized.payload = .ok notarized :=
  @PayloadKind.ofPayload_payload .notarized notarized fits

/-- A call whose argument nests an address and a bucket, signed twice and with a note. -/
def Notarized.sample : Notarized where
  signed := {
    intent := {
      header := .make ⟨17⟩ 5 15 7 default
      manifest := {
        network := ⟨17⟩
        body := .instructions [
          .takeNonFungibles (.nativeToken ⟨17⟩) [.string "no_1", .bytes [1, 2, 3]] ⟨"bucket1"⟩,
          .callMethod (.faucet ⟨17⟩) "swap" [.compound .tuple [
            .compound .array [.scalar (.address (.accountPackage ⟨17⟩))],
            .compound (.variant 3) [.scalar (.bucket ⟨"bucket1"⟩), .unit 0]]]]
        blobs := [[], [0x4d]] }
      message := some "für später" }
    signatures := [⟨default, ⟨[]⟩⟩, ⟨default, ⟨[9]⟩⟩] }
  notarySignature := ⟨[1, 2]⟩

theorem Notarized.sample_fits : PayloadKind.notarized.Fits sample := by
  have short {text : String} (length : 4 * text.toList.length < 100) : TextFits text :=
    .of_length (Nat.lt_trans length (by decide))
  have ids : ListFits LocalId.Fits [.string "no_1", .bytes [1, 2, 3]] := by
    refine ⟨by decide, ?_⟩
    simp only [List.forall_mem_cons]
    exact ⟨short (by decide), show [1, 2, 3].length < _ by decide, List.forall_mem_nil _⟩
  have args : ListFits Value.Fits [.compound .tuple [
      .compound .array [.scalar (.address (.accountPackage ⟨17⟩))],
      .compound (.variant 3) [.scalar (.bucket ⟨"bucket1"⟩), .unit 0]]] := by
    have address : Value.Fits (.compound .array [.scalar (.address (.accountPackage ⟨17⟩))]) := by
      refine .compound (by decide) ?_
      simp only [List.forall_mem_cons]
      exact ⟨.scalar trivial, List.forall_mem_nil _⟩
    have bucket : Value.Fits (.compound (.variant 3) [.scalar (.bucket ⟨"bucket1"⟩), .unit 0]) := by
      refine .compound (by decide) ?_
      simp only [List.forall_mem_cons]
      exact ⟨.scalar (short (by decide)), .compound (by decide) (List.forall_mem_nil _), List.forall_mem_nil _⟩
    refine ⟨by decide, ?_⟩
    simp only [List.forall_mem_cons]
    refine ⟨.compound (by decide) ?_, List.forall_mem_nil _⟩
    simp only [List.forall_mem_cons]
    exact ⟨address, bucket, List.forall_mem_nil _⟩
  refine ⟨⟨⟨⟨⟨by decide, ?_⟩, ⟨by decide, ?_⟩⟩, ?_⟩, ⟨by decide, ?_⟩⟩, by decide⟩
  · simp only [List.forall_mem_cons]
    exact ⟨⟨ids, short (by decide)⟩, ⟨short (by decide), args⟩, List.forall_mem_nil _⟩
  · decide
  · intro text same
    cases same
    exact short (by decide)
  · decide

theorem PayloadKind.payload_selfDelimiting_sample :
    PayloadKind.notarized.Fits Notarized.sample ∧
      Notarized.ofPayload Notarized.sample.payload = .ok Notarized.sample ∧
      Notarized.ofPayload (Notarized.sample.payload ++ [0, 0]) = .error (.trailing 2) := by
  obtain ⟨whole, _, continued, _⟩ :=
    payload_selfDelimiting .notarized Notarized.sample Notarized.sample_fits
  exact ⟨Notarized.sample_fits, whole, continued [0, 0] (by decide)⟩

end LedgerWallet
