import LedgerWallet.Binary.Transaction
import LedgerWallet.Proofs.Text.Cutting

/-! Which values have a binary form: those whose texts and lists are not longer than a count of eight
bytes can tell. -/
namespace LedgerWallet

namespace Binary

/-- How many elements a count of eight bytes can announce. -/
def countBound : Nat := UInt64.size

/-- A list that a count announces, of elements that fit themselves. -/
structure ListFits {α : Type} (fits : α → Prop) (list : List α) : Prop where
  count : list.length < countBound
  each : ∀ value ∈ list, fits value

def TextFits (text : String) : Prop := (Utf8.encode text).length < countBound

theorem TextFits.of_length {text : String} (short : 4 * text.toList.length < countBound) :
    TextFits text :=
  Nat.lt_of_le_of_lt (Utf8.length_encode_le text) short

end Binary

open Binary (TextFits ListFits countBound)

def LocalId.Fits : LocalId → Prop
  | .string name => TextFits name
  | .bytes value => value.length < countBound
  | .integer _ | .random _ => True

def Scalar.Fits : Scalar → Prop
  | .string value => TextFits value
  | .bucket value => TextFits value.name
  | .localId value => value.Fits
  | _ => True

/-- A value fits if its scalars do and no part of it has too many parts. -/
inductive Value.Fits : Value → Prop where
  | scalar {value : Scalar} (fits : value.Fits) : Fits (.scalar value)
  | compound {shape : Shape} {parts : List Value} (count : parts.length < countBound)
      (each : ∀ part ∈ parts, Fits part) : Fits (.compound shape parts)

def Instruction.Fits : Instruction → Prop
  | .take _ _ into => TextFits into.name
  | .takeNonFungibles _ ids into => ListFits LocalId.Fits ids ∧ TextFits into.name
  | .takeAll _ into => TextFits into.name
  | .assertContains _ _ => True
  | .callFunction _ blueprint function args =>
    TextFits blueprint ∧ TextFits function ∧ ListFits Value.Fits args
  | .callMethod _ method args => TextFits method ∧ ListFits Value.Fits args
  | .setMetadata _ key value => TextFits key ∧ value.Fits

def Manifest.Body.Fits : Manifest.Body → Prop
  | .instructions list => ListFits Instruction.Fits list
  | .text words => TextFits words

structure Manifest.Fits (manifest : Manifest) : Prop where
  body : manifest.body.Fits
  blobs : ListFits (fun blob => blob.length < countBound) manifest.blobs

structure Intent.Fits (intent : Intent) : Prop where
  manifest : intent.manifest.Fits
  message : ∀ text, intent.message = some text → TextFits text

structure SignedIntent.Fits (signed : SignedIntent) : Prop where
  intent : signed.intent.Fits
  signatures : ListFits (fun s : KeySignature => s.signature.bytes.length < countBound)
    signed.signatures

structure Notarized.Fits (notarized : Notarized) : Prop where
  signed : notarized.signed.Fits
  notarySignature : notarized.notarySignature.bytes.length < countBound

end LedgerWallet
