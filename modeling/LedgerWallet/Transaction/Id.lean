import LedgerWallet.Bytes.Hex
import LedgerWallet.Hash.Sha2
import LedgerWallet.Text.Quoted

/-! Transaction ids: the double hash of a compiled intent. -/
namespace LedgerWallet

def Hex.Fault.message : Hex.Fault → String
  | oddLength => "Odd number of digits"
  | badDigit shown offset =>
    s!"Invalid character {String.ofList (Text.quoteChar shown)} at position {offset}"

structure TransactionId where
  bytes : Bytes 32
deriving DecidableEq, Inhabited

namespace TransactionId

inductive ParseError where
  | hex (fault : Hex.Fault)
  | wrongLength (got : Nat)
deriving DecidableEq

def ParseError.message : ParseError → String
  | hex fault => s!"decoding failed: {fault.message}"
  | wrongLength got => s!"decoding failed: transaction id must be 32 bytes, got {got}"

def ofCompiled (compiled : List UInt8) : TransactionId := ⟨doubleSha256 compiled⟩

def text (id : TransactionId) : String := Hex.text id.bytes.toList

instance : ToString TransactionId := ⟨text⟩

def parse (text : String) : Except ParseError TransactionId :=
  match Hex.decode text.toList with
  | .error fault => .error (.hex fault)
  | .ok bytes =>
    match Bytes.ofList? 32 bytes with
    | some bytes => .ok ⟨bytes⟩
    | none => .error (.wrongLength bytes.length)

end TransactionId

end LedgerWallet
