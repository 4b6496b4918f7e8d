import LedgerWallet.Address.Basic
import LedgerWallet.Bech32.Text
import LedgerWallet.Text.Numeral

/-! The checksummed text of an address. Its prefix names the kind and the network. -/
namespace LedgerWallet

inductive AddressError where
  | encoding (fault : Bech32.Fault)
  | malformedPrefix (hrp : String)
  | unknownKind (name : String)
  | unknownNetwork (suffix : String)
  | wrongLength (got : Nat)
  | kindMismatch (byte : UInt8) (named : EntityKind)
  | wrongKind (expected got : EntityKind)
deriving DecidableEq

def AddressError.message : AddressError → String
  | encoding fault => s!"bech32 decode error: {fault.message}"
  | malformedPrefix hrp => s!"malformed HRP '{hrp}'"
  | unknownKind name => s!"unknown entity prefix '{name}'"
  | unknownNetwork suffix => s!"unknown network suffix '{suffix}'"
  | wrongLength got =>
    s!"invalid node id length: expected {Address.nodeIdLength} bytes, got {got}"
  | kindMismatch byte named =>
    s!"entity byte {Text.hexByte byte} does not match HRP entity '{named.name}'"
  | wrongKind expected got => s!"expected an {expected.name} address, got {got.name}"

namespace Address

def hrp (address : Address) : List Char :=
  address.kind.name.toList ++ '_' :: address.network.suffix

def chars (address : Address) : List Char := Bech32.encode address.hrp address.nodeId

def text (address : Address) : String := String.ofList address.chars

instance : ToString Address := ⟨text⟩

def ofHrp (hrp : List Char) : Except AddressError (EntityKind × Network) :=
  match Text.splitFirst '_' hrp with
  | none => .error (.malformedPrefix (String.ofList hrp))
  | some (name, suffix) =>
    match EntityKind.ofName? (String.ofList name) with
    | none => .error (.unknownKind (String.ofList name))
    | some kind =>
      match Network.ofSuffix? suffix with
      | none => .error (.unknownNetwork (String.ofList suffix))
      | some network => .ok (kind, network)

def ofNodeId (kind : EntityKind) (network : Network) : List UInt8 → Except AddressError Address
  | [] => .error (.wrongLength 0)
  | byte :: rest =>
    match Bytes.ofList? 29 rest with
    | none => .error (.wrongLength (rest.length + 1))
    | some body =>
      if byte = kind.byte then .ok ⟨kind, network, body⟩ else .error (.kindMismatch byte kind)

def parseChars (text : List Char) : Except AddressError Address :=
  match Bech32.decode text with
  | .error fault => .error (.encoding fault)
  | .ok (hrp, bytes) =>
    match ofHrp hrp with
    | .error e => .error e
    | .ok (kind, network) => ofNodeId kind network bytes

def parse (text : String) : Except AddressError Address := parseChars text.toList

def expect (address : Address) (kind : EntityKind) : Except AddressError Address :=
  if address.kind = kind then .ok address else .error (.wrongKind kind address.kind)

end Address

end LedgerWallet
