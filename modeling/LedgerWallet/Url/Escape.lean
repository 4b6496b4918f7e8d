import LedgerWallet.Text.Utf8
import LedgerWallet.Bytes.Hex

/-! Escapes in addresses. What cannot stand for itself is written as the bytes of its UTF-8 form in
base 16, each after a percent sign. -/
namespace LedgerWallet.Url

def percent (byte : UInt8) : List Char :=
  let digits := (Hex.encode [byte]).map Char.toUpper
  '%' :: digits

/-- Writes control characters, characters beyond ASCII and some others as bytes. -/
def escape (others : List Char) (text : List Char) : List Char :=
  text.flatMap fun c =>
    if c.toNat < 0x20 ∨ 0x7f ≤ c.toNat ∨ c ∈ others then
      (String.utf8EncodeChar c).flatMap percent
    else [c]

def queryEscapes : List Char := [' ', '"', '#', '<', '>']

def fragmentEscapes : List Char := [' ', '"', '<', '>', '\x60']

def pathEscapes : List Char := fragmentEscapes ++ ['#', '?', '\x7b', '\x7d']

def credentialEscapes : List Char :=
  pathEscapes ++ ['/', ':', ';', '=', '@', '[', '\\', ']', '^', '|']

/-- The bytes that a text with escapes stands for. A percent sign without digits is itself. -/
def unescape : List Char → List UInt8
  | '%' :: a :: b :: rest =>
    match Hex.value? a, Hex.value? b with
    | some high, some low => UInt8.ofNat (16 * high + low) :: unescape rest
    | _, _ => 0x25 :: unescape (a :: b :: rest)
  | c :: rest => String.utf8EncodeChar c ++ unescape rest
  | [] => []

/-- The text that escapes stand for, where their bytes are one. -/
def unescaped? (text : List Char) : Option String := (Utf8.decode (unescape text)).toOption

end LedgerWallet.Url
