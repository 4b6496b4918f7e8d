import LedgerWallet.Text.Graphic

/-! Quoted text. Between the quotes a character that does not show, or that could end the text, is
written as an escape. -/
namespace LedgerWallet.Text

/-- How one character is written between two `quote` characters. -/
def escape (quote : Char) (c : Char) : List Char :=
  if c = '\x00' then ['\\', '0']
  else if c = '\t' then ['\\', 't']
  else if c = '\r' then ['\\', 'r']
  else if c = '\n' then ['\\', 'n']
  else if c = '\\' ∨ c = quote then ['\\', c]
  else if isGraphic c then [c]
  else ['\\', 'u', '\x7b'] ++ Nat.toDigits 16 c.toNat ++ ['\x7d']

def quote (text : List Char) : List Char := '"' :: (text.flatMap (escape '"') ++ ['"'])

def quoteChar (c : Char) : List Char := '\'' :: (escape '\'' c ++ ['\''])

end LedgerWallet.Text
