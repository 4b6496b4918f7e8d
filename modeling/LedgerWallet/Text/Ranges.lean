import LedgerWallet.Bytes.Hex
import LedgerWallet.Text.Blank
import LedgerWallet.Text.Split

/-! Sets of characters as ranges of code points. Tables are texts: words between blanks, with code
points in base 16. -/
namespace LedgerWallet.Text

/-- The words between blanks. -/
def words (text : String) : List (List Char) :=
  let (first, rest) := text.toList.foldr (fun c (word, words) =>
    if isBlank c then ([], word :: words) else (c :: word, words)) ([], [])
  (first :: rest).filter (!·.isEmpty)

def codePoint (word : List Char) : Nat :=
  word.foldl (fun value c => 16 * value + (Hex.value? c).getD 0) 0

/-- Closed ranges of code points, in increasing order. -/
abbrev Ranges := List (Nat × Nat)

/-- A word is a code point, or two with a hyphen between them. -/
def Ranges.ofText (text : String) : Ranges :=
  (words text).map fun word =>
    match splitFirst '-' word with
    | some (low, high) => (codePoint low, codePoint high)
    | none => (codePoint word, codePoint word)

def Ranges.contains (ranges : Ranges) (c : Char) : Bool :=
  ranges.any fun (low, high) => low ≤ c.toNat && c.toNat ≤ high

end LedgerWallet.Text
