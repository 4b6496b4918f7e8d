import LedgerWallet.Bytes
import LedgerWallet.Bytes.Hex
import LedgerWallet.Text.Numeral
import LedgerWallet.Text.Split

/-! Hosts that are numbers: four bytes with points between them, or eight groups of 16 bits with
colons between them. -/
namespace LedgerWallet.Url

/-- A part of a numeric host: base 16 after a mark, base 8 after a zero, or else base 10. -/
def hostNumber? : List Char → Option Nat
  | '0' :: x :: digits =>
    if x = 'x' ∨ x = 'X' then
      digits.foldlM (fun value c => do return 16 * value + (← Hex.value? c)) 0
    else (x :: digits).foldlM (fun value c => do
      let digit ← Text.digit? c
      if digit < 8 then return 8 * value + digit else none) 0
  | digits => if digits.isEmpty then none else Text.digits? digits

/-- The number that up to four parts make. The last part fills all bytes that are left. -/
def combine? : (count : Nat) → List Nat → Option Nat
  | count, [last] => if last < Nat.pow 256 (5 - count) then some last else none
  | count, part :: rest =>
    if part < 256 then
      (combine? count rest).map (part * Nat.pow 256 (4 - (count - rest.length)) + ·)
    else none
  | _, [] => none

/-- Four numbers with points between them, for a host that ends in a number. -/
def fourBytes? (host : List Char) : Option (Option (List Char)) :=
  let fields := Text.fields '.' host
  let parts := if 1 < fields.length ∧ fields.getLast? = some [] then fields.dropLast else fields
  let last := parts.getLast?.getD []
  let ends := (!last.isEmpty && last.all Char.isDigit) || (hostNumber? last).isSome
  if !ends then none
  else some do
    guard (parts.length ≤ 4)
    let address ← combine? parts.length (← parts.mapM hostNumber?)
    let bytes := (LittleEndian.encode 4 address).reverse.map UInt8.toNat
    return ['.'].intercalate (bytes.map (Nat.toDigits 10))

/-- A group of at most four digits. -/
def group? (digits : List Char) : Option Nat := do
  guard (!digits.isEmpty && digits.length ≤ 4)
  digits.foldlM (fun value c => do return 16 * value + (← Hex.value? c)) 0

/-- A byte in base ten, without a zero in front. -/
def decimalByte? (digits : List Char) : Option Nat := do
  guard (!digits.isEmpty && (digits.length = 1 || digits.head? ≠ some '0'))
  let value ← Text.digits? digits
  if value < 256 then return value else none

/-- The last two groups may be written as four bytes. -/
def lastGroups? (text : List Char) : Option (List Nat) := do
  match ← (Text.fields '.' text).mapM decimalByte? with
  | [a, b, c, d] => return [256 * a + b, 256 * c + d]
  | _ => none

def groups? : List (List Char) → Option (List Nat)
  | [] => some []
  | [last] => if last.contains '.' then lastGroups? last else (group? last).map ([·])
  | field :: rest => do return (← group? field) :: (← groups? rest)

/-- The groups of a text without a gap. An empty text has none. -/
def groupsOf? (text : List Char) : Option (List Nat) :=
  if text.isEmpty then some [] else groups? (Text.fields ':' text)

/-- The texts before and after the first two colons in a row. -/
def splitGap : List Char → Option (List Char × List Char)
  | ':' :: ':' :: rest => some ([], rest)
  | c :: rest => (splitGap rest).map fun (before, after) => (c :: before, after)
  | [] => none

/-- Eight groups. A gap stands for one or more that are zero. -/
def eightGroups? (text : List Char) : Option (List Nat) := do
  let groups ← match splitGap text with
    | none => groupsOf? text
    | some (before, after) => do
      guard (!before.contains '.')
      let first ← groupsOf? before
      let last ← groupsOf? after
      guard (first.length + last.length < 8)
      pure (first ++ List.replicate (8 - first.length - last.length) 0 ++ last)
  if groups.length = 8 then return groups else none

/-- How many groups at the start are zero. -/
def zeros (groups : List Nat) : Nat := (groups.takeWhile (· = 0)).length

/-- Where the longest run of zeros starts, of several the first, and how long it is. -/
def longestZeros : List Nat → Nat × Nat
  | [] => (0, 0)
  | group :: rest =>
    let (place, length) := longestZeros rest
    if length ≤ zeros (group :: rest) then (0, zeros (group :: rest)) else (place + 1, length)

def groupsChars (groups : List Nat) : List Char := [':'].intercalate (groups.map (Nat.toDigits 16))

/-- The longest run of at least two zeros becomes the gap. -/
def eightGroupsChars (groups : List Nat) : List Char :=
  let (place, length) := longestZeros groups
  if length < 2 then groupsChars groups
  else groupsChars (groups.take place) ++ [':', ':'] ++ groupsChars (groups.drop (place + length))

end LedgerWallet.Url
