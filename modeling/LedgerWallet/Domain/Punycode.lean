import LedgerWallet.Text.Split

/-! Labels in ASCII. The ASCII characters of a label come first. For each of the others a number says
how many steps it is from the one before it, in the order of their code points and then of their
places; numbers are written with 36 digits and the lowest digit first. -/
namespace LedgerWallet.Domain.Punycode

def base : Nat := 36

/-- The code point before the first one that needs a number. -/
def start : Nat := 128

def digitChar (digit : Nat) : Char :=
  Char.ofNat (if digit < 26 then 'a'.toNat + digit else '0'.toNat + (digit - 26))

def digit? (c : Char) : Option Nat :=
  if 'a' ≤ c ∧ c ≤ 'z' then some (c.toNat - 'a'.toNat)
  else if '0' ≤ c ∧ c ≤ '9' then some (26 + (c.toNat - '0'.toNat))
  else none

/-- A digit below this is the last one of its number. `place` counts digits by the base. -/
def threshold (bias place : Nat) : Nat := max 1 (min 26 (place - bias))

/-- How often a number can be divided until it is small, by the base, and what is left of it. -/
def shrink : (fuel : Nat) → (number : Nat) → Nat × Nat
  | 0, number => (0, number)
  | fuel + 1, number =>
    if number ≤ 455 then (0, number)
    else
      let (count, rest) := shrink fuel (number / 35)
      (count + base, rest)

/-- The bias for the next number, after a number and with so many characters known. -/
def adapt (first : Bool) (number known : Nat) : Nat :=
  let number := if first then number / 700 else number / 2
  let number := number + number / known
  let (count, rest) := shrink number number
  count + 36 * rest / (rest + 38)

/-- What the numbers have told so far. -/
structure State where
  code : Nat
  place : Nat
  bias : Nat
  isFirst : Bool

def State.initial : State := ⟨start, 0, 72, true⟩

def digitsFor (bias : Nat) : (fuel : Nat) → (place number : Nat) → List Char
  | 0, _, _ => []
  | fuel + 1, place, number =>
    let t := threshold bias place
    if number < t then [digitChar number]
    else
      digitChar (t + (number - t) % (base - t)) ::
        digitsFor bias fuel (place + base) ((number - t) / (base - t))

/-- A number as digits. -/
def digits (bias number : Nat) : List Char := digitsFor bias (number + 1) base number

/-- Writes the character `code` at a place among `known` smaller or earlier ones. -/
def State.write (s : State) (code place known : Nat) : List Char × State :=
  let number := (code - s.code) * (known + 1) + place - s.place
  (digits s.bias number, ⟨code, place + 1, adapt s.isFirst number (known + 1), false⟩)

/-- The places where a code point stands, counted over the characters that are smaller, or equal and
earlier. -/
def placesOf (code : Nat) (text : List Char) : List Nat :=
  (text.foldl (fun (places, count) c =>
    if c.toNat = code then (count :: places, count + 1)
    else if c.toNat < code then (places, count + 1)
    else (places, count)) (([], 0) : List Nat × Nat)).1.reverse

def encodeCode (text : List Char) (code : Nat) (s : State) : List Char × State :=
  let smaller := text.countP (·.toNat < code)
  (placesOf code text).zipIdx.foldl (fun (written, s) (place, earlier) =>
    let (digits, s) := s.write code place (smaller + earlier)
    (written ++ digits, s)) ([], s)

def encode (text : List Char) : List Char :=
  let basic := text.filter (·.toNat < start)
  let others := (text.filter (start ≤ ·.toNat)).map Char.toNat
  let codes := (others.mergeSort (· ≤ ·)).eraseReps
  let (written, _) := codes.foldl (fun (written, s) code =>
    let (digits, s) := encodeCode text code s
    (written ++ digits, s)) (([], State.initial) : List Char × State)
  basic ++ (if basic.isEmpty then [] else ['-']) ++ written

/-- A number and what follows it. -/
def number? (bias : Nat) : List Char → (place weight number : Nat) → Option (Nat × List Char)
  | [], _, _, _ => none
  | c :: rest, place, weight, number => do
    let digit ← digit? c
    let t := threshold bias place
    let number := number + digit * weight
    if digit < t then return (number, rest)
    else number? bias rest (place + base) (weight * (base - t)) number

/-- Inserts the characters that the numbers tell. Every number has at least one digit. -/
def insertFor : (fuel : Nat) → State → (known digits : List Char) → Option (List Char)
  | _, _, known, [] => some known
  | 0, _, _, _ => none
  | fuel + 1, s, known, digits => do
    let (number, rest) ← number? s.bias digits base 1 0
    let count := known.length + 1
    let steps := s.place + number
    let code := s.code + steps / count
    let place := steps % count
    guard (code.isValidChar)
    insertFor fuel ⟨code, place + 1, adapt s.isFirst number count, false⟩
      (known.insertIdx place (Char.ofNat code)) rest

/-- The last hyphen divides the ASCII characters from the numbers, unless it comes first. -/
def decode? (text : List Char) : Option (List Char) := do
  let (basic, digits) := (Text.splitLast '-' text).getD ([], text)
  guard (text.head? ≠ some '-' ∨ !basic.isEmpty)
  guard (basic.all (·.toNat < start))
  insertFor digits.length .initial basic digits

end LedgerWallet.Domain.Punycode
