import LedgerWallet.Text.Split
import LedgerWallet.Url.Escape

/-! Paths: segments with slashes between them. A segment of points leads to the place itself or to the
one above it. The letter of a drive is never left, and at the start of a path to a file it takes a
colon. -/
namespace LedgerWallet.Url

/-- A segment that stands for the place itself, or for the place above it. -/
def dots? (segment : List Char) : Option Nat :=
  let plain := String.ofList (segment.map Char.toLower)
  if [".", "%2e"].contains plain then some 1
  else if ["..", ".%2e", "%2e.", "%2e%2e"].contains plain then some 2
  else none

/-- A letter and a colon or a bar. -/
def isDrive : List Char → Bool
  | [letter, sign] => letter.isAlpha && (sign = ':' || sign = '|')
  | _ => false

/-- The place above the one that a slash ends. -/
def above (path : List Char) : List Char :=
  match Text.splitLast '/' path.dropLast with
  | some (before, last) => if isDrive last then path else before ++ ['/']
  | none => path

/-- A path so far. -/
structure PathState where
  path : List Char
  /-- The path starts with the letter of a drive, which no host can have. -/
  isLocal : Bool

/-- Adds a segment, and a slash where others follow. -/
def PathState.add (ofFile : Bool) (s : PathState) (segment : List Char) (more : Bool) : PathState :=
  let segment := escape pathEscapes segment
  let slash := if more then ['/'] else []
  match dots? segment with
  | some 1 => s
  | some _ => { s with path := above s.path }
  | none =>
    if ofFile && s.path = ['/'] && isDrive segment then
      ⟨s.path ++ segment.take 1 ++ ':' :: slash, true⟩
    else { s with path := s.path ++ segment ++ slash }

def PathState.addAll (ofFile : Bool) (s : PathState) : List (List Char) → PathState
  | [] => s
  | segment :: rest => (s.add ofFile segment !rest.isEmpty).addAll ofFile rest

/-- A backslash is a slash in the addresses of the web and of files. -/
def isSlash (special : Bool) (c : Char) : Bool := c = '/' || (special && c = '\\')

def segments (special : Bool) (text : List Char) : List (List Char) :=
  Text.fields '/' (text.map fun c => if isSlash special c then '/' else c)

/-- A path that starts as given, in an address that has one. -/
def pathFrom (special : Bool) (start text : List Char) : List Char :=
  (PathState.addAll false ⟨start, false⟩ (segments special text)).path

/-- A path to a file, and whether it is local. Only one slash stands at its start. -/
def filePathFrom (start text : List Char) : List Char × Bool :=
  let s := PathState.addAll true ⟨start, false⟩ (segments true text)
  ('/' :: s.path.dropWhile (· = '/'), s.isLocal)

end LedgerWallet.Url
