import LedgerWallet.Url.Basic
import LedgerWallet.Url.Host
import LedgerWallet.Url.Path

/-! Reading addresses into their normal form. The scheme is lowercase, the usual port of a scheme is
left out, and steps of the path are resolved. -/
namespace LedgerWallet.Url

/-- Schemes of the web, which always have a host, each with its usual port. -/
def webSchemes : List (String × Nat) :=
  [("http", 80), ("https", 443), ("ws", 80), ("wss", 443), ("ftp", 21)]

inductive SchemeKind where
  | web (usualPort : Nat)
  | file
  | other
deriving DecidableEq, Repr

def SchemeKind.of (scheme : List Char) : SchemeKind :=
  if scheme = ['f', 'i', 'l', 'e'] then file
  else match webSchemes.find? (·.1 == String.ofList scheme) with
    | some (_, port) => web port
    | none => other

def SchemeKind.isSpecial (kind : SchemeKind) : Bool := kind ≠ other

/-- Surrounding control characters and spaces do not count, nor do tabs and line ends anywhere. -/
def clean (text : List Char) : List Char :=
  let edge (c : Char) : Bool := c.toNat ≤ 0x20
  let inner := ((text.dropWhile edge).reverse.dropWhile edge).reverse
  inner.filter fun c => c != '\t' && c != '\n' && c != '\r'

def isSchemeChar (c : Char) : Bool := c.isAlphanum || c = '+' || c = '-' || c = '.'

def scheme? (text : List Char) : Option (List Char × List Char) := do
  let (scheme, rest) ← Text.splitFirst ':' text
  let first ← scheme.head?
  guard (first.isAlpha && scheme.all isSchemeChar)
  return (scheme.map Char.toLower, rest)

/-- Cuts in front of the first colon that is not in brackets. -/
def cutPort (inside : Bool) : List Char → List Char × Option (List Char)
  | [] => ([], none)
  | c :: rest =>
    if c = ':' ∧ !inside then ([], some rest)
    else
      let (host, port) := cutPort (c = '[' || (inside && c != ']')) rest
      (c :: host, port)

/-- A port, which need not have digits. -/
def port? (kind : SchemeKind) (digits : List Char) : Option (Option Nat) := do
  if digits.isEmpty then return none
  let port ← Text.digits? digits
  guard (port < UInt16.size)
  return if kind = .web port then none else some port

def credentials (text : List Char) : Credentials :=
  let (name, password) := (Text.splitFirst ':' text).getD (text, [])
  ⟨escape credentialEscapes name, escape credentialEscapes password⟩

/-- What stands in front of the last `@` are credentials, and they need a host. -/
def splitCredentials? (text : List Char) : Option (Credentials × List Char) :=
  match Text.splitLast '@' text with
  | none => some (.empty, text)
  | some ([], []) => none
  | some (before, after) => some (credentials before, after)

/-- The authority and what follows it up to the next slash. That can only be a backslash behind a
port, which begins the path. -/
def authority? (kind : SchemeKind) (text : List Char) : Option (Authority × List Char) := do
  let (credentials, place) ← splitCredentials? text
  let (host, port) := cutPort false place
  let host ← if kind.isSpecial then webHost? host else otherHost? host
  guard (!host.isEmpty || (credentials = .empty && port.isNone))
  let digits := (port.getD []).takeWhile (· != '\\')
  return (⟨credentials, host, ← port? kind digits⟩, (port.getD []).drop digits.length)

/-- Authority and path after two slashes. In an address of the web the path is never empty. -/
def placed? (kind : SchemeKind) (text : List Char) : Option (Authority × List Char) := do
  let special := kind.isSpecial
  let inside (c : Char) : Bool := !isSlash special c
  let (authority, rest) ← authority? kind (text.takeWhile inside)
  let rest := rest ++ text.dropWhile inside
  if special then return (authority, pathFrom true ['/'] (rest.drop 1))
  else if rest.isEmpty then return (authority, [])
  else return (authority, pathFrom false (if rest.head? = some '/' then [] else ['/']) rest)

def localAuthority : Authority := ⟨.empty, [], none⟩

/-- The place of a file after two slashes. A host can be the letter of a drive, which belongs to the
path, and the own machine has no name. -/
def hostedFile? (text : List Char) : Option (Authority × List Char) := do
  let inside (c : Char) : Bool := !isSlash true c
  let host := text.takeWhile inside
  let rest := text.dropWhile inside
  if isDrive host then return (localAuthority, (filePathFrom ['/'] text).1)
  if host.isEmpty then return (localAuthority, (filePathFrom ['/'] rest).1)
  let host ← webHost? host
  if String.ofList host = "localhost" then return (localAuthority, (filePathFrom ['/'] rest).1)
  let (path, isLocal) := filePathFrom ['/'] (rest.drop 1)
  return (if isLocal then localAuthority else ⟨.empty, host, none⟩, path)

def file? (text : List Char) : Option (Authority × List Char) :=
  match text with
  | a :: b :: rest =>
    if isSlash true a && isSlash true b then hostedFile? rest
    else some (localAuthority, (filePathFrom (if isSlash true a then [] else ['/']) text).1)
  | [a] => some (localAuthority, (filePathFrom (if isSlash true a then [] else ['/']) text).1)
  | [] => some (localAuthority, ['/'])

/-- Authority and path. A web address has an authority after any number of slashes. -/
def place? (kind : SchemeKind) (text : List Char) : Option (Option Authority × List Char) := do
  let hosted (place : Authority × List Char) : Option Authority × List Char := (some place.1, place.2)
  match kind, text with
  | .web _, _ => hosted <$> placed? kind (text.dropWhile (isSlash true))
  | .file, _ => hosted <$> file? text
  | .other, '/' :: '/' :: rest => hosted <$> placed? kind rest
  | .other, '/' :: rest => return (none, pathFrom false ['/'] rest)
  | .other, _ => return (none, escape [] text)

/-- Cuts query and fragment off. -/
def cutTail (text : List Char) : List Char × Option (List Char) × Option (List Char) :=
  let (text, fragment) := match Text.splitFirst '#' text with
    | some (before, after) => (before, some after)
    | none => (text, none)
  match Text.splitFirst '?' text with
  | some (before, after) => (before, some after, fragment)
  | none => (text, none, fragment)

def parse? (text : String) : Option Url := do
  let (scheme, rest) ← scheme? (clean text.toList)
  let (rest, query, fragment) := cutTail rest
  let kind := SchemeKind.of scheme
  let (authority, path) ← place? kind rest
  let queryEscapes := if kind.isSpecial then '\'' :: queryEscapes else queryEscapes
  return ⟨scheme, authority, path, query.map (escape queryEscapes),
    fragment.map (escape fragmentEscapes)⟩

end LedgerWallet.Url
