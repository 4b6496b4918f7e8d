import LedgerWallet.Text.Numeral
import LedgerWallet.Text.Split

/-! Command lines: options, operands and one command with options and operands of its own. An option
that takes a value finds it attached or in the next argument. Faults are reported in the order in
which a reader from left to right meets them. -/
namespace LedgerWallet.CommandLine

inductive UsageError where
  | unknownArgument
  | unknownCommand
  | missingCommand
  /-- Nothing was given at all. -/
  | nothingToDo
  | missingRequired
  | missingValue
  | unexpectedValue
  | invalidValue
  | givenTwice
  | help
  /-- Asks for the version, as a command under this name. -/
  | version (command : String)
deriving DecidableEq, Repr

/-- What values an option takes. -/
inductive OptionKind where
  | flag
  | text
  | byte
  | path
  /-- A text for every time the option is given. -/
  | list
  | help
  | version
deriving DecidableEq, Repr

structure OptionSpec where
  name : String
  short : Option Char
  kind : OptionKind
  /-- The environment variable that stands in for the option. -/
  environmentName : Option String
  required : Bool
deriving DecidableEq, Repr

structure Grammar where
  /-- How the program calls itself when it does this. -/
  title : String
  options : List OptionSpec
  operands : Nat
  commands : List String

def OptionKind.takesValue : OptionKind → Bool
  | flag | help | version => false
  | _ => true

/-- An integer from 0 to 255, maybe with a sign. -/
def byte? (text : String) : Option UInt8 := do
  let value ← Text.integer? text.toList
  if 0 ≤ value ∧ value < 256 then return UInt8.ofNat value.toNat else none

def OptionSpec.check (option : OptionSpec) (value : String) : Except UsageError Unit :=
  match option.kind with
  | .byte => if (byte? value).isSome then .ok () else .error .invalidValue
  | .path => if value.isEmpty then .error .missingValue else .ok ()
  | _ => .ok ()

/-- What was given so far. An option is settled only when the next one comes, or the end. -/
structure Progress where
  /-- Values by the name of their option, in the order given. A flag has the empty text. -/
  settled : List (String × String)
  pending : Option (OptionSpec × Option String)
  operands : List String
  /-- After `--` everything is an operand. -/
  escaped : Bool

namespace Progress

def start : Progress := ⟨[], none, [], false⟩

def has (p : Progress) (name : String) : Bool := p.settled.any (·.1 == name)

def settle (p : Progress) (option : OptionSpec) (value : String) : Except UsageError Progress := do
  if p.has option.name && option.kind ≠ .list then throw .givenTwice
  option.check value
  return { p with settled := p.settled ++ [(option.name, value)] }

def flush (p : Progress) : Except UsageError Progress :=
  match p.pending with
  | none => .ok p
  | some (_, none) => .error .missingValue
  | some (option, some value) => { p with pending := none }.settle option value

/-- An option waits for its value in the next argument. -/
def isWaiting (p : Progress) : Bool :=
  match p.pending with
  | some (_, none) => true
  | _ => false

end Progress

namespace Grammar

/-- An option, with the value attached to it where there is one. -/
def takeOption (g : Grammar) (p : Progress) (option : OptionSpec) (value : Option String) :
    Except UsageError Progress := do
  if option.kind.takesValue then
    let p ← p.flush
    match value with
    | some value => p.settle option value
    | none => return { p with pending := some (option, none) }
  else if value.isSome then throw .unexpectedValue
  else
    let p ← p.flush
    match option.kind with
    | .help => throw .help
    | .version => throw (.version g.title)
    | _ => p.settle option ""

/-- The text after `--`: a name, and after an equals sign a value. -/
def takeLong (g : Grammar) (p : Progress) (text : List Char) : Except UsageError Progress :=
  let (name, value) := match Text.splitFirst '=' text with
    | some (name, value) => (name, some (String.ofList value))
    | none => (text, none)
  match g.options.find? (·.name == String.ofList name) with
  | some option => g.takeOption p option value
  | none => .error .unknownArgument

/-- The text after a hyphen: options of one letter, the last maybe with its value. -/
def takeShort (g : Grammar) (p : Progress) : List Char → Except UsageError Progress
  | [] => .ok p
  | letter :: rest =>
    match g.options.find? (·.short = some letter) with
    | none => .error .unknownArgument
    | some option =>
      if option.kind.takesValue then
        let value := match rest with
          | [] => none
          | '=' :: value => some (String.ofList value)
          | value => some (String.ofList value)
        g.takeOption p option value
      else do g.takeShort (← g.takeOption p option none) rest

/-- What an argument is that has no place. Where commands are expected it is taken for a command,
unless it is one and was escaped. -/
def misplaced (g : Grammar) (escaped : Bool) (argument : String) : UsageError :=
  if g.commands.isEmpty || (escaped && g.commands.contains argument) then .unknownArgument
  else .unknownCommand

def takeOperand (g : Grammar) (p : Progress) (argument : String) : Except UsageError Progress :=
  if p.operands.length < g.operands then do
    let p ← p.flush
    return { p with operands := p.operands ++ [argument] }
  else .error (g.misplaced p.escaped argument)

/-- Help on a command. No command has commands of its own. -/
def helpOn (g : Grammar) : List String → UsageError
  | [] => .help
  | [command] => if g.commands.contains command then .help else .unknownCommand
  | _ => .unknownCommand

def helpCommand : String := "help"

/-- Reads arguments up to a command, and gives that and the arguments after it. -/
def read (g : Grammar) (p : Progress) :
    List String → Except UsageError (Progress × Option (String × List String))
  | [] => .ok (p, none)
  | argument :: rest =>
    if p.escaped then do g.read (← g.takeOperand p argument) rest
    else if !p.isWaiting && g.commands.contains argument then
      if argument = helpCommand then .error (g.helpOn rest) else .ok (p, some (argument, rest))
    else match argument.toList with
      | ['-', '-'] => g.read { p with escaped := true } rest
      | '-' :: '-' :: text => do g.read (← g.takeLong p text) rest
      | '-' :: letter :: letters => do g.read (← g.takeShort p (letter :: letters)) rest
      | _ =>
        match p.pending with
        | some (option, none) => g.read { p with pending := some (option, some argument) } rest
        | _ => do g.read (← g.takeOperand p argument) rest

/-- The value of the variable that stands in for an option. -/
def fromVariable (environment : String → Option String) (option : OptionSpec) : Option String :=
  option.environmentName.bind environment

/-- Settles what is pending, and judges the variables of the options that were not given. -/
def close (g : Grammar) (environment : String → Option String) (p : Progress) :
    Except UsageError Progress := do
  let p ← p.flush
  g.options.forM fun option =>
    match fromVariable environment option with
    | some value => if p.has option.name then .ok () else option.check value
    | none => .ok ()
  return p

/-- Everything required was given, in some way. -/
def isComplete (g : Grammar) (environment : String → Option String) (p : Progress) : Bool :=
  g.operands ≤ p.operands.length && g.options.all fun option =>
    !option.required || p.has option.name || (fromVariable environment option).isSome

/-- Nothing was given, neither on the line nor by a variable. -/
def isBare (g : Grammar) (environment : String → Option String) (p : Progress) : Bool :=
  p.settled.isEmpty && g.options.all fun option => (fromVariable environment option).isNone

end Grammar

/-- The command, what was given for it, and what was given in front of it. -/
structure Parsed where
  command : String
  own : Progress
  before : Progress

/-- The command is judged before what stands in front of it. -/
def parse (g : Grammar) (commandGrammar : String → Grammar) (environment : String → Option String)
    (arguments : List String) : Except UsageError Parsed := do
  let (before, command) ← g.read .start arguments
  match command with
  | none =>
    let before ← g.close environment before
    throw (if g.isBare environment before then .nothingToDo else .missingCommand)
  | some (command, rest) =>
    let inner := commandGrammar command
    let (own, _) ← inner.read .start rest
    let own ← inner.close environment own
    if !inner.isComplete environment own then throw .missingRequired
    return ⟨command, own, ← g.close environment before⟩

namespace Parsed

/-- The values given on the line. Those after the command hide those before it. -/
def given (parsed : Parsed) (name : String) : List String :=
  let values (p : Progress) : List String := (p.settled.filter (·.1 == name)).map (·.2)
  if parsed.own.has name then values parsed.own else values parsed.before

def has (parsed : Parsed) (name : String) : Bool := !(parsed.given name).isEmpty

end Parsed

end LedgerWallet.CommandLine
