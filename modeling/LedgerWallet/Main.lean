import LedgerWallet.CommandLine.Session

/-! The program itself: arguments, variables, files, chance and time come from the machine. -/
namespace LedgerWallet.CommandLine

def fileError : IO.Error → FileError
  | .noFileOrDirectory .. => .missing
  | .permissionDenied .. => .denied
  | .inappropriateType none .. => .folder
  | .inappropriateType (some _) .. => .notFolder
  | .invalidArgument .. => .longName
  | failure => .other (toString failure)

def machine : Host IO where
  readText path := do
    try
      match String.fromUTF8? (← IO.FS.readBinFile path) with
      | some text => return .ok text
      | none => return .error .notText
    catch failure => return .error (fileError failure)
  randomBytes count := do return (← IO.getRandomBytes count.toUSize).data.toList
  sleep milliseconds := IO.sleep (min milliseconds 0xffffffff).toUInt32
  clock := IO.monoMsNow

/-- The variables that options name, as they are set when the program starts. -/
def readEnvironment : IO (String → Option String) := do
  let names := (keyOption :: commonOptions).filterMap OptionSpec.environmentName
  let pairs ← names.mapM fun name => do return (name, ← IO.getEnv name)
  return fun name => (pairs.find? (·.1 == name)).bind (·.2)

end LedgerWallet.CommandLine

open LedgerWallet.CommandLine in
def main (arguments : List String) : IO UInt32 := do
  let output ← run machine (← readEnvironment) arguments
  IO.print output.printed
  IO.eprint output.reported
  return output.exitCode.toUInt32
