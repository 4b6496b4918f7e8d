/-! Why the text of a file cannot be had. -/
namespace LedgerWallet.CommandLine

inductive FileError where
  | missing
  | denied
  /-- A step of the path goes on from something that is no folder. -/
  | notFolder
  | folder
  /-- A step of the path has more bytes than a name may have. -/
  | longName
  /-- The bytes of the file are no UTF-8. -/
  | notText
  | other (text : String)
deriving DecidableEq, Repr

/-- What the system calls the error, with the number it has there. -/
def FileError.message : FileError → String
  | .missing => "No such file or directory (os error 2)"
  | .denied => "Permission denied (os error 13)"
  | .notFolder => "Not a directory (os error 20)"
  | .folder => "Is a directory (os error 21)"
  | .longName => "File name too long (os error 36)"
  | .notText => "stream did not contain valid UTF-8"
  | .other text => text

end LedgerWallet.CommandLine
