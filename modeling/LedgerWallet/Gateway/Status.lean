/-! What a gateway to the ledger answers. -/
namespace LedgerWallet

inductive GatewayError where
  | transport (message : String)
  | status (code : UInt16) (body : String)
  | malformed (message : String)
deriving DecidableEq, Repr

def GatewayError.message : GatewayError → String
  | transport message => s!"transport error: {message}"
  | status code body => s!"gateway returned HTTP {code}: {body}"
  | malformed message => s!"malformed gateway response: {message}"

/-- How far the ledger is with a transaction. -/
inductive LedgerStatus where
  | unknown
  | pending
  | committedSuccess
  | committedFailure
  | rejected
deriving DecidableEq, Repr

namespace LedgerStatus

def all : List LedgerStatus := [unknown, pending, committedSuccess, committedFailure, rejected]

def name : LedgerStatus → String
  | unknown => "Unknown"
  | pending => "Pending"
  | committedSuccess => "CommittedSuccess"
  | committedFailure => "CommittedFailure"
  | rejected => "Rejected"

def ofName? (name : String) : Option LedgerStatus := all.find? (·.name == name)

/-- A verdict, after which nothing changes. -/
def isTerminal : LedgerStatus → Bool
  | unknown | pending => false
  | _ => true

end LedgerStatus

end LedgerWallet
