import LedgerWallet.Failure

/-! Where one submission stands. Steps out of order are ignored, and an end state never changes. -/
namespace LedgerWallet

inductive SubmissionState where
  | built
  | submitted
  | duplicate
  | polling
  | committedSuccess
  | committedFailure
  | rejected
  | pollTimeout
deriving DecidableEq, Repr

namespace SubmissionState

def name : SubmissionState → String
  | built => "Built"
  | submitted => "Submitted"
  | duplicate => "Duplicate"
  | polling => "Polling"
  | committedSuccess => "CommittedSuccess"
  | committedFailure => "CommittedFailure"
  | rejected => "Rejected"
  | pollTimeout => "PollTimeout"

def isTerminal : SubmissionState → Bool
  | built | submitted | polling => false
  | _ => true

end SubmissionState

structure Tracker where
  id : TransactionId
  state : SubmissionState
deriving DecidableEq

namespace Tracker

def new (id : TransactionId) : Tracker := ⟨id, .built⟩

/-- The tracker of a submission made earlier. -/
def resumed (id : TransactionId) : Tracker := ⟨id, .submitted⟩

/-- Moves on from one state, and stays in any other. -/
def advance (tracker : Tracker) (source target : SubmissionState) : Tracker :=
  if tracker.state = source then { tracker with state := target } else tracker

def markSubmitted (tracker : Tracker) : Tracker := tracker.advance .built .submitted

def markDuplicate (tracker : Tracker) : Tracker := tracker.advance .submitted .duplicate

def markPolling (tracker : Tracker) : Tracker := tracker.advance .submitted .polling

/-- The end state that the outcome of polling stands for. -/
def verdict? : Except Failure TransactionId → Option SubmissionState
  | .ok _ => some .committedSuccess
  | .error (.committedFailure _) => some .committedFailure
  | .error (.rejected _) => some .rejected
  | .error (.pollTimeout _) => some .pollTimeout
  | .error _ => none

def finish (tracker : Tracker) (outcome : Except Failure TransactionId) : Tracker :=
  match verdict? outcome with
  | some state => tracker.advance .polling state
  | none => tracker

end Tracker

end LedgerWallet
