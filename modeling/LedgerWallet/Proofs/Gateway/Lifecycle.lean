import LedgerWallet.Gateway.Tracker
import Mathlib.Logic.Relation

/-! The graph of a submission. Whatever a tracker is told, it only moves along the edges of the graph,
and it stays where no edge leads away. -/
namespace LedgerWallet

/-- One move of a submission: it is sent, then found to be a duplicate or polled for, and polling
ends in a verdict or for want of one. -/
inductive SubmissionState.Edge : SubmissionState → SubmissionState → Prop where
  | sent : Edge .built .submitted
  | known : Edge .submitted .duplicate
  | accepted : Edge .submitted .polling
  | succeeded : Edge .polling .committedSuccess
  | failed : Edge .polling .committedFailure
  | refused : Edge .polling .rejected
  | givenUp : Edge .polling .pollTimeout

/-- The end states are those that no edge leads away from. -/
theorem SubmissionState.isTerminal_iff {state : SubmissionState} :
    state.isTerminal ↔ ∀ next, ¬ Edge state next := by
  cases state with
  | built => exact iff_of_false nofun fun ended => ended _ .sent
  | submitted => exact iff_of_false nofun fun ended => ended _ .accepted
  | polling => exact iff_of_false nofun fun ended => ended _ .givenUp
  | _ => exact iff_of_true rfl nofun

namespace Tracker

/-- What a tracker can be told. -/
inductive Signal where
  | submitted
  | duplicate
  | polling
  | finished (outcome : Except Failure TransactionId)

def receive (tracker : Tracker) : Signal → Tracker
  | .submitted => tracker.markSubmitted
  | .duplicate => tracker.markDuplicate
  | .polling => tracker.markPolling
  | .finished outcome => tracker.finish outcome

/-- A tracker stays as it is or moves along one edge, and keeps its id. -/
inductive Moves (tracker : Tracker) : Tracker → Prop where
  | stays : Moves tracker tracker
  | along {next : SubmissionState} (edge : SubmissionState.Edge tracker.state next) :
      Moves tracker { tracker with state := next }

theorem moves_advance (tracker : Tracker) {source target : SubmissionState}
    (edge : SubmissionState.Edge source target) : Moves tracker (tracker.advance source target) := by
  rw [advance]
  split
  · rename_i there
    exact .along (there ▸ edge)
  · exact .stays

theorem edge_of_verdict {outcome : Except Failure TransactionId} {state : SubmissionState}
    (verdict : verdict? outcome = some state) : SubmissionState.Edge .polling state := by
  cases outcome with
  | ok id =>
    cases verdict
    exact .succeeded
  | error failure =>
    cases failure <;> cases verdict
    · exact .givenUp
    · exact .refused
    · exact .failed

theorem moves_receive (tracker : Tracker) (signal : Signal) : Moves tracker (tracker.receive signal) := by
  cases signal with
  | submitted => exact tracker.moves_advance .sent
  | duplicate => exact tracker.moves_advance .known
  | polling => exact tracker.moves_advance .accepted
  | finished outcome =>
    rw [receive, finish]
    cases verdict : verdict? outcome with
    | none => exact .stays
    | some state => exact tracker.moves_advance (edge_of_verdict verdict)

/-- Where a tracker is after any signals: on its way along the graph, and still about its transaction. -/
theorem receive_all (tracker : Tracker) (signals : List Signal) :
    (signals.foldl receive tracker).id = tracker.id ∧
      Relation.ReflTransGen SubmissionState.Edge tracker.state (signals.foldl receive tracker).state := by
  induction signals generalizing tracker with
  | nil => exact ⟨rfl, .refl⟩
  | cons signal rest ih =>
    have first := tracker.moves_receive signal
    have later := ih (tracker.receive signal)
    rw [List.foldl_cons]
    generalize tracker.receive signal = moved at first later
    cases first with
    | stays => exact later
    | along edge => exact ⟨later.1, .head edge later.2⟩

/-- An end state is the last one. -/
theorem receive_all_of_isTerminal {tracker : Tracker} (ended : tracker.state.isTerminal)
    (signals : List Signal) : signals.foldl receive tracker = tracker := by
  obtain ⟨same, path⟩ := tracker.receive_all signals
  have stays : (signals.foldl receive tracker).state = tracker.state := by
    cases path.cases_head with
    | inl stays => exact stays.symm
    | inr moved =>
      obtain ⟨next, edge, -⟩ := moved
      exact absurd edge (SubmissionState.isTerminal_iff.mp ended next)
  generalize signals.foldl receive tracker = final at same stays
  cases final
  cases tracker
  exact congrArg₂ mk same stays

end Tracker

end LedgerWallet
