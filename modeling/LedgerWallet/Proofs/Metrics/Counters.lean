import LedgerWallet.Metrics
import LedgerWallet.Proofs.Client.Trace

/-! The numbers that metrics keep. Each event is for one of them and leaves the others as they are, so
that they do not depend on the order of the events. -/
namespace LedgerWallet

/-- A number in the metrics. The sum of the durations is none: it is rounded as it grows. -/
inductive Counter where
  | submitted
  | duplicates
  | polls
  | pollErrors
  | failures (category : FailureCategory)
  | durations
deriving DecidableEq

/-- The counter that an event is for. -/
def Event.counter : Event → Counter
  | .submitted => .submitted
  | .duplicate => .duplicates
  | .polled => .polls
  | .pollFailed => .pollErrors
  | .failed category => .failures category
  | .settled _ => .durations

namespace Metrics

def read (metrics : Metrics) : Counter → Nat
  | .submitted => metrics.submitted
  | .duplicates => metrics.duplicates
  | .polls => metrics.polls
  | .pollErrors => metrics.pollErrors
  | .failures category => metrics.failures.count category
  | .durations => metrics.durations.count

theorem read_empty (counter : Counter) : empty.read counter = 0 := by
  cases counter <;> rfl

theorem read_record (metrics : Metrics) (event : Event) (counter : Counter) :
    (metrics.record event).read counter =
      metrics.read counter + if event.counter = counter then 1 else 0 := by
  cases event with
  | failed category =>
    cases counter with
    | failures other =>
      simp only [Event.counter, Counter.failures.injEq, @eq_comm _ category]
      exact metrics.failures.count_add category other
    | _ => rfl
  | _ => cases counter <;> rfl

/-- The metrics after an exchange, which may be the counting of an event. -/
def see (metrics : Metrics) : Exchange → Metrics
  | ⟨.count event, _⟩ => metrics.record event
  | _ => metrics

def after (metrics : Metrics) (trace : List Exchange) : Metrics := trace.foldl see metrics

end Metrics

/-- An exchange counts an event that is for the counter. -/
def Counter.countedBy (counter : Counter) : Exchange → Bool
  | ⟨.count event, _⟩ => event.counter = counter
  | _ => false

/-- A counter shows how often it was counted for, in whatever order that happened. -/
theorem Metrics.read_after (metrics : Metrics) (trace : List Exchange) (counter : Counter) :
    (metrics.after trace).read counter = metrics.read counter + trace.countP counter.countedBy := by
  induction trace generalizing metrics with
  | nil => rfl
  | cons exchange rest ih =>
    have seen : (metrics.see exchange).read counter =
        metrics.read counter + if counter.countedBy exchange then 1 else 0 := by
      obtain ⟨request, answer⟩ := exchange
      cases request with
      | count event =>
        have recorded := metrics.read_record event counter
        simpa only [see, Counter.countedBy, decide_eq_true_eq] using recorded
      | _ => rfl
    have later := ih (metrics.see exchange)
    rw [after, List.foldl_cons, ← after, later, seen, List.countP_cons]
    omega

end LedgerWallet
