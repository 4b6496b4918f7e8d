import LedgerWallet.Client.Submit
import LedgerWallet.Proofs.Client.Requests

/-! What polling asks and where it stops. One query is described by what it is answered, and a whole
poll by the list of the answers to its queries. -/
namespace LedgerWallet

/-- What a query is answered. -/
abbrev StatusAnswer := Except GatewayError LedgerStatus

/-- What an answer settles. A query that failed settles nothing. -/
def verdictOf? (id : TransactionId) : StatusAnswer → Option (Except Failure TransactionId)
  | .ok status => status.verdict? id
  | .error _ => none

theorem LedgerStatus.verdict?_eq_some {id : TransactionId} {status : LedgerStatus}
    {outcome : Except Failure TransactionId} : status.verdict? id = some outcome ↔
      (status = .committedSuccess ∧ outcome = .ok id) ∨
      (status = .committedFailure ∧ outcome = .error (.committedFailure id)) ∨
      (status = .rejected ∧ outcome = .error (.rejected id)) := by
  cases status <;> simp [verdict?, eq_comm]

def Request.isSleep : Request → Bool
  | sleep _ => true
  | _ => false

/-- The pauses in a run. -/
def pausesIn (trace : List Exchange) : List Exchange := trace.filter (·.1.isSleep)

/-- The calls to the gateway and the pauses, in the order in which they were made. -/
def paced (trace : List Exchange) : List Exchange :=
  trace.filter fun exchange => exchange.1.toGateway || exchange.1.isSleep

theorem paced_append (before after : List Exchange) :
    paced (before ++ after) = paced before ++ paced after :=
  List.filter_append before after

theorem gatewayCalls_paced (trace : List Exchange) :
    gatewayCalls (paced trace) = gatewayCalls trace := by
  rw [gatewayCalls, paced, List.filter_filter]
  exact List.filter_congr fun exchange _ => by cases exchange.1.toGateway <;> rfl

theorem pausesIn_paced (trace : List Exchange) : pausesIn (paced trace) = pausesIn trace := by
  rw [pausesIn, paced, List.filter_filter]
  exact List.filter_congr fun exchange _ => by cases exchange.1.isSleep <;> simp

namespace PollStrategy

variable {strategy : PollStrategy} {id : TransactionId} {started : Nat}

/-- What follows the answer to a query, and what the query comes to. -/
inductive Judged (strategy : PollStrategy) (id : TransactionId) (started : Nat) (failures : UInt32) :
    StatusAnswer → List Exchange → Step → Prop
  | verdict {status : LedgerStatus} {outcome : Except Failure TransactionId}
      (settles : status.verdict? id = some outcome) (now : Nat) :
      Judged strategy id started failures (.ok status)
        [⟨.clock, now⟩, ⟨.count (.settled (now - started)), ()⟩] (.settled outcome)
  | undecided {status : LedgerStatus} (unsettled : status.verdict? id = none) :
      Judged strategy id started failures (.ok status) [] (.undecided 0)
  | failed (e : GatewayError) :
      Judged strategy id started failures (.error e)
        (⟨.count .pollFailed, ()⟩ ::
          if strategy.maxFailures ≤ failures + 1 then [⟨.warn id (failures + 1), ()⟩] else [])
        (.undecided (failures + 1))

theorem query_runs {failures : UInt32} {trace : List Exchange} {step : Step} :
    (strategy.query id started failures).Runs trace step ↔ ∃ answer rest,
      trace = ⟨.count .polled, ()⟩ :: ⟨.status id, answer⟩ :: rest ∧
        Judged strategy id started failures answer rest step := by
  have warned (next : UInt32) {rest : List Exchange} : (do
      if strategy.maxFailures ≤ next then Flow.request (.warn id next)
      return Step.undecided next).Runs rest step ↔ step = .undecided next ∧
        rest = if strategy.maxFailures ≤ next then [⟨.warn id next, ()⟩] else [] := by
    split
    · rw [Flow.runs_request_bind]
      constructor
      · rintro ⟨_, after, rfl, run⟩
        obtain ⟨rfl, rfl⟩ := Flow.runs_done.mp run
        exact ⟨rfl, rfl⟩
      · rintro ⟨rfl, rfl⟩
        exact ⟨(), [], rfl, Flow.runs_done.mpr ⟨rfl, rfl⟩⟩
    · exact Flow.runs_done.trans And.comm
  rw [query]
  constructor
  · intro run
    obtain ⟨_, _, rfl, counted⟩ := Flow.runs_request_bind.mp run
    obtain ⟨answer, rest, rfl, answered⟩ := Flow.runs_request_bind.mp counted
    refine ⟨answer, rest, rfl, ?_⟩
    cases answer with
    | error e =>
      obtain ⟨_, after, rfl, reported⟩ := Flow.runs_request_bind.mp answered
      obtain ⟨rfl, rfl⟩ := (warned (failures + 1)).mp reported
      exact .failed e
    | ok status =>
      cases settles : status.verdict? id with
      | none =>
        simp only [settles] at answered
        obtain ⟨rfl, rfl⟩ := Flow.runs_done.mp answered
        exact .undecided settles
      | some outcome =>
        simp only [settles] at answered
        obtain ⟨now, _, rfl, timed⟩ := Flow.runs_request_bind.mp answered
        obtain ⟨_, _, rfl, reported⟩ := Flow.runs_request_bind.mp timed
        obtain ⟨rfl, rfl⟩ := Flow.runs_done.mp reported
        exact .verdict settles now
  · rintro ⟨answer, rest, rfl, judged⟩
    refine Flow.runs_request_bind.mpr ⟨(), _, rfl, ?_⟩
    refine Flow.runs_request_bind.mpr ⟨answer, rest, rfl, ?_⟩
    cases judged with
    | verdict settles now =>
      simp only [settles]
      refine Flow.runs_request_bind.mpr ⟨now, _, rfl, ?_⟩
      exact Flow.runs_request_bind.mpr ⟨(), [], rfl, .done _⟩
    | undecided settles =>
      simp only [settles]
      exact .done _
    | failed e =>
      exact Flow.runs_request_bind.mpr ⟨(), _, rfl, (warned (failures + 1)).mpr ⟨rfl, rfl⟩⟩

/-- A query asks the gateway once and never waits. It settles what its answer does. -/
theorem query_asks {failures : UInt32} {trace : List Exchange} {step : Step}
    (run : (strategy.query id started failures).Runs trace step) : ∃ answer,
      paced trace = [⟨.status id, answer⟩] ∧
      ((∃ outcome, verdictOf? id answer = some outcome ∧ step = .settled outcome) ∨
        verdictOf? id answer = none ∧ ∃ next, step = .undecided next) := by
  obtain ⟨answer, rest, rfl, judged⟩ := query_runs.mp run
  refine ⟨answer, ?_, ?_⟩
  · have silent : paced rest = [] := by
      cases judged with
      | verdict => rfl
      | undecided => rfl
      | failed e => split <;> rfl
    exact congrArg (List.cons _) silent
  · cases judged with
    | verdict settles now => exact .inl ⟨_, settles, rfl⟩
    | undecided unsettled => exact .inr ⟨unsettled, 0, rfl⟩
    | failed e => exact .inr ⟨rfl, _, rfl⟩

/-- Where polling stops: at the first verdict among the answers, or when the tries are used up. -/
inductive Settles (id : TransactionId) :
    Nat → List StatusAnswer → Except Failure TransactionId → Prop
  | exhausted : Settles id 0 [] (.error (.pollTimeout id))
  | verdict {tries : Nat} {answer : StatusAnswer} {outcome : Except Failure TransactionId}
      (settled : verdictOf? id answer = some outcome) : Settles id (tries + 1) [answer] outcome
  | undecided {tries : Nat} {answer : StatusAnswer} {rest : List StatusAnswer}
      {outcome : Except Failure TransactionId} (unsettled : verdictOf? id answer = none)
      (settles : Settles id tries rest outcome) : Settles id (tries + 1) (answer :: rest) outcome

namespace Settles

variable {tries : Nat} {answers : List StatusAnswer} {outcome : Except Failure TransactionId}

theorem length_le (settles : Settles id tries answers outcome) : answers.length ≤ tries := by
  induction settles with
  | exhausted => exact Nat.le_refl 0
  | verdict => exact Nat.succ_le_succ (Nat.zero_le _)
  | undecided _ _ ih => exact Nat.succ_le_succ ih

theorem ne_nil (settles : Settles id tries answers outcome) (some : tries ≠ 0) : answers ≠ [] := by
  cases settles with
  | exhausted => contradiction
  | verdict => exact List.cons_ne_nil _ _
  | undecided => exact List.cons_ne_nil _ _

/-- Only a committed success, as the last answer, ends polling well. -/
theorem of_ok (settles : Settles id tries answers outcome) {other : TransactionId}
    (ended : outcome = .ok other) :
    other = id ∧ answers.getLast? = some (.ok .committedSuccess) := by
  induction settles with
  | exhausted => contradiction
  | @verdict _ answer _ settled =>
    subst ended
    cases answer with
    | error e => contradiction
    | ok status =>
      rcases LedgerStatus.verdict?_eq_some.mp settled with
        ⟨rfl, same⟩ | ⟨-, same⟩ | ⟨-, same⟩
      · cases same
        exact ⟨rfl, rfl⟩
      · contradiction
      · contradiction
  | undecided _ settles ih =>
    obtain ⟨same, last⟩ := ih ended
    refine ⟨same, ?_⟩
    rw [List.getLast?_cons, last]
    rfl

theorem of_error (settles : Settles id tries answers outcome) {failure : Failure}
    (ended : outcome = .error failure) : failure.id? = some id := by
  induction settles with
  | exhausted =>
    cases ended
    rfl
  | @verdict _ answer _ settled =>
    subst ended
    cases answer with
    | error e => contradiction
    | ok status =>
      rcases LedgerStatus.verdict?_eq_some.mp settled with
        ⟨-, same⟩ | ⟨-, same⟩ | ⟨-, same⟩ <;> cases same <;> rfl
  | undecided _ _ ih => exact ih ended

/-- There are four ways for polling to end. -/
theorem outcome_cases (settles : Settles id tries answers outcome) :
    outcome = .ok id ∨ outcome = .error (.committedFailure id) ∨ outcome = .error (.rejected id) ∨
      outcome = .error (.pollTimeout id) := by
  induction settles with
  | exhausted => exact .inr (.inr (.inr rfl))
  | @verdict _ answer _ settled =>
    cases answer with
    | error e => contradiction
    | ok status =>
      rcases LedgerStatus.verdict?_eq_some.mp settled with ⟨-, rfl⟩ | ⟨-, rfl⟩ | ⟨-, rfl⟩
      · exact .inl rfl
      · exact .inr (.inl rfl)
      · exact .inr (.inr (.inl rfl))
  | undecided _ _ ih => exact ih

end Settles

/-- The queries for a status, with their answers. -/
def statusCalls (id : TransactionId) (answers : List StatusAnswer) : List Exchange :=
  answers.map fun answer => ⟨.status id, answer⟩

/-- Queries with a pause between each two of them. -/
def spaced (strategy : PollStrategy) (id : TransactionId) (answers : List StatusAnswer) :
    List Exchange :=
  (statusCalls id answers).intersperse ⟨.sleep strategy.pause, ()⟩

theorem spaced_cons {answer : StatusAnswer} {answers : List StatusAnswer} (more : answers ≠ []) :
    strategy.spaced id (answer :: answers) =
      ⟨.status id, answer⟩ :: ⟨.sleep strategy.pause, ()⟩ :: strategy.spaced id answers := by
  obtain ⟨next, rest, rfl⟩ := List.exists_cons_of_ne_nil more
  rfl

theorem gatewayCalls_spaced (answers : List StatusAnswer) :
    gatewayCalls (strategy.spaced id answers) = statusCalls id answers := by
  induction answers with
  | nil => rfl
  | cons answer rest ih =>
    cases rest with
    | nil => rfl
    | cons next rest =>
      rw [spaced_cons (List.cons_ne_nil next rest)]
      exact congrArg (List.cons _) ih

/-- There is one pause less than there are queries. -/
theorem pausesIn_spaced (answers : List StatusAnswer) :
    pausesIn (strategy.spaced id answers) =
      List.replicate (answers.length - 1) ⟨.sleep strategy.pause, ()⟩ := by
  induction answers with
  | nil => rfl
  | cons answer rest ih =>
    cases rest with
    | nil => rfl
    | cons next rest =>
      rw [spaced_cons (List.cons_ne_nil next rest)]
      exact congrArg (List.cons _) ih

/-- No pause follows the last try. -/
theorem pollFor_spaced {tries : Nat} {failures : UInt32} {trace : List Exchange}
    {outcome : Except Failure TransactionId}
    (run : (strategy.pollFor id started tries failures).Runs trace outcome) : ∃ answers,
      paced trace = strategy.spaced id answers ∧ Settles id tries answers outcome := by
  induction tries generalizing failures trace with
  | zero =>
    obtain ⟨rfl, rfl⟩ := Flow.runs_done.mp run
    exact ⟨[], rfl, .exhausted⟩
  | succ tries ih =>
    obtain ⟨queried, step, rest, rfl, query, run⟩ := Flow.runs_bind.mp run
    obtain ⟨answer, asked, ⟨outcome, settled, rfl⟩ | ⟨unsettled, next, rfl⟩⟩ := query_asks query
    · obtain ⟨rfl, rfl⟩ := Flow.runs_done.mp run
      exact ⟨[answer], by rw [List.append_nil, asked]; rfl, .verdict settled⟩
    · dsimp only at run
      split at run
      · rename_i more
        obtain ⟨_, later, rfl, slept⟩ := Flow.runs_request_bind.mp run
        obtain ⟨answers, others, settles⟩ := ih slept
        refine ⟨answer :: answers, ?_, .undecided unsettled settles⟩
        rw [paced_append, asked, spaced_cons (settles.ne_nil more), ← others]
        rfl
      · rename_i last
        obtain rfl : tries = 0 := Decidable.not_not.mp last
        obtain ⟨rfl, rfl⟩ := Flow.runs_done.mp run
        exact ⟨[answer], by rw [List.append_nil, asked]; rfl, .undecided unsettled .exhausted⟩

theorem poll_spaced {trace : List Exchange} {outcome : Except Failure TransactionId}
    (run : (strategy.poll id).Runs trace outcome) : ∃ answers,
      paced trace = strategy.spaced id answers ∧
        Settles id strategy.maxTries.toNat answers outcome := by
  obtain ⟨started, rest, rfl, tried⟩ := Flow.runs_request_bind.mp run
  obtain ⟨answers, asked, settles⟩ := pollFor_spaced tried
  exact ⟨answers, asked, settles⟩

theorem poll_settles {trace : List Exchange} {outcome : Except Failure TransactionId}
    (run : (strategy.poll id).Runs trace outcome) : ∃ answers,
      gatewayCalls trace = statusCalls id answers ∧
        Settles id strategy.maxTries.toNat answers outcome := by
  obtain ⟨answers, asked, settles⟩ := poll_spaced run
  refine ⟨answers, ?_, settles⟩
  rw [← gatewayCalls_paced, asked, gatewayCalls_spaced]

end PollStrategy

end LedgerWallet
