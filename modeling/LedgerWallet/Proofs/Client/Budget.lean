import LedgerWallet.Proofs.Client.Accounting
import LedgerWallet.Proofs.Client.Interleaving

/-! How long polling goes on. The answers to its queries may be any sequence. The first verdict among
them and the number of tries alone decide how often it asks, how often it waits and what it comes to;
the count of failures in a row has a part in none of this, and never runs over. -/
namespace LedgerWallet

variable {α β : Type} {trace : List Exchange} {id : TransactionId}
  {outcome : Except Failure TransactionId}

theorem Flow.bind_congr_of_runs {flow : Flow α} {f g : α → Flow β}
    (same : ∀ trace value, flow.Runs trace value → f value = g value) :
    flow >>= f = flow >>= g := by
  induction flow with
  | done value => exact same [] value (.done value)
  | ask request next ih =>
    rw [Flow.ask_bind, Flow.ask_bind]
    congr 1
    funext answer
    exact ih answer fun trace value run => same _ value (.ask answer run)

/-- An answer after which nothing changes. -/
def IsVerdict (answer : StatusAnswer) : Prop :=
  ∃ status, answer = .ok status ∧ status.isTerminal = true

theorem verdictOf?_eq_none {answer : StatusAnswer} :
    verdictOf? id answer = none ↔ ¬ IsVerdict answer := by
  cases answer with
  | error e => simp [verdictOf?, IsVerdict]
  | ok status => simp [verdictOf?, IsVerdict, status.isTerminal_eq id]

theorem isVerdict_of_settled {answer : StatusAnswer}
    (settled : verdictOf? id answer = some outcome) : IsVerdict answer := by
  by_contra undecided
  rw [verdictOf?_eq_none.mpr undecided] at settled
  contradiction

namespace Script

variable {script : Script}

/-- What the gateway says of a transaction, one time after the other, is a sequence of answers. -/
def Reports (script : Script) (answers : Nat → StatusAnswer) : Prop :=
  ∀ before id, script before (.status id) = answers (gatewayCalls before).length

theorem Reports.answers_eq {answers : Nat → StatusAnswer} (reports : script.Reports answers)
    (follows : script.Follows trace) {list : List StatusAnswer}
    (asked : gatewayCalls trace = PollStrategy.statusCalls id list) :
    list = (List.range list.length).map answers := by
  apply List.ext_getElem (by rw [List.length_map, List.length_range])
  intro n inside _
  rw [List.getElem_map, List.getElem_range]
  have parts : gatewayCalls trace = PollStrategy.statusCalls id (list.take n) ++
      ⟨.status id, list[n]⟩ :: PollStrategy.statusCalls id (list.drop (n + 1)) := by
    calc gatewayCalls trace
        = PollStrategy.statusCalls id (list.take n ++ list[n] :: list.drop (n + 1)) := by
          rw [List.getElem_cons_drop, List.take_append_drop, asked]
      _ = _ := List.map_append
  obtain ⟨early, late, rfl, before, after⟩ := List.filter_eq_append_iff.mp parts
  obtain ⟨quiet, rest, rfl, silent, -, -⟩ := List.filter_eq_cons_iff.mp after
  have told := follows (early ++ quiet) ⟨.status id, list[n]⟩ rest (by rw [List.append_assoc])
  have none : gatewayCalls quiet = [] := List.filter_eq_nil_iff.mpr silent
  have count : (gatewayCalls (early ++ quiet)).length = n := by
    rw [gatewayCalls_append, none, List.append_nil, gatewayCalls, before,
      PollStrategy.statusCalls, List.length_map, List.length_take, Nat.min_eq_left (Nat.le_of_lt inside)]
  exact told.symm.trans ((reports _ id).trans (congrArg answers count))

end Script

namespace PollStrategy

variable {strategy : PollStrategy} {started : Nat}

/-- Where a sequence settles polling: at its first verdict, or nowhere within the tries. -/
theorem Settles.position {tries count : Nat} {answers : Nat → StatusAnswer}
    (settles : Settles id tries ((List.range count).map answers) outcome) :
    (∃ n < tries, count = n + 1 ∧ (∀ m < n, ¬ IsVerdict (answers m)) ∧
      verdictOf? id (answers n) = some outcome) ∨
    (count = tries ∧ (∀ m < tries, ¬ IsVerdict (answers m)) ∧
      outcome = .error (.pollTimeout id)) := by
  induction tries generalizing count answers with
  | zero =>
    generalize same : (List.range count).map answers = list at settles
    cases settles
    simp only [List.map_eq_nil_iff, List.range_eq_nil] at same
    exact .inr ⟨same, nofun, rfl⟩
  | succ tries ih =>
    cases count with
    | zero => nomatch settles
    | succ count =>
      rw [List.range_succ_eq_map, List.map_cons, List.map_map] at settles
      generalize same : (List.range count).map (answers ∘ Nat.succ) = rest at settles
      cases settles with
      | verdict settled =>
        simp only [List.map_eq_nil_iff, List.range_eq_nil] at same
        exact .inl ⟨0, Nat.zero_lt_succ _, by rw [same], nofun, settled⟩
      | undecided unsettled settles =>
        have first := verdictOf?_eq_none.mp unsettled
        have all {bound : Nat} (others : ∀ m < bound, ¬ IsVerdict (answers (m + 1))) :
            ∀ m < bound + 1, ¬ IsVerdict (answers m) := by
          intro m inside
          cases m with
          | zero => exact first
          | succ m => exact others m (Nat.lt_of_succ_lt_succ inside)
        rw [← same] at settles
        rcases ih settles with ⟨n, inside, rfl, others, settled⟩ | ⟨rfl, others, rfl⟩
        · exact .inl ⟨n + 1, Nat.succ_lt_succ inside, rfl, all others, settled⟩
        · exact .inr ⟨rfl, all others, rfl⟩

/-- A run that made so many queries, one after the other and with the configured delay between each
two of them, and was given the first answers of the sequence. -/
structure Polled (strategy : PollStrategy) (id : TransactionId) (answers : Nat → StatusAnswer)
    (queries : Nat) (trace : List Exchange) : Prop where
  order : paced trace = strategy.spaced id ((List.range queries).map answers)
  calls : gatewayCalls trace = statusCalls id ((List.range queries).map answers)
  pauses : pausesIn trace = List.replicate (queries - 1) ⟨.sleep strategy.delay.toNat, ()⟩

theorem polled_of_order {answers : Nat → StatusAnswer} {queries : Nat}
    (order : paced trace = strategy.spaced id ((List.range queries).map answers)) :
    strategy.Polled id answers queries trace where
  order := order
  calls := by rw [← gatewayCalls_paced, order, gatewayCalls_spaced]
  pauses := by
    rw [← pausesIn_paced, order, pausesIn_spaced, List.length_map, List.length_range]
    rfl

/-- The loop with a watched counter: there is no outcome if a query begins while there is no room for
one more failure. -/
def watchedFor (strategy : PollStrategy) (id : TransactionId) (started : Nat) :
    (tries : Nat) → (failures : UInt32) → Flow (Option (Except Failure TransactionId))
  | 0, _ => return some (.error (.pollTimeout id))
  | tries + 1, failures => do
    if UInt32.size ≤ failures.toNat + 1 then return none
    match ← strategy.query id started failures with
    | .settled outcome => return some outcome
    | .undecided failures =>
      if tries ≠ 0 then Flow.request (.sleep strategy.pause)
      strategy.watchedFor id started tries failures

def watched (strategy : PollStrategy) (id : TransactionId) :
    Flow (Option (Except Failure TransactionId)) := do
  let started ← Flow.request .clock
  strategy.watchedFor id started strategy.maxTries.toNat 0

/-- A query adds at most one to the failures in a row. -/
theorem failures_le {failures next : UInt32}
    (run : (strategy.query id started failures).Runs trace (.undecided next)) :
    next.toNat ≤ failures.toNat + 1 := by
  obtain ⟨answer, rest, -, judged⟩ := query_runs.mp run
  cases judged with
  | undecided => exact Nat.zero_le _
  | failed e =>
    rw [UInt32.toNat_add]
    exact Nat.mod_le _ _

/-- The failures in a row and the tries that are left make up no more than the tries there were. -/
theorem watchedFor_eq {tries : Nat} {failures : UInt32}
    (room : failures.toNat + tries < UInt32.size) :
    strategy.watchedFor id started tries failures =
      some <$> strategy.pollFor id started tries failures := by
  induction tries generalizing failures with
  | zero => rfl
  | succ tries ih =>
    have space : ¬ UInt32.size ≤ failures.toNat + 1 := by omega
    rw [watchedFor, pollFor, if_neg space, map_bind]
    refine Flow.bind_congr_of_runs fun trace step run => ?_
    cases step with
    | settled outcome => rfl
    | undecided next =>
      have grown := failures_le run
      dsimp only
      split
      · rw [map_bind]
        exact congrArg _ (funext fun _ => ih (by omega))
      · exact ih (by omega)

theorem watched_eq (strategy : PollStrategy) (id : TransactionId) :
    strategy.watched id = some <$> strategy.poll id := by
  rw [watched, poll, map_bind]
  refine congrArg _ (funext fun started => watchedFor_eq ?_)
  have bound := strategy.maxTries.toNat_lt
  rw [UInt32.toNat_zero, Nat.zero_add]
  exact bound

/-- Whatever the gateway answers, polling stops at the first verdict, or when the tries are used up.
`n` answers before a verdict take `n + 1` queries and `n` pauses, if there are as many tries; otherwise
there are as many queries as tries and one pause less. Before a query there is always room for one
more failure in the count of failures in a row. -/
theorem poll_exact (strategy : PollStrategy) (id : TransactionId) (answers : Nat → StatusAnswer)
    (script : Script) (reports : script.Reports answers) :
    (∃ outcome trace, (strategy.poll id).run script.answer [] = (outcome, trace) ∧
      (∀ n status, n < strategy.maxTries.toNat → (∀ m < n, ¬ IsVerdict (answers m)) →
        answers n = .ok status → status.isTerminal = true →
          strategy.Polled id answers (n + 1) trace ∧
          (status = .committedSuccess → outcome = .ok id) ∧
          (status = .committedFailure → outcome = .error (.committedFailure id)) ∧
          (status = .rejected → outcome = .error (.rejected id))) ∧
      ((∀ m < strategy.maxTries.toNat, ¬ IsVerdict (answers m)) →
        strategy.Polled id answers strategy.maxTries.toNat trace ∧
          outcome = .error (.pollTimeout id))) ∧
    strategy.watched id = some <$> strategy.poll id := by
  refine ⟨?_, strategy.watched_eq id⟩
  obtain ⟨⟨outcome, trace⟩, ran⟩ : ∃ end_, (strategy.poll id).run script.answer [] = end_ := ⟨_, rfl⟩
  obtain ⟨run, follows⟩ := Script.run_eq_iff.mp ran
  obtain ⟨list, order, settles⟩ := poll_spaced run
  have asked : gatewayCalls trace = statusCalls id list := by
    rw [← gatewayCalls_paced, order, gatewayCalls_spaced]
  rw [reports.answers_eq follows asked] at order settles
  have polled := polled_of_order order
  refine ⟨outcome, trace, ran, ?_, ?_⟩
  · intro n status inside early answered terminal
    have verdict : IsVerdict (answers n) := ⟨status, answered, terminal⟩
    rcases settles.position with ⟨m, -, count, others, settled⟩ | ⟨-, none, -⟩
    · obtain rfl : m = n := by
        rcases Nat.lt_trichotomy m n with before | same | after
        · exact absurd (isVerdict_of_settled settled) (early m before)
        · exact same
        · exact absurd verdict (others n after)
      rw [count] at polled
      rw [answered] at settled
      refine ⟨polled, ?_, ?_, ?_⟩
      · rintro rfl
        exact (Option.some.inj settled).symm
      · rintro rfl
        exact (Option.some.inj settled).symm
      · rintro rfl
        exact (Option.some.inj settled).symm
    · exact absurd verdict (none n inside)
  · intro none
    rcases settles.position with ⟨m, inside, -, -, settled⟩ | ⟨count, -, timedOut⟩
    · exact absurd (isVerdict_of_settled settled) (none m inside)
    · rw [count] at polled
      exact ⟨polled, timedOut⟩

/-- Reports a sequence of answers, while the clock stands still. -/
def reporter (answers : Nat → StatusAnswer) : Script := fun before request =>
  match request with
  | .network => .mainnet
  | .accounts => []
  | .signers _ _ => []
  | .sign _ _ => .error (.unavailable "no signer")
  | .epoch => .error (.transport "no ledger")
  | .nonce => 0
  | .submit _ => .ok false
  | .status _ => answers (gatewayCalls before).length
  | .sleep _ => ()
  | .clock => 0
  | .count _ => ()
  | .warn _ _ => ()

theorem reporter_reports (answers : Nat → StatusAnswer) : (reporter answers).Reports answers :=
  fun _ _ => rfl

/-- A failed query, a pending transaction and a rejection, with no try to spare. -/
theorem poll_exact_sample :
    let strategy : PollStrategy := ⟨3, 5, 0⟩
    let id := TransactionId.ofCompiled []
    let answers : Nat → StatusAnswer
      | 0 => .error (.transport "down")
      | 1 => .ok .pending
      | _ => .ok .rejected
    (reporter answers).Reports answers ∧
    ∃ trace, (strategy.poll id).run (reporter answers).answer [] = (.error (.rejected id), trace) ∧
      strategy.Polled id answers 3 trace := by
  intro strategy id answers
  have reports := reporter_reports answers
  obtain ⟨⟨outcome, trace, ran, settled, -⟩, -⟩ :=
    poll_exact strategy id answers (reporter answers) reports
  have early : ∀ m < 2, ¬ IsVerdict (answers m) := by
    rintro m inside ⟨status, answered, terminal⟩
    match m, inside with
    | 0, _ => nomatch answered
    | 1, _ =>
      cases answered
      contradiction
  obtain ⟨polled, -, -, rejected⟩ := settled 2 .rejected (by decide) early rfl rfl
  rw [rejected rfl] at ran
  exact ⟨reports, trace, ran, polled⟩

end PollStrategy

end LedgerWallet
