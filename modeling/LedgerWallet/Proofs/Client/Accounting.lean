import LedgerWallet.Proofs.Client.Calls
import LedgerWallet.Proofs.Client.Stages
import LedgerWallet.Proofs.Client.Submission
import LedgerWallet.Proofs.Metrics.Counters

/-! What the metrics of a client say about its calls. Each counter has something that is due to it: an
answer of the gateway, or a failure that a call returns. Every stage of every call counts what is due,
once, whoever answers what. -/
namespace LedgerWallet

variable {α : Type} {trace : List Exchange}

namespace Counter

/-- What the counters of the gateway should count: submissions that it took, those of them that it
knew before, queries, queries that failed, and final statuses. -/
def dueTo : Counter → Exchange → Bool
  | submitted, ⟨.submit _, .ok _⟩ => true
  | duplicates, ⟨.submit _, .ok duplicate⟩ => duplicate
  | polls, ⟨.status _, _⟩ => true
  | pollErrors, ⟨.status _, .error _⟩ => true
  | durations, ⟨.status _, .ok status⟩ => status.isTerminal
  | _, _ => false

/-- What the counters of failures should count. -/
def dueFor : Counter → Failure → Bool
  | failures category, failure => failure.category = category
  | _, _ => false

end Counter

/-- A run counted what was due: what the gateway told it and the failures that it returned. -/
def Accounted (trace : List Exchange) (failures : List Failure) : Prop :=
  ∀ counter : Counter, trace.countP counter.countedBy =
    trace.countP counter.dueTo + failures.countP counter.dueFor

theorem Accounted.append {after : List Exchange} {failures later : List Failure}
    (first : Accounted trace failures) (second : Accounted after later) :
    Accounted (trace ++ after) (failures ++ later) := by
  intro counter
  have early := first counter
  have late := second counter
  rw [List.countP_append, List.countP_append, List.countP_append, early, late]
  omega

/-- Nothing is due to a request that neither reaches the gateway nor counts. -/
def Request.isSilent : Request → Bool
  | submit _ | status _ | count _ => false
  | _ => true

theorem accounted_of_silent (silent : ∀ exchange ∈ trace, exchange.1.isSilent) :
    Accounted trace [] := by
  intro counter
  have uncounted : trace.countP counter.countedBy = 0 := by
    rw [List.countP_eq_zero]
    intro exchange member
    have quiet := silent exchange member
    obtain ⟨request, answer⟩ := exchange
    cases request <;> first | contradiction | exact Bool.false_ne_true
  have undue : trace.countP counter.dueTo = 0 := by
    rw [List.countP_eq_zero]
    intro exchange member
    have quiet := silent exchange member
    obtain ⟨request, answer⟩ := exchange
    cases request <;> first | contradiction | cases counter <;> exact Bool.false_ne_true
  rw [uncounted, undue]
  rfl

theorem Request.isSilent_of_toKeys {request : Request} (keys : request.toKeys) :
    request.isSilent := by
  cases request <;> first | rfl | contradiction

theorem Action.KeysOnly.accounted {action : Action α} (keys : action.KeysOnly)
    {result : Except Failure α} (run : action.Runs trace result) : Accounted trace [] := by
  obtain ⟨asked, -⟩ := keys.sound run
  exact accounted_of_silent fun exchange member => Request.isSilent_of_toKeys (asked exchange member)

theorem LedgerStatus.isTerminal_eq (id : TransactionId) (status : LedgerStatus) :
    status.isTerminal = (status.verdict? id).isSome := by
  cases status <;> rfl

namespace PollStrategy

variable {strategy : PollStrategy} {id : TransactionId} {started : Nat}

theorem accounted_query {failures : UInt32} {step : Step}
    (run : (strategy.query id started failures).Runs trace step) : Accounted trace [] := by
  obtain ⟨answer, rest, rfl, judged⟩ := query_runs.mp run
  intro counter
  cases judged with
  | @verdict status outcome settles now =>
    have terminal : status.isTerminal := by
      rw [status.isTerminal_eq id, settles]
      rfl
    cases counter <;> simp [List.countP_cons, Counter.countedBy, Counter.dueTo, Event.counter, terminal]
  | @undecided status unsettled =>
    have pending : status.isTerminal = false := by
      rw [status.isTerminal_eq id, unsettled]
      rfl
    cases counter <;> simp [List.countP_cons, Counter.countedBy, Counter.dueTo, Event.counter, pending]
  | failed e =>
    split <;> cases counter <;> rfl

theorem accounted_pollFor {tries : Nat} {failures : UInt32} {outcome : Except Failure TransactionId}
    (run : (strategy.pollFor id started tries failures).Runs trace outcome) : Accounted trace [] := by
  induction tries generalizing failures trace with
  | zero =>
    obtain ⟨rfl, -⟩ := Flow.runs_done.mp run
    exact accounted_of_silent nofun
  | succ tries ih =>
    obtain ⟨queried, step, rest, rfl, query, run⟩ := Flow.runs_bind.mp run
    have first := accounted_query query
    cases step with
    | settled outcome =>
      obtain ⟨rfl, -⟩ := Flow.runs_done.mp run
      rwa [List.append_nil]
    | undecided next =>
      refine first.append ?_
      dsimp only at run
      split at run
      · obtain ⟨_, later, rfl, slept⟩ := Flow.runs_request_bind.mp run
        have pause : Accounted [⟨.sleep strategy.pause, ()⟩] [] := accounted_of_silent (by simp; rfl)
        exact pause.append (ih slept)
      · exact ih run

theorem accounted_poll {outcome : Except Failure TransactionId}
    (run : (strategy.poll id).Runs trace outcome) : Accounted trace [] := by
  obtain ⟨started, rest, rfl, tried⟩ := Flow.runs_request_bind.mp run
  have timed : Accounted [⟨.clock, started⟩] [] := accounted_of_silent (by simp; rfl)
  exact timed.append (accounted_pollFor tried)

end PollStrategy

/-- The failure in a result, if there is one. -/
def failuresOf : Except Failure α → List Failure
  | .ok _ => []
  | .error failure => [failure]

theorem accounted_failureReport (result : Except Failure α) :
    Accounted (failureReport result) (failuresOf result) := by
  intro counter
  cases result with
  | ok value => rfl
  | error failure =>
    cases counter <;> simp [failureReport, failuresOf, Counter.countedBy, Counter.dueTo,
      Counter.dueFor, Event.counter]

namespace ClientConfig

variable {config : ClientConfig}

theorem accounted_header {settled : Settlement} {outcome : Except Failure Header}
    (run : settled.header.Runs trace outcome) : Accounted trace [] := by
  rcases freshHeader_runs.mp run with
    ⟨e, rfl, -⟩ | ⟨start, rfl, -⟩ | ⟨start, last, nonce, rfl, -⟩
  · exact accounted_of_silent (by simp [Request.isSilent])
  · exact accounted_of_silent (by simp [Request.isSilent])
  · exact accounted_of_silent (by simp [Request.isSilent])

theorem accounted_draft {manifest : Manifest} {options : SubmitOptions}
    {outcome : Except Failure (Settlement × Header)}
    (run : (config.draft manifest options).Runs trace outcome) : Accounted trace [] := by
  rcases draft_runs.mp run with
    ⟨failure, rfl, failed⟩ | ⟨before, settled, made, header, rfl, rfl, first, second⟩
  · exact walletOnly_settle.keysOnly.accounted failed
  · exact (walletOnly_settle.keysOnly.accounted first).append (accounted_header second)

/-- A preparation counts its failure. -/
theorem accounted_prepare {manifest : Manifest} {options : SubmitOptions}
    {result : Except Failure Prepared} (run : (config.prepare manifest options).Runs trace result) :
    Accounted trace (failuresOf result) := by
  obtain ⟨before, rfl, prepared⟩ := prepare_runs.mp run
  have built : Accounted before [] := by
    rcases prepared with
      ⟨drafting, settled, header, sealing, rfl, drafted, signed⟩ | ⟨failure, rfl, failed⟩
    · have late := (settled.signersOnly_sealWith options.message header).keysOnly.accounted signed
      exact (accounted_draft drafted).append late
    · exact accounted_draft failed
  exact built.append (accounted_failureReport result)

theorem accounted_pollTracked {tracker after : Tracker} {outcome : Except Failure TransactionId}
    (run : (config.pollTracked tracker).Runs trace (outcome, after)) : Accounted trace [] := by
  obtain ⟨polling, _, rest, rfl, polled, ended⟩ := Flow.runs_bind.mp run
  obtain ⟨rfl, -⟩ := Flow.runs_done.mp ended
  rw [List.append_nil]
  exact PollStrategy.accounted_poll polled

theorem accounted_submitTracked {prepared : Prepared} {after : Tracker}
    {outcome : Except Failure TransactionId}
    (run : (config.submitTracked prepared).Runs trace (outcome, after)) : Accounted trace [] := by
  obtain ⟨answer, rest, rfl, answered⟩ := Flow.runs_request_bind.mp run
  cases answer with
  | error e =>
    obtain ⟨rfl, -⟩ := Flow.runs_done.mp answered
    intro counter
    cases counter <;> rfl
  | ok duplicate =>
    obtain ⟨_, later, rfl, counted⟩ := Flow.runs_request_bind.mp answered
    cases duplicate with
    | true =>
      obtain ⟨_, _, rfl, reported⟩ := Flow.runs_request_bind.mp counted
      obtain ⟨rfl, -⟩ := Flow.runs_done.mp reported
      intro counter
      cases counter <;> rfl
    | false =>
      have taken : Accounted [⟨.submit (Hex.text prepared.payload), .ok false⟩,
          ⟨.count .submitted, ()⟩] [] := by
        intro counter
        cases counter <;> rfl
      exact taken.append (accounted_pollTracked counted)

theorem accounted_submit {prepared : Prepared} {result : Except Failure TransactionId}
    (run : (config.submit prepared).Runs trace result) : Accounted trace (failuresOf result) := by
  obtain ⟨before, after, rfl, tracked⟩ := conclude_runs.mp run
  exact (accounted_submitTracked tracked).append (accounted_failureReport result)

theorem accounted_resume {id : TransactionId} {result : Except Failure TransactionId}
    (run : (config.resume id).Runs trace result) : Accounted trace (failuresOf result) := by
  obtain ⟨before, after, rfl, tracked⟩ := conclude_runs.mp run
  exact (accounted_pollTracked tracked).append (accounted_failureReport result)

/-- A failure of either half is counted there and nowhere else. -/
theorem accounted_signAndSubmit {manifest : Manifest} {options : SubmitOptions}
    {result : Except Failure TransactionId}
    (run : (config.signAndSubmit manifest options).Runs trace result) :
    Accounted trace (failuresOf result) := by
  rcases Action.runs_bind.mp run with
    ⟨before, prepared, after, rfl, first, second⟩ | ⟨failure, rfl, failed⟩
  · exact (accounted_prepare first).append (accounted_submit second)
  · exact accounted_prepare failed

end ClientConfig

namespace Call

variable {config : ClientConfig}

theorem accounted_perform {call : Call} {result : Except Failure Result}
    (run : (call.perform config).Runs trace result) : Accounted trace (failuresOf result) := by
  have same {α : Type} (outcome : Except Failure α) (wrap : α → Result) :
      failuresOf (outcome.map wrap) = failuresOf outcome := by
    cases outcome <;> rfl
  cases call with
  | prepare manifest options =>
    obtain ⟨outcome, rfl, performed⟩ := Action.runs_map.mp run
    exact same outcome _ ▸ ClientConfig.accounted_prepare performed
  | submit prepared =>
    obtain ⟨outcome, rfl, performed⟩ := Action.runs_map.mp run
    exact same outcome _ ▸ ClientConfig.accounted_submit performed
  | signAndSubmit manifest options =>
    obtain ⟨outcome, rfl, performed⟩ := Action.runs_map.mp run
    exact same outcome _ ▸ ClientConfig.accounted_signAndSubmit performed
  | resume id =>
    obtain ⟨outcome, rfl, performed⟩ := Action.runs_map.mp run
    exact same outcome _ ▸ ClientConfig.accounted_resume performed

theorem accounted_performAll {calls : List Call} {results : List (Except Failure Result)}
    (run : (performAll config calls).Runs trace results) :
    Accounted trace (results.flatMap failuresOf) := by
  induction calls generalizing trace results with
  | nil =>
    obtain ⟨rfl, rfl⟩ := Flow.runs_done.mp run
    exact accounted_of_silent nofun
  | cons call rest ih =>
    obtain ⟨before, result, after, others, rfl, rfl, first, later⟩ := Flow.runs_mapM_cons.mp run
    rw [List.flatMap_cons]
    exact (accounted_perform first).append (ih later)

/-- After any calls, whatever everyone answered, the metrics show how many payloads the gateway took and
how many of them it knew before, how often it was asked for a status and did not tell it, how many of
the statuses were final, and how many calls returned a failure of each category. -/
theorem metrics_account (config : ClientConfig) (calls : List Call) {trace : List Exchange}
    {results : List (Except Failure Result)} (run : (performAll config calls).Runs trace results) :
    let metrics := Metrics.empty.after trace
    let failures := results.flatMap failuresOf
    metrics.submitted = trace.countP (Counter.dueTo .submitted) ∧
    metrics.duplicates = trace.countP (Counter.dueTo .duplicates) ∧
    metrics.polls = trace.countP (Counter.dueTo .polls) ∧
    metrics.pollErrors = trace.countP (Counter.dueTo .pollErrors) ∧
    metrics.durations.count = trace.countP (Counter.dueTo .durations) ∧
    ∀ category, metrics.failures.count category = failures.countP (·.category = category) := by
  intro metrics failures
  have shown (counter : Counter) : metrics.read counter =
      trace.countP counter.dueTo + failures.countP counter.dueFor := by
    have counted := Metrics.empty.read_after trace counter
    rw [Metrics.read_empty, accounted_performAll run, Nat.zero_add] at counted
    exact counted
  have onlyAnswers (counter : Counter) (gateway : ∀ failure, counter.dueFor failure = false) :
      metrics.read counter = trace.countP counter.dueTo := by
    have none : failures.countP counter.dueFor = 0 :=
      List.countP_eq_zero.mpr fun failure _ => by simp [gateway failure]
    rw [shown, none, Nat.add_zero]
  refine ⟨onlyAnswers .submitted fun _ => rfl, onlyAnswers .duplicates fun _ => rfl,
    onlyAnswers .polls fun _ => rfl, onlyAnswers .pollErrors fun _ => rfl,
    onlyAnswers .durations fun _ => rfl, fun category => ?_⟩
  have none : trace.countP (Counter.failures category).dueTo = 0 :=
    List.countP_eq_zero.mpr fun exchange _ => Bool.false_ne_true
  have counted := shown (.failures category)
  rw [none, Nat.zero_add] at counted
  exact counted

/-- A preparation for another network, and a submission that the gateway knew before. -/
theorem metrics_account_sample :
    let prepared := Prepared.sample
    let calls : List Call := [.prepare ⟨.mainnet, .instructions [], []⟩ .default, .submit prepared]
    ∃ trace results, (performAll .default calls).Runs trace results ∧
      (Metrics.empty.after trace).submitted = 1 ∧ (Metrics.empty.after trace).duplicates = 1 ∧
      (Metrics.empty.after trace).failures.count .wrongNetwork = 1 ∧
      (Metrics.empty.after trace).failures.count .duplicate = 1 := by
  intro prepared calls
  have required : (ClientConfig.requireNetwork .mainnet).Runs [⟨.network, .stokenet⟩]
      (.error (.wrongNetwork .stokenet .mainnet)) :=
    Action.runs_request_bind.mpr ⟨.stokenet, [], rfl, Action.runs_throw.mpr ⟨rfl, rfl⟩⟩
  have refused : (perform .default (.prepare ⟨.mainnet, .instructions [], []⟩ .default)).Runs _
      (.error (.wrongNetwork .stokenet .mainnet)) :=
    Action.runs_map.mpr ⟨.error _, rfl, Action.counted_runs.mpr
      ⟨_, rfl, Action.runs_bind.mpr (.inr ⟨_, rfl, required⟩)⟩⟩
  have tracked : (ClientConfig.default.submitTracked prepared).Runs _
      (.error (.duplicate prepared.id), _) :=
    Flow.runs_request_bind.mpr ⟨.ok true, _, rfl, Flow.runs_request_bind.mpr
      ⟨(), _, rfl, Flow.runs_request_bind.mpr ⟨(), _, rfl, .done _⟩⟩⟩
  have known : (perform .default (.submit prepared)).Runs _ (.error (.duplicate prepared.id)) :=
    Action.runs_map.mpr ⟨.error _, rfl, ClientConfig.conclude_runs.mpr ⟨_, _, rfl, tracked⟩⟩
  have run : (performAll .default calls).Runs _ _ :=
    Flow.runs_mapM_cons.mpr ⟨_, _, _, _, rfl, rfl, refused,
      Flow.runs_mapM_cons.mpr ⟨_, _, [], [], rfl, rfl, known, .done []⟩⟩
  obtain ⟨submitted, duplicates, -, -, -, failures⟩ := metrics_account .default calls run
  exact ⟨_, _, run, submitted, duplicates, failures .wrongNetwork, failures .duplicate⟩

end Call

end LedgerWallet
