import LedgerWallet.Proofs.Client.Submission
import LedgerWallet.Proofs.Gateway.Lifecycle

/-! The tracker of a submission stays in step with its result. The flow of a client and the guards of
the tracker are two accounts of one submission, and they agree when it returns, whatever the gateway
answered. -/
namespace LedgerWallet

variable {trace : List Exchange} {result : Except Failure TransactionId}

/-- The transaction that a result names. -/
def namedBy : Except Failure TransactionId → Option TransactionId
  | .ok id => some id
  | .error failure => failure.id?

namespace Tracker

/-- A tracker stands where the result of its flow belongs, and the result names no other
transaction. -/
structure Reflects (tracker : Tracker) (result : Except Failure TransactionId) : Prop where
  duplicate : tracker.state = .duplicate ↔ result = .error (.duplicate tracker.id)
  committedSuccess : tracker.state = .committedSuccess ↔ result = .ok tracker.id
  committedFailure :
    tracker.state = .committedFailure ↔ result = .error (.committedFailure tracker.id)
  rejected : tracker.state = .rejected ↔ result = .error (.rejected tracker.id)
  pollTimeout : tracker.state = .pollTimeout ↔ result = .error (.pollTimeout tracker.id)
  settled : tracker.state ≠ .submitted ∧ tracker.state ≠ .polling
  own : ∀ id, namedBy result = some id → id = tracker.id

/-- A verdict on a transaction ends its tracker where the verdict belongs. -/
theorem reflects_verdict {id : TransactionId} {state : SubmissionState}
    (verdict : verdict? result = some state) (named : namedBy result = some id) :
    Reflects ⟨id, state⟩ result := by
  have own : ∀ other, namedBy result = some other → other = id := by
    intro other also
    exact Option.some.inj (also.symm.trans named)
  cases result with
  | ok other =>
    cases verdict
    cases named
    constructor <;> simp [namedBy]
  | error failure =>
    cases failure <;> cases verdict <;> cases named
    all_goals constructor <;> simp [namedBy, Failure.id?]

end Tracker

namespace ClientConfig

variable {config : ClientConfig}

/-- Polling moves the tracker of a submitted transaction to where the outcome belongs. -/
theorem pollTracked_reflects {id : TransactionId} {tracker : Tracker}
    (run : (config.pollTracked ⟨id, .submitted⟩).Runs trace (result, tracker)) :
    tracker.id = id ∧ tracker.Reflects result ∧ tracker.state ≠ .built ∧
      tracker.state ≠ .duplicate := by
  obtain ⟨polling, outcome, rest, rfl, polled, ended⟩ := Flow.runs_bind.mp run
  obtain ⟨rfl, same⟩ := Flow.runs_done.mp ended
  cases same
  obtain ⟨answers, -, settles⟩ := PollStrategy.poll_settles polled
  have named : Tracker.markPolling ⟨id, .submitted⟩ = ⟨id, .polling⟩ := rfl
  rw [named] at settles ⊢
  rcases settles.outcome_cases with rfl | rfl | rfl | rfl
  · exact ⟨rfl, Tracker.reflects_verdict rfl rfl, nofun, nofun⟩
  · exact ⟨rfl, Tracker.reflects_verdict rfl rfl, nofun, nofun⟩
  · exact ⟨rfl, Tracker.reflects_verdict rfl rfl, nofun, nofun⟩
  · exact ⟨rfl, Tracker.reflects_verdict rfl rfl, nofun, nofun⟩

/-- A query for a status is no submission. -/
theorem not_submit_of_pollTracked {tracker after : Tracker}
    (run : (config.pollTracked tracker).Runs trace (result, after)) (payload : String)
    (answer : Except GatewayError Bool) : ⟨.submit payload, answer⟩ ∉ trace := by
  obtain ⟨answers, asked, -⟩ := pollTracked_runs run
  intro member
  have seen : ⟨.submit payload, answer⟩ ∈ gatewayCalls trace := List.mem_filter.mpr ⟨member, rfl⟩
  rw [asked, PollStrategy.statusCalls] at seen
  obtain ⟨status, -, same⟩ := List.mem_map.mp seen
  cases same

/-- The tracker stays where it began exactly when the gateway did not take the payload. -/
theorem submitTracked_reflects {prepared : Prepared} {tracker : Tracker}
    (run : (config.submitTracked prepared).Runs trace (result, tracker)) :
    tracker.id = prepared.id ∧ tracker.Reflects result ∧ (tracker.state = .built ↔
      ∃ e, ⟨.submit (Hex.text prepared.payload), .error e⟩ ∈ trace) := by
  obtain ⟨answer, rest, rfl, answered⟩ := Flow.runs_request_bind.mp run
  cases answer with
  | error e =>
    obtain ⟨rfl, same⟩ := Flow.runs_done.mp answered
    cases same
    refine ⟨rfl, ?_, iff_of_true rfl ⟨e, List.mem_cons_self⟩⟩
    constructor <;> simp [Tracker.new, namedBy, Failure.id?]
  | ok duplicate =>
    obtain ⟨_, later, rfl, counted⟩ := Flow.runs_request_bind.mp answered
    cases duplicate with
    | true =>
      obtain ⟨_, _, rfl, reported⟩ := Flow.runs_request_bind.mp counted
      obtain ⟨rfl, same⟩ := Flow.runs_done.mp reported
      cases same
      refine ⟨rfl, ?_, iff_of_false nofun ?_⟩
      · constructor <;> simp [Tracker.new, Tracker.markSubmitted, Tracker.markDuplicate, Tracker.advance,
          namedBy, Failure.id?]
      · simp
    | false =>
      obtain ⟨same, reflects, moved, -⟩ := pollTracked_reflects counted
      refine ⟨same, reflects, iff_of_false moved ?_⟩
      rintro ⟨e, member⟩
      have asked : ⟨.submit (Hex.text prepared.payload), .error e⟩ ∈ later := by simpa using member
      exact not_submit_of_pollTracked counted _ _ asked

/-- A submission returns with the result of its tracked flow, whose tracker is in the state of that
result, and in the first state exactly when the gateway did not take the payload. A resumed one is the
same from the second state on. The tracker owes that to its guards: no signals, in whatever order, move
it off the graph, away from an end state or over to another transaction. -/
theorem tracker_in_step (config : ClientConfig) :
    (∀ prepared trace result, (config.submit prepared).Runs trace result → ∃ before tracker,
      before <+: trace ∧ (config.submitTracked prepared).Runs before (result, tracker)) ∧
    (∀ prepared trace result tracker,
      (config.submitTracked prepared).Runs trace (result, tracker) →
        tracker.id = prepared.id ∧ tracker.Reflects result ∧ (tracker.state = .built ↔
          ∃ e, ⟨.submit (Hex.text prepared.payload), .error e⟩ ∈ trace)) ∧
    (∀ id trace result, (config.resume id).Runs trace result → ∃ before tracker,
      before <+: trace ∧ (config.pollTracked (.resumed id)).Runs before (result, tracker)) ∧
    (∀ id trace result tracker,
      (config.pollTracked (.resumed id)).Runs trace (result, tracker) →
        tracker.id = id ∧ tracker.Reflects result ∧ tracker.state ≠ .built ∧
          tracker.state ≠ .duplicate) ∧
    ∀ (tracker : Tracker) (signals : List Tracker.Signal),
      let after := signals.foldl Tracker.receive tracker
      after.id = tracker.id ∧ (tracker.state.isTerminal → after = tracker) ∧
        Relation.ReflTransGen SubmissionState.Edge tracker.state after.state ∧
        ∀ signal, after.Moves (after.receive signal) := by
  have concluded (flow : Flow (Except Failure TransactionId × Tracker)) (trace : List Exchange)
      (result : Except Failure TransactionId) (run : (conclude flow).Runs trace result) :
      ∃ before tracker, before <+: trace ∧ flow.Runs before (result, tracker) := by
    obtain ⟨before, tracker, rfl, tracked⟩ := conclude_runs.mp run
    exact ⟨before, tracker, List.prefix_append _ _, tracked⟩
  refine ⟨fun prepared => concluded _, ?_, fun id => concluded _, ?_, ?_⟩
  · exact fun prepared trace result tracker => submitTracked_reflects
  · exact fun id trace result tracker => pollTracked_reflects
  · intro tracker signals after
    obtain ⟨same, path⟩ := tracker.receive_all signals
    exact ⟨same, fun ended => Tracker.receive_all_of_isTerminal ended signals, path,
      after.moves_receive⟩

/-- A committed submission, and a late answer to a rejected one. -/
theorem tracker_in_step_sample :
    let prepared := Prepared.sample
    let refused : Tracker := ⟨prepared.id, .rejected⟩
    (∃ trace tracker, (default.submitTracked prepared).Runs trace (.ok prepared.id, tracker) ∧
      tracker.state = .committedSuccess) ∧
    [Tracker.Signal.finished (.ok prepared.id)].foldl Tracker.receive refused = refused := by
  intro prepared refused
  obtain ⟨submitted, tracked, -, -, guarded⟩ := tracker_in_step default
  have tries : default.poll.maxTries.toNat = 19 + 1 := rfl
  obtain ⟨trace, run, -⟩ := submit_committed prepared tries
  obtain ⟨before, tracker, -, run⟩ := submitted prepared trace _ run
  obtain ⟨same, reflects, -⟩ := tracked prepared before _ tracker run
  refine ⟨⟨before, tracker, run, reflects.committedSuccess.mpr ?_⟩, (guarded refused _).2.1 rfl⟩
  rw [same]

end ClientConfig

end LedgerWallet
