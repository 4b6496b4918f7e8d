import LedgerWallet.Proofs.Client.Polling
import LedgerWallet.Proofs.Client.Sealed

/-! What the gateway sees of a submission. A payload goes out once, and only what the gateway took as
new is asked about, by its own id and not more often than there are tries. -/
namespace LedgerWallet

variable {α : Type} {trace : List Exchange}

/-- Counting a failure is no concern of the gateway. -/
theorem gatewayCalls_failureReport (before : List Exchange) (result : Except Failure α) :
    gatewayCalls (before ++ failureReport result) = gatewayCalls before := by
  rw [gatewayCalls_append]
  cases result <;> exact List.append_nil _

/-- The outcome of polling, as far as the answers to the queries tell it. -/
structure PollVerdict (id : TransactionId) (tries : Nat) (answers : List StatusAnswer)
    (outcome : Except Failure TransactionId) : Prop where
  bounded : answers.length ≤ tries
  committed : ∀ other, outcome = .ok other →
    other = id ∧ answers.getLast? = some (.ok .committedSuccess)
  named : ∀ failure, outcome = .error failure → failure.id? = some id

theorem PollStrategy.Settles.pollVerdict {id : TransactionId} {tries : Nat} {answers : List StatusAnswer}
    {outcome : Except Failure TransactionId} (settles : Settles id tries answers outcome) :
    PollVerdict id tries answers outcome :=
  ⟨settles.length_le, fun _ => settles.of_ok, fun _ => settles.of_error⟩

namespace ClientConfig

variable {config : ClientConfig}

/-- The ways in which the submission of a prepared transaction can go, by what the gateway sees. -/
inductive Submission (config : ClientConfig) (prepared : Prepared) :
    List Exchange → Except Failure TransactionId → Prop
  | refused {e : GatewayError} {failure : Failure} (unnamed : failure.id? = none) :
      Submission config prepared [⟨.submit (Hex.text prepared.payload), .error e⟩] (.error failure)
  | duplicate : Submission config prepared [⟨.submit (Hex.text prepared.payload), .ok true⟩]
      (.error (.duplicate prepared.id))
  | polled {answers : List StatusAnswer} {outcome : Except Failure TransactionId}
      (polled : PollVerdict prepared.id config.poll.maxTries.toNat answers outcome) :
      Submission config prepared (⟨.submit (Hex.text prepared.payload), .ok false⟩ ::
        PollStrategy.statusCalls prepared.id answers) outcome

theorem pollTracked_runs {tracker after : Tracker} {outcome : Except Failure TransactionId}
    (run : (config.pollTracked tracker).Runs trace (outcome, after)) : ∃ answers,
      gatewayCalls trace = PollStrategy.statusCalls tracker.id answers ∧
        PollVerdict tracker.id config.poll.maxTries.toNat answers outcome := by
  have same : tracker.markPolling.id = tracker.id := by
    rw [Tracker.markPolling, Tracker.advance]
    split <;> rfl
  obtain ⟨polling, _, _, rfl, polled, ended⟩ := Flow.runs_bind.mp run
  obtain ⟨rfl, ended⟩ := Flow.runs_done.mp ended
  cases ended
  obtain ⟨answers, asked, settles⟩ := PollStrategy.poll_settles polled
  rw [same] at asked settles
  rw [List.append_nil]
  exact ⟨answers, asked, settles.pollVerdict⟩

theorem submitTracked_runs {prepared : Prepared} {after : Tracker}
    {outcome : Except Failure TransactionId}
    (run : (config.submitTracked prepared).Runs trace (outcome, after)) :
    config.Submission prepared (gatewayCalls trace) outcome := by
  obtain ⟨answer, rest, rfl, answered⟩ := Flow.runs_request_bind.mp run
  cases answer with
  | error e =>
    obtain ⟨rfl, ended⟩ := Flow.runs_done.mp answered
    cases ended
    exact .refused rfl
  | ok duplicate =>
    obtain ⟨_, later, rfl, counted⟩ := Flow.runs_request_bind.mp answered
    cases duplicate with
    | true =>
      obtain ⟨_, _, rfl, reported⟩ := Flow.runs_request_bind.mp counted
      obtain ⟨rfl, ended⟩ := Flow.runs_done.mp reported
      cases ended
      exact .duplicate
    | false =>
      obtain ⟨answers, asked, polled⟩ := pollTracked_runs counted
      have seen : gatewayCalls (⟨.submit (Hex.text prepared.payload), .ok false⟩ ::
          ⟨.count .submitted, ()⟩ :: later) =
          ⟨.submit (Hex.text prepared.payload), .ok false⟩ :: gatewayCalls later := rfl
      rw [seen, asked]
      exact .polled polled

/-- The tracker of a flow is dropped in the end, and its failure is counted. -/
theorem conclude_runs {flow : Flow (Except Failure TransactionId × Tracker)}
    {result : Except Failure TransactionId} : (conclude flow).Runs trace result ↔
      ∃ before after, trace = before ++ failureReport result ∧ flow.Runs before (result, after) := by
  rw [conclude, Action.counted_runs]
  constructor
  · rintro ⟨before, rfl, run⟩
    obtain ⟨⟨outcome, after⟩, rfl, tracked⟩ := Flow.runs_map.mp run
    exact ⟨before, after, rfl, tracked⟩
  · rintro ⟨before, after, rfl, tracked⟩
    exact ⟨before, rfl, Flow.runs_map.mpr ⟨(result, after), rfl, tracked⟩⟩

theorem submit_runs {prepared : Prepared} {result : Except Failure TransactionId}
    (run : (config.submit prepared).Runs trace result) :
    config.Submission prepared (gatewayCalls trace) result := by
  obtain ⟨before, after, rfl, tracked⟩ := conclude_runs.mp run
  rw [gatewayCalls_failureReport]
  exact submitTracked_runs tracked

theorem resume_runs {id : TransactionId} {result : Except Failure TransactionId}
    (run : (config.resume id).Runs trace result) : ∃ answers,
      gatewayCalls trace = PollStrategy.statusCalls id answers ∧
        PollVerdict id config.poll.maxTries.toNat answers result := by
  obtain ⟨before, after, rfl, tracked⟩ := conclude_runs.mp run
  rw [gatewayCalls_failureReport]
  exact pollTracked_runs tracked

/-- The payload that goes out reads back as a transaction with the id that is asked for. -/
theorem prepare_reads_back {manifest : Manifest} {options : SubmitOptions} {prepared : Prepared}
    {possible : Exchange → Prop} (fits : options.Fits manifest) (short : ShortSignatures possible)
    (yields : (config.prepare manifest options).Yields possible (.ok prepared)) :
    ∃ notarized, Notarized.ofPayload prepared.payload = .ok notarized ∧
      notarized.id = prepared.id := by
  have consistent := prepare_consistent yields
  refine ⟨prepared.notarized, ?_, consistent.id.symm⟩
  rw [consistent.payload]
  exact Notarized.ofPayload_payload (prepare_fits fits short yields)

/-- Whatever everyone answers, a submission that fails before it leaves the gateway alone, and any
other hands in the payload of the prepared transaction once. What is asked afterwards is the status of
that transaction, and only where the gateway took the payload as new. To resume is to ask for the
given id and for nothing else. -/
theorem submission_safe (config : ClientConfig) (manifest : Manifest) (options : SubmitOptions) :
    (∀ trace result, Action.Runs (config.signAndSubmit manifest options) trace result →
      (gatewayCalls trace = [] ∧ ∃ failure, result = .error failure ∧ failure.id? = none ∧
        Action.Runs (config.prepare manifest options) trace (.error failure)) ∨
      ∃ before after prepared, trace = before ++ after ∧
        Action.Runs (config.prepare manifest options) before (.ok prepared) ∧
        config.Submission prepared (gatewayCalls trace) result ∧
        (options.Fits manifest → ShortSignatures (· ∈ trace) → ∃ notarized,
          Notarized.ofPayload prepared.payload = .ok notarized ∧ notarized.id = prepared.id)) ∧
    ∀ id trace result, Action.Runs (config.resume id) trace result → ∃ answers,
      gatewayCalls trace = PollStrategy.statusCalls id answers ∧
        PollVerdict id config.poll.maxTries.toNat answers result := by
  refine ⟨fun trace result run => ?_, fun id trace result => resume_runs⟩
  rcases Action.runs_bind.mp run with
    ⟨before, prepared, after, rfl, first, second⟩ | ⟨failure, rfl, failed⟩
  · obtain ⟨silent, -⟩ := (preliminary_prepare config manifest options).sound first
    refine .inr ⟨before, after, prepared, rfl, first, ?_, fun fits short => ?_⟩
    · rw [gatewayCalls_append, silent]
      exact submit_runs second
    · exact prepare_reads_back fits short
        ⟨before, first, fun exchange => List.mem_append_left after⟩
  · obtain ⟨silent, unnamed⟩ := (preliminary_prepare config manifest options).sound failed
    exact .inl ⟨silent, failure, rfl, unnamed failure rfl, failed⟩

/-- A transaction that is committed at the first query. -/
theorem poll_committed (id : TransactionId) {tries : Nat}
    (atLeastOne : config.poll.maxTries.toNat = tries + 1) : ∃ trace,
      (config.poll.poll id).Runs trace (.ok id) ∧
      gatewayCalls trace = [⟨.status id, .ok .committedSuccess⟩] ∧
      ∀ exchange ∈ trace, exchange.1.toSigner = false := by
  have queried : (config.poll.query id 0 0).Runs _ (.settled (.ok id)) :=
    PollStrategy.query_runs.mpr ⟨.ok .committedSuccess, _, rfl, .verdict rfl 0⟩
  have tried : (config.poll.pollFor id 0 (tries + 1) 0).Runs _ (.ok id) :=
    Flow.runs_bind.mpr ⟨_, _, [], rfl, queried, .done _⟩
  rw [← atLeastOne] at tried
  have polled : (config.poll.poll id).Runs _ (.ok id) :=
    Flow.runs_request_bind.mpr ⟨(0 : Nat), _, rfl, tried⟩
  exact ⟨_, polled, rfl, by simp [Request.toSigner]⟩

theorem resume_committed (id : TransactionId) {tries : Nat}
    (atLeastOne : config.poll.maxTries.toNat = tries + 1) : ∃ trace,
      (config.resume id).Runs trace (.ok id) ∧
      gatewayCalls trace = [⟨.status id, .ok .committedSuccess⟩] := by
  obtain ⟨trace, polled, seen, -⟩ := poll_committed id atLeastOne
  have tracked : (config.pollTracked (.resumed id)).Runs _ (.ok id, _) :=
    Flow.runs_bind.mpr ⟨trace, .ok id, [], rfl, polled, .done _⟩
  refine ⟨_, conclude_runs.mpr ⟨_, _, rfl, tracked⟩, ?_⟩
  rw [gatewayCalls_failureReport, List.append_nil, seen]

/-- A gateway that takes a payload as new and has it committed at the first query. -/
theorem submit_committed (prepared : Prepared) {tries : Nat}
    (atLeastOne : config.poll.maxTries.toNat = tries + 1) : ∃ trace,
      (config.submit prepared).Runs trace (.ok prepared.id) ∧
      gatewayCalls trace = [⟨.submit (Hex.text prepared.payload), .ok false⟩,
        ⟨.status prepared.id, .ok .committedSuccess⟩] ∧
      ∀ exchange ∈ trace, exchange.1.toSigner = false := by
  obtain ⟨trace, polled, seen, unsigned⟩ := poll_committed prepared.id atLeastOne
  have tracked : (config.pollTracked (Tracker.new prepared.id).markSubmitted).Runs _
      (.ok prepared.id, _) :=
    Flow.runs_bind.mpr ⟨trace, .ok prepared.id, [], rfl, polled, .done _⟩
  have submitted : (config.submitTracked prepared).Runs _ (.ok prepared.id, _) :=
    Flow.runs_request_bind.mpr ⟨.ok false, _, rfl,
      Flow.runs_request_bind.mpr ⟨(), _, rfl, tracked⟩⟩
  refine ⟨_, conclude_runs.mpr ⟨_, _, rfl, submitted⟩, ?_, ?_⟩
  · rw [gatewayCalls_failureReport, List.append_nil]
    exact congrArg (List.cons _) seen
  · rw [failureReport, List.append_nil, List.append_nil, List.forall_mem_cons, List.forall_mem_cons]
    exact ⟨rfl, rfl, unsigned⟩

theorem submission_safe_sample : ∃ trace,
    Action.Runs (default.signAndSubmit Prepared.sampleManifest Prepared.sampleOptions) trace
      (.ok Prepared.sample.id) ∧
    gatewayCalls trace = [⟨.submit (Hex.text Prepared.sample.payload), .ok false⟩,
      ⟨.status Prepared.sample.id, .ok .committedSuccess⟩] ∧
    ∃ prepared notarized, default.Submission prepared (gatewayCalls trace) (.ok Prepared.sample.id) ∧
      Notarized.ofPayload prepared.payload = .ok notarized ∧ notarized.id = prepared.id := by
  have tries : default.poll.maxTries.toNat = 19 + 1 := rfl
  obtain ⟨before, first, among⟩ := Prepared.prepare_sample fun _ member => member
  obtain ⟨silent, -⟩ := (preliminary_prepare _ _ _).sound first
  obtain ⟨after, second, seen, unsigned⟩ := submit_committed Prepared.sample tries
  have run := Action.runs_bind.mpr (.inl ⟨before, _, after, rfl, first, second⟩)
  have short : ShortSignatures (· ∈ before ++ after) := by
    intro signer message signature told
    rcases List.mem_append.mp told with early | late
    · exact shortSignatures_of_local Prepared.sample_locally _ _ _ (among _ early)
    · cases unsigned _ late
  refine ⟨before ++ after, run, ?_, ?_⟩
  · rw [gatewayCalls_append, silent, seen]
    rfl
  · rcases (submission_safe default Prepared.sampleManifest Prepared.sampleOptions).1 _ _ run with
      ⟨-, _, ⟨⟩, -⟩ | ⟨_, _, prepared, -, -, submission, readBack⟩
    obtain ⟨notarized, read, same⟩ := readBack Prepared.sampleOptions_fits short
    exact ⟨prepared, notarized, submission, read, same⟩

end ClientConfig

end LedgerWallet
