import LedgerWallet.CommandLine.Session
import LedgerWallet.Proofs.Client.Accounting

/-! A session carries flows out with the answers of its wallet, on whatever machine, and its metrics are
what the exchanges make of them. -/
namespace LedgerWallet.CommandLine.Session

variable {α σ : Type}

theorem answer_possible (session : Session) (host : Host (StateM σ)) (request : Request)
    (metrics : Metrics) (state : σ) :
    session.wallet.Answers
      ⟨request, (((session.answer host request).run metrics).run state).1.1⟩ := by
  cases request with
  | network | accounts | signers => rfl
  | _ => trivial

theorem answer_records (session : Session) (host : Host (StateM σ)) (request : Request)
    (metrics : Metrics) (state : σ) :
    (((session.answer host request).run metrics).run state).1.2 =
      metrics.see ⟨request, (((session.answer host request).run metrics).run state).1.1⟩ := by
  cases request with
  | sign signer message =>
    rw [answer]
    split <;> rfl
  | _ => rfl

/-- Where a session takes a flow, the wallet of the session allows it to go, and the metrics have been
counted on the way. -/
theorem run_records (session : Session) (host : Host (StateM σ)) (flow : Flow α)
    (metrics : Metrics) (state : σ) : ∃ trace,
      flow.Runs trace (((flow.run (session.answer host)).run metrics).run state).1.1 ∧
      (∀ exchange ∈ trace, session.wallet.Answers exchange) ∧
      (((flow.run (session.answer host)).run metrics).run state).1.2 = metrics.after trace := by
  induction flow generalizing metrics state with
  | done value => exact ⟨[], .done value, nofun, rfl⟩
  | ask request next ih =>
    have possible := session.answer_possible host request metrics state
    have recorded := session.answer_records host request metrics state
    have later := ih (((session.answer host request).run metrics).run state).1.1
      (((session.answer host request).run metrics).run state).1.2
      (((session.answer host request).run metrics).run state).2
    obtain ⟨trace, run, answered, counted⟩ := later
    refine ⟨_, .ask _ run, List.forall_mem_cons.mpr ⟨possible, answered⟩, counted.trans ?_⟩
    exact congrArg (Metrics.after · trace) recorded

end LedgerWallet.CommandLine.Session
