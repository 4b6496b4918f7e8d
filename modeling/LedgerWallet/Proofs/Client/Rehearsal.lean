import LedgerWallet.Client.Rehearsal
import LedgerWallet.Proofs.Client.Budget
import LedgerWallet.Proofs.Client.Signers

/-! Rehearsals. A rehearsed flow goes through one of its runs, with its wallet and the answers
of its scripts, so that what holds of all runs holds of it. -/
namespace LedgerWallet

variable {α : Type}

/-- Answers that follow a script from its start, what is left of it, and what is answered where nothing
is left. -/
def Scripted (usual : α) (script answers left : List α) : Prop :=
  ∃ extra, answers ++ left = script ++ List.replicate extra usual

namespace Scripted

variable {usual : α} {script : List α}

theorem none : Scripted usual script [] script := ⟨0, (List.append_nil script).symm⟩

theorem next : Scripted usual script [script.headD usual] script.tail := by
  cases script with
  | nil => exact ⟨1, rfl⟩
  | cons first rest => exact ⟨0, (List.append_nil _).symm⟩

theorem append {before after between left : List α} (early : Scripted usual script before between)
    (late : Scripted usual between after left) : Scripted usual script (before ++ after) left := by
  obtain ⟨some, early⟩ := early
  obtain ⟨more, late⟩ := late
  exact ⟨some + more, by
    rw [List.append_assoc, late, ← List.append_assoc, early, List.append_assoc,
      List.replicate_append_replicate]⟩

/-- The answers are known from their number. -/
theorem eq_map {answers left : List α} (scripted : Scripted usual script answers left) :
    answers = (List.range answers.length).map (script.getD · usual) := by
  obtain ⟨extra, same⟩ := scripted
  apply List.ext_getElem (by rw [List.length_map, List.length_range])
  intro n inside _
  rw [List.getElem_map, List.getElem_range]
  have place : (answers ++ left)[n]? = some answers[n] := by
    rw [List.getElem?_append_left inside, List.getElem?_eq_getElem inside]
  rw [same] at place
  rcases Nat.lt_or_ge n script.length with within | beyond
  · rw [List.getElem?_append_left within] at place
    rw [List.getD_eq_getElem?_getD, place]
    rfl
  · rw [List.getElem?_append_right beyond] at place
    rw [List.getD_eq_getElem?_getD, List.getElem?_eq_none beyond]
    exact List.eq_of_mem_replicate (List.mem_of_getElem? place)

end Scripted

namespace Exchange

def gatewayCall? : Exchange → Option GatewayCall
  | ⟨.submit payload, _⟩ => some (.submit payload)
  | ⟨.status id, _⟩ => some (.status id)
  | _ => none

def submission? : Exchange → Option (Except GatewayError Bool)
  | ⟨.submit _, answer⟩ => some answer
  | _ => none

def status? : Exchange → Option StatusAnswer
  | ⟨.status _, answer⟩ => some answer
  | _ => none

/-- How long a rehearsal sleeps. -/
def slept : Exchange → Nat
  | ⟨.sleep milliseconds, _⟩ => min milliseconds Rehearsal.longestSleep
  | _ => 0

end Exchange

namespace Rehearsal

variable {r last : Rehearsal} {trace : List Exchange}

/-- What a rehearsal is after some exchanges. -/
structure Played (r : Rehearsal) (trace : List Exchange) (last : Rehearsal) : Prop where
  wallet : last.wallet = r.wallet
  possible : ∀ exchange ∈ trace, r.wallet.Answers exchange
  metrics : last.metrics = r.metrics.after trace
  clock : last.clock = trace.foldl (fun clock exchange => clock + exchange.slept) r.clock
  calls : last.calls = (trace.filterMap Exchange.gatewayCall?).reverse ++ r.calls
  submissions : Scripted (.ok false) r.submissions (trace.filterMap Exchange.submission?)
    last.submissions
  statuses : Scripted (.ok .pending) r.statuses (trace.filterMap Exchange.status?) last.statuses

namespace Played

theorem none (r : Rehearsal) : r.Played [] r where
  wallet := rfl
  possible := nofun
  metrics := rfl
  clock := rfl
  calls := rfl
  submissions := .none
  statuses := .none

theorem append {between : Rehearsal} {before after : List Exchange}
    (early : r.Played before between) (late : between.Played after last) :
    r.Played (before ++ after) last where
  wallet := late.wallet.trans early.wallet
  possible := List.forall_mem_append.mpr ⟨early.possible, early.wallet ▸ late.possible⟩
  metrics := by rw [late.metrics, early.metrics, Metrics.after, Metrics.after, Metrics.after,
    List.foldl_append]
  clock := by rw [late.clock, early.clock, List.foldl_append]
  calls := by rw [late.calls, early.calls, List.filterMap_append, List.reverse_append,
    List.append_assoc]
  submissions := by
    rw [List.filterMap_append]
    exact early.submissions.append late.submissions
  statuses := by
    rw [List.filterMap_append]
    exact early.statuses.append late.statuses

end Played

/-- Signing changes the keys and the turns alone. -/
theorem sign_played (r : Rehearsal) (signer : Signer) (message : Bytes 32) :
    r.Played [⟨.sign signer message, (r.sign signer message).1⟩] (r.sign signer message).2 := by
  have nothing (keys : List ScriptedKey) (turns : List Nat)
      (answer : Except SigningError KeySignature) :
      r.Played [⟨.sign signer message, answer⟩] { r with keys, turns } :=
    ⟨rfl, by simp [Wallet.Answers], rfl, rfl, rfl, .none, .none⟩
  rw [sign]
  split
  · exact nothing ..
  · split
    · exact nothing ..
    · exact nothing ..

theorem epoch_played (r : Rehearsal) :
    r.Played [⟨.epoch, r.takeEpoch.1⟩] r.takeEpoch.2 := by
  have nothing (epochs : List (Except GatewayError UInt64)) (answer : Except GatewayError UInt64) :
      r.Played [⟨.epoch, answer⟩] { r with epochs } :=
    ⟨rfl, by simp [Wallet.Answers], rfl, rfl, rfl, .none, .none⟩
  rw [takeEpoch]
  split <;> exact nothing ..

theorem answer_played (r : Rehearsal) (request : Request) :
    r.Played [⟨request, (r.answer request).1⟩] (r.answer request).2 := by
  have possible : ∀ exchange ∈ [(⟨request, (r.answer request).1⟩ : Exchange)],
      r.wallet.Answers exchange := by
    rw [List.forall_mem_singleton]
    cases request <;> first | rfl | trivial
  cases request with
  | sign signer message => exact r.sign_played signer message
  | epoch => exact r.epoch_played
  | submit payload => exact ⟨rfl, possible, rfl, rfl, rfl, .next, .none⟩
  | status id => exact ⟨rfl, possible, rfl, rfl, rfl, .none, .next⟩
  | _ => exact ⟨rfl, possible, rfl, rfl, rfl, .none, .none⟩

theorem played_of_exchanges (exchanges : Flow.Exchanges answer r trace last) :
    r.Played trace last := by
  induction exchanges with
  | none r => exact .none r
  | ask _ ih => exact (answer_played _ _).append ih

/-- A rehearsal takes a flow along one of its runs. -/
theorem perform_played (r : Rehearsal) (flow : Flow α) : ∃ trace,
    flow.Runs trace (r.perform flow).1 ∧ r.Played trace (r.perform flow).2 := by
  obtain ⟨trace, run, exchanges⟩ := Flow.run_eq_iff.mp (rfl : flow.run answer r = r.perform flow)
  exact ⟨trace, run, played_of_exchanges exchanges⟩

/-- A flow comes to nothing in a rehearsal that it cannot come to with the wallet of the rehearsal. -/
theorem perform_yields (r : Rehearsal) (flow : Flow α) :
    flow.Yields r.wallet.Answers (r.perform flow).1 := by
  obtain ⟨trace, run, played⟩ := r.perform_played flow
  exact ⟨trace, run, played.possible⟩

theorem filterMap_gatewayCalls {f : Exchange → Option α}
    (quiet : ∀ exchange : Exchange, exchange.1.toGateway = false → f exchange = none)
    (trace : List Exchange) : (gatewayCalls trace).filterMap f = trace.filterMap f := by
  rw [gatewayCalls, List.filterMap_filter]
  refine List.filterMap_congr fun exchange _ => ?_
  split
  · rfl
  · exact (quiet exchange (Bool.eq_false_of_not_eq_true ‹_›)).symm

/-- A rehearsed poll is settled by its script of statuses, after as many queries as it takes. -/
theorem perform_poll (r : Rehearsal) (strategy : PollStrategy) (id : TransactionId) : ∃ queries,
    PollStrategy.Settles id strategy.maxTries.toNat
        ((List.range queries).map (r.statuses.getD · (.ok .pending)))
        (r.perform (strategy.poll id)).1 ∧
      (r.perform (strategy.poll id)).2.calls = List.replicate queries (.status id) ++ r.calls := by
  obtain ⟨trace, run, played⟩ := r.perform_played (strategy.poll id)
  obtain ⟨answers, asked, settles⟩ := PollStrategy.poll_settles run
  have told : trace.filterMap Exchange.status? = answers := by
    have quiet (exchange : Exchange) (silent : exchange.1.toGateway = false) :
        exchange.status? = none := by
      obtain ⟨request, _⟩ := exchange
      cases request <;> first | rfl | contradiction
    rw [← filterMap_gatewayCalls quiet, asked, PollStrategy.statusCalls, List.filterMap_map]
    exact List.filterMap_some
  have made : trace.filterMap Exchange.gatewayCall? = List.replicate answers.length (.status id) := by
    have quiet (exchange : Exchange) (silent : exchange.1.toGateway = false) :
        exchange.gatewayCall? = none := by
      obtain ⟨request, _⟩ := exchange
      cases request <;> first | rfl | contradiction
    rw [← filterMap_gatewayCalls quiet, asked, PollStrategy.statusCalls, List.filterMap_map,
      ← List.map_const']
    exact congrFun List.filterMap_eq_map answers
  have scripted := played.statuses.eq_map
  rw [told] at scripted
  refine ⟨answers.length, scripted ▸ settles, ?_⟩
  rw [played.calls, made, List.reverse_replicate]

end Rehearsal

end LedgerWallet
