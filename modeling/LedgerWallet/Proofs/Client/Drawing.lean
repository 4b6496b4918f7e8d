import LedgerWallet.Proofs.Client.Calls
import LedgerWallet.Proofs.Client.Interleaving
import LedgerWallet.Proofs.Client.Stages
import LedgerWallet.Proofs.Client.Submission

/-! The header that a call makes and the transaction that it hands in. There is at most one of each. A
call draws the nonce of its header and no other, and sends the payload of its transaction and no
other. -/
namespace LedgerWallet

variable {trace : List Exchange}

/-- A flow that never asks for a nonce draws none. -/
theorem Flow.Uses.noncesOf {α : Type} {asks : Request → Prop} {ends : α → Prop} {flow : Flow α}
    (uses : flow.Uses asks ends) (never : ¬ asks .nonce) {value : α} (run : flow.Runs trace value) :
    noncesOf trace = [] := by
  refine uses.filterMap_eq_nil (fun exchange asked => ?_) run
  obtain ⟨request, answer⟩ := exchange
  cases request <;> first | rfl | exact absurd asked never

theorem Action.KeysOnly.noncesOf {α : Type} {action : Action α} (keys : action.KeysOnly)
    {result : Except Failure α} (run : action.Runs trace result) : noncesOf trace = [] :=
  Flow.Uses.noncesOf keys Bool.false_ne_true run

/-- The requests that are left for a prepared transaction. -/
def Request.isDelivery : Request → Bool
  | submit _ | status _ | sleep _ | clock | count _ | warn _ _ => true
  | _ => false

/-- An action that only delivers. -/
def Action.Delivers {α : Type} (action : Action α) : Prop :=
  action.Uses (·.isDelivery) fun _ => True

namespace Action.Delivers

variable {α : Type} {action : Action α} {result : Except Failure α}

theorem noncesOf (delivers : action.Delivers) (run : action.Runs trace result) :
    noncesOf trace = [] :=
  Flow.Uses.noncesOf delivers Bool.false_ne_true run

/-- A delivery is no concern of the wallet. -/
theorem answered (delivers : action.Delivers) (run : action.Runs trace result) (wallet : Wallet) :
    ∀ exchange ∈ trace, wallet.Answers exchange := by
  obtain ⟨asked, -⟩ := Flow.Uses.sound delivers run
  intro exchange member
  have delivery := asked exchange member
  obtain ⟨request, answer⟩ := exchange
  cases request with
  | network | accounts | signers => contradiction
  | _ => trivial

end Action.Delivers

namespace PollStrategy

variable (strategy : PollStrategy) (id : TransactionId) (started : Nat)

theorem uses_query (failures : UInt32) :
    (strategy.query id started failures).Uses (·.isDelivery) fun _ => True := by
  refine ⟨rfl, fun _ => ⟨rfl, fun answer => ?_⟩⟩
  cases answer with
  | error e =>
    refine ⟨rfl, fun _ => ?_⟩
    dsimp only [Flow.done_bind]
    split
    · exact ⟨rfl, fun _ => trivial⟩
    · trivial
  | ok status => cases status <;> first | trivial | exact ⟨rfl, fun _ => ⟨rfl, fun _ => trivial⟩⟩

theorem uses_pollFor (tries : Nat) (failures : UInt32) :
    (strategy.pollFor id started tries failures).Uses (·.isDelivery) fun _ => True := by
  induction tries generalizing failures with
  | zero => trivial
  | succ tries ih =>
    refine Flow.uses_bind (strategy.uses_query id started failures) fun step _ => ?_
    cases step with
    | settled outcome => trivial
    | undecided next =>
      dsimp only
      split
      · exact ⟨rfl, fun _ => ih next⟩
      · exact ih next

theorem uses_poll : (strategy.poll id).Uses (·.isDelivery) fun _ => True :=
  ⟨rfl, fun started => strategy.uses_pollFor id started _ _⟩

end PollStrategy

/-- The payloads that went out. -/
def Exchange.payload? : Exchange → Option String
  | ⟨.submit payload, _⟩ => some payload
  | _ => none

def payloadsOf (trace : List Exchange) : List String := trace.filterMap Exchange.payload?

theorem payloadsOf_append (before after : List Exchange) :
    payloadsOf (before ++ after) = payloadsOf before ++ payloadsOf after :=
  List.filterMap_append

/-- Payloads go to the gateway. -/
theorem payloadsOf_gatewayCalls (trace : List Exchange) :
    payloadsOf (gatewayCalls trace) = payloadsOf trace := by
  rw [payloadsOf, gatewayCalls, List.filterMap_filter, payloadsOf]
  refine List.filterMap_congr fun exchange _ => ?_
  obtain ⟨request, answer⟩ := exchange
  cases request <;> rfl

theorem payloadsOf_statusCalls (id : TransactionId) (answers : List StatusAnswer) :
    payloadsOf (PollStrategy.statusCalls id answers) = [] := by
  rw [payloadsOf, PollStrategy.statusCalls, List.filterMap_map]
  exact List.filterMap_eq_nil_iff.mpr fun _ _ => rfl

namespace ClientConfig

variable {config : ClientConfig} {manifest : Manifest} {options : SubmitOptions}

theorem noncesOf_header {settled : Settlement} {outcome : Except Failure Header}
    (run : settled.header.Runs trace outcome) :
    noncesOf trace = outcome.toOption.toList.map Header.nonce := by
  rcases freshHeader_runs.mp run with
    ⟨e, rfl, rfl⟩ | ⟨start, rfl, -, rfl⟩ | ⟨start, last, nonce, rfl, -, rfl⟩ <;> rfl

/-- A draft draws the nonce of its header. -/
theorem noncesOf_draft {outcome : Except Failure (Settlement × Header)}
    (run : (config.draft manifest options).Runs trace outcome) :
    noncesOf trace = outcome.toOption.toList.map (·.2.nonce) := by
  rcases draft_runs.mp run with
    ⟨failure, rfl, failed⟩ | ⟨before, settled, made, header, rfl, rfl, first, second⟩
  · exact walletOnly_settle.keysOnly.noncesOf failed
  · rw [noncesOf_append, walletOnly_settle.keysOnly.noncesOf first, noncesOf_header second]
    cases header <;> rfl

/-- A run with a draft of a header, after which no nonce is drawn. -/
def Drafts (config : ClientConfig) (manifest : Manifest) (options : SubmitOptions)
    (trace : List Exchange) : Prop :=
  ∃ before outcome after, trace = before ++ after ∧
    (config.draft manifest options).Runs before outcome ∧ noncesOf after = []

theorem Drafts.append (drafts : config.Drafts manifest options trace) {later : List Exchange}
    (undrawn : noncesOf later = []) : config.Drafts manifest options (trace ++ later) := by
  obtain ⟨before, outcome, after, rfl, run, drawn⟩ := drafts
  refine ⟨before, outcome, after ++ later, List.append_assoc _ _ _, run, ?_⟩
  rw [noncesOf_append, drawn, undrawn, List.append_nil]

theorem prepare_drafts {result : Except Failure Prepared}
    (run : (config.prepare manifest options).Runs trace result) :
    config.Drafts manifest options trace := by
  obtain ⟨before, rfl, prepared⟩ := prepare_runs.mp run
  have drafts : config.Drafts manifest options before := by
    rcases prepared with
      ⟨drafting, settled, header, sealing, rfl, drafted, signed⟩ | ⟨failure, rfl, failed⟩
    · have late := (settled.signersOnly_sealWith options.message header).keysOnly.noncesOf signed
      exact ⟨drafting, _, sealing, rfl, drafted, late⟩
    · exact ⟨before, _, [], (List.append_nil _).symm, failed, rfl⟩
  refine drafts.append ?_
  cases result <;> rfl

theorem uses_pollTracked (config : ClientConfig) (tracker : Tracker) :
    (config.pollTracked tracker).Uses (·.isDelivery) fun _ => True :=
  Flow.uses_bind (config.poll.uses_poll _) fun _ _ => trivial

theorem uses_submitTracked (config : ClientConfig) (prepared : Prepared) :
    (config.submitTracked prepared).Uses (·.isDelivery) fun _ => True := by
  refine ⟨rfl, fun answer => ?_⟩
  cases answer with
  | error e => trivial
  | ok duplicate =>
    refine ⟨rfl, fun _ => ?_⟩
    cases duplicate with
    | true => exact ⟨rfl, fun _ => trivial⟩
    | false => exact config.uses_pollTracked _

theorem delivers_conclude {flow : Flow (Except Failure TransactionId × Tracker)}
    (uses : flow.Uses (·.isDelivery) fun _ => True) : (conclude flow).Delivers := by
  have outcome : Action.Delivers (ExceptT.mk ((·.1) <$> flow)) := by
    rw [map_eq_pure_bind]
    exact Flow.uses_bind uses fun _ _ _ _ => trivial
  refine Action.uses_tryCatch outcome fun failure _ => ?_
  exact Action.uses_bind (Action.uses_request rfl) fun _ => Action.uses_throw trivial

theorem delivers_submit (config : ClientConfig) (prepared : Prepared) :
    (config.submit prepared).Delivers :=
  delivers_conclude (config.uses_submitTracked prepared)

theorem delivers_resume (config : ClientConfig) (id : TransactionId) : (config.resume id).Delivers :=
  delivers_conclude (config.uses_pollTracked _)

theorem signAndSubmit_drafts {result : Except Failure TransactionId}
    (run : (config.signAndSubmit manifest options).Runs trace result) :
    config.Drafts manifest options trace := by
  rcases Action.runs_bind.mp run with
    ⟨before, prepared, after, rfl, first, second⟩ | ⟨failure, rfl, failed⟩
  · exact (prepare_drafts first).append ((config.delivers_submit prepared).noncesOf second)
  · exact prepare_drafts failed

/-- What goes out for a prepared transaction is its payload. -/
theorem payloadsOf_submit {prepared : Prepared} {result : Except Failure TransactionId}
    (run : (config.submit prepared).Runs trace result) :
    payloadsOf trace = [Hex.text prepared.payload] := by
  have submission := submit_runs run
  rw [← payloadsOf_gatewayCalls]
  generalize gatewayCalls trace = calls at submission
  cases submission with
  | refused => rfl
  | duplicate => rfl
  | polled => exact congrArg (List.cons _) (payloadsOf_statusCalls _ _)

theorem payloadsOf_resume {id : TransactionId} {result : Except Failure TransactionId}
    (run : (config.resume id).Runs trace result) : payloadsOf trace = [] := by
  obtain ⟨answers, asked, -⟩ := resume_runs run
  rw [← payloadsOf_gatewayCalls, asked, payloadsOf_statusCalls]

theorem payloadsOf_prepare {result : Except Failure Prepared}
    (run : (config.prepare manifest options).Runs trace result) : payloadsOf trace = [] := by
  obtain ⟨unseen, -⟩ := (preliminary_prepare config manifest options).sound run
  rw [← payloadsOf_gatewayCalls, unseen]
  rfl

end ClientConfig

namespace Call

variable {config : ClientConfig}

/-- The call gets as far as a header for its transaction. -/
def Makes (config : ClientConfig) (trace : List Exchange) (header : Header) : Call → Prop
  | prepare manifest options | signAndSubmit manifest options =>
    ∃ settled, (config.draft manifest options).run.Begins trace (.ok (settled, header))
  | submit _ | resume _ => False

/-- The call gets as far as its prepared transaction. -/
def Prepares (config : ClientConfig) (trace : List Exchange) (prepared : Prepared) : Call → Prop
  | prepare manifest options | signAndSubmit manifest options =>
    (config.prepare manifest options).run.Begins trace (.ok prepared)
  | submit _ | resume _ => False

/-- The call has a transaction to hand in, be it that it was given one or that it prepared one. -/
def HandsIn (config : ClientConfig) (trace : List Exchange) (prepared : Prepared) : Call → Prop
  | submit given => prepared = given
  | signAndSubmit manifest options => (signAndSubmit manifest options).Prepares config trace prepared
  | prepare _ _ | resume _ => False

/-- The header of a prepared transaction is the one that its call made. -/
theorem Prepares.makes {call : Call} {prepared : Prepared}
    (prepares : call.Prepares config trace prepared) : call.Makes config trace prepared.header := by
  have made {manifest : Manifest} {options : SubmitOptions}
      (begins : (config.prepare manifest options).run.Begins trace (.ok prepared)) :
      ∃ settled, (config.draft manifest options).run.Begins trace (.ok (settled, prepared.header)) := by
    obtain ⟨before, later, rfl, run⟩ := begins
    obtain ⟨before, rfl, prepared⟩ := ClientConfig.prepare_runs.mp run
    rcases prepared with
      ⟨drafting, settled, header, sealing, rfl, drafted, signed⟩ | ⟨failure, same, -⟩
    · rw [Settlement.sealWith_header signed]
      exact ⟨settled, drafting, sealing ++ later, by simp [failureReport], drafted⟩
    · contradiction
  cases call with
  | prepare manifest options => exact made prepares
  | signAndSubmit manifest options => exact made prepares
  | submit given => exact prepares
  | resume id => exact prepares

theorem draws_of_drafts {manifest : Manifest} {options : SubmitOptions}
    (drafts : config.Drafts manifest options trace) : ∃ made : Option Header,
      (∀ header, (∃ settled, (config.draft manifest options).run.Begins trace
        (.ok (settled, header))) ↔ made = some header) ∧
      noncesOf trace = made.toList.map Header.nonce := by
  obtain ⟨before, outcome, after, rfl, run, undrawn⟩ := drafts
  refine ⟨outcome.toOption.map (·.2), fun header => ?_, ?_⟩
  · simp only [run.begins_iff]
    cases outcome with
    | error failure => simp [Except.toOption]
    | ok drafted => simp [Except.toOption, Prod.ext_iff]
  · rw [noncesOf_append, undrawn, ClientConfig.noncesOf_draft run]
    cases outcome <;> rfl

/-- A call draws the nonce of the header that it makes. -/
theorem noncesOf_perform {call : Call} {result : Except Failure Result}
    (run : (call.perform config).Runs trace result) : ∃ made : Option Header,
      (∀ header, call.Makes config trace header ↔ made = some header) ∧
      noncesOf trace = made.toList.map Header.nonce := by
  cases call with
  | prepare manifest options =>
    obtain ⟨outcome, rfl, performed⟩ := Action.runs_map.mp run
    exact draws_of_drafts (ClientConfig.prepare_drafts performed)
  | signAndSubmit manifest options =>
    obtain ⟨outcome, rfl, performed⟩ := Action.runs_map.mp run
    exact draws_of_drafts (ClientConfig.signAndSubmit_drafts performed)
  | submit prepared =>
    obtain ⟨outcome, rfl, performed⟩ := Action.runs_map.mp run
    exact ⟨none, by simp [Makes], (config.delivers_submit prepared).noncesOf performed⟩
  | resume id =>
    obtain ⟨outcome, rfl, performed⟩ := Action.runs_map.mp run
    exact ⟨none, by simp [Makes], (config.delivers_resume id).noncesOf performed⟩

/-- A call sends the payload of the transaction that it hands in. -/
theorem payloadsOf_perform {call : Call} {result : Except Failure Result}
    (run : (call.perform config).Runs trace result) : ∃ handed : Option Prepared,
      (∀ prepared, call.HandsIn config trace prepared ↔ handed = some prepared) ∧
      payloadsOf trace = handed.toList.map fun prepared => Hex.text prepared.payload := by
  cases call with
  | prepare manifest options =>
    obtain ⟨outcome, rfl, performed⟩ := Action.runs_map.mp run
    exact ⟨none, by simp [HandsIn], ClientConfig.payloadsOf_prepare performed⟩
  | signAndSubmit manifest options =>
    obtain ⟨outcome, rfl, performed⟩ := Action.runs_map.mp run
    rcases Action.runs_bind.mp performed with
      ⟨before, prepared, after, rfl, first, second⟩ | ⟨failure, rfl, failed⟩
    · refine ⟨some prepared, fun other => ?_, ?_⟩
      · rw [HandsIn, Prepares, first.begins_iff, Except.ok.injEq, Option.some.injEq]
      · rw [payloadsOf_append, ClientConfig.payloadsOf_prepare first,
          ClientConfig.payloadsOf_submit second]
        rfl
    · refine ⟨none, fun other => ?_, ClientConfig.payloadsOf_prepare failed⟩
      rw [HandsIn, Prepares, ← List.append_nil trace, failed.begins_iff]
      exact ⟨nofun, nofun⟩
  | submit prepared =>
    obtain ⟨outcome, rfl, performed⟩ := Action.runs_map.mp run
    exact ⟨some prepared, by simp [HandsIn, eq_comm], ClientConfig.payloadsOf_submit performed⟩
  | resume id =>
    obtain ⟨outcome, rfl, performed⟩ := Action.runs_map.mp run
    exact ⟨none, by simp [HandsIn], ClientConfig.payloadsOf_resume performed⟩

end Call

end LedgerWallet
