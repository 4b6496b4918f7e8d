import LedgerWallet.Proofs.Metrics.Counters
import Mathlib.Algebra.BigOperators.Group.Finset.Piecewise
import Mathlib.Data.Fintype.Basic

/-! Flows of one client that are under way at the same time. They take turns at their requests, in any
order. The source of the nonces and the metrics are all that they share, so that such a run is a run of
each flow on its own and one of what is shared. -/
namespace LedgerWallet

variable {α : Type} {trace : List Exchange}

namespace Flow

/-- The requests that a flow has made so far, and what is left of it then. -/
inductive Reaches : Flow α → List Exchange → Flow α → Prop where
  | still (flow : Flow α) : Reaches flow [] flow
  | ask {request : Request} {next : request.Answer → Flow α} {rest : List Exchange} {left : Flow α}
      (answer : request.Answer) (later : Reaches (next answer) rest left) :
      Reaches (.ask request next) (⟨request, answer⟩ :: rest) left

theorem reaches_done {flow : Flow α} {value : α} :
    flow.Reaches trace (.done value) ↔ flow.Runs trace value := by
  constructor
  · intro reaches
    generalize same : Flow.done value = left at reaches
    induction reaches with
    | still flow =>
      subst same
      exact .done value
    | ask answer _ ih => exact .ask answer (ih same)
  · intro run
    induction run with
    | done value => exact .still _
    | ask answer _ ih => exact .ask answer ih

theorem reaches_nil {flow left : Flow α} : flow.Reaches [] left ↔ left = flow := by
  constructor
  · rintro ⟨⟩
    rfl
  · rintro rfl
    exact .still left

theorem reaches_ask {request : Request} {next : request.Answer → Flow α} {answer : request.Answer}
    {rest : List Exchange} {left : Flow α} :
    (ask request next).Reaches (⟨request, answer⟩ :: rest) left ↔ (next answer).Reaches rest left := by
  constructor
  · rintro ⟨⟩
    assumption
  · exact .ask answer

/-- What a flow asks next is known from the first of its requests. -/
theorem Reaches.waits {flow left : Flow α} {exchange : Exchange} {rest : List Exchange}
    (reaches : flow.Reaches (exchange :: rest) left) : ∃ next, flow = .ask exchange.1 next := by
  cases reaches with
  | ask answer later => exact ⟨_, rfl⟩

end Flow

/-- Answers to all requests, told by what was asked before. -/
abbrev Script := List Exchange → (request : Request) → request.Answer

namespace Script

def answer (script : Script) (request : Request) : StateM (List Exchange) request.Answer :=
  fun before => (script before request, before ++ [⟨request, script before request⟩])

/-- The script has the answers of a trace, where the same was asked before. -/
def Follows (script : Script) (trace : List Exchange) : Prop :=
  ∀ before exchange after, trace = before ++ exchange :: after →
    script before exchange.1 = exchange.2

theorem exchanges_iff {script : Script} {past last : List Exchange} :
    Flow.Exchanges script.answer past trace last ↔ last = past ++ trace ∧
      ∀ before exchange after, trace = before ++ exchange :: after →
        script (past ++ before) exchange.1 = exchange.2 := by
  induction trace generalizing past with
  | nil =>
    constructor
    · rintro ⟨⟩
      exact ⟨(List.append_nil _).symm, by simp⟩
    · rintro ⟨rfl, -⟩
      rw [List.append_nil]
      exact .none past
  | cons exchange rest ih =>
    constructor
    · intro exchanges
      cases exchanges with
      | ask later =>
        obtain ⟨rfl, told⟩ := ih.mp later
        refine ⟨(List.append_cons ..).symm, fun before exchange after split => ?_⟩
        cases before with
        | nil =>
          cases split
          rw [List.append_nil]
          rfl
        | cons first before =>
          obtain ⟨rfl, rest⟩ := List.cons.inj split
          rw [List.append_cons]
          exact told before exchange after rest
    · rintro ⟨rfl, told⟩
      obtain ⟨request, answer⟩ := exchange
      have first : script past request = answer := by
        simpa only [List.append_nil] using told [] _ rest rfl
      subst first
      refine .ask (ih.mpr ⟨List.append_cons .., fun before exchange after split => ?_⟩)
      have asked := told (_ :: before) exchange after (congrArg _ split)
      rwa [List.append_cons] at asked

/-- A script takes a flow along the run whose answers it has. -/
theorem run_eq_iff {script : Script} {flow : Flow α} {value : α} :
    flow.run script.answer [] = (value, trace) ↔ flow.Runs trace value ∧ script.Follows trace := by
  rw [Flow.run_eq_iff]
  constructor
  · rintro ⟨_, run, exchanges⟩
    obtain ⟨rfl, told⟩ := exchanges_iff.mp exchanges
    exact ⟨run, told⟩
  · exact fun ⟨run, follows⟩ => ⟨trace, run, exchanges_iff.mpr ⟨rfl, follows⟩⟩

end Script

/-- The nonce that an exchange draws. -/
def Exchange.nonce? : Exchange → Option UInt64
  | ⟨.nonce, nonce⟩ => some nonce
  | _ => none

/-- The nonces of a trace, in the order in which they were drawn. -/
def noncesOf (trace : List Exchange) : List UInt64 := trace.filterMap Exchange.nonce?

theorem noncesOf_append (before after : List Exchange) :
    noncesOf (before ++ after) = noncesOf before ++ noncesOf after :=
  List.filterMap_append

theorem noncesOf_cons (exchange : Exchange) (rest : List Exchange) :
    noncesOf (exchange :: rest) = exchange.nonce?.toList ++ noncesOf rest := by
  rw [noncesOf, List.filterMap_cons]
  cases exchange.nonce? <;> rfl

/-- What the flows of a client share: how many nonces were drawn, and what was counted. -/
structure Shared where
  drawn : Nat
  metrics : Metrics

namespace Shared

variable {nonces : Nat → UInt64} {shared shared' : Shared}

def see (shared : Shared) (exchange : Exchange) : Shared :=
  ⟨shared.drawn + exchange.nonce?.toList.length, shared.metrics.see exchange⟩

/-- Exchanges in which each draw gets the next nonce of the source. -/
inductive Sees (nonces : Nat → UInt64) : Shared → List Exchange → Shared → Prop where
  | still (shared : Shared) : Sees nonces shared [] shared
  | see {shared after : Shared} {exchange : Exchange} {rest : List Exchange}
      (drawn : ∀ nonce, exchange.nonce? = some nonce → nonce = nonces shared.drawn)
      (later : Sees nonces (shared.see exchange) rest after) :
      Sees nonces shared (exchange :: rest) after

theorem sees_cons {exchange : Exchange} {rest : List Exchange} :
    shared.Sees nonces (exchange :: rest) shared' ↔
      (∀ nonce, exchange.nonce? = some nonce → nonce = nonces shared.drawn) ∧
        (shared.see exchange).Sees nonces rest shared' := by
  constructor
  · rintro ⟨⟩
    exact ⟨‹_›, ‹_›⟩
  · exact fun ⟨drawn, later⟩ => .see drawn later

theorem sees_append {before after : List Exchange} :
    shared.Sees nonces (before ++ after) shared' ↔
      ∃ between, shared.Sees nonces before between ∧ between.Sees nonces after shared' := by
  induction before generalizing shared with
  | nil =>
    constructor
    · exact fun seen => ⟨shared, .still shared, seen⟩
    · rintro ⟨_, ⟨⟩, seen⟩
      exact seen
  | cons exchange rest ih => simp only [List.cons_append, sees_cons, ih, and_assoc, exists_and_left]

theorem sees_iff : shared.Sees nonces trace shared' ↔
    noncesOf trace = (List.range' shared.drawn (noncesOf trace).length).map nonces ∧
    shared' = ⟨shared.drawn + (noncesOf trace).length, shared.metrics.after trace⟩ := by
  induction trace generalizing shared with
  | nil =>
    constructor
    · rintro ⟨⟩
      exact ⟨rfl, rfl⟩
    · rintro ⟨-, rfl⟩
      exact .still shared
  | cons exchange rest ih =>
    rw [sees_cons, ih, noncesOf_cons, see]
    cases drawn : exchange.nonce? with
    | none => simp [Metrics.after]
    | some nonce =>
      simp [Metrics.after, List.range'_succ, and_assoc, Nat.add_assoc, Nat.add_comm 1]

end Shared

/-- Flows under way at the same time. -/
structure Flight (ι α : Type) where
  flows : ι → Flow α
  shared : Shared

namespace Flight

variable {ι : Type}

/-- The nonces that were drawn, each with the flow that drew it. -/
def draws (turns : List (ι × Exchange)) : List (ι × UInt64) :=
  turns.filterMap fun (who, exchange) => exchange.nonce?.map (who, ·)

theorem draws_cons (who : ι) (exchange : Exchange) (rest : List (ι × Exchange)) :
    draws ((who, exchange) :: rest) = exchange.nonce?.toList.map (who, ·) ++ draws rest := by
  rw [draws, List.filterMap_cons]
  dsimp only
  cases exchange.nonce? <;> rfl

theorem draws_append (before after : List (ι × Exchange)) :
    draws (before ++ after) = draws before ++ draws after :=
  List.filterMap_append

/-- What is drawn in the turns of one flow. -/
theorem draws_map (who : ι) (trace : List Exchange) :
    draws (trace.map (who, ·)) = (noncesOf trace).map (who, ·) := by
  induction trace with
  | nil => rfl
  | cons exchange rest ih => rw [List.map_cons, draws_cons, ih, noncesOf_cons, List.map_append]

theorem draws_map_snd (turns : List (ι × Exchange)) :
    (draws turns).map (·.2) = noncesOf (turns.map (·.2)) := by
  induction turns with
  | nil => rfl
  | cons turn rest ih =>
    obtain ⟨who, exchange⟩ := turn
    rw [draws_cons, List.map_append, ih, List.map_cons, noncesOf_cons]
    cases exchange.nonce? <;> rfl

variable [DecidableEq ι] {nonces : Nat → UInt64} {possible : Exchange → Prop}

/-- One of the flows makes its next request and is answered. -/
inductive Step (nonces : Nat → UInt64) (possible : Exchange → Prop) :
    Flight ι α → ι × Exchange → Flight ι α → Prop where
  | turn {flight : Flight ι α} {who : ι} {request : Request} {next : request.Answer → Flow α}
      (waits : flight.flows who = .ask request next) (answer : request.Answer)
      (allowed : possible ⟨request, answer⟩)
      (drawn : ∀ nonce, Exchange.nonce? ⟨request, answer⟩ = some nonce →
        nonce = nonces flight.shared.drawn) :
      Step nonces possible flight (who, ⟨request, answer⟩)
        ⟨Function.update flight.flows who (next answer), flight.shared.see ⟨request, answer⟩⟩

/-- Any number of turns, of whichever flows. -/
inductive Goes (nonces : Nat → UInt64) (possible : Exchange → Prop) :
    Flight ι α → List (ι × Exchange) → Flight ι α → Prop where
  | still (flight : Flight ι α) : Goes nonces possible flight [] flight
  | turn {flight next finish : Flight ι α} {who : ι} {exchange : Exchange}
      {rest : List (ι × Exchange)} (step : Step nonces possible flight (who, exchange) next)
      (later : Goes nonces possible next rest finish) :
      Goes nonces possible flight ((who, exchange) :: rest) finish

/-- The requests of one of the flows. -/
def own (who : ι) (turns : List (ι × Exchange)) : List Exchange :=
  (turns.filter (·.1 = who)).map (·.2)

theorem own_append (who : ι) (before after : List (ι × Exchange)) :
    own who (before ++ after) = own who before ++ own who after := by
  simp only [own, List.filter_append, List.map_append]

theorem own_cons_self (who : ι) (exchange : Exchange) (rest : List (ι × Exchange)) :
    own who ((who, exchange) :: rest) = exchange :: own who rest := by
  simp [own]

theorem own_cons_of_ne {who other : ι} (different : other ≠ who) (exchange : Exchange)
    (rest : List (ι × Exchange)) : own who ((other, exchange) :: rest) = own who rest := by
  simp [own, different]

/-- A flow that takes all the turns. -/
theorem own_map (who other : ι) (trace : List Exchange) :
    own who (trace.map (other, ·)) = if other = who then trace else [] := by
  induction trace with
  | nil => split <;> rfl
  | cons exchange rest ih =>
    rw [List.map_cons]
    split
    · next same =>
      subst same
      rw [own_cons_self, ih, if_pos rfl]
    · next different =>
      rw [own_cons_of_ne different, ih, if_neg different]

/-- The turn of one flow takes that flow further and leaves the others where they are. -/
theorem reaches_turn {flows finish : ι → Flow α} {who : ι} {request : Request}
    {next : request.Answer → Flow α} (waits : flows who = .ask request next)
    (answer : request.Answer) (rest : List (ι × Exchange)) :
    (∀ other, (flows other).Reaches (own other ((who, ⟨request, answer⟩) :: rest)) (finish other)) ↔
      ∀ other, (Function.update flows who (next answer) other).Reaches (own other rest)
        (finish other) := by
  refine forall_congr' fun other => ?_
  by_cases same : who = other
  · subst same
    rw [own_cons_self, Function.update_self, waits, Flow.reaches_ask]
  · rw [own_cons_of_ne same, Function.update_of_ne (Ne.symm same)]

variable {start finish : Flight ι α} {turns : List (ι × Exchange)}

/-- To take turns is for each flow to go its own way, while what is shared sees it all. -/
theorem goes_iff : start.Goes nonces possible turns finish ↔
    (∀ who, (start.flows who).Reaches (own who turns) (finish.flows who)) ∧
    (∀ turn ∈ turns, possible turn.2) ∧
    start.shared.Sees nonces (turns.map (·.2)) finish.shared := by
  constructor
  · intro goes
    induction goes with
    | still flight => exact ⟨fun who => .still _, nofun, .still _⟩
    | turn step _ ih =>
      obtain ⟨each, allowed, seen⟩ := ih
      cases step with
      | turn waits answer first drawn =>
        exact ⟨(reaches_turn waits answer _).mpr each, List.forall_mem_cons.mpr ⟨first, allowed⟩,
          .see drawn seen⟩
  · rintro ⟨each, allowed, seen⟩
    induction turns generalizing start with
    | nil =>
      obtain ⟨flows, shared⟩ := finish
      have still : flows = start.flows := funext fun who => Flow.reaches_nil.mp (each who)
      cases seen
      subst still
      exact .still start
    | cons turn rest ih =>
      obtain ⟨who, request, answer⟩ := turn
      obtain ⟨first, allowed⟩ := List.forall_mem_cons.mp allowed
      obtain ⟨drawn, seen⟩ := Shared.sees_cons.mp seen
      have own := each who
      rw [own_cons_self] at own
      obtain ⟨next, waits⟩ := own.waits
      exact .turn (.turn waits answer first drawn)
        (ih ((reaches_turn waits answer rest).mp each) allowed seen)

/-- What one flow drew is in its own requests. -/
theorem noncesOf_own (who : ι) (turns : List (ι × Exchange)) :
    noncesOf (own who turns) = ((draws turns).filter (·.1 = who)).map (·.2) := by
  induction turns with
  | nil => rfl
  | cons turn rest ih =>
    obtain ⟨other, exchange⟩ := turn
    rw [draws_cons, List.filter_append, List.map_append]
    by_cases same : other = who
    · subst same
      rw [own_cons_self, noncesOf_cons, ih]
      cases exchange.nonce? <;> simp
    · rw [own_cons_of_ne same, ih]
      cases exchange.nonce? <;> simp [same]

/-- What is counted in all turns is counted in those of each flow. -/
theorem countP_own [Fintype ι] (p : Exchange → Bool) (turns : List (ι × Exchange)) :
    (turns.map (·.2)).countP p = ∑ who, (own who turns).countP p := by
  induction turns with
  | nil => simp [own]
  | cons turn rest ih =>
    obtain ⟨other, exchange⟩ := turn
    have counted (who : ι) : (own who ((other, exchange) :: rest)).countP p =
        (own who rest).countP p + if other = who then if p exchange then 1 else 0 else 0 := by
      by_cases same : other = who
      · subst same
        rw [own_cons_self, List.countP_cons, if_pos rfl]
      · rw [own_cons_of_ne same, if_neg same, Nat.add_zero]
    rw [List.map_cons, List.countP_cons, ih, Finset.sum_congr rfl fun who _ => counted who,
      Finset.sum_add_distrib, Finset.sum_ite_eq, if_pos (Finset.mem_univ other)]

end Flight

end LedgerWallet
