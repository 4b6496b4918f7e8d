import LedgerWallet.Client.Flow

/-! The runs of a flow: the requests it makes with the answers it gets, and the value it ends in. Every
answer that has the right type is possible here. What a flow comes to in front of someone who answers
in a known way is said by the exchanges that are possible with them. -/
namespace LedgerWallet

/-- A request and its answer. -/
abbrev Exchange := (request : Request) × request.Answer

variable {α β : Type}

namespace Flow

inductive Runs : Flow α → List Exchange → α → Prop where
  | done (value : α) : Runs (.done value) [] value
  | ask {request : Request} {next : request.Answer → Flow α} {rest : List Exchange} {value : α}
      (answer : request.Answer) (run : Runs (next answer) rest value) :
      Runs (.ask request next) (⟨request, answer⟩ :: rest) value

theorem runs_done {value result : α} {trace : List Exchange} :
    (done value).Runs trace result ↔ trace = [] ∧ result = value := by
  constructor
  · rintro ⟨⟩
    exact ⟨rfl, rfl⟩
  · rintro ⟨rfl, rfl⟩
    exact .done result

/-- What runs one after the other leaves the one trace after the other. -/
theorem runs_bind {flow : Flow α} {next : α → Flow β} {trace : List Exchange} {result : β} :
    (flow >>= next).Runs trace result ↔ ∃ before value after, trace = before ++ after ∧
      flow.Runs before value ∧ (next value).Runs after result := by
  induction flow generalizing trace with
  | done value =>
    rw [done_bind]
    constructor
    · exact fun run => ⟨[], value, trace, rfl, .done value, run⟩
    · rintro ⟨before, _, after, rfl, ⟨⟩, run⟩
      exact run
  | ask request rest ih =>
    rw [ask_bind]
    constructor
    · intro run
      cases run with
      | ask answer run =>
        obtain ⟨before, value, after, rfl, first, second⟩ := (ih answer).mp run
        exact ⟨_ :: before, value, after, rfl, .ask answer first, second⟩
    · rintro ⟨before, value, after, rfl, first, second⟩
      cases first with
      | ask answer first => exact .ask answer ((ih answer).mpr ⟨_, value, after, rfl, first, second⟩)

theorem runs_request {r : Request} {trace : List Exchange} {answer : r.Answer} :
    (request r).Runs trace answer ↔ trace = [⟨r, answer⟩] := by
  constructor
  · intro run
    cases run with
    | ask _ run =>
      cases run
      rfl
  · rintro rfl
    exact .ask answer (.done answer)

theorem runs_request_bind {r : Request} {next : r.Answer → Flow β} {trace : List Exchange}
    {result : β} : (request r >>= next).Runs trace result ↔
      ∃ answer rest, trace = ⟨r, answer⟩ :: rest ∧ (next answer).Runs rest result := by
  constructor
  · intro run
    cases run with
    | ask answer run => exact ⟨answer, _, rfl, run⟩
  · rintro ⟨answer, rest, rfl, run⟩
    exact .ask answer run

theorem runs_map {f : α → β} {flow : Flow α} {trace : List Exchange} {result : β} :
    (f <$> flow).Runs trace result ↔ ∃ value, result = f value ∧ flow.Runs trace value := by
  rw [map_eq_pure_bind, runs_bind]
  constructor
  · rintro ⟨before, value, after, rfl, run, ended⟩
    obtain ⟨rfl, rfl⟩ := runs_done.mp ended
    exact ⟨value, rfl, by rwa [List.append_nil]⟩
  · rintro ⟨value, rfl, run⟩
    exact ⟨trace, value, [], (List.append_nil trace).symm, run, runs_done.mpr ⟨rfl, rfl⟩⟩

/-- Flows for the elements of a list follow one another, and so do their traces and their values. -/
theorem runs_mapM_cons {f : α → Flow β} {head : α} {rest : List α} {trace : List Exchange}
    {results : List β} : ((head :: rest).mapM f).Runs trace results ↔
      ∃ before result after others, trace = before ++ after ∧ results = result :: others ∧
        (f head).Runs before result ∧ (rest.mapM f).Runs after others := by
  rw [List.mapM_cons, runs_bind]
  constructor
  · rintro ⟨before, result, after, rfl, first, run⟩
    obtain ⟨others, rfl, later⟩ := runs_map.mp (bind_pure_comp (m := Flow) _ _ ▸ run)
    exact ⟨before, result, after, others, rfl, rfl, first, later⟩
  · rintro ⟨before, result, after, others, rfl, rfl, first, later⟩
    refine ⟨before, result, after, rfl, first, ?_⟩
    rw [bind_pure_comp]
    exact runs_map.mpr ⟨others, rfl, later⟩

/-- The exchanges with someone who remembers, and what they remember after them. -/
inductive Exchanges {σ : Type} (answer : (request : Request) → StateM σ request.Answer) :
    σ → List Exchange → σ → Prop where
  | none (state : σ) : Exchanges answer state [] state
  | ask {state last : σ} {request : Request} {rest : List Exchange}
      (later : Exchanges answer (answer request state).2 rest last) :
      Exchanges answer state (⟨request, (answer request state).1⟩ :: rest) last

/-- To carry a flow out is to go through the one of its runs that the answers choose. -/
theorem run_eq_iff {σ : Type} {answer : (request : Request) → StateM σ request.Answer}
    {flow : Flow α} {state last : σ} {value : α} : flow.run answer state = (value, last) ↔
      ∃ trace, flow.Runs trace value ∧ Exchanges answer state trace last := by
  induction flow generalizing state with
  | done _ =>
    constructor
    · rintro ⟨⟩
      exact ⟨[], .done _, .none _⟩
    · rintro ⟨trace, run, exchanges⟩
      obtain ⟨rfl, rfl⟩ := runs_done.mp run
      cases exchanges
      rfl
  | ask request next ih =>
    have asked : (ask request next).run answer state =
        (next (answer request state).1).run answer (answer request state).2 := rfl
    rw [asked, ih]
    constructor
    · rintro ⟨rest, run, exchanges⟩
      exact ⟨_, .ask _ run, .ask exchanges⟩
    · rintro ⟨trace, run, exchanges⟩
      cases exchanges with
      | none => nomatch run
      | ask later =>
        cases run with
        | ask _ run => exact ⟨_, run, later⟩

/-- No run goes on from where another one ended. -/
theorem Runs.unique {flow : Flow α} {before before' rest rest' : List Exchange} {value value' : α}
    (run : flow.Runs before value) (run' : flow.Runs before' value')
    (same : before ++ rest = before' ++ rest') : before = before' ∧ value = value' := by
  induction run generalizing before' with
  | done value =>
    obtain ⟨rfl, rfl⟩ := runs_done.mp run'
    exact ⟨rfl, rfl⟩
  | ask answer _ ih =>
    cases run' with
    | ask answer' run' =>
      rw [List.cons_append, List.cons_append, List.cons.injEq] at same
      obtain ⟨head, tail⟩ := same
      cases head
      obtain ⟨rfl, rfl⟩ := ih run' tail
      exact ⟨rfl, rfl⟩

/-- The trace begins with a run of the flow that ends in the value. -/
def Begins (flow : Flow α) (trace : List Exchange) (value : α) : Prop :=
  ∃ before after, trace = before ++ after ∧ flow.Runs before value

/-- One run is all that a trace begins with. -/
theorem Runs.begins_iff {flow : Flow α} {before : List Exchange} {value other : α}
    (run : flow.Runs before value) (after : List Exchange) :
    flow.Begins (before ++ after) other ↔ value = other := by
  constructor
  · rintro ⟨before', after', same, run'⟩
    exact (run.unique run' same).2
  · rintro rfl
    exact ⟨before, after, rfl, run⟩

end Flow

namespace Action

/-- The runs of an action, which may end in a failure. -/
def Runs (action : Action α) (trace : List Exchange) (result : Except Failure α) : Prop :=
  Flow.Runs action.run trace result

variable {trace : List Exchange}

theorem runs_pure {value : α} {result : Except Failure α} :
    Runs (pure value) trace result ↔ trace = [] ∧ result = .ok value := Flow.runs_done

theorem runs_throw {failure : Failure} {result : Except Failure α} :
    Runs (throw failure) trace result ↔ trace = [] ∧ result = .error failure := Flow.runs_done

theorem runs_map {f : α → β} {action : Action α} {result : Except Failure β} :
    Runs (f <$> action) trace result ↔ ∃ outcome, result = outcome.map f ∧ Runs action trace outcome := by
  rw [Runs, ExceptT.run_map, Flow.runs_map]
  rfl

/-- A failure ends the run, and a value goes on to what comes next. -/
theorem runs_bind {action : Action α} {next : α → Action β} {result : Except Failure β} :
    Runs (action >>= next) trace result ↔
      (∃ before value after, trace = before ++ after ∧ Runs action before (.ok value) ∧
        Runs (next value) after result) ∨
      ∃ failure, result = .error failure ∧ Runs action trace (.error failure) := by
  rw [Runs, ExceptT.run_bind, Flow.runs_bind]
  constructor
  · rintro ⟨before, value | value, after, rfl, first, second⟩
    · obtain ⟨rfl, rfl⟩ := Flow.runs_done.mp second
      exact .inr ⟨value, rfl, by rwa [List.append_nil]⟩
    · exact .inl ⟨before, value, after, rfl, first, second⟩
  · rintro (⟨before, value, after, rfl, first, second⟩ | ⟨failure, rfl, first⟩)
    · exact ⟨before, .ok value, after, rfl, first, second⟩
    · exact ⟨trace, .error failure, [], (List.append_nil trace).symm, first, .done _⟩

theorem runs_lift {flow : Flow α} {result : Except Failure α} :
    Runs (liftM flow) trace result ↔ ∃ value, result = .ok value ∧ flow.Runs trace value := by
  have lifted : (liftM flow : Action α).run = flow >>= fun value => .done (.ok value) := rfl
  rw [Runs, lifted, Flow.runs_bind]
  constructor
  · rintro ⟨before, value, after, rfl, first, second⟩
    obtain ⟨rfl, rfl⟩ := Flow.runs_done.mp second
    exact ⟨value, rfl, by rwa [List.append_nil]⟩
  · rintro ⟨value, rfl, run⟩
    exact ⟨trace, value, [], (List.append_nil trace).symm, run, .done _⟩

theorem runs_request {r : Request} {result : Except Failure r.Answer} :
    Runs (request r) trace result ↔ ∃ answer, result = .ok answer ∧ trace = [⟨r, answer⟩] := by
  have lifted : request r = liftM (Flow.request r) := rfl
  rw [lifted, runs_lift]
  simp only [Flow.runs_request]

/-- What comes after a request goes on from its answer. -/
theorem runs_request_bind {r : Request} {next : r.Answer → Action β} {result : Except Failure β} :
    Runs (request r >>= next) trace result ↔
      ∃ answer rest, trace = ⟨r, answer⟩ :: rest ∧ Runs (next answer) rest result := by
  have asked : (request r >>= next).run = Flow.request r >>= fun answer => (next answer).run := rfl
  rw [Runs, asked, Flow.runs_request_bind]
  rfl

/-- What handles a failure runs after it. -/
theorem runs_tryCatch {action : Action α} {handle : Failure → Action α} {result : Except Failure α} :
    Runs (tryCatch action handle) trace result ↔
      (∃ value, result = .ok value ∧ Runs action trace (.ok value)) ∨
      ∃ before failure after, trace = before ++ after ∧ Runs action before (.error failure) ∧
        Runs (handle failure) after result := by
  have unfolded : (tryCatch action handle).run = action.run >>= fun outcome =>
      match outcome with
      | .ok value => .done (.ok value)
      | .error failure => (handle failure).run := by
    refine bind_congr (x := action.run) fun outcome => ?_
    cases outcome <;> rfl
  rw [Runs, unfolded, Flow.runs_bind]
  constructor
  · rintro ⟨before, failure | value, after, rfl, first, second⟩
    · exact .inr ⟨before, failure, after, rfl, first, second⟩
    · obtain ⟨rfl, rfl⟩ := Flow.runs_done.mp second
      exact .inl ⟨value, rfl, by rwa [List.append_nil]⟩
  · rintro (⟨value, rfl, first⟩ | ⟨before, failure, after, rfl, first, second⟩)
    · exact ⟨trace, .ok value, [], (List.append_nil trace).symm, first, .done _⟩
    · exact ⟨before, .error failure, after, rfl, first, second⟩

end Action

/-- What a flow can come to where only some exchanges are possible. -/
def Flow.Yields (possible : Exchange → Prop) (flow : Flow α) (result : α) : Prop :=
  ∃ trace, flow.Runs trace result ∧ ∀ exchange ∈ trace, possible exchange

namespace Flow

variable {possible : Exchange → Prop}

theorem yields_done {value result : α} : (done value).Yields possible result ↔ result = value := by
  constructor
  · rintro ⟨trace, run, -⟩
    exact (runs_done.mp run).2
  · rintro rfl
    exact ⟨[], .done result, nofun⟩

theorem yields_ask {r : Request} {next : r.Answer → Flow α} {result : α} :
    (ask r next).Yields possible result ↔
      ∃ answer, possible ⟨r, answer⟩ ∧ (next answer).Yields possible result := by
  constructor
  · rintro ⟨_, run, answered⟩
    cases run with
    | ask answer run =>
      rw [List.forall_mem_cons] at answered
      exact ⟨answer, answered.1, _, run, answered.2⟩
  · rintro ⟨answer, first, trace, run, rest⟩
    exact ⟨_, .ask answer run, List.forall_mem_cons.mpr ⟨first, rest⟩⟩

theorem yields_bind {flow : Flow α} {next : α → Flow β} {result : β} :
    (flow >>= next).Yields possible result ↔
      ∃ value, flow.Yields possible value ∧ (next value).Yields possible result := by
  constructor
  · rintro ⟨trace, run, answered⟩
    obtain ⟨before, value, after, rfl, first, second⟩ := runs_bind.mp run
    rw [List.forall_mem_append] at answered
    exact ⟨value, ⟨before, first, answered.1⟩, ⟨after, second, answered.2⟩⟩
  · rintro ⟨value, ⟨before, first, early⟩, ⟨after, second, late⟩⟩
    exact ⟨before ++ after, runs_bind.mpr ⟨before, value, after, rfl, first, second⟩,
      List.forall_mem_append.mpr ⟨early, late⟩⟩

theorem yields_request {r : Request} {answer : r.Answer} :
    (request r).Yields possible answer ↔ possible ⟨r, answer⟩ := by
  simp only [request, yields_ask, yields_done, exists_eq_right']

end Flow

namespace Action

def Yields (possible : Exchange → Prop) (action : Action α) (result : Except Failure α) : Prop :=
  ∃ trace, Runs action trace result ∧ ∀ exchange ∈ trace, possible exchange

variable {possible : Exchange → Prop}

theorem yields_pure {value : α} {result : Except Failure α} :
    Yields possible (pure value) result ↔ result = .ok value := Flow.yields_done

theorem yields_throw {failure : Failure} {result : Except Failure α} :
    Yields possible (throw failure) result ↔ result = .error failure := Flow.yields_done

theorem yields_bind {action : Action α} {next : α → Action β} {result : Except Failure β} :
    Yields possible (action >>= next) result ↔
      (∃ value, Yields possible action (.ok value) ∧ Yields possible (next value) result) ∨
      ∃ failure, result = .error failure ∧ Yields possible action (.error failure) := by
  constructor
  · rintro ⟨trace, run, answered⟩
    rcases runs_bind.mp run with
      ⟨before, value, after, rfl, first, second⟩ | ⟨failure, rfl, first⟩
    · rw [List.forall_mem_append] at answered
      exact .inl ⟨value, ⟨before, first, answered.1⟩, ⟨after, second, answered.2⟩⟩
    · exact .inr ⟨failure, rfl, trace, first, answered⟩
  · rintro (⟨value, ⟨before, first, early⟩, ⟨after, second, late⟩⟩ | ⟨failure, rfl, trace, run, all⟩)
    · exact ⟨before ++ after, runs_bind.mpr (.inl ⟨before, value, after, rfl, first, second⟩),
        List.forall_mem_append.mpr ⟨early, late⟩⟩
    · exact ⟨trace, runs_bind.mpr (.inr ⟨failure, rfl, run⟩), all⟩

/-- An action that ends in a value had one from each of its steps. -/
theorem yields_bind_ok {action : Action α} {next : α → Action β} {result : β} :
    Yields possible (action >>= next) (.ok result) ↔
      ∃ value, Yields possible action (.ok value) ∧ Yields possible (next value) (.ok result) := by
  rw [yields_bind]
  exact or_iff_left fun ⟨_, failed, _⟩ => nomatch failed

theorem yields_lift {flow : Flow α} {result : Except Failure α} :
    Yields possible (liftM flow) result ↔ ∃ value, result = .ok value ∧ flow.Yields possible value := by
  simp only [Yields, Flow.Yields, runs_lift]
  constructor
  · rintro ⟨trace, ⟨value, rfl, run⟩, answered⟩
    exact ⟨value, rfl, trace, run, answered⟩
  · rintro ⟨value, rfl, trace, run, answered⟩
    exact ⟨trace, ⟨value, rfl, run⟩, answered⟩

theorem yields_lift_bind {flow : Flow α} {next : α → Action β} {result : Except Failure β} :
    Yields possible (liftM flow >>= next) result ↔
      ∃ value, flow.Yields possible value ∧ Yields possible (next value) result := by
  rw [yields_bind]
  constructor
  · rintro (⟨value, ran, rest⟩ | ⟨failure, -, failed⟩)
    · obtain ⟨_, ⟨⟩, yields⟩ := yields_lift.mp ran
      exact ⟨value, yields, rest⟩
    · obtain ⟨_, ⟨⟩, -⟩ := yields_lift.mp failed
  · rintro ⟨value, yields, rest⟩
    exact .inl ⟨value, yields_lift.mpr ⟨value, rfl, yields⟩, rest⟩

/-- What comes after a request goes on from a possible answer. -/
theorem yields_request_bind {r : Request} {next : r.Answer → Action β} {result : Except Failure β} :
    Yields possible (request r >>= next) result ↔
      ∃ answer, possible ⟨r, answer⟩ ∧ Yields possible (next answer) result := by
  have lifted : request r = liftM (Flow.request r) := rfl
  rw [lifted, yields_lift_bind]
  simp only [Flow.yields_request]

end Action

end LedgerWallet
