import LedgerWallet.Proofs.Client.Drawing
import LedgerWallet.Proofs.Client.Isolation
import Mathlib.Data.Set.Card

/-! Calls on one client at the same time. They do not disturb each other: each of them makes the
requests and comes to the result that it would make and come to alone with the same answers, and what
they leave in common is put together from what each would leave. -/
namespace LedgerWallet.Call

variable {ι : Type} [DecidableEq ι] {nonces : Nat → UInt64} {wallet : Wallet} {config : ClientConfig}
  {calls : ι → Call} {shared : Shared} {turns : List (ι × Exchange)}
  {finish : Flight ι (Except Failure Result)} {results : ι → Except Failure Result}

/-- Calls that are made on one client at the same time. -/
def launch (config : ClientConfig) (calls : ι → Call) (shared : Shared) :
    Flight ι (Except Failure Result) :=
  ⟨fun who => ((calls who).perform config).run, shared⟩

section

variable (goes : (launch config calls shared).Goes nonces wallet.Answers turns finish)
  (ended : ∀ who, finish.flows who = .done (results who))

include goes ended

theorem runs_own (who : ι) :
    ((calls who).perform config).Runs (Flight.own who turns) (results who) := by
  have reaches := (Flight.goes_iff.mp goes).1 who
  rw [ended who] at reaches
  exact Flow.reaches_done.mp reaches

theorem mem_draws {who : ι} {nonce : UInt64} : (who, nonce) ∈ Flight.draws turns ↔
    ∃ header, (calls who).Makes config (Flight.own who turns) header ∧ header.nonce = nonce := by
  have own : (who, nonce) ∈ Flight.draws turns ↔ nonce ∈ noncesOf (Flight.own who turns) := by
    simp [Flight.noncesOf_own]
  obtain ⟨made, makes, drawn⟩ := noncesOf_perform (runs_own goes ended who)
  rw [own, drawn]
  simp [makes]

theorem nodup_draws : ((Flight.draws turns).map (·.1)).Nodup := by
  rw [List.nodup_iff_count_le_one]
  intro who
  obtain ⟨made, -, drawn⟩ := noncesOf_perform (runs_own goes ended who)
  have count : ((Flight.draws turns).map (·.1)).count who =
      (noncesOf (Flight.own who turns)).length := by
    rw [Flight.noncesOf_own, List.length_map, List.count_eq_countP, List.countP_map,
      List.countP_eq_length_filter]
    rfl
  rw [count, drawn, List.length_map]
  cases made <;> simp

theorem length_payloads [Fintype ι] : (payloadsOf (turns.map (·.2))).length =
    Set.ncard {who | ∃ prepared, (calls who).HandsIn config (Flight.own who turns) prepared} := by
  classical
  have each (who : ι) : (Flight.own who turns).countP (·.payload?.isSome) =
      if ∃ prepared, (calls who).HandsIn config (Flight.own who turns) prepared then 1 else 0 := by
    obtain ⟨handed, handsIn, sent⟩ := payloadsOf_perform (runs_own goes ended who)
    rw [← List.length_filterMap_eq_countP, ← payloadsOf, sent, List.length_map]
    simp only [handsIn]
    cases handed <;> simp
  rw [payloadsOf, List.length_filterMap_eq_countP, Flight.countP_own, Set.ncard_eq_toFinset_card',
    Set.toFinset_ofPred, Finset.card_filter]
  exact Finset.sum_congr rfl fun who _ => each who

omit ended in
theorem read_shared [Fintype ι] (counter : Counter) : finish.shared.metrics.read counter =
    shared.metrics.read counter +
      ∑ who, (Metrics.empty.after (Flight.own who turns)).read counter := by
  obtain ⟨-, -, seen⟩ := Flight.goes_iff.mp goes
  have each (who : ι) : (Metrics.empty.after (Flight.own who turns)).read counter =
      (Flight.own who turns).countP counter.countedBy := by
    rw [Metrics.read_after, Metrics.read_empty, Nat.zero_add]
  rw [(Shared.sees_iff.mp seen).2, Metrics.read_after, Flight.countP_own,
    Finset.sum_congr rfl fun who _ => each who]
  rfl

end

/-- Whatever the order of their turns and whatever they are answered, calls on one client with a fixed
wallet go as they go alone. Each draw of a nonce is for one header, which no other call has and which
gets the next nonce of the source. A payload goes out once for each transaction that is prepared to be
handed in. The counters show the sum of what each call counted. -/
theorem together_as_alone [Fintype ι]
    (goes : (launch config calls shared).Goes nonces wallet.Answers turns finish)
    (ended : ∀ who, finish.flows who = .done (results who)) :
    let own (who : ι) := Flight.own who turns
    let draws := Flight.draws turns
    (∀ who, (∀ exchange ∈ own who, wallet.Answers exchange) ∧
      ((calls who).perform config).Runs (own who) (results who) ∧
      ∀ script : Script, script.Follows (own who) →
        ((calls who).perform config).run.run script.answer [] = (results who, own who)) ∧
    ((draws.map (·.1)).Nodup ∧
      draws.map (·.2) = (List.range' shared.drawn draws.length).map nonces ∧
      finish.shared.drawn = shared.drawn + draws.length ∧
      (∀ who nonce, (who, nonce) ∈ draws ↔
        ∃ header, (calls who).Makes config (own who) header ∧ header.nonce = nonce) ∧
      (∀ who header other, (calls who).Makes config (own who) header →
        (calls who).Makes config (own who) other → header = other) ∧
      ∀ who prepared, (calls who).Prepares config (own who) prepared →
        (calls who).Makes config (own who) prepared.header) ∧
    ((payloadsOf (turns.map (·.2))).length =
        Set.ncard {who | ∃ prepared, (calls who).HandsIn config (own who) prepared} ∧
      ∀ who prepared, (calls who).HandsIn config (own who) prepared →
        payloadsOf (own who) = [Hex.text prepared.payload]) ∧
    ∀ counter, finish.shared.metrics.read counter =
      shared.metrics.read counter + ∑ who, (Metrics.empty.after (own who)).read counter := by
  intro own draws
  obtain ⟨-, answered, seen⟩ := Flight.goes_iff.mp goes
  have alone (who : ι) : ((calls who).perform config).Runs (own who) (results who) :=
    runs_own goes ended who
  have drawn : draws.map (·.2) = noncesOf (turns.map (·.2)) := Flight.draws_map_snd turns
  have length : draws.length = (noncesOf (turns.map (·.2))).length := by
    rw [← drawn, List.length_map]
  obtain ⟨successive, after⟩ := Shared.sees_iff.mp seen
  refine ⟨fun who => ⟨?_, alone who, fun script follows => Script.run_eq_iff.mpr ⟨alone who, follows⟩⟩,
    ⟨nodup_draws goes ended, ?_, ?_, fun _ _ => mem_draws goes ended, ?_, fun _ _ => Prepares.makes⟩,
    ⟨length_payloads goes ended, ?_⟩, read_shared goes⟩
  · intro exchange member
    obtain ⟨turn, inside, rfl⟩ := List.mem_map.mp member
    exact answered turn (List.mem_of_mem_filter inside)
  · rw [drawn, length]
    exact successive
  · rw [after, length]
    rfl
  · intro who header other makes makes'
    obtain ⟨made, same, -⟩ := noncesOf_perform (alone who)
    exact Option.some.inj (((same header).mp makes).symm.trans ((same other).mp makes'))
  · intro who prepared handsIn
    obtain ⟨handed, same, sent⟩ := payloadsOf_perform (alone who)
    rw [sent, (same prepared).mp handsIn]
    rfl

/-- A submission, and a transaction of before that is resumed while the new one is not handed in yet. -/
theorem together_as_alone_sample :
    let prepared := Prepared.sample
    let wallet := Wallet.build .stokenet Prepared.sampleAdditions
    let calls (resumes : Bool) : Call :=
      bif resumes then .resume prepared.id
      else .signAndSubmit Prepared.sampleManifest Prepared.sampleOptions
    ∃ turns finish, (launch .default calls ⟨0, .empty⟩).Goes (fun _ => 77) wallet.Answers turns finish ∧
      (∀ who, finish.flows who = .done (.ok (.committed prepared.id))) ∧
      Flight.draws turns = [(false, 77)] ∧
      (payloadsOf (turns.map (·.2))).length = 1 := by
  intro prepared wallet calls
  have tries : ClientConfig.default.poll.maxTries.toNat = 19 + 1 := rfl
  obtain ⟨preparing, first, answered⟩ := Prepared.prepare_sample fun _ member => member
  obtain ⟨submitting, second, -⟩ := ClientConfig.submit_committed prepared tries
  obtain ⟨resuming, resumed, -⟩ := ClientConfig.resume_committed prepared.id tries
  have drawn : noncesOf preparing = [77] := by
    let call : Call := .prepare Prepared.sampleManifest Prepared.sampleOptions
    have run : (perform .default call).Runs preparing (.ok (.prepared prepared)) :=
      Action.runs_map.mpr ⟨.ok prepared, rfl, first⟩
    have prepares : call.Prepares .default preparing prepared :=
      ⟨preparing, [], (List.append_nil _).symm, first⟩
    obtain ⟨made, makes, drawn⟩ := noncesOf_perform run
    rw [drawn, (makes _).mp prepares.makes]
    rfl
  let turns := preparing.map (false, ·) ++ resuming.map (true, ·) ++ submitting.map (false, ·)
  have ownFalse : Flight.own false turns = preparing ++ submitting := by
    simp [turns, Flight.own_append, Flight.own_map]
  have ownTrue : Flight.own true turns = resuming := by
    simp [turns, Flight.own_append, Flight.own_map]
  have draws : Flight.draws turns = [(false, 77)] := by
    simp only [turns, Flight.draws_append, Flight.draws_map, drawn,
      (ClientConfig.delivers_submit _ _).noncesOf second,
      (ClientConfig.delivers_resume _ _).noncesOf resumed]
    rfl
  have told : ∀ turn ∈ turns, wallet.Answers turn.2 := by
    have early := Prepared.answers_sample
    have late := (ClientConfig.delivers_submit _ _).answered second wallet
    have between := (ClientConfig.delivers_resume _ _).answered resumed wallet
    simp only [turns, List.forall_mem_append, List.forall_mem_map]
    exact ⟨⟨fun exchange member => early exchange (answered exchange member), between⟩, late⟩
  have submitted : (perform .default (calls false)).Runs (preparing ++ submitting)
      (.ok (.committed prepared.id)) :=
    Action.runs_map.mpr ⟨.ok prepared.id, rfl, Action.runs_bind.mpr
      (.inl ⟨preparing, prepared, submitting, rfl, first, second⟩)⟩
  let shared : Shared := ⟨1, Metrics.empty.after (turns.map (·.2))⟩
  have seen : Shared.Sees (fun _ => 77) ⟨0, .empty⟩ (turns.map (·.2)) shared := by
    rw [Shared.sees_iff, ← Flight.draws_map_snd, draws]
    exact ⟨rfl, rfl⟩
  have goes : (launch .default calls ⟨0, .empty⟩).Goes (fun _ => 77) wallet.Answers turns
      ⟨fun _ => .done (.ok (.committed prepared.id)), shared⟩ := by
    refine Flight.goes_iff.mpr ⟨fun who => Flow.reaches_done.mpr ?_, told, seen⟩
    cases who with
    | false => exact ownFalse ▸ submitted
    | true => exact ownTrue ▸ Action.runs_map.mpr ⟨.ok prepared.id, rfl, resumed⟩
  obtain ⟨-, -, ⟨sent, -⟩, -⟩ := together_as_alone goes fun _ => rfl
  refine ⟨turns, _, goes, fun _ => rfl, draws, sent.trans (Set.ncard_eq_one.mpr ⟨false, ?_⟩)⟩
  ext who
  cases who with
  | false =>
    have handsIn : (calls false).HandsIn .default (Flight.own false turns) prepared :=
      ⟨preparing, submitting, ownFalse, first⟩
    exact iff_of_true ⟨prepared, handsIn⟩ rfl
  | true =>
    constructor
    · rintro ⟨_, handsIn⟩
      exact handsIn.elim
    · intro same
      cases same

end LedgerWallet.Call
