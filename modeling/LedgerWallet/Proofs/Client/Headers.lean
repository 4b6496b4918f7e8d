import LedgerWallet.Proofs.Client.Drawing
import LedgerWallet.Proofs.Client.Signing

/-! The headers of preparations that follow one another. The ledger is asked for its epoch once
everything else about a header is known, and a nonce is drawn once the epoch is known to have a window.
So each draw is for one header, and a header is made of one draw, also where it comes to nothing. -/
namespace LedgerWallet

variable {trace : List Exchange}

namespace Header

theorem endOf?_eq_some {start last : UInt64} :
    endOf? start = some last ↔ last.toNat = start.toNat + 10 := by
  have bound := last.toNat_lt
  rw [endOf?, epochWindow, Option.ite_none_right_eq_some, Option.some.injEq]
  constructor
  · rintro ⟨room, rfl⟩
    exact UInt64.toNat_ofNat_of_lt' room
  · intro same
    refine ⟨same ▸ bound, ?_⟩
    rw [← same, UInt64.ofNat_toNat]

theorem endOf?_eq_none {start : UInt64} : endOf? start = none ↔ 2 ^ 64 - 1 < start.toNat + 10 := by
  have full : endOf? start = none ↔ ¬ start.toNat + 10 < UInt64.size := by
    simp [endOf?, epochWindow]
  rw [full, UInt64.size]
  omega

end Header

/-- What the ledger answers when it is asked for its epoch. -/
def Exchange.epoch? : Exchange → Option (Except GatewayError UInt64)
  | ⟨.epoch, answer⟩ => some answer
  | _ => none

def epochsOf (trace : List Exchange) : List (Except GatewayError UInt64) :=
  trace.filterMap Exchange.epoch?

theorem epochsOf_append (before after : List Exchange) :
    epochsOf (before ++ after) = epochsOf before ++ epochsOf after :=
  List.filterMap_append

/-- Neither the ledger nor the source of the nonces is asked. -/
def Quiet (trace : List Exchange) : Prop := epochsOf trace = [] ∧ noncesOf trace = []

theorem Quiet.append {before after : List Exchange} (first : Quiet before) (second : Quiet after) :
    Quiet (before ++ after) := by
  rw [Quiet, epochsOf_append, noncesOf_append, first.1, first.2, second.1, second.2]
  exact ⟨rfl, rfl⟩

theorem Action.KeysOnly.quiet {α : Type} {action : Action α} (keys : action.KeysOnly)
    {result : Except Failure α} (run : action.Runs trace result) : Quiet trace := by
  refine ⟨Flow.Uses.filterMap_eq_nil keys (fun exchange asked => ?_) run, keys.noncesOf run⟩
  obtain ⟨request, answer⟩ := exchange
  cases request <;> first | rfl | contradiction

theorem quiet_failureReport {α : Type} (result : Except Failure α) : Quiet (failureReport result) := by
  cases result <;> exact ⟨rfl, rfl⟩

namespace ClientConfig

variable {config : ClientConfig} {manifest : Manifest} {options : SubmitOptions}

theorem requireNetwork_runs_ok {network : Network} :
    (requireNetwork network).Runs trace (.ok ()) ↔ trace = [⟨.network, network⟩] := by
  rw [requireNetwork, Action.runs_request_bind]
  constructor
  · rintro ⟨own, rest, rfl, run⟩
    split at run
    · cases (Action.runs_throw.mp run).2
    · next same =>
      obtain ⟨rfl, -⟩ := Action.runs_pure.mp run
      rw [not_not.mp same]
  · rintro rfl
    exact ⟨network, [], rfl, by simpa using Action.runs_pure.mpr ⟨rfl, rfl⟩⟩

theorem allowText_of_withFee {amended : Manifest × Option Address}
    (run : (config.withFee manifest options).Runs trace (.ok amended)) (isText : manifest.isText) :
    config.allowText := by
  rw [withFee, if_pos isText] at run
  split at run
  · assumption
  · cases (Action.runs_throw.mp run).2

/-- What was asked up to here cleared the way for a header: the wallet is on the network of the manifest,
text is allowed if the manifest is text, and there is somebody to sign. -/
def Clears (config : ClientConfig) (manifest : Manifest) (options : SubmitOptions)
    (asked : List Exchange) : Prop :=
  ∃ paying resolving amended payer parties,
    asked = ⟨.network, manifest.network⟩ :: (paying ++ resolving) ∧
    (manifest.isText → config.allowText) ∧
    (config.withFee manifest options).Runs paying (.ok (amended, payer)) ∧
    (resolveParties amended.network amended options.extraSigners).Runs resolving (.ok parties)

theorem clears_of_settle {settled : Settlement}
    (run : (config.settle manifest options).Runs trace (.ok settled)) :
    config.Clears manifest options trace := by
  rcases Action.runs_bind.mp run with ⟨_, ⟨⟩, rest, rfl, required, run⟩ | ⟨_, ⟨⟩, -⟩
  rcases Action.runs_bind.mp run with
    ⟨paying, ⟨amended, payer⟩, rest, rfl, paid, run⟩ | ⟨_, ⟨⟩, -⟩
  rcases Action.runs_bind.mp run with ⟨resolving, parties, rest, rfl, resolved, run⟩ | ⟨_, ⟨⟩, -⟩
  obtain ⟨rfl, -⟩ := Action.runs_pure.mp run
  refine ⟨paying, resolving, amended, payer, parties, ?_, allowText_of_withFee paid, paid, resolved⟩
  rw [requireNetwork_runs_ok.mp required, List.append_nil, List.singleton_append]

/-- Around its header a preparation leaves the ledger and the nonces alone. Without a header it fails,
and with one it is prepared with that header or fails later on. -/
theorem prepare_header {result : Except Failure Prepared}
    (run : (config.prepare manifest options).Runs trace result) :
    (Quiet trace ∧ ∃ failure, result = .error failure) ∨
    ∃ early network notary made header late, trace = early ++ made ++ late ∧
      config.Clears manifest options early ∧ Quiet early ∧ Quiet late ∧
      (freshHeader network notary).Runs made header ∧
      (∀ failure, header = .error failure → result = .error failure) ∧
      ∀ prepared, result = .ok prepared → header = .ok prepared.header := by
  obtain ⟨before, rfl, prepared⟩ := prepare_runs.mp run
  have reported := quiet_failureReport result
  rcases prepared with
    ⟨drafting, settled, header, sealing, rfl, drafted, signed⟩ | ⟨failure, rfl, failed⟩
  · rcases draft_runs.mp drafted with
      ⟨_, ⟨⟩, -⟩ | ⟨early, own, made, outcome, rfl, same, first, second⟩
    cases outcome with
    | error e => contradiction
    | ok header =>
      cases same
      have sealed := (settled.signersOnly_sealWith options.message header).keysOnly.quiet signed
      refine .inr ⟨early, _, _, made, .ok header, sealing ++ failureReport result, by simp,
        clears_of_settle first, walletOnly_settle.keysOnly.quiet first, sealed.append reported, second,
        nofun, ?_⟩
      rintro prepared rfl
      rw [Settlement.sealWith_header signed]
  · rcases draft_runs.mp failed with
      ⟨_, ⟨⟩, unsettled⟩ | ⟨early, settled, made, outcome, rfl, same, first, second⟩
    · exact .inl ⟨(walletOnly_settle.keysOnly.quiet unsettled).append reported, failure, rfl⟩
    · cases outcome with
      | ok header => contradiction
      | error e =>
        cases same
        refine .inr ⟨early, _, _, made, .error failure, _, rfl, clears_of_settle first,
          walletOnly_settle.keysOnly.quiet first, reported, second, ?_, ?_⟩
        · rintro _ ⟨⟩
          rfl
        · rintro _ ⟨⟩

end ClientConfig

/-- A preparation as one of many. -/
structure Attempt where
  manifest : Manifest
  options : SubmitOptions
  trace : List Exchange
  result : Except Failure Prepared
  /-- Where the source of the nonces stood when the nonce of the header was drawn. -/
  drawn : Option Nat

/-- What an attempt has to do with the ledger and the source of the nonces. -/
structure Attempt.Sound (config : ClientConfig) (nonces : Nat → UInt64) (attempt : Attempt) :
    Prop where
  runs : (config.prepare attempt.manifest attempt.options).Runs attempt.trace attempt.result
  /-- The ledger is asked once or not at all, and only when the way is clear. -/
  asks : epochsOf attempt.trace = [] ∨ ∃ before answer after,
    attempt.trace = before ++ ⟨.epoch, answer⟩ :: after ∧ epochsOf before = [] ∧
      epochsOf after = [] ∧ config.Clears attempt.manifest attempt.options before
  draws : noncesOf attempt.trace = attempt.drawn.toList.map nonces
  drawn_iff : attempt.drawn ≠ none ↔
    ∃ epoch, epochsOf attempt.trace = [.ok epoch] ∧ epoch.toNat + 10 ≤ 2 ^ 64 - 1
  prepared : ∀ prepared, attempt.result = .ok prepared → ∃ epoch position,
    epochsOf attempt.trace = [.ok epoch] ∧ attempt.drawn = some position ∧
      prepared.header.startEpoch = epoch ∧ prepared.header.endEpoch.toNat = epoch.toNat + 10 ∧
      prepared.header.nonce = nonces position
  unanswered : ∀ e, epochsOf attempt.trace = [.error e] →
    attempt.drawn = none ∧ attempt.result = .error (.getEpoch e.message)
  overflow : ∀ epoch, epochsOf attempt.trace = [.ok epoch] → 2 ^ 64 - 1 < epoch.toNat + 10 →
    attempt.drawn = none ∧ ∃ reason, attempt.result = .error (.buildHeader reason)

namespace ClientConfig

variable {config : ClientConfig} {nonces : Nat → UInt64}

/-- One preparation takes the next nonce or leaves it to those that follow. -/
theorem prepare_sound {manifest : Manifest} {options : SubmitOptions}
    {result : Except Failure Prepared} (run : (config.prepare manifest options).Runs trace result)
    {position : Nat}
    (next : noncesOf trace = (List.range' position (noncesOf trace).length).map nonces) :
    ∃ drawn : Option Nat, Attempt.Sound config nonces ⟨manifest, options, trace, result, drawn⟩ ∧
      drawn.toList = List.range' position (noncesOf trace).length := by
  rcases prepare_header run with ⟨⟨epochs, undrawn⟩, failure, rfl⟩ |
    ⟨early, network, notary, made, header, late, split, clears, quiet, quiet', fresh, failed, ended⟩
  · rw [undrawn]
    refine ⟨none, ?_, rfl⟩
    exact {
      runs := run
      asks := .inl epochs
      draws := undrawn
      drawn_iff := by simp [epochs]
      prepared := fun _ succeeded => nomatch succeeded
      unanswered := by simp [epochs]
      overflow := by simp [epochs] }
  have epochs : epochsOf trace = epochsOf made := by
    rw [split, epochsOf_append, epochsOf_append, quiet.1, quiet'.1, List.nil_append, List.append_nil]
  have drawn : noncesOf trace = noncesOf made := by
    rw [split, noncesOf_append, noncesOf_append, quiet.2, quiet'.2, List.nil_append, List.append_nil]
  have asks {answer : Except GatewayError UInt64} {rest : List Exchange}
      (asked : made = ⟨.epoch, answer⟩ :: rest) (once : epochsOf rest = []) :
      ∃ before answer after, trace = before ++ ⟨.epoch, answer⟩ :: after ∧
        epochsOf before = [] ∧ epochsOf after = [] ∧ config.Clears manifest options before := by
    refine ⟨early, answer, rest ++ late, by simp [split, asked], quiet.1, ?_, clears⟩
    rw [epochsOf_append, once, quiet'.1]
    rfl
  rw [drawn] at next ⊢
  rcases freshHeader_runs.mp fresh with ⟨e, rfl, rfl⟩ | ⟨start, rfl, window, rfl⟩ |
    ⟨start, last, nonce, rfl, window, rfl⟩
  · have told : epochsOf trace = [.error e] := epochs
    refine ⟨none, ?_, rfl⟩
    cases failed _ rfl
    exact {
      runs := run
      asks := .inr (asks rfl rfl)
      draws := drawn
      drawn_iff := by simp [told]
      prepared := fun _ succeeded => nomatch succeeded
      unanswered := by simp [told]
      overflow := by simp [told] }
  · have told : epochsOf trace = [.ok start] := epochs
    have full := Header.endOf?_eq_none.mp window
    refine ⟨none, ?_, rfl⟩
    cases failed _ rfl
    exact {
      runs := run
      asks := .inr (asks rfl rfl)
      draws := drawn
      drawn_iff := by
        refine iff_of_false (not_not.mpr rfl) ?_
        rintro ⟨epoch, answered, room⟩
        cases told.symm.trans answered
        exact absurd full (Nat.not_lt.mpr room)
      prepared := fun _ succeeded => nomatch succeeded
      unanswered := by simp [told]
      overflow := fun _ _ _ => ⟨rfl, _, rfl⟩ }
  · have told : epochsOf trace = [.ok start] := epochs
    have same : nonce = nonces position := List.head_eq_of_cons_eq next
    have room := Header.endOf?_eq_some.mp window
    have bound : start.toNat + 10 ≤ 2 ^ 64 - 1 := Nat.le_pred_of_lt (room ▸ last.toNat_lt)
    refine ⟨some position, ?_, rfl⟩
    exact {
      runs := run
      asks := .inr (asks rfl rfl)
      draws := drawn.trans (congrArg (fun nonce => [nonce]) same)
      drawn_iff := by simpa [told] using bound
      prepared := by
        intro prepared succeeded
        have made := Except.ok.inj (ended prepared succeeded)
        rw [← made]
        exact ⟨start, position, told, rfl, rfl, room, same⟩
      unanswered := by simp [told]
      overflow := by
        intro epoch answered beyond
        cases told.symm.trans answered
        exact absurd beyond (Nat.not_lt.mpr bound) }

/-- Preparations on one client, one after the other. -/
def prepareAll (config : ClientConfig) (calls : List (Manifest × SubmitOptions)) :
    Flow (List (Except Failure Prepared)) :=
  calls.mapM fun (manifest, options) => (config.prepare manifest options).run

variable {calls : List (Manifest × SubmitOptions)} {results : List (Except Failure Prepared)}
  {shared shared' : Shared}

/-- Together the attempts draw the nonces that come next, each attempt at most one of them. -/
theorem prepareAll_sound (run : (config.prepareAll calls).Runs trace results)
    (seen : shared.Sees nonces trace shared') : ∃ attempts : List Attempt,
      attempts.map (fun attempt => (attempt.manifest, attempt.options)) = calls ∧
      attempts.map Attempt.result = results ∧ attempts.flatMap Attempt.trace = trace ∧
      (∀ attempt ∈ attempts, attempt.Sound config nonces) ∧
      attempts.filterMap Attempt.drawn = List.range' shared.drawn (noncesOf trace).length := by
  induction calls generalizing trace results shared with
  | nil =>
    obtain ⟨rfl, rfl⟩ := Flow.runs_done.mp run
    exact ⟨[], rfl, rfl, rfl, List.forall_mem_nil _, rfl⟩
  | cons call rest ih =>
    obtain ⟨before, result, after, others, rfl, rfl, first, later⟩ := Flow.runs_mapM_cons.mp run
    obtain ⟨between, seenFirst, seenLater⟩ := Shared.sees_append.mp seen
    obtain ⟨next, rfl⟩ := Shared.sees_iff.mp seenFirst
    obtain ⟨drawn, sound, position⟩ := prepare_sound first next
    obtain ⟨attempts, rfl, rfl, rfl, sounds, positions⟩ := ih later seenLater
    refine ⟨⟨call.1, call.2, before, result, drawn⟩ :: attempts, rfl, rfl, rfl,
      List.forall_mem_cons.mpr ⟨sound, sounds⟩, ?_⟩
    have split : (⟨call.1, call.2, before, result, drawn⟩ :: attempts).filterMap Attempt.drawn =
        drawn.toList ++ attempts.filterMap Attempt.drawn := by
      rw [List.filterMap_cons]
      cases drawn <;> rfl
    rw [split, position, positions, noncesOf_append, List.length_append, List.range'_append_1]

/-- The headers of preparations on one client are fresh, whatever everyone answers. An attempt asks for
the epoch when the way is clear and draws a nonce when the epoch has a window, which is then that of its
header. No draw is for two attempts, be it that the one that made it failed afterwards. -/
theorem headers_fresh (config : ClientConfig) (calls : List (Manifest × SubmitOptions))
    (run : (config.prepareAll calls).Runs trace results)
    (seen : shared.Sees nonces trace shared') : ∃ attempts : List Attempt,
      attempts.map (fun attempt => (attempt.manifest, attempt.options)) = calls ∧
      attempts.map Attempt.result = results ∧ attempts.flatMap Attempt.trace = trace ∧
      (∀ attempt ∈ attempts, attempt.Sound config nonces) ∧
      attempts.filterMap Attempt.drawn = List.range' shared.drawn (noncesOf trace).length ∧
      shared'.drawn = shared.drawn + (noncesOf trace).length ∧
      attempts.Pairwise fun earlier later => ∀ first, earlier.drawn = some first →
        ∀ second, later.drawn = some second → first < second := by
  obtain ⟨attempts, called, returned, traced, sound, drawn⟩ := prepareAll_sound run seen
  refine ⟨attempts, called, returned, traced, sound, drawn, ?_, ?_⟩
  · rw [(Shared.sees_iff.mp seen).2]
  · rw [← List.pairwise_filterMap, drawn]
    exact List.pairwise_lt_range'

/-- A preparation that the second signer refuses, and one in which he signs. The draft of the latter comes
to nothing in the former. -/
theorem headers_fresh_sample :
    let call : Manifest × SubmitOptions := (Prepared.sampleManifest, Prepared.sampleOptions)
    let prepared := Prepared.sample
    ∃ trace failure shared, ∃ attempts : List Attempt,
      (ClientConfig.default.prepareAll [call, call]).Runs trace [.error failure, .ok prepared] ∧
      Shared.Sees (fun _ => 77) ⟨0, .empty⟩ trace shared ∧
      attempts.map Attempt.result = [.error failure, .ok prepared] ∧
      attempts.filterMap Attempt.drawn = [0, 1] := by
  intro call prepared
  obtain ⟨preparing, second, -⟩ := Prepared.prepare_sample fun _ member => member
  obtain ⟨before, split, ⟨drafting, settled, header, sealing, rfl, drafted, signed⟩ | ⟨_, ⟨⟩, -⟩⟩ :=
    prepare_runs.mp second
  have drafts : noncesOf drafting = [77] := by
    rw [noncesOf_draft drafted, ← Settlement.sealWith_header signed]
    rfl
  have seals : noncesOf sealing = [] :=
    (settled.signersOnly_sealWith call.2.message header).keysOnly.noncesOf signed
  have drawn : noncesOf preparing = [77] := by
    rw [split, noncesOf_append, noncesOf_append, drafts, seals]
    rfl
  obtain ⟨failing, failure, first, drawn'⟩ : ∃ failing failure,
      (ClientConfig.default.prepare call.1 call.2).Runs failing (.error failure) ∧
        noncesOf failing = [77] := by
    obtain ⟨outcome, -, same⟩ := Settlement.sealWith_runs.mp signed
    cases outcome with
    | error e => contradiction
    | ok notarized =>
      have addresses := congrArg Prepared.signers (Except.ok.inj same)
      obtain ⟨willing, refusing, both⟩ := List.length_eq_two.mp
        ((List.length_map _).symm.trans (congrArg List.length addresses.symm))
      have refused : SigningRound (Intent.id ⟨header, settled.manifest, call.2.message⟩)
          settled.parties.signers _ _ :=
        @SigningRound.refused _ _ [willing] [] refusing [⟨willing.publicKey, ⟨[]⟩⟩] (.rejected "not today")
          both rfl
      refine ⟨_, _, prepare_runs.mpr ⟨_, rfl, .inl ⟨drafting, settled, header, _, rfl, drafted,
        Settlement.sealWith_runs.mpr ⟨_, Intent.signAndSeal_runs.mpr (.inl ⟨_, rfl, refused⟩), rfl⟩⟩⟩, ?_⟩
      rw [noncesOf_append, noncesOf_append, drafts]
      rfl
  have run : (ClientConfig.default.prepareAll [call, call]).Runs (failing ++ (preparing ++ []))
      [.error failure, .ok prepared] :=
    Flow.runs_mapM_cons.mpr ⟨_, _, _, _, rfl, rfl, first,
      Flow.runs_mapM_cons.mpr ⟨_, _, [], [], rfl, rfl, second, .done []⟩⟩
  have nonces : noncesOf (failing ++ (preparing ++ [])) = [77, 77] := by
    rw [List.append_nil, noncesOf_append, drawn, drawn']
    rfl
  have seen : Shared.Sees (fun _ => 77) ⟨0, .empty⟩ (failing ++ (preparing ++ [])) _ :=
    Shared.sees_iff.mpr ⟨by rw [nonces]; rfl, rfl⟩
  obtain ⟨attempts, -, returned, -, -, positions, -⟩ := headers_fresh _ _ run seen
  refine ⟨_, failure, _, attempts, run, seen, returned, positions.trans ?_⟩
  rw [nonces]
  rfl

end ClientConfig

end LedgerWallet
