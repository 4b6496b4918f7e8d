import LedgerWallet.Client.Prepare
import LedgerWallet.Proofs.Client.Trace

/-! Which requests an action can make at all and which failures it can end in, whatever it is
answered. This is read off the tree of requests, with no run in sight. -/
namespace LedgerWallet

variable {α β : Type} {asks : Request → Prop} {fails : Failure → Prop}

/-- Every request in the tree is allowed, and so is every value at its ends. -/
def Flow.Uses (asks : Request → Prop) (ends : α → Prop) : Flow α → Prop
  | .done value => ends value
  | .ask request next => asks request ∧ ∀ answer, (next answer).Uses asks ends

namespace Flow

variable {ends : α → Prop} {ends' : β → Prop}

theorem uses_bind {flow : Flow α} {next : α → Flow β} (first : flow.Uses asks ends)
    (second : ∀ value, ends value → (next value).Uses asks ends') :
    (flow >>= next).Uses asks ends' := by
  induction flow with
  | done value => exact second value first
  | ask request rest ih => exact ⟨first.1, fun answer => ih answer (first.2 answer)⟩

theorem Uses.mono {asks' : Request → Prop} {ends' : α → Prop} {flow : Flow α}
    (uses : flow.Uses asks ends) (wider : ∀ request, asks request → asks' request)
    (looser : ∀ value, ends value → ends' value) : flow.Uses asks' ends' := by
  induction flow with
  | done value => exact looser value uses
  | ask request next ih => exact ⟨wider request uses.1, fun answer => ih answer (uses.2 answer)⟩

theorem Uses.sound {flow : Flow α} (uses : flow.Uses asks ends) {trace : List Exchange} {value : α}
    (run : flow.Runs trace value) : (∀ exchange ∈ trace, asks exchange.1) ∧ ends value := by
  induction run with
  | done value => exact ⟨nofun, uses⟩
  | ask answer _ ih =>
    obtain ⟨rest, ended⟩ := ih (uses.2 answer)
    exact ⟨List.forall_mem_cons.mpr ⟨uses.1, rest⟩, ended⟩

/-- What no allowed request tells is not told during a run. -/
theorem Uses.filterMap_eq_nil {tells : Exchange → Option β} {flow : Flow α}
    (uses : flow.Uses asks ends) (silent : ∀ exchange, asks exchange.1 → tells exchange = none)
    {trace : List Exchange} {value : α} (run : flow.Runs trace value) :
    trace.filterMap tells = [] :=
  List.filterMap_eq_nil_iff.mpr fun exchange member =>
    silent exchange ((uses.sound run).1 exchange member)

end Flow

/-- An outcome that is no failure, or one of those. -/
def FailsWith (fails : Failure → Prop) (outcome : Except Failure α) : Prop :=
  ∀ failure, outcome = .error failure → fails failure

namespace Action

def Uses (asks : Request → Prop) (fails : Failure → Prop) (action : Action α) : Prop :=
  action.run.Uses asks (FailsWith fails)

theorem uses_pure {value : α} : Uses asks fails (pure value : Action α) := by
  intro failure same
  contradiction

theorem uses_throw {failure : Failure} (allowed : fails failure) :
    Uses asks fails (throw failure : Action α) := by
  rintro _ ⟨⟩
  exact allowed

theorem uses_request {r : Request} (allowed : asks r) : Uses asks fails (request r) :=
  ⟨allowed, fun _ => nofun⟩

theorem uses_lift {flow : Flow α} (uses : flow.Uses asks fun _ => True) :
    Uses asks fails (liftM flow : Action α) :=
  Flow.uses_bind uses fun _ _ => nofun

theorem uses_bind {action : Action α} {next : α → Action β} (first : Uses asks fails action)
    (second : ∀ value, Uses asks fails (next value)) : Uses asks fails (action >>= next) := by
  refine Flow.uses_bind first fun outcome fine => ?_
  cases outcome with
  | ok value => exact second value
  | error failure =>
    rintro _ ⟨⟩
    exact fine failure rfl

theorem uses_tryCatch {action : Action α} {handle : Failure → Action α}
    (first : Uses asks fails action)
    (second : ∀ failure, fails failure → Uses asks fails (handle failure)) :
    Uses asks fails (tryCatch action handle) := by
  refine Flow.uses_bind first fun outcome fine => ?_
  cases outcome with
  | ok value => exact fun _ => nofun
  | error failure => exact second failure (fine failure rfl)

end Action

/-- The requests that reach the gateway. -/
def Request.toGateway : Request → Bool
  | submit _ | status _ => true
  | _ => false

/-- The requests that the wallet answers. -/
def Request.toWallet : Request → Bool
  | network | accounts | signers _ _ => true
  | _ => false

/-- The requests that signers answer. -/
def Request.toSigner : Request → Bool
  | sign _ _ => true
  | _ => false

/-- The requests that the wallet and its signers answer. -/
def Request.toKeys : Request → Bool
  | network | accounts | signers _ _ | sign _ _ => true
  | _ => false

theorem Request.toKeys_of_toWallet {request : Request} (wallet : request.toWallet) :
    request.toKeys := by
  cases request <;> first | rfl | contradiction

theorem Request.toKeys_of_toSigner {request : Request} (signer : request.toSigner) :
    request.toKeys := by
  cases request <;> first | rfl | contradiction

theorem Request.toGateway_of_toKeys {request : Request} (keys : request.toKeys) :
    request.toGateway = false := by
  cases request <;> first | rfl | contradiction

/-- What the gateway was asked during a run, and what it answered. -/
def gatewayCalls (trace : List Exchange) : List Exchange := trace.filter (·.1.toGateway)

theorem gatewayCalls_append (before after : List Exchange) :
    gatewayCalls (before ++ after) = gatewayCalls before ++ gatewayCalls after :=
  List.filter_append before after

/-- A stage before submission: it leaves the gateway alone, and what it fails with names no
transaction that reached it. -/
def Action.Preliminary (action : Action α) : Prop :=
  action.Uses (·.toGateway = false) (·.id? = none)

theorem Action.Preliminary.sound {action : Action α} (preliminary : action.Preliminary)
    {trace : List Exchange} {result : Except Failure α} (run : action.Runs trace result) :
    gatewayCalls trace = [] ∧ FailsWith (·.id? = none) result := by
  obtain ⟨others, ended⟩ := Flow.Uses.sound preliminary run
  refine ⟨List.filter_eq_nil_iff.mpr fun exchange member => ?_, ended⟩
  rw [others exchange member]
  exact Bool.false_ne_true

/-- A stage before submission that only the wallet and its signers are asked in. -/
def Action.KeysOnly (action : Action α) : Prop := action.Uses (·.toKeys) (·.id? = none)

theorem Action.KeysOnly.preliminary {action : Action α} (keys : action.KeysOnly) :
    action.Preliminary :=
  keys.mono (fun _ => Request.toGateway_of_toKeys) fun _ => id

/-- A stage that comes before all signatures. -/
def Action.WalletOnly (action : Action α) : Prop := action.Uses (·.toWallet) (·.id? = none)

theorem Action.WalletOnly.keysOnly {action : Action α} (wallet : action.WalletOnly) :
    action.KeysOnly :=
  wallet.mono (fun _ => Request.toKeys_of_toWallet) fun _ => id

/-- A stage in which nothing but signatures is asked for. -/
def Action.SignersOnly (action : Action α) : Prop := action.Uses (·.toSigner) (·.id? = none)

theorem Action.SignersOnly.keysOnly {action : Action α} (signers : action.SignersOnly) :
    action.KeysOnly :=
  signers.mono (fun _ => Request.toKeys_of_toSigner) fun _ => id

namespace ClientConfig

variable (config : ClientConfig) (network : Network) (manifest : Manifest)

theorem walletOnly_requireNetwork : (requireNetwork network).WalletOnly := by
  refine Action.uses_bind (Action.uses_request rfl) fun own => ?_
  split
  · exact Action.uses_throw rfl
  · exact Action.uses_pure

theorem uses_signersFor (addresses : List Address) :
    (signersFor network addresses).Uses (·.toWallet) fun _ => True := by
  rw [signersFor]
  split
  · trivial
  · exact ⟨rfl, fun _ => trivial⟩

theorem walletOnly_firstAccount : firstAccount.WalletOnly := by
  refine Action.uses_bind (Action.uses_request rfl) fun accounts => ?_
  split
  · exact Action.uses_pure
  · exact Action.uses_throw rfl

theorem walletOnly_selectFeePayer : (selectFeePayer network manifest).WalletOnly := by
  refine Action.uses_bind (Action.uses_lift (uses_signersFor network _)) fun signers => ?_
  split
  · exact Action.uses_pure
  · exact walletOnly_firstAccount

theorem walletOnly_withFee (options : SubmitOptions) :
    (config.withFee manifest options).WalletOnly := by
  rw [withFee]
  split
  · split
    · exact Action.uses_pure
    · exact Action.uses_throw rfl
  · split
    · exact Action.uses_bind (walletOnly_selectFeePayer _ _) fun payer => Action.uses_pure
    · exact Action.uses_pure

theorem walletOnly_resolveParties (extra : List Address) :
    (resolveParties network manifest extra).WalletOnly := by
  refine Action.uses_bind (Action.uses_lift (uses_signersFor network _)) fun signers => ?_
  dsimp only
  split
  · refine Action.uses_bind walletOnly_firstAccount fun account => ?_
    refine Action.uses_bind (Action.uses_lift (uses_signersFor network _)) fun own => ?_
    split
    · exact Action.uses_pure
    · exact Action.uses_throw rfl
  · refine Action.uses_bind Action.uses_pure fun own => ?_
    split
    · exact Action.uses_pure
    · exact Action.uses_throw rfl

theorem preliminary_freshHeader (notary : PublicKey) : (freshHeader network notary).Preliminary := by
  refine Action.uses_bind (Action.uses_request rfl) fun epoch => ?_
  split
  · exact Action.uses_throw rfl
  · split
    · exact Action.uses_throw rfl
    · exact Action.uses_bind (Action.uses_request rfl) fun nonce => Action.uses_pure

theorem signersOnly_signAll (id : TransactionId) (signers : List Signer) :
    (signAll id signers).SignersOnly := by
  induction signers with
  | nil => exact Action.uses_pure
  | cons signer rest ih =>
    refine Action.uses_bind (Action.uses_request rfl) fun answer => ?_
    split
    · exact Action.uses_throw rfl
    · exact Action.uses_bind ih fun others => Action.uses_pure

theorem signersOnly_sign (intent : Intent) (signers : List Signer) :
    (intent.sign signers).SignersOnly :=
  Action.uses_bind (signersOnly_signAll _ _) fun _ => Action.uses_pure

theorem signersOnly_notarize (signed : SignedIntent) (notary : Signer) :
    (signed.notarize notary).SignersOnly := by
  refine Action.uses_bind (Action.uses_request rfl) fun answer => ?_
  split
  · exact Action.uses_throw rfl
  · dsimp only
    split
    · exact Action.uses_pure
    · exact Action.uses_throw rfl

theorem preliminary_counted {action : Action α} (preliminary : action.Preliminary) :
    action.counted.Preliminary :=
  Action.uses_tryCatch preliminary fun _ allowed =>
    Action.uses_bind (Action.uses_request rfl) fun _ => Action.uses_throw allowed

/-- Nothing that happens before submission reaches the gateway. -/
theorem preliminary_prepare (options : SubmitOptions) :
    (config.prepare manifest options).Preliminary := by
  refine preliminary_counted ?_
  refine Action.uses_bind (walletOnly_requireNetwork _).keysOnly.preliminary fun _ => ?_
  refine Action.uses_bind (walletOnly_withFee _ _ _).keysOnly.preliminary fun (amended, payer) => ?_
  refine Action.uses_bind (walletOnly_resolveParties _ _ _).keysOnly.preliminary fun parties => ?_
  refine Action.uses_bind (preliminary_freshHeader _ _) fun header => ?_
  refine Action.uses_bind (signersOnly_sign _ _).keysOnly.preliminary fun signed => ?_
  exact Action.uses_bind (signersOnly_notarize _ _).keysOnly.preliminary fun notarized => Action.uses_pure

end ClientConfig

end LedgerWallet
