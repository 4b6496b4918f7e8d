import LedgerWallet.Manifest.Call
import Mathlib.Algebra.Order.BigOperators.Group.List
import Mathlib.Algebra.Order.Group.Int
import Mathlib.Algebra.Order.Pi
import Mathlib.Tactic.Abel

/-! What the instructions of a transfer move: from accounts to the worktop, from there into buckets, and
out of these into accounts. Nothing is lost or made on the way. -/
namespace LedgerWallet

/-- What can be held: a resource that is counted, or a single token. -/
inductive Asset where
  | amount (resource : Address)
  | token (id : GlobalId)
deriving DecidableEq

/-- How much there is of each asset. Amounts are counted in attos. -/
abbrev Holding := Asset → Int

inductive Goods where
  | amount (resource : Address) (count : Amount)
  | tokens (resource : Address) (ids : List LocalId)
deriving DecidableEq

def Goods.holding : Goods → Holding
  | amount resource count => Pi.single (.amount resource) count.attos
  | tokens resource ids => (ids.map fun id => Pi.single (.token ⟨resource, id⟩) 1).sum

theorem Goods.holding_amount_nonneg (resource : Address) {count : Amount} (owned : 0 ≤ count.attos) :
    0 ≤ (amount resource count).holding :=
  Pi.single_nonneg.mpr owned

theorem Goods.holding_tokens_nonneg (resource : Address) (ids : List LocalId) :
    0 ≤ (tokens resource ids).holding := by
  refine List.sum_nonneg fun holding member => ?_
  obtain ⟨id, -, rfl⟩ := List.mem_map.mp member
  exact Pi.single_nonneg.mpr Int.one_nonneg

inductive Move where
  | withdraw (account : Address) (goods : Goods)
  | take (goods : Goods) (bucket : Bucket)
  /-- A deposit is signed for, or the account's own rules decide on it. -/
  | deposit (account : Address) (signed : Bool) (bucket : Bucket)
deriving DecidableEq

namespace Move

def withdrawal? : Move → Option (Address × Goods)
  | withdraw account goods => some (account, goods)
  | _ => none

def taking? : Move → Option (Goods × Bucket)
  | take goods bucket => some (goods, bucket)
  | _ => none

def deposit? : Move → Option (Address × Bool × Bucket)
  | deposit account signed bucket => some (account, signed, bucket)
  | _ => none

end Move

namespace Value

def localId? : Value → Option LocalId
  | scalar (.localId id) => some id
  | _ => none

theorem mapM_localId? (ids : List LocalId) : (ids.map ofLocalId).mapM localId? = some ids := by
  induction ids with
  | nil => rfl
  | cons id rest ih =>
    rw [List.map_cons, List.mapM_cons, ih]
    rfl

end Value

namespace AccountMethod

/-- What a call to a method of an account moves. -/
def move? (account : Address) : AccountMethod → List Value → Option Move
  | withdraw, [.scalar (.address resource), .scalar (.amount amount)] =>
    some (.withdraw account (.amount resource amount))
  | withdrawNonFungibles, [.scalar (.address resource), .compound .array parts] =>
    (parts.mapM Value.localId?).map fun ids => .withdraw account (.tokens resource ids)
  | deposit, [.scalar (.bucket bucket)] => some (.deposit account true bucket)
  | tryDepositOrAbort, [.scalar (.bucket bucket), _] => some (.deposit account false bucket)
  | _, _ => none

end AccountMethod

namespace Instruction

/-- What an instruction moves, if it is a move that tells what it is about. -/
def move? : Instruction → Option Move
  | take resource amount bucket => some (.take (.amount resource amount) bucket)
  | takeNonFungibles resource ids bucket => some (.take (.tokens resource ids) bucket)
  | callMethod account name args => do (← AccountMethod.ofName? name).move? account args
  | _ => none

variable (account resource : Address)

theorem move?_callAccount (method : AccountMethod) (args : List Value) :
    (callAccount account method args).move? = method.move? account args := by
  rw [callAccount, move?, AccountMethod.ofName?_eq_some.mpr rfl]
  rfl

@[simp]
theorem move?_withdraw (amount : Amount) : (withdraw account resource amount).move? =
    some (.withdraw account (.amount resource amount)) :=
  move?_callAccount account _ _

@[simp]
theorem move?_withdrawNonFungibles (ids : List LocalId) :
    (withdrawNonFungibles account resource ids).move? =
      some (.withdraw account (.tokens resource ids)) := by
  rw [withdrawNonFungibles, move?_callAccount, Value.ofAddress, Value.array, AccountMethod.move?,
    Value.mapM_localId?]
  rfl

@[simp]
theorem move?_deposit (bucket : Bucket) :
    (deposit account bucket).move? = some (.deposit account true bucket) :=
  move?_callAccount account _ _

@[simp]
theorem move?_tryDeposit (bucket : Bucket) :
    (tryDeposit account bucket).move? = some (.deposit account false bucket) :=
  move?_callAccount account _ _

end Instruction

/-- A transaction under way: what lies on the worktop and in the buckets, and what came out of accounts
and went into them so far. -/
structure Transit where
  worktop : Holding
  buckets : List (Bucket × Holding)
  withdrawn : List (Address × Holding)
  deposited : List (Address × Holding)

namespace Transit

def empty : Transit := ⟨0, [], [], []⟩

/-- The worktop may owe something. A bucket is not filled twice, and what is not there is not deposited. -/
def step (transit : Transit) : Move → Option Transit
  | .withdraw account goods => some { transit with
      worktop := transit.worktop + goods.holding
      withdrawn := transit.withdrawn ++ [(account, goods.holding)] }
  | .take goods bucket =>
    if bucket ∈ transit.buckets.map (·.1) then none
    else some { transit with
      worktop := transit.worktop - goods.holding
      buckets := (bucket, goods.holding) :: transit.buckets }
  | .deposit account _ bucket => do
    let (_, holding) ← transit.buckets.find? (·.1 = bucket)
    return { transit with
      buckets := transit.buckets.eraseP (·.1 = bucket)
      deposited := transit.deposited ++ [(account, holding)] }

def run (transit : Transit) (moves : List Move) : Option Transit := moves.foldlM step transit

/-- All that was withdrawn was deposited, or else it is on the worktop or in a bucket. -/
def Balanced (transit : Transit) : Prop :=
  (transit.withdrawn.map (·.2)).sum =
    transit.worktop + (transit.buckets.map (·.2)).sum + (transit.deposited.map (·.2)).sum

theorem balanced_empty : empty.Balanced := rfl

variable {transit next : Transit}

theorem Balanced.step (balanced : transit.Balanced) {move : Move}
    (stepped : transit.step move = some next) : next.Balanced := by
  rw [Balanced] at balanced
  cases move with
  | withdraw account goods =>
    cases stepped
    simp only [Balanced, List.map_append, List.sum_append, balanced, List.map_singleton,
      List.sum_singleton]
    abel
  | take goods bucket =>
    rw [Transit.step, Option.ite_none_left_eq_some] at stepped
    cases stepped.2
    simp only [Balanced, balanced, List.map_cons, List.sum_cons]
    abel
  | deposit account signed bucket =>
    cases found : transit.buckets.find? (·.1 = bucket) with
    | none =>
      rw [Transit.step, found] at stepped
      contradiction
    | some entry =>
      rw [Transit.step, found] at stepped
      cases stepped
      obtain ⟨own, before, after, split, others⟩ := List.find?_eq_some_iff_append.mp found
      have rest : transit.buckets.eraseP (·.1 = bucket) = before ++ after := by
        rw [split, List.eraseP_append_right, List.eraseP_cons, own, cond_true]
        intro other member
        simpa using others other member
      have held : (transit.buckets.map (·.2)).sum =
          (before.map (·.2)).sum + (entry.2 + (after.map (·.2)).sum) := by
        rw [split, List.map_append, List.map_cons, List.sum_append, List.sum_cons]
      simp only [Balanced, balanced, rest, held, List.map_append, List.map_cons, List.sum_append,
        List.sum_cons, List.map_nil, List.sum_nil]
      abel

/-- Nothing is lost or made, whatever is moved. -/
theorem Balanced.run (balanced : transit.Balanced) {moves : List Move}
    (ran : transit.run moves = some next) : next.Balanced := by
  induction moves generalizing transit with
  | nil =>
    cases ran
    exact balanced
  | cons move rest ih =>
    obtain ⟨middle, stepped, later⟩ := Option.bind_eq_some_iff.mp ran
    exact ih (balanced.step stepped) later

/-- Where nothing is left, as much was deposited as was withdrawn. -/
theorem Balanced.settled (balanced : transit.Balanced) (clear : transit.worktop = 0)
    (none : transit.buckets = []) :
    (transit.withdrawn.map (·.2)).sum = (transit.deposited.map (·.2)).sum := by
  rw [Balanced, clear, none, List.map_nil, List.sum_nil, zero_add, zero_add] at balanced
  exact balanced

/-- More lies on the worktop, and more was withdrawn and deposited. -/
def grown (transit : Transit) (net : Holding) (withdrawn deposited : List (Address × Holding)) : Transit :=
  { transit with
    worktop := transit.worktop + net
    withdrawn := transit.withdrawn ++ withdrawn
    deposited := transit.deposited ++ deposited }

theorem grown_grown (transit : Transit) (net net' : Holding)
    (withdrawn withdrawn' deposited deposited' : List (Address × Holding)) :
    (transit.grown net withdrawn deposited).grown net' withdrawn' deposited' =
      transit.grown (net + net') (withdrawn ++ withdrawn') (deposited ++ deposited') := by
  simp only [grown, add_assoc, List.append_assoc]

theorem run_append (transit : Transit) (early late : List Move) :
    transit.run (early ++ late) = (transit.run early).bind (·.run late) :=
  List.foldlM_append

/-- What is taken lies on the worktop. -/
def Covers (transit : Transit) : Move → Prop
  | .take goods _ => goods.holding ≤ transit.worktop
  | _ => True

/-- The worktop never comes to owe anything for what is taken from it. -/
def CoversAll : Transit → List Move → Prop
  | _, [] => True
  | transit, move :: rest =>
    transit.Covers move ∧ ∀ next, transit.step move = some next → next.CoversAll rest

theorem CoversAll.append {early late : List Move} (covers : transit.CoversAll early)
    (after : ∀ middle, transit.run early = some middle → middle.CoversAll late) :
    transit.CoversAll (early ++ late) := by
  induction early generalizing transit with
  | nil => exact after transit rfl
  | cons move rest ih =>
    refine ⟨covers.1, fun next stepped => ih (covers.2 next stepped) fun middle ran => ?_⟩
    exact after middle (Option.bind_eq_some_iff.mpr ⟨next, stepped, ran⟩)

end Transit

end LedgerWallet
