import LedgerWallet.Failure

/-! What a client counts. -/
namespace LedgerWallet

/-- Something that is counted when it happens. -/
inductive Event where
  | submitted
  | duplicate
  | polled
  | pollFailed
  | failed (category : FailureCategory)
  /-- A verdict arrived so long after polling began. -/
  | settled (milliseconds : Nat)
deriving DecidableEq, Repr

/-- How often durations were observed, their sum in seconds, how many stayed within each bound. -/
structure Histogram where
  count : Nat
  sum : Float
  within : List Nat

namespace Histogram

/-- Upper bounds in tenths of a second. -/
def bounds : List Nat := [5, 10, 20, 50, 100, 200, 400, 600]

def empty : Histogram := ⟨0, 0, bounds.map fun _ => 0⟩

def boundSeconds (tenths : Nat) : Float := Float.ofNat tenths / 10

def observe (h : Histogram) (seconds : Float) : Histogram where
  count := h.count + 1
  sum := h.sum + seconds
  within := h.within.zipWith
    (fun n tenths => if seconds ≤ boundSeconds tenths then n + 1 else n) bounds

end Histogram

/-- How often each category of failure occurred. One that never did is not listed. -/
structure Tally where
  counts : List (FailureCategory × Nat)
deriving DecidableEq, Repr

namespace Tally

def empty : Tally := ⟨[]⟩

def countIn (category : FailureCategory) : List (FailureCategory × Nat) → Nat
  | [] => 0
  | (other, n) :: rest => if other = category then n else countIn category rest

def count (tally : Tally) (category : FailureCategory) : Nat := countIn category tally.counts

def addTo (category : FailureCategory) :
    List (FailureCategory × Nat) → List (FailureCategory × Nat)
  | [] => [(category, 1)]
  | (other, n) :: rest =>
    if other = category then (other, n + 1) :: rest else (other, n) :: addTo category rest

def add (tally : Tally) (category : FailureCategory) : Tally := ⟨addTo category tally.counts⟩

theorem countIn_addTo (category other : FailureCategory) (counts : List (FailureCategory × Nat)) :
    countIn other (addTo category counts) =
      countIn other counts + if other = category then 1 else 0 := by
  induction counts with
  | nil => grind [countIn, addTo]
  | cons head rest ih => grind [countIn, addTo]

theorem count_add (tally : Tally) (category other : FailureCategory) :
    (tally.add category).count other = tally.count other + if other = category then 1 else 0 :=
  countIn_addTo category other tally.counts

end Tally

structure Metrics where
  submitted : Nat
  duplicates : Nat
  polls : Nat
  pollErrors : Nat
  failures : Tally
  durations : Histogram

namespace Metrics

def empty : Metrics := ⟨0, 0, 0, 0, .empty, .empty⟩

def observe (metrics : Metrics) (seconds : Float) : Metrics :=
  { metrics with durations := metrics.durations.observe seconds }

def record (metrics : Metrics) : Event → Metrics
  | .submitted => { metrics with submitted := metrics.submitted + 1 }
  | .duplicate => { metrics with duplicates := metrics.duplicates + 1 }
  | .polled => { metrics with polls := metrics.polls + 1 }
  | .pollFailed => { metrics with pollErrors := metrics.pollErrors + 1 }
  | .failed category => { metrics with failures := metrics.failures.add category }
  | .settled milliseconds => metrics.observe (Float.ofNat milliseconds / 1000)

end Metrics

end LedgerWallet
