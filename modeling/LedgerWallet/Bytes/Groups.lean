/-! Cutting a list into groups of one size. -/
namespace LedgerWallet

/-- The whole groups of `width` elements, in order, and the incomplete rest. The first argument
collects the group being filled, newest element first. -/
def groupsFrom {α : Type} (width : Nat) (pending : List α) : List α → List (List α) × List α
  | [] => ([], pending.reverse)
  | a :: rest =>
    if pending.length + 1 = width then
      let (whole, last) := groupsFrom width [] rest
      ((a :: pending).reverse :: whole, last)
    else groupsFrom width (a :: pending) rest

def groups {α : Type} (width : Nat) (list : List α) : List (List α) × List α :=
  groupsFrom width [] list

/-- Groups of which only the last may be incomplete. An empty list is one empty group. -/
def chunks {α : Type} (width : Nat) (list : List α) : List (List α) :=
  match groups width list with
  | (whole, []) => if whole.isEmpty then [[]] else whole
  | (whole, last) => whole ++ [last]

end LedgerWallet
