import LedgerWallet.Wallet
import Mathlib.Data.List.Basic

/-! Wallets as they come about: by additions to an empty one. What a wallet knows about an address is
told by the keys that were added, in their order. -/
namespace LedgerWallet

/-- The two ways to add to a wallet: the account of a key, or a key with an address of its own. -/
inductive Addition where
  | account (secret : SecretKey)
  | signer (key : HeldKey)

def Addition.key (network : Network) : Addition → HeldKey
  | account secret => ⟨.accountOf secret.publicKey network, secret⟩
  | signer key => key

/-- The key that was added first for an address. -/
def firstKey? (added : List HeldKey) (address : Address) : Option HeldKey :=
  added.find? (·.address = address)

/-- The account that was added first. -/
def firstAccount? (added : List HeldKey) : Option Address :=
  (added.map HeldKey.address).find? Address.isAccount

theorem firstKey?_eq_none {added : List HeldKey} {address : Address} :
    firstKey? added address = none ↔ address ∉ added.map HeldKey.address := by
  simp [firstKey?]

theorem address_of_firstKey? {added : List HeldKey} {address : Address} {key : HeldKey}
    (found : firstKey? added address = some key) : key.address = address := by
  simpa using List.find?_some found

theorem firstAccount?_eq_none {added : List HeldKey} :
    firstAccount? added = none ↔ ∀ key ∈ added, key.address.isAccount = false := by
  simp [firstAccount?]

theorem firstAccount?_eq_some {added : List HeldKey} {account : Address}
    (found : firstAccount? added = some account) :
    account.isAccount ∧ account ∈ added.map HeldKey.address :=
  ⟨List.find?_some found, List.mem_of_find?_eq_some found⟩

namespace Wallet

def perform (wallet : Wallet) : Addition → Wallet
  | .account secret => wallet.addAccount secret
  | .signer key => wallet.add key

/-- The wallet that some additions lead to. -/
def build (network : Network) (additions : List Addition) : Wallet :=
  additions.foldl perform (empty network)

/-- Whatever is asked about addresses, the first key held and the first key added are the same. -/
def Keeps (wallet : Wallet) (added : List HeldKey) : Prop :=
  ∀ test : Address → Bool, wallet.keys.find? (test ·.address) = added.find? (test ·.address)

theorem add_network (wallet : Wallet) (key : HeldKey) : (wallet.add key).network = wallet.network := by
  rw [add]
  split <;> rfl

theorem perform_eq (wallet : Wallet) (addition : Addition) :
    wallet.perform addition = wallet.add (addition.key wallet.network) := by
  cases addition <;> rfl

/-- A key for an address that has one is found by no question that the other one does not answer. -/
theorem keeps_add {wallet : Wallet} {added : List HeldKey} (keeps : wallet.Keeps added)
    (key : HeldKey) : (wallet.add key).Keeps (added ++ [key]) := by
  intro test
  rw [List.find?_append, ← keeps test, add]
  split <;> rename_i held
  · obtain ⟨earlier, member, same⟩ := List.any_eq_true.mp held
    rw [decide_eq_true_eq] at same
    cases passes : test key.address with
    | false => simp [passes]
    | true =>
      have answered : (wallet.keys.find? (test ·.address)).isSome :=
        List.find?_isSome.mpr ⟨earlier, member, same ▸ passes⟩
      obtain ⟨first, found⟩ := Option.isSome_iff_exists.mp answered
      rw [found]
      rfl
  · exact List.find?_append

theorem build_spec (network : Network) (additions : List Addition) :
    (build network additions).network = network ∧
      (build network additions).Keeps (additions.map (Addition.key network)) := by
  have extend (wallet : Wallet) (added : List HeldKey) (same : wallet.network = network)
      (keeps : wallet.Keeps added) : (additions.foldl perform wallet).network = network ∧
        (additions.foldl perform wallet).Keeps (added ++ additions.map (Addition.key network)) := by
    induction additions generalizing wallet added with
    | nil => simpa using ⟨same, keeps⟩
    | cons addition rest ih =>
      rw [List.foldl_cons, List.map_cons, List.append_cons, perform_eq, same]
      exact ih _ _ ((add_network wallet _).trans same) (keeps_add keeps _)
  exact extend (empty network) [] rfl fun _ => rfl

variable {wallet : Wallet} {added : List HeldKey} (keeps : wallet.Keeps added)
include keeps

theorem Keeps.find?_eq (address : Address) : wallet.find? address = firstKey? added address :=
  keeps fun other => other = address

theorem Keeps.head?_accounts : wallet.accounts.head? = firstAccount? added := by
  rw [accounts, List.head?_filter, firstAccount?, List.find?_map, List.find?_map]
  exact congrArg _ (keeps Address.isAccount)

/-- Picked out again by address, the signers of the wallet come in the order of the addresses. -/
theorem Keeps.filterMap_signersFor (addresses : List Address) :
    (addresses.filterMap fun address =>
        (wallet.signersFor wallet.network addresses).find? (·.address = address)) =
      addresses.filterMap fun address => (firstKey? added address).map HeldKey.signer := by
  apply List.filterMap_congr
  intro address member
  rw [signersFor, keysFor, if_pos rfl, List.find?_map, List.find?_filter, ← keeps.find?_eq, find?]
  congr 2
  funext key
  rw [decide_eq_decide]
  constructor
  · rintro ⟨-, same⟩
    exact of_decide_eq_true same
  · rintro rfl
    exact ⟨List.contains_iff_mem.mpr member, decide_eq_true rfl⟩

end Wallet

end LedgerWallet
