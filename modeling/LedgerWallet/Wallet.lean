import LedgerWallet.Address.Known

/-! A store of signing keys. Each key signs for one address, and the first key added for an address
stays. -/
namespace LedgerWallet

inductive SigningError where
  | rejected (reason : String)
  | unavailable (reason : String)
deriving DecidableEq, Repr

def SigningError.message : SigningError → String
  | rejected reason => s!"signing rejected: {reason}"
  | unavailable reason => s!"signing key unavailable: {reason}"

/-- Who can be asked to sign: an address and the key that stands for it. -/
structure Signer where
  address : Address
  publicKey : PublicKey
deriving DecidableEq

structure HeldKey where
  address : Address
  secret : SecretKey
deriving DecidableEq

def HeldKey.signer (key : HeldKey) : Signer := ⟨key.address, key.secret.publicKey⟩

structure Wallet where
  network : Network
  keys : List HeldKey
deriving DecidableEq

namespace Wallet

def empty (network : Network) : Wallet := ⟨network, []⟩

def holds (wallet : Wallet) (address : Address) : Bool := wallet.keys.any (·.address = address)

/-- Adds a key for an address of any kind and network. -/
def add (wallet : Wallet) (key : HeldKey) : Wallet :=
  if wallet.holds key.address then wallet else { wallet with keys := wallet.keys ++ [key] }

/-- The account of a key on the network of the wallet. -/
def accountFor (wallet : Wallet) (secret : SecretKey) : HeldKey :=
  ⟨.accountOf secret.publicKey wallet.network, secret⟩

def addAccount (wallet : Wallet) (secret : SecretKey) : Wallet :=
  wallet.add (wallet.accountFor secret)

def accounts (wallet : Wallet) : List Address :=
  (wallet.keys.map HeldKey.address).filter Address.isAccount

/-- The keys for some addresses, in the order of the store. There are none on another network. -/
def keysFor (wallet : Wallet) (network : Network) (addresses : List Address) : List HeldKey :=
  if network = wallet.network then wallet.keys.filter (addresses.contains ·.address) else []

def signersFor (wallet : Wallet) (network : Network) (addresses : List Address) : List Signer :=
  (wallet.keysFor network addresses).map HeldKey.signer

def find? (wallet : Wallet) (address : Address) : Option HeldKey :=
  wallet.keys.find? (·.address = address)

end Wallet

end LedgerWallet
