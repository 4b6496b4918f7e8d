import LedgerWallet.Manifest.Basic
import LedgerWallet.Transaction.Header
import LedgerWallet.Transaction.Id

/-! The stages of a transaction: what is meant, what the accounts signed, what the notary sealed. -/
namespace LedgerWallet

structure Intent where
  header : Header
  manifest : Manifest
  message : Option String
deriving DecidableEq

structure SignedIntent where
  intent : Intent
  signatures : List KeySignature
deriving DecidableEq

structure Notarized where
  signed : SignedIntent
  notarySignature : Signature
deriving DecidableEq

end LedgerWallet
