import LedgerWallet.Client.Flow
import LedgerWallet.Manifest.Basic

/-! Who signs a manifest, who pays for it and who notarizes it. -/
namespace LedgerWallet

/-- The accounts whose signature the instructions need, each once, in the order of their first
appearance. Text names nobody. -/
def Manifest.authAccounts (manifest : Manifest) : List Address :=
  ((manifest.instructions?.getD []).filterMap Instruction.authTarget?).eraseDups

/-- The signers that the wallet has for some addresses, in the order of the addresses. -/
def signersFor (network : Network) (addresses : List Address) : Flow (List Signer) := do
  if addresses.isEmpty then return []
  let available ← Flow.request (.signers network addresses)
  return addresses.filterMap fun address => available.find? (·.address = address)

/-- The first account of the wallet. -/
def firstAccount : Action Address := do
  match (← Action.request .accounts).head? with
  | some account => return account
  | none => throw .noFeePayer

/-- The first account that signs anyway, or else the first account of the wallet. -/
def selectFeePayer (network : Network) (manifest : Manifest) : Action Address := do
  match (← signersFor network manifest.authAccounts).head? with
  | some signer => return signer.address
  | none => firstAccount

/-- Those who sign an intent. One of them is the notary. -/
structure Parties where
  notary : Signer
  signers : List Signer

/-- The signers that the manifest and the caller ask for, or else the first account of the wallet.
The first signer is the notary. -/
def resolveParties (network : Network) (manifest : Manifest) (extra : List Address) :
    Action Parties := do
  let required := (manifest.authAccounts ++ extra).eraseDups
  let signers ← signersFor network required
  let signers ← if signers.isEmpty then signersFor network [← firstAccount] else pure signers
  match signers.head? with
  | some notary => return ⟨notary, signers⟩
  | none => throw .noFeePayer

end LedgerWallet
