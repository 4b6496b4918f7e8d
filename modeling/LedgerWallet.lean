import LedgerWallet.Bytes.Hex
import LedgerWallet.Hash.Sha2
import LedgerWallet.Hash.Blake3
import LedgerWallet.Ed25519.Signature
import LedgerWallet.Text.Blank
import LedgerWallet.Text.Numeral
import LedgerWallet.Text.Quoted
import LedgerWallet.Text.Split
import LedgerWallet.Text.Utf8
import LedgerWallet.Address.Text
import LedgerWallet.Address.Known
import LedgerWallet.Amount
import LedgerWallet.NonFungible
import LedgerWallet.Json.Reader
import LedgerWallet.Json.Printer
import LedgerWallet.Manifest.Text
import LedgerWallet.Manifest.Json
import LedgerWallet.Binary.Manifest
import LedgerWallet.Transaction.Payload
import LedgerWallet.Manifest.Template
import LedgerWallet.Wallet
import LedgerWallet.Metrics
import LedgerWallet.Gateway.Status
import LedgerWallet.Gateway.Tracker
import LedgerWallet.Client.Submit
import LedgerWallet.Client.Rehearsal
import LedgerWallet.Client.ConfigText
import LedgerWallet.Metrics.Exposition
import LedgerWallet.Gateway.Remote
import LedgerWallet.CommandLine.Session
import LedgerWallet.Form.Manifest
import LedgerWallet.Form.Rehearsal
import LedgerWallet.Main
import LedgerWallet.Domain.Composed
import LedgerWallet.Domain.Direction
import LedgerWallet.Domain.Joiner
import LedgerWallet.Domain.Label
import LedgerWallet.Proofs.Transaction.Spelling
import LedgerWallet.Proofs.Manifest.Acceptance
import LedgerWallet.Proofs.Client.Isolation
import LedgerWallet.Proofs.Client.Sealed
import LedgerWallet.Proofs.Client.Submission
import LedgerWallet.Proofs.CommandLine.Session
import LedgerWallet.Proofs.Client.Tracking
import LedgerWallet.Proofs.Client.Calls
import LedgerWallet.Proofs.Metrics.Counters
import LedgerWallet.Proofs.Client.Stages
import LedgerWallet.Proofs.Client.Accounting
import LedgerWallet.Proofs.Client.Drawing
import LedgerWallet.Proofs.Client.Concurrency
import LedgerWallet.Proofs.Manifest.Numbering
import LedgerWallet.Proofs.Manifest.Emission
import LedgerWallet.Proofs.Manifest.Tasks
import LedgerWallet.Proofs.Manifest.Delivery
import LedgerWallet.Proofs.Client.TaskSigners
import LedgerWallet.Proofs.Amount.RoundTrip
import LedgerWallet.Proofs.Client.Budget
import LedgerWallet.Proofs.Address.Correspondence
import LedgerWallet.Proofs.Address.Misprint
import LedgerWallet.Proofs.Manifest.Rendering
import LedgerWallet.Proofs.NonFungible.RoundTrip
import LedgerWallet.Proofs.Manifest.Amending
import LedgerWallet.Proofs.Client.Signing
import LedgerWallet.Proofs.Client.Headers
import LedgerWallet.Proofs.Manifest.DepositSettings
import LedgerWallet.Proofs.Client.Rehearsal
import LedgerWallet.Proofs.Form.Meaning
import LedgerWallet.Proofs.Gateway.Remote
