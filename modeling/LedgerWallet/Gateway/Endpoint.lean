import LedgerWallet.Gateway.Status
import LedgerWallet.Json.Printer
import LedgerWallet.Json.Record
import LedgerWallet.Transaction.Id

/-! What a gateway offers on the web: paths that JSON documents are posted to, and what the documents
are that it answers with. -/
namespace LedgerWallet

/-- A path, and how an answer from there is read. -/
structure Endpoint (α : Type) where
  path : String
  answer : Json.Reader α

namespace Endpoint

def epoch : Endpoint UInt64 where
  path := "/status/gateway-status"
  answer := Json.Reader.holding "struct GatewayStatusResponse" "ledger_state"
    (Json.Reader.holding "struct LedgerState" "epoch"
      (UInt64.ofNat <$> Json.Reader.integerBelow UInt64.size "u64"))

/-- Answers whether the transaction was there before. -/
def submission : Endpoint Bool where
  path := "/transaction/submit"
  answer := Json.Reader.holding "struct SubmitResponse" "duplicate" Json.Reader.flag

def status : Endpoint LedgerStatus where
  path := "/transaction/status"
  answer := Json.Reader.holding "struct StatusResponse" "status"
    (Json.Reader.alternative LedgerStatus.ofName? (LedgerStatus.all.map LedgerStatus.name))

/-- What is posted to learn the epoch. -/
def epochBody : Json := .object []

def submissionBody (payload : String) : Json := .object [("notarized_transaction_hex", .string payload)]

def statusBody (id : TransactionId) : Json := .object [("intent_hash", .string id.text)]

end Endpoint

end LedgerWallet
