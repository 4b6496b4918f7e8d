import LedgerWallet.Client.Config
import LedgerWallet.Json.Record

/-! Configurations as JSON. What a text does not mention keeps its default. -/
namespace LedgerWallet

open Json (Reader)
open Json.Reader (RecordField)

namespace PollStrategy

def fields : List (RecordField PollStrategy) := [
  .of "max_tries" (Reader.integerBelow UInt32.size "u32")
    fun n strategy => { strategy with maxTries := UInt32.ofNat n },
  .of "delay_between_tries_ms" (Reader.integerBelow UInt64.size "u64")
    fun n strategy => { strategy with delay := UInt64.ofNat n },
  .of "max_consecutive_errors" (Reader.integerBelow UInt32.size "u32")
    fun n strategy => { strategy with maxFailures := UInt32.ofNat n }]

def reader : Reader PollStrategy := Reader.record "struct PollStrategy" fields default

def parse (text : String) : Except Json.Fault PollStrategy := Reader.run reader text

def toJson (strategy : PollStrategy) : Json := .object [
  ("max_tries", .natural strategy.maxTries.toNat),
  ("delay_between_tries_ms", .natural strategy.delay.toNat),
  ("max_consecutive_errors", .natural strategy.maxFailures.toNat)]

end PollStrategy

namespace ClientConfig

/-- Whether a string is an amount is judged after it was read. -/
def readFee : Reader (Except String (ClientConfig → ClientConfig)) := do
  match Amount.parse (← Reader.text) with
  | .ok amount => return .ok fun config => { config with lockFee := amount }
  | .error e => return .error e.message

def fields : List (RecordField ClientConfig) := [
  ⟨"lock_fee", readFee⟩,
  .of "poll" PollStrategy.reader fun poll config => { config with poll := poll },
  .of "allow_opaque_manifests" Reader.flag fun allow config => { config with allowText := allow }]

def parse (text : String) : Except Json.Fault ClientConfig :=
  Reader.run (Reader.record "struct ClientConfig" fields default) text

def toJson (config : ClientConfig) : Json := .object [
  ("lock_fee", .string config.lockFee.text), ("poll", config.poll.toJson),
  ("allow_opaque_manifests", .bool config.allowText)]

end ClientConfig

end LedgerWallet
