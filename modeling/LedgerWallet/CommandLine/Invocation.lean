import LedgerWallet.CommandLine.Grammar
import LedgerWallet.Network

/-! The commands of the wallet and their options. -/
namespace LedgerWallet.CommandLine

inductive LogFormat where
  | pretty
  | json
deriving DecidableEq, Repr

/-- Capitals do not matter, and an unknown name means the default. -/
def LogFormat.ofName (name : String) : LogFormat :=
  if name.toList.map Char.toLower = ['j', 's', 'o', 'n'] then json else pretty

structure Settings where
  gatewayUrl : String
  network : Network
  logFormat : String
  config : Option String
  printMetrics : Bool
deriving DecidableEq, Repr

structure TransferOrder where
  key : String
  resource : Option String
  amount : String
  recipients : List String
  signatureRequired : Bool
  message : Option String
deriving DecidableEq, Repr

inductive Command where
  | keygen
  | faucet (key : String) (recipient : Option String)
  | transfer (order : TransferOrder)
  | status (id : String)
  | version
deriving DecidableEq, Repr

structure Invocation where
  settings : Settings
  command : Command
deriving DecidableEq, Repr

def programName : String := "quill"

def defaultGatewayUrl : String := "http://127.0.0.1:3333"

def option (name : String) (kind : OptionKind) : OptionSpec := ⟨name, none, kind, none, false⟩

def required (spec : OptionSpec) : OptionSpec := { spec with required := true }

def gatewayOption : OptionSpec :=
  { option "gateway-url" .text with environmentName := some "QUILL_GATEWAY_URL" }

def networkOption : OptionSpec :=
  { option "network-id" .byte with environmentName := some "QUILL_NETWORK_ID" }

def logFormatOption : OptionSpec :=
  { option "log-format" .text with environmentName := some "QUILL_LOG_FORMAT" }

def configOption : OptionSpec :=
  { option "config" .path with short := some 'c', environmentName := some "QUILL_CONFIG" }

def printMetricsOption : OptionSpec := option "print-metrics" .flag

/-- Options that every command takes, before its name or after it. -/
def commonOptions : List OptionSpec := [
  gatewayOption, networkOption, logFormatOption, configOption, printMetricsOption,
  { option "help" .help with short := some 'h' },
  { option "version" .version with short := some 'V' }]

def keyOption : OptionSpec :=
  { option "key" .text with environmentName := some "QUILL_SIGNING_KEY", required := true }

def recipientOption : OptionSpec := option "to" .text

def recipientsOption : OptionSpec := required (option "to" .list)

def resourceOption : OptionSpec := option "resource" .text

def amountOption : OptionSpec := required (option "amount" .text)

def signatureOption : OptionSpec := option "signature-required" .flag

def messageOption : OptionSpec := option "message" .text

def rootGrammar : Grammar :=
  ⟨programName, commonOptions, 0, ["keygen", "faucet", "transfer", "status", "version",
    Grammar.helpCommand]⟩

def commandGrammar (command : String) : Grammar :=
  let title := programName ++ "-" ++ command
  match command with
  | "faucet" => ⟨title, [keyOption, recipientOption] ++ commonOptions, 0, []⟩
  | "transfer" => ⟨title, [keyOption, resourceOption, amountOption, recipientsOption,
      signatureOption, messageOption] ++ commonOptions, 0, []⟩
  | "status" => ⟨title, commonOptions, 1, []⟩
  | _ => ⟨title, commonOptions, 0, []⟩

namespace Invocation

/-- What was given on the line, or else by the variable. -/
def value? (parsed : Parsed) (environment : String → Option String) (spec : OptionSpec) :
    Option String :=
  ((parsed.given spec.name).head?).or (Grammar.fromVariable environment spec)

def commandOf (parsed : Parsed) (value? : OptionSpec → Option String) : Command :=
  match parsed.command with
  | "faucet" => .faucet ((value? keyOption).getD "") (value? recipientOption)
  | "transfer" => .transfer {
      key := (value? keyOption).getD ""
      resource := value? resourceOption
      amount := (value? amountOption).getD ""
      recipients := parsed.given recipientsOption.name
      signatureRequired := parsed.has signatureOption.name
      message := value? messageOption }
  | "status" => .status (parsed.own.operands.headD "")
  | "keygen" => .keygen
  | _ => .version

def parse (environment : String → Option String) (arguments : List String) :
    Except UsageError Invocation := do
  let parsed ← CommandLine.parse rootGrammar commandGrammar environment arguments
  let value? := value? parsed environment
  return {
    settings := {
      gatewayUrl := (value? gatewayOption).getD defaultGatewayUrl
      network := ((value? networkOption).bind byte?).elim .stokenet fun id => ⟨id⟩
      logFormat := (value? logFormatOption).getD "pretty"
      config := value? configOption
      printMetrics := parsed.has printMetricsOption.name }
    command := commandOf parsed value? }

end Invocation

end LedgerWallet.CommandLine
