import LedgerWallet.Client.ConfigText
import LedgerWallet.Client.Submit
import LedgerWallet.CommandLine.FileError
import LedgerWallet.CommandLine.Invocation
import LedgerWallet.Gateway.Remote
import LedgerWallet.Manifest.Template
import LedgerWallet.Metrics.Exposition

/-! Carrying out a command. A session reads its configuration and its key before it does anything
else, and what it prints goes out at the end. -/
namespace LedgerWallet.CommandLine

/-- What a command needs from the machine it runs on. -/
structure Host (m : Type → Type) [Pure m] where
  /-- The text of a file, or why it cannot be read. -/
  readText : String → m (Except FileError String)
  randomBytes : Nat → m (List UInt8)
  sleep : Nat → m Unit
  /-- Milliseconds since some moment in the past. -/
  clock : m Nat
  /-- The web, on which nothing listens unless it is given. -/
  web : Remote.Web m := Remote.silence

/-- A command that did not succeed: what went wrong, and the cause where that is something else. -/
structure Report where
  message : String
  cause : Option String
deriving DecidableEq, Repr

/-- Every line of the cause is indented. -/
def Report.text (report : Report) : String :=
  let cause := match report.cause with
    | none => ""
    | some cause => "\n\nCaused by:\n    " ++ String.ofList (cause.toList.flatMap fun c =>
        if c = '\n' then ['\n', ' ', ' ', ' ', ' '] else [c])
  s!"Error: {report.message}{cause}\n"

structure Output where
  exitCode : UInt8
  printed : String
  reported : String
deriving DecidableEq, Repr

def Output.success (printed : String) : Output := ⟨0, printed, ""⟩

def Output.failure (report : Report) : Output := ⟨1, "", report.text⟩

structure Session where
  config : ClientConfig
  wallet : Wallet
  remote : Remote

variable {m : Type → Type} [Monad m]

/-- Carries on with a value, or reports what was attempted and why it failed. -/
def orReport {ε α : Type} (attempted : String) (message : ε → String) (result : Except ε α) :
    Except Report α :=
  result.mapError fun e => ⟨attempted, some (message e)⟩

def readConfig (host : Host m) (path : Option String) : ExceptT Report m ClientConfig := do
  match path with
  | none => return .default
  | some path =>
    let content ← host.readText path
    let text ← orReport s!"failed to read config {path}" FileError.message content
    orReport s!"invalid config {path}" Json.Fault.message (ClientConfig.parse text)

def Session.start (host : Host m) (settings : Settings) (key : Option String) :
    ExceptT Report m Session := do
  let config ← readConfig host settings.config
  let wallet ← match key with
    | none => pure (Wallet.empty settings.network)
    | some key => do
      let secret ← orReport "invalid signing key" KeyError.message (SecretKey.parse key)
      pure ((Wallet.empty settings.network).addAccount secret)
  return ⟨config, wallet, .new settings.gatewayUrl⟩

/-- The account of the session's key. -/
def Session.account (session : Session) : Except Report Address :=
  match session.wallet.accounts with
  | account :: _ => .ok account
  | [] => .error ⟨"this command needs a signing key", none⟩

/-- Requests to the wallet and the gateway are answered by the session, the others by the machine. -/
def Session.answer (session : Session) (host : Host m) (request : Request) :
    StateT Metrics m request.Answer :=
  match request with
  | .network => pure session.wallet.network
  | .accounts => pure session.wallet.accounts
  | .signers network addresses => pure (session.wallet.signersFor network addresses)
  | .sign signer message =>
    match session.wallet.find? signer.address with
    | some key => pure (.ok (key.secret.sign message.toList))
    | none => pure (.error (.unavailable "no such key"))
  | .epoch => StateT.lift (session.remote.askEpoch host.web)
  | .nonce => do return UInt64.ofNat (LittleEndian.decode (← host.randomBytes Header.nonceLength))
  | .submit payload => StateT.lift (session.remote.handIn host.web payload)
  | .status id => StateT.lift (session.remote.askStatus host.web id)
  | .sleep milliseconds => host.sleep milliseconds
  | .clock => host.clock
  | .count event => modify (·.record event)
  | .warn _ _ => pure ()

/-- The verdict on a transaction, after the metrics where they are asked for. -/
def Session.finish (session : Session) (host : Host m) (settings : Settings)
    (action : Action TransactionId) : m Output := do
  let (outcome, metrics) ← (Flow.run (session.answer host) action.run).run .empty
  let printed := if settings.printMetrics then metrics.text else ""
  match outcome with
  | .ok id => return .success (printed ++ s!"{id}\n")
  | .error failure => return { Output.failure ⟨failure.report, none⟩ with printed := printed }

def parseAddress (text : String) : Except Report Address :=
  orReport s!"invalid address: {text}" AddressError.message (Address.parse text)

def described (result : Except Failure Manifest) : Except Report Manifest :=
  result.mapError fun failure => ⟨failure.report, none⟩

def faucetManifest (session : Session) (recipient : Option String) : Except Report Manifest := do
  let recipient ← match recipient with
    | some text => parseAddress text
    | none => session.account
  described (Template.faucet recipient)

def transferManifest (session : Session) (order : TransferOrder) : Except Report Manifest := do
  let sender ← session.account
  let resource ← match order.resource with
    | some text => parseAddress text
    | none => pure (Address.nativeToken session.wallet.network)
  let amount ← orReport s!"invalid amount: {order.amount}" AmountError.message
    (Amount.parse order.amount)
  let legs ← order.recipients.mapM fun text => do
    return ⟨← parseAddress text, resource, amount, order.signatureRequired⟩
  described (Template.transfer sender legs [])

def keygenText (secret : SecretKey) (network : Network) : String :=
  let key := secret.publicKey
  s!"Signing key : {Hex.text secret.seed.toList}\n" ++
  s!"Public key  : {key}\n" ++
  s!"Account     : {Address.accountOf key network}\n" ++
  s!"Network     : {network.name} ({network.id})\n"

def programVersion : String := "0.1.0"

def versionText : String :=
  s!"quill          {programVersion}\ntx version     {Header.currentVersion}\n"

/-- The action that a command stands for, once its session is open. -/
def Session.actionFor (session : Session) : Command → Except Report (Action TransactionId)
  | .faucet _ recipient => do
    let manifest ← faucetManifest session recipient
    return session.config.signAndSubmit manifest { SubmitOptions.default with lockFee := false }
  | .transfer order => do
    let manifest ← transferManifest session order
    return session.config.signAndSubmit manifest
      { SubmitOptions.default with message := order.message }
  | .status id => do
    let parsed ← orReport s!"invalid transaction id: {id}" TransactionId.ParseError.message
      (TransactionId.parse id)
    return session.config.resume parsed
  | .keygen | .version => .error ⟨"this command makes no transaction", none⟩

def Command.key? : Command → Option String
  | faucet key _ => some key
  | transfer order => some order.key
  | _ => none

def Invocation.run (invocation : Invocation) (host : Host m) : m Output := do
  let settings := invocation.settings
  match invocation.command with
  | .version => return .success versionText
  | .keygen =>
    let seed := (Bytes.ofList? 32 (← host.randomBytes 32)).getD default
    return .success (keygenText ⟨seed⟩ settings.network)
  | command =>
    let opened : ExceptT Report m (Session × Action TransactionId) := do
      let session ← Session.start host settings command.key?
      return (session, ← session.actionFor command)
    match ← opened.run with
    | .error report => return .failure report
    | .ok (session, action) => session.finish host settings action

/-- Asking for help or for the version is no fault. -/
def UsageError.output : UsageError → Output
  | .help => .success s!"Usage: {programName} [OPTIONS] <COMMAND>\n"
  | .version command => .success s!"{command} {programVersion}\n"
  | _ => ⟨2, "", s!"Usage: {programName} [OPTIONS] <COMMAND>\n"⟩

/-- Does what the arguments ask for. -/
def run (host : Host m) (environment : String → Option String) (arguments : List String) :
    m Output :=
  match Invocation.parse environment arguments with
  | .error e => pure e.output
  | .ok invocation => invocation.run host

end LedgerWallet.CommandLine
