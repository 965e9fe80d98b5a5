import SwapBroker.Client
import SwapBroker.CommandLine.Task
import SwapBroker.Config.Search
import SwapBroker.Json.Printer
import SwapBroker.Transport.Http

/-!
# Running a command line

A run ends with an exit code, what it prints, and in case of a failure a message. It is written for
any monad that gives access to files and to a server.
-/

namespace SwapBroker.CommandLine

inductive TaskError where
  | price (e : PriceError)
  | fixedPoint (e : Quantity.ReadError)
  | address (chain : Chain) (network : Network) (text : String) (e : AddressError)
  | unreadableIntent (path : String)
  | unparsableIntent (path : String)
  | accountNotUsed
  | request (e : RequestError)
  | config (e : ConfigError)
  | client (e : ClientError)
  | call (e : CallError)

def TaskError.message : TaskError → String
  | .price e => e.message
  | .fixedPoint _ => "Invalid fixed-point value"
  | .address chain network text e =>
    text ++ " is not a valid " ++ chain.name ++ " address on " ++ network.name ++ ": " ++ e.message
  | .unreadableIntent path => "Failed to read intent file " ++ path
  | .unparsableIntent path => "Failed to parse intent file " ++ path
  | .accountNotUsed => Method.depositAddress.name ++ " is always sent to the broker API"
  | .request e => e.message
  | .config _ => "Failed to load configuration"
  | .client _ => "Failed to build broker client"
  | .call e => e.message

structure Surroundings (m : Type → Type) where
  env : Environment
  files : Files m
  exchange : HttpTransport → (body : Json) → m Exchange

/-- The call that a method makes of an intent. An account does not go with a method that is always
sent to the broker. -/
def encode (network : Network) (account : Option String) (method : Method) (i : SwapIntent) :
    Except TaskError Call := do
  if method = .depositAddress ∧ account.isSome then throw .accountNotUsed
  let r ← (Request.ofIntent network account i method).mapError .request
  return r.call

def intentOf (file : TextFile) : Except TaskError SwapIntent := do
  let some contents := file.contents | throw (.unreadableIntent file.path)
  let some i := SwapIntent.decode.read? contents
    | throw (.unparsableIntent file.path)
  return i

def toFixedPoint (price : String) (src dest : Asset) : Except TaskError String := do
  return (← (Price.ofText price src dest).mapError .price).toHex

def ofFixedPoint (value : String) (src dest : Asset) : Except TaskError String := do
  let q ← (Quantity.ofHex value).mapError .fixedPoint
  return (← (Price.display q src dest).mapError .price).text

def validate (chain : Chain) (network : Network) (address : String) : Except TaskError String := do
  (chain.checkAddress network address).mapError (TaskError.address chain network address)
  return address ++ " is a valid " ++ chain.name ++ " address on " ++ network.name

variable {m : Type → Type} [Monad m]

def readIntent (s : Surroundings m) (path : String) : m (Except TaskError SwapIntent) :=
  return intentOf ⟨path, ← s.files.read? path⟩

def send (s : Surroundings m) (config : BrokerConfig) (method : Method) (i : SwapIntent) :
    m (Except TaskError Reply) := do
  match Client.ofConfig (some HttpTransport.ofTable) config with
  | .error e => return .error (.client e)
  | .ok (transport, client) =>
    let result ← client.run (fun call => do
      return transport.outcome (← s.exchange transport (transport.body call.method call.params)))
      method i
    return result.mapError .call

/-- What a task prints. The intent is read before the configuration. -/
def Invocation.run (s : Surroundings m) (v : Invocation) : m (Except TaskError String) := do
  match v.task with
  | .toFixedPoint price src dest => return CommandLine.toFixedPoint price src dest
  | .ofFixedPoint value src dest => return CommandLine.ofFixedPoint value src dest
  | .validate chain network address => return CommandLine.validate chain network address
  | .encode method path network account =>
    match ← readIntent s path with
    | .error e => return .error e
    | .ok i => return (CommandLine.encode network account method i).map (·.toJson.indented 0)
  | .request method path =>
    match ← readIntent s path with
    | .error e => return .error e
    | .ok i =>
      let config ← match v.config with
        | some path => BrokerConfig.loadPath s.env s.files (some path)
        | none => BrokerConfig.search s.env s.files
      match config with
      | .error e => return .error (.config e)
      | .ok config => return (← send s config method i).map (·.toJson.indented 0)

structure Outcome where
  exitCode : UInt8
  output : String
  /-- The first line of what went wrong. -/
  message : Option String
deriving DecidableEq, Repr

def firstLine (s : String) : String :=
  String.ofList (s.toList.takeWhile (· ≠ '\n'))

def versionLine : String := "broker-cli 0.1.0\n"

/-- How a run of the command line ends. What is wrong with its use, and help, are not part of the
output. -/
def run (s : Surroundings m) (arguments : List String) : m Outcome := do
  match Invocation.ofArguments s.env arguments with
  | .error .help => return ⟨0, "", none⟩
  | .error .version => return ⟨0, versionLine, none⟩
  | .error .misuse => return ⟨2, "", none⟩
  | .ok v =>
    match ← v.run s with
    | .ok output => return ⟨0, output ++ "\n", none⟩
    | .error e => return ⟨1, "", some (firstLine e.message)⟩

end SwapBroker.CommandLine
