import SwapBroker.Config.Error
import SwapBroker.Schema

/-!
# Loading a configuration

A configuration comes from a file or, without one, from the environment. Variables that are set
override what the file says, and the result is checked. A file has to be valid on its own, before
anything in it is overridden.
-/

namespace SwapBroker

/-- A file with its contents, none when it cannot be read. -/
structure TextFile where
  path : String
  contents : Option String
deriving DecidableEq, Repr

/-- What follows the last dot in the name of a file that has something before it. -/
def extension? (path : String) : Option String := do
  let components := (path.splitOn "/").filter fun c => c ≠ "" ∧ c ≠ "."
  let name ← components.getLast?
  guard (name ≠ "..")
  let (after, before) := name.toList.reverse.span (· ≠ '.')
  match before with
  | '.' :: _ :: _ => return String.ofList after.reverse
  | _ => none

def DocumentFormat.ofPath? (path : String) : Option DocumentFormat := do
  match ← extension? path with
  | "toml" => some .toml
  | "json" => some .json
  | "yaml" | "yml" => some .yaml
  | _ => none

namespace BrokerConfig

def check (c : BrokerConfig) : Except ConfigFault Unit := do
  if !Schema.isUrl c.rpc.url then throw (.url c.rpc.url)
  let seconds := c.rpc.timeoutSeconds.toNat
  if seconds < 1 ∨ maxTimeoutSeconds < seconds then throw .timeoutRange
  if !logLevels.any (Text.sameIgnoringCase · c.broker.logLevel) then throw .logLevel

def checked (c : BrokerConfig) : Except ConfigError BrokerConfig := do
  c.check.mapError .invalid
  return c

def ofFile (file : TextFile) : Except ConfigError BrokerConfig := do
  let some contents := file.contents | throw (.unreadable file.path)
  let some format := DocumentFormat.ofPath? file.path | throw (.unsupportedFormat file.path)
  let some config := ofDocument? format contents | throw (.unparsable format)
  config.checked

def networkOf (text : String) : Except ConfigError Network :=
  (Network.ofText text).mapError fun e => .invalid (.network e)

/-- A number of seconds with blanks around it and a plus sign or none. -/
def secondsOf (text : String) : Except ConfigError UInt64 :=
  let digits := match (Text.trim text).toList with
    | '+' :: rest => rest
    | s => s
  match (Text.natural? 10 digits).bind Text.uint64? with
  | some seconds => .ok seconds
  | none => .error (.invalid .timeoutText)

def ofEnvironment (env : Environment) : Except ConfigError BrokerConfig := do
  let (some network, some url) := (env .network, env .rpcUrl) | throw .notFound
  return {
    broker := ⟨← networkOf network, BrokerSettings.defaultLogLevel⟩
    rpc := ⟨url, RpcConfig.defaultTimeoutSeconds, none⟩ }

/-- Puts the variables that are set into a configuration. An empty account removes it. -/
def override (env : Environment) (c : BrokerConfig) : Except ConfigError BrokerConfig := do
  let network ← match env .network with
    | some text => networkOf text
    | none => pure c.broker.network
  let url := (env .rpcUrl).getD c.rpc.url
  let seconds ← match env .rpcTimeout with
    | some text => secondsOf text
    | none => pure c.rpc.timeoutSeconds
  let account := match env .account with
    | some "" => none
    | some account => some account
    | none => c.rpc.account
  return { broker := { c.broker with network }, rpc := ⟨url, seconds, account⟩ }

def load (env : Environment) (file : Option TextFile) : Except ConfigError BrokerConfig := do
  let base ← match file with
    | some file => ofFile file
    | none => ofEnvironment env
  (← base.override env).checked

end BrokerConfig

end SwapBroker
