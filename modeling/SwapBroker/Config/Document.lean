import SwapBroker.Config.Basic
import SwapBroker.Toml.Reader
import SwapBroker.Yaml.Reader

/-!
# Configuration documents

A configuration is written in TOML, JSON or YAML. A record is written as a table, in TOML and JSON
also as the list of its fields in their order. Fields that it does not have do not matter.
-/

namespace SwapBroker

inductive DocumentFormat where
  | toml
  | json
  | yaml
deriving DecidableEq, Repr

def DocumentFormat.name : DocumentFormat → String
  | .toml => "TOML"
  | .json => "JSON"
  | .yaml => "YAML"

structure DocumentReading (δ : Type) where
  text? : δ → Option String
  natural? : δ → Option Nat
  choice? : δ → Option String
  /-- A value where it may be absent. -/
  present? : δ → Option (Option δ)
  fields? : (names : List String) → δ → Option (List (String × δ))

namespace DocumentReading

variable {δ : Type} (r : DocumentReading δ)

def field? {α : Type} (read : δ → Option α) (name : String) (fields : List (String × δ)) :
    Option (Option α) :=
  match fields.find? (·.1 = name) with
  | none => some none
  | some (_, value) => (read value).map some

def network? (d : δ) : Option Network := do
  let name ← r.choice? d
  Network.all.find? (·.name = name)

def nullable? {α : Type} (read : δ → Option α) (d : δ) : Option (Option α) := do
  match ← r.present? d with
  | some d => (read d).map some
  | none => return none

def settings? (d : δ) : Option BrokerSettings := do
  let fields ← r.fields? ["network", "log_level"] d
  let network ← (← field? r.network? "network" fields)
  let logLevel ← field? r.text? "log_level" fields
  return ⟨network, logLevel.getD BrokerSettings.defaultLogLevel⟩

def rpc? (d : δ) : Option RpcConfig := do
  let fields ← r.fields? ["url", "timeout_seconds", "broker_account"] d
  let url ← (← field? r.text? "url" fields)
  let timeout ← field? (fun d => (r.natural? d).bind Text.uint64?) "timeout_seconds" fields
  let account ← field? (r.nullable? r.text?) "broker_account" fields
  return ⟨url, timeout.getD RpcConfig.defaultTimeoutSeconds, account.join⟩

def config? (d : δ) : Option BrokerConfig := do
  let fields ← r.fields? ["broker", "rpc"] d
  let broker ← (← field? r.settings? "broker" fields)
  let rpc ← (← field? r.rpc? "rpc" fields)
  return ⟨broker, rpc⟩

end DocumentReading

namespace Toml

/-- A choice may also be written as a table with the name as the only key and nothing in it. -/
def choice? : Toml → Option String
  | string s => some s
  | table [(name, table [])] => some name
  | table [(name, array [])] => some name
  | _ => none

/-- Items beyond the last field do not matter. -/
def fields? (names : List String) : Toml → Option Entries
  | table entries => some entries
  | array items => some (names.zip items)
  | _ => none

def reading : DocumentReading Toml where
  text? := asString?
  natural? d := d.asInteger?.bind Int.toNat?
  choice? := choice?
  present? d := some (some d)
  fields? := fields?

end Toml

namespace Yaml

/-- All keys are scalars, and a field is not written twice. -/
def fields? (anchors : List (Nat × Yaml)) (names : List String) : Yaml →
    Option (List (String × Yaml))
  | mapping entries => do
    let fields ← entries.mapM fun (key, value) =>
      (key.resolved anchors).asText?.map (·, value.resolved anchors)
    let known := fields.filter (·.1 ∈ names)
    guard (known.map (·.1)).Nodup
    return known
  | _ => none

def reading (anchors : List (Nat × Yaml)) : DocumentReading Yaml where
  text? := asText?
  natural? := asNatural?
  choice? := asChoice?
  present? := asPresent?
  fields? := fields? anchors

def config? (y : Yaml) : Option BrokerConfig :=
  (reading y.anchors).config? (y.resolved y.anchors)

end Yaml

def BrokerConfig.ofDocument? (format : DocumentFormat) (text : String) : Option BrokerConfig :=
  match format with
  | .toml => (Toml.read? text).bind Toml.reading.config?
  | .json => decode.read? text
  | .yaml => (Yaml.read? text).bind Yaml.config?

end SwapBroker
