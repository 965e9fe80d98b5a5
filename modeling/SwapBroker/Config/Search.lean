import SwapBroker.Config.Load
import SwapBroker.Files

/-!
# Finding a configuration

Without a path given, the configuration is in the file that `BROKER_CONFIG` names, else in one of
two places, else in the environment alone.
-/

namespace SwapBroker.BrokerConfig

variable {m : Type → Type} [Monad m]

def loadPath (env : Environment) (files : Files m) :
    (path : Option String) → m (Except ConfigError BrokerConfig)
  | none => return load env none
  | some path => return load env (some ⟨path, ← files.read? path⟩)

def usualPaths : List String :=
  ["./broker.toml", "./config/broker.toml"]

def firstThere (files : Files m) : (paths : List String) → m (Option String)
  | [] => return none
  | path :: rest => do
    if ← files.isThere path then return some path
    firstThere files rest

def search (env : Environment) (files : Files m) : m (Except ConfigError BrokerConfig) := do
  match env .config with
  | some path => loadPath env files (some path)
  | none => loadPath env files (← firstThere files usualPaths)

end SwapBroker.BrokerConfig
