import SwapBroker.Config.Document
import SwapBroker.Environment
import SwapBroker.Registry.Chain

/-!
# Configuration errors

The messages for a file that cannot be read or parsed end before the colon and the reason. These
reasons are texts of the operating system and of the parsers of the three formats, and nothing here
depends on them.
-/

namespace SwapBroker

inductive ConfigFault where
  | network (e : NameError)
  | url (text : String)
  | timeoutText
  | timeoutRange
  | logLevel
deriving DecidableEq, Repr

inductive ConfigError where
  | unreadable (path : String)
  | unparsable (format : DocumentFormat)
  | unsupportedFormat (path : String)
  | invalid (fault : ConfigFault)
  | notFound
deriving DecidableEq, Repr

namespace BrokerConfig

def maxTimeoutSeconds : Nat := 300

def logLevels : List String :=
  ["trace", "debug", "info", "warn", "error"]

end BrokerConfig

def ConfigFault.message : ConfigFault → String
  | .network e => e.message
  | .url text => "rpc.url must be an http(s) URL, got " ++ Text.quoted text
  | .timeoutText => Variable.rpcTimeout.name ++ " must be a number of seconds"
  | .timeoutRange =>
    "rpc.timeout_seconds must be between 1 and " ++ Text.decimal BrokerConfig.maxTimeoutSeconds
  | .logLevel => "broker.log_level must be one of " ++ ", ".intercalate BrokerConfig.logLevels

def ConfigError.message : ConfigError → String
  | .unreadable path => "Failed to read config file " ++ Text.quoted path
  | .unparsable format => "Failed to parse " ++ format.name
  | .unsupportedFormat path => "Unsupported config format: " ++ Text.quoted path
  | .invalid fault => "Invalid configuration: " ++ fault.message
  | .notFound =>
    "No configuration found: set BROKER_CONFIG, create ./broker.toml or set BROKER_NETWORK and " ++
      "BROKER_RPC_URL"

end SwapBroker
