/-!
# The environment

Some settings are taken from variables that the program finds set when it starts.
-/

namespace SwapBroker

inductive Variable where
  | config
  | logLevel
  | network
  | rpcUrl
  | rpcTimeout
  | account
deriving DecidableEq, Repr

namespace Variable

def all : List Variable :=
  [.config, .logLevel, .network, .rpcUrl, .rpcTimeout, .account]

def name : Variable → String
  | .config => "BROKER_CONFIG"
  | .logLevel => "BROKER_LOG_LEVEL"
  | .network => "BROKER_NETWORK"
  | .rpcUrl => "BROKER_RPC_URL"
  | .rpcTimeout => "BROKER_RPC_TIMEOUT"
  | .account => "BROKER_ACCOUNT"

end Variable

abbrev Environment := Variable → Option String

end SwapBroker
