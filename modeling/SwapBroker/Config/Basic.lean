import SwapBroker.Intent.Json
import SwapBroker.Toml.Basic
import SwapBroker.Registry.Network

/-!
# Configuration

The network whose addresses are expected, how much is logged, and the RPC endpoint with its timeout
and the account on whose behalf a node is called.
-/

namespace SwapBroker

open Record Decoder

def Network.decode : Decoder Network := oneOf Network.all Network.name

structure BrokerSettings where
  network : Network
  logLevel : String
deriving DecidableEq, Repr

structure RpcConfig where
  url : String
  timeoutSeconds : UInt64
  account : Option String
deriving DecidableEq, Repr

structure BrokerConfig where
  broker : BrokerSettings
  rpc : RpcConfig
deriving DecidableEq, Repr

namespace BrokerSettings

def defaultLogLevel : String := "info"

def record : Record BrokerSettings :=
  BrokerSettings.mk <$> required "network" Network.decode
    <*> withDefault "log_level" text defaultLogLevel

def decode : Decoder BrokerSettings :=
  record.decode "BrokerSettings" .plain

end BrokerSettings

namespace RpcConfig

def defaultTimeoutSeconds : UInt64 := 30

def record : Record RpcConfig :=
  RpcConfig.mk <$> required "url" text
    <*> withDefault "timeout_seconds" uint64 defaultTimeoutSeconds
    <*> optional "broker_account" text

def decode : Decoder RpcConfig :=
  record.decode "RpcConfig" .plain

/-- The table from which a transport is made. Its integers have at most 63 bits and a sign. -/
def toTable (c : RpcConfig) : Toml :=
  .table ([("url", .string c.url),
    ("timeout_seconds", .integer (min (c.timeoutSeconds.toNat : Int) Int64.maxValue.toInt))] ++
    (c.account.map fun account => ("broker_account", Toml.string account)).toList)

end RpcConfig

namespace BrokerConfig

def record : Record BrokerConfig :=
  BrokerConfig.mk <$> required "broker" BrokerSettings.decode <*> required "rpc" RpcConfig.decode

def decode : Decoder BrokerConfig :=
  record.decode "BrokerConfig" .plain

end BrokerConfig

end SwapBroker
