import SwapBroker.Config.Basic
import SwapBroker.Request.Basic
import SwapBroker.Transport.Error

/-!
# The broker client

A client makes the request of a method, sends it through a transport and reads the reply. A request
that cannot be made is not sent, and one that is sent is sent once. The client is written for any
monad that a transport runs in.
-/

namespace SwapBroker

/-- Why a call fails: before anything is sent, on the way, or for its reply. -/
inductive CallError where
  | request (e : RequestError)
  | rpc (code : Int) (message : String)
  | transport (e : TransportError)
  | malformed (fault : ReplyFault)
deriving Repr

namespace CallError

def message : CallError → String
  | request e => e.message
  | rpc code message => (TransportError.rpc code message).message
  | transport e => "Transport error: " ++ e.message
  | malformed fault => "Malformed response: " ++ fault.message

/-- An error of the node stays one, all others are failures of the transport. -/
def ofTransport : TransportError → CallError
  | .rpc code message => .rpc code message
  | e => .transport e

end CallError

structure Client where
  network : Network
  account : Option String
deriving DecidableEq, Repr

inductive ClientError where
  | noFactory
  | transport (e : TransportError)
  | account (e : InvalidAddress)
deriving DecidableEq, Repr

def ClientError.message (e : ClientError) : String :=
  "Configuration error: " ++
    match e with
    | .noFactory => "Transport factory not provided"
    | .transport e => e.message
    | .account e => e.message

namespace Client

def make (network : Network) (account : Option String) : Except InvalidAddress Client :=
  match account with
  | none => .ok ⟨network, none⟩
  | some a => do
    AddressPlace.protocol.validate network .brokerAccount a
    return ⟨network, some a⟩

def ofConfig (factory : Option (Toml → Except TransportError τ)) (config : BrokerConfig) :
    Except ClientError (τ × Client) := do
  let some factory := factory | throw .noFactory
  let transport ← (factory config.rpc.toTable).mapError .transport
  let client ← (make config.broker.network config.rpc.account).mapError .account
  return (transport, client)

def request (c : Client) (method : Method) (i : SwapIntent) : Except RequestError Request :=
  Request.ofIntent c.network c.account i method

def readReply (c : Client) (r : Request) :
    Except TransportError Json → Except CallError Reply
  | .error e => .error (.ofTransport e)
  | .ok reply => (r.readReply c.network reply).mapError .malformed

def run [Monad m] (c : Client) (transport : Call → m (Except TransportError Json))
    (method : Method) (i : SwapIntent) : m (Except CallError Reply) :=
  match c.request method i with
  | .error e => pure (.error (.request e))
  | .ok r => do return c.readReply r (← transport r.call)

end Client

end SwapBroker
