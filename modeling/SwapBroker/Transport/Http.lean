import SwapBroker.Json.Reader
import SwapBroker.Schema
import SwapBroker.Transport.JsonRpc

/-!
# JSON-RPC over HTTP

Calls are numbered from zero. What comes back of a call is decided by how the exchange with the
server ended: only a status of success carries a result, while an error of the node counts under
every status.

The message for a body that is not JSON ends before the reason that a JSON parser would add to it:
that text is the parser's own. Making the transport fails only for its table; a failure of the HTTP
library to start is left out.
-/

namespace SwapBroker

structure HttpTransport where
  url : String
  /-- In milliseconds. -/
  timeout : Nat
  nextId : Nat := 0
deriving DecidableEq, Repr

inductive Exchange where
  | answered (status : Nat) (body : String)
  | timedOut
  | broken (reason : String)
deriving DecidableEq, Repr

namespace HttpTransport

def defaultTimeoutSeconds : Nat := 30

def schema : Schema where
  required := [.mk "url" .url none]
  optional := [
    .mk "timeout_seconds" (.integer (some 1) (some 300)) none,
    .mk "broker_account" .string none]

/-- The transport that a table describes. The address has to be a text before the table is checked
against the schema. -/
def ofTable (config : Toml) : Except TransportError HttpTransport := do
  let some url := (config.get? "url").bind Toml.asString? | throw (.config "url is required")
  let seconds := (config.get? "timeout_seconds").bind Toml.asInteger?
  let seconds := match seconds with
    | some (.ofNat n) => n
    | _ => defaultTimeoutSeconds
  (schema.validate config).mapError fun e => TransportError.config e.message
  return { url, timeout := 1000 * seconds }

def body (t : HttpTransport) (method : String) (params : List Json) : Json :=
  JsonRpc.callBody t.nextId method params

def isSuccess (status : Nat) : Bool :=
  200 ≤ status && status < 300

def outcome (t : HttpTransport) : Exchange → Except TransportError Json
  | .timedOut => .error (.timeout t.timeout)
  | .broken reason => .error (.connection reason)
  | .answered status body =>
    match Json.readSorted? body with
    | none =>
      if isSuccess status then .error (.invalidReply "Failed to parse JSON reply")
      else .error (.http status body)
    | some json =>
      if isSuccess status then JsonRpc.result json
      else match JsonRpc.result json with
        | .error (.rpc code message) => .error (.rpc code message)
        | _ => .error (.http status body)

end HttpTransport

end SwapBroker
