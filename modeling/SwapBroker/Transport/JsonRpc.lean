import SwapBroker.Json.Record
import SwapBroker.Transport.Error

/-!
# JSON-RPC messages

A call is an object with a number, a method and positional parameters; a reply holds a result or an
error. An error counts before a result, and a null result is none. An array of one reply stands for
that reply.
-/

namespace SwapBroker.JsonRpc

open Record Decoder

def callBody (id : Nat) (method : String) (params : List Json) : Json :=
  .ofMembers [
    ("jsonrpc", .str "2.0"),
    ("id", .int id),
    ("method", .str method),
    ("params", .arr params)]

structure NodeError where
  code : Int
  message : String
deriving DecidableEq, Repr

structure Reply where
  result : Option Json
  error : Option NodeError
deriving Repr

def NodeError.record : Record NodeError :=
  NodeError.mk <$> required "code" int64 <*> required "message" text

def NodeError.decode : Decoder NodeError :=
  NodeError.record.decode "JsonRpcError" .plain

def Reply.record : Record Reply :=
  Reply.mk <$> optional "result" any <*> optional "error" NodeError.decode

def Reply.decode : Decoder Reply :=
  Reply.record.decode "JsonRpcReply" .plain

inductive ReplyFault where
  | batch (count : Nat)
  | undecodable (cause : DecodeError)
  | neither
deriving Repr

def ReplyFault.message : ReplyFault → String
  | .batch count => "expected a single reply, got a batch of " ++ Text.decimal count
  | .undecodable cause => cause.message
  | .neither => "reply carries neither a result nor an error"

/-- The reply in a body, taken out of an array of one. -/
def single : Json → Except ReplyFault Json
  | .arr [reply] => .ok reply
  | .arr replies => .error (.batch replies.length)
  | reply => .ok reply

def failure (fault : ReplyFault) : TransportError :=
  .invalidReply fault.message

def result (body : Json) : Except TransportError Json := do
  let body ← (single body).mapError failure
  let reply ← (Reply.decode body).mapError (failure ∘ .undecodable)
  match reply.error, reply.result with
  | some e, _ => throw (.rpc e.code e.message)
  | none, some result => return result
  | none, none => throw (failure .neither)

end SwapBroker.JsonRpc
