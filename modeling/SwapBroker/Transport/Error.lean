import SwapBroker.Text.Numeral

/-!
# Transport failures

A call that is not answered with a result fails in one of these ways. The words of a failure other
than an error of the node belong to the transport.
-/

namespace SwapBroker

/-- A time in milliseconds as a text: whole seconds and the part of one, or milliseconds below a
second. -/
def durationText (milliseconds : Nat) : String :=
  let seconds := milliseconds / 1000
  let rest := milliseconds % 1000
  if seconds = 0 then
    if rest = 0 then "0ns" else Text.decimal rest ++ "ms"
  else
    let places := [rest / 100, rest / 10 % 10, rest % 10].map Text.digitChar
    let places := (places.reverse.dropWhile (· = '0')).reverse
    Text.decimal seconds ++ String.ofList (if places = [] then ['s'] else '.' :: places ++ ['s'])

inductive TransportError where
  /-- The call could not be delivered, or the connection ended too early. -/
  | connection (reason : String)
  | timeout (milliseconds : Nat)
  /-- A status that is no success, without an error of the node. -/
  | http (status : Nat) (body : String)
  | invalidReply (reason : String)
  | rpc (code : Int) (message : String)
  | config (reason : String)
deriving DecidableEq, Repr

def TransportError.message : TransportError → String
  | .connection reason => "Connection failed: " ++ reason
  | .timeout milliseconds => "Request timed out after " ++ durationText milliseconds
  | .http status body => "HTTP status " ++ Text.decimal status ++ ": " ++ body
  | .invalidReply reason => "Invalid reply: " ++ reason
  | .rpc code message => "RPC error " ++ Text.integer code ++ ": " ++ message
  | .config reason => "Invalid configuration: " ++ reason

end SwapBroker
