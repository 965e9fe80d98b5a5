import SwapBroker.Reply.DepositChannel
import SwapBroker.Reply.VaultSwap
import SwapBroker.Request.CfParameters
import SwapBroker.Request.Deposit
import SwapBroker.Request.VaultSwap

/-!
# Requests

The three methods of a broker. A request is made of an intent, rendered as a call, and knows how its
reply is read.

Rendering cannot fail. Each of the three requests is written as an array of its parameters, so an
error for a request that is written as anything else has no place here.
-/

namespace SwapBroker

inductive Method where
  | depositAddress
  | parameterEncoding
  | cfParameters
deriving DecidableEq, Repr

structure Call where
  method : String
  params : List Json
deriving Repr

def Call.toJson (c : Call) : Json :=
  .ofMembers [("method", .str c.method), ("params", .arr c.params)]

inductive Request where
  | depositAddress (r : DepositRequest)
  | parameterEncoding (r : VaultSwapRequest)
  | cfParameters (r : CfParametersRequest)
deriving DecidableEq, Repr

inductive Reply where
  | channel (c : DepositChannel)
  | vaultSwap (s : VaultSwap)
  | encoded (s : String)
deriving DecidableEq, Repr

def Reply.toJson : Reply → Json
  | .channel c => c.toJson
  | .vaultSwap s => s.toJson
  | .encoded s => .str s

namespace Request

/-- Makes the request of a method. Requests for deposit addresses always go to the broker, the others
go to a node when there is a broker account. -/
def ofIntent (network : Network) (account : Option String) (i : SwapIntent) :
    Method → Except RequestError Request
  | .depositAddress => do
    return .depositAddress (← DepositRequest.ofIntent network i)
  | .parameterEncoding => do
    let r ← VaultSwapRequest.ofIntent network i
    match account with
    | some account => return .parameterEncoding (← r.withAccount network account)
    | none => return .parameterEncoding r
  | .cfParameters => do
    let r ← CfParametersRequest.ofIntent network i
    match account with
    | some account => return .cfParameters (← r.withAccount network account)
    | none => return .cfParameters r

def call : Request → Call
  | .depositAddress r => ⟨r.method, r.params⟩
  | .parameterEncoding r => ⟨r.method, r.params⟩
  | .cfParameters r => ⟨r.method, r.params⟩

def readReply (network : Network) (reply : Json) : Request → Except ReplyFault Reply
  | .depositAddress r =>
    (DepositChannel.ofReply network r.src.chain r.commission (r.maxBoostFee.getD 0) reply).map
      .channel
  | .parameterEncoding r => (VaultSwap.ofReply network r.src.chain reply).map .vaultSwap
  | .cfParameters _ => (encodedParametersOfReply reply).map .encoded

end Request

end SwapBroker
