import SwapBroker.Json.Record
import SwapBroker.Reply.Error

/-!
# Deposit channels

The reply to a request for a deposit address: where to send the source asset and how long the
channel stays open. The commission and the boost fee are those of the request.
-/

namespace SwapBroker

open Record Decoder

/-- The part of a deposit channel that the reply holds. -/
structure OpenedChannel where
  address : String
  issuedBlock : UInt64
  channelId : UInt64
  expiryBlock : Quantity
  openingFee : Quantity
deriving DecidableEq, Repr

namespace OpenedChannel

def record : Record OpenedChannel :=
  OpenedChannel.mk <$> required "address" text
    <*> required "issued_block" uint64
    <*> required "channel_id" uint64
    <*> required "source_chain_expiry_block" quantity
    <*> required "channel_opening_fee" quantity

def decode : Decoder OpenedChannel :=
  record.decode "RawDepositChannel" .plain

end OpenedChannel

structure DepositChannel where
  opened : OpenedChannel
  srcChain : Chain
  commission : UInt16
  maxBoostFee : UInt16
deriving DecidableEq, Repr

namespace DepositChannel

def id (c : DepositChannel) : String :=
  Text.decimal c.opened.issuedBlock.toNat ++ "-" ++ c.srcChain.name ++ "-" ++
    Text.decimal c.opened.channelId.toNat

def ofReply (network : Network) (srcChain : Chain) (commission maxBoostFee : UInt16)
    (reply : Json) : Except ReplyFault DepositChannel := do
  let opened ← (OpenedChannel.decode reply).mapError .notAChannel
  Reply.checkAddress network srcChain "address" opened.address
  return { opened, srcChain, commission, maxBoostFee }

def toJson (c : DepositChannel) : Json :=
  .ofMembers [
    ("depositChannelId", .str c.id),
    ("address", .str c.opened.address),
    ("srcChain", .str c.srcChain.name),
    ("issuedBlock", .int c.opened.issuedBlock.toNat),
    ("channelId", .int c.opened.channelId.toNat),
    ("sourceChainExpiryBlock", .str c.opened.expiryBlock.toHex),
    ("channelOpeningFee", .str c.opened.openingFee.toHex),
    ("brokerCommissionBps", .int c.commission.toNat),
    ("maxBoostFeeBps", .int c.maxBoostFee.toNat)]

end DepositChannel

end SwapBroker
