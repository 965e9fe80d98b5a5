import SwapBroker.Request.Parts

/-!
# Deposit address requests

Asks the broker to open a deposit channel. The parameters, by position: source asset, destination
asset, destination address, commission, cross-chain message, boost fee, affiliates, refund policy,
chunks.
-/

namespace SwapBroker

structure DepositRequest where
  src : Asset
  dest : Asset
  destAddress : String
  commission : UInt16
  ccm : Option CcmPart
  maxBoostFee : Option UInt16
  affiliates : Option (List AffiliatePart)
  refund : Option RefundPart
  dca : Option DcaPart
deriving DecidableEq, Repr

namespace DepositRequest

def ofIntent (network : Network) (i : SwapIntent) : Except RequestError DepositRequest := do
  i.check network
  let dca ← encodePresent DcaPart.ofParams i.dca
  let affiliates ← encodePresent AffiliatePart.ofAffiliates i.affiliates
  let ccm ← encodePresent (CcmPart.ofParams "ccmParams") i.ccm
  let refund ← encodePresent (RefundPart.ofParams i.src i.dest) i.fillOrKill
  return {
    src := i.src
    dest := i.dest
    destAddress := i.dest.chain.wireAddress i.destAddress
    commission := i.commission.getD 0
    ccm
    maxBoostFee := i.maxBoostFee
    affiliates
    refund
    dca }

def method (_ : DepositRequest) : String :=
  "broker_request_swap_deposit_address"

def params (r : DepositRequest) : List Json :=
  [r.src.toJson,
    r.dest.toJson,
    .str r.destAddress,
    .int r.commission.toNat,
    .ofOption (r.ccm.map CcmPart.toJson),
    bpsToJson r.maxBoostFee,
    affiliatesToJson r.affiliates,
    .ofOption (r.refund.map RefundPart.toJson),
    .ofOption (r.dca.map DcaPart.toJson)]

end DepositRequest

end SwapBroker
