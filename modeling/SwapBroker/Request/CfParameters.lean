import SwapBroker.Request.Parts

/-!
# Requests for encoded swap parameters

Asks for the encoding of a swap's parameters for a contract call. The parameters, by position: source
asset, destination asset, destination address, commission, refund policy, cross-chain message, boost
fee, affiliates, chunks. A request on behalf of a broker account goes to a node instead of the broker
and has the account in front.
-/

namespace SwapBroker

structure CfParametersRequest where
  account : Option String
  src : Asset
  dest : Asset
  destAddress : String
  commission : UInt16
  refund : Option RefundPart
  ccm : Option CcmPart
  maxBoostFee : Option UInt16
  affiliates : Option (List AffiliatePart)
  dca : Option DcaPart
deriving DecidableEq, Repr

namespace CfParametersRequest

def ofIntent (network : Network) (i : SwapIntent) : Except RequestError CfParametersRequest := do
  i.check network
  let dca ← encodePresent DcaPart.ofParams i.dca
  let affiliates ← encodePresent AffiliatePart.ofAffiliates i.affiliates
  let ccm ← encodePresent (CcmPart.ofParams "ccmParams") i.ccm
  let refund ← encodePresent (RefundPart.ofParams i.src i.dest) i.fillOrKill
  return {
    account := none
    src := i.src
    dest := i.dest
    destAddress := i.dest.chain.wireAddress i.destAddress
    commission := i.commission.getD 0
    refund
    ccm
    maxBoostFee := i.maxBoostFee
    affiliates
    dca }

def withAccount (network : Network) (account : String) (r : CfParametersRequest) :
    Except RequestError CfParametersRequest := do
  checkAddress network .protocol .brokerAccount account
  return { r with account := some account }

def method (r : CfParametersRequest) : String :=
  if r.account.isSome then "cf_encode_cf_parameters" else "broker_encode_cf_parameters"

def params (r : CfParametersRequest) : List Json :=
  (r.account.map Json.str).toList ++
    [r.src.toJson,
      r.dest.toJson,
      .str r.destAddress,
      .int r.commission.toNat,
      .ofOption (r.refund.map RefundPart.toJson),
      .ofOption (r.ccm.map CcmPart.toJson),
      bpsToJson r.maxBoostFee,
      affiliatesToJson r.affiliates,
      .ofOption (r.dca.map DcaPart.toJson)]

end CfParametersRequest

end SwapBroker
