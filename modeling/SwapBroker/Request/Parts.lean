import SwapBroker.Intent.Json
import SwapBroker.Request.Check

/-!
# Parts of a request

The forms in which chunks, affiliates, cross-chain messages and refund policies are sent. Numbers
travel as canonical hex and payloads as the hex text of the caller; an absent part is null.
-/

namespace SwapBroker

def maxMessageSize : Nat := 15000

def maxAdditionalDataSize : Nat := 3000

def encodePresent (encode : α → Except RequestError β) : Option α → Except RequestError (Option β)
  | some value => (encode value).map some
  | none => .ok none

structure DcaPart where
  numberOfChunks : UInt32
  chunkInterval : UInt32
deriving DecidableEq, Repr

namespace DcaPart

def ofParams (p : DcaParams) : Except RequestError DcaPart :=
  if p.numberOfChunks = 0 then .error (.invalidDca .noChunks)
  else .ok ⟨p.numberOfChunks, p.chunkInterval⟩

def toJson (p : DcaPart) : Json :=
  .ofMembers [
    ("number_of_chunks", .int p.numberOfChunks.toNat),
    ("chunk_interval", .int p.chunkInterval.toNat)]

end DcaPart

structure AffiliatePart where
  account : String
  bps : UInt16
deriving DecidableEq, Repr

namespace AffiliatePart

def bpsField (index : Nat) : String :=
  "affiliates[" ++ Text.decimal index ++ "].commissionBps"

def ofAffiliatesFrom (index : Nat) : List Affiliate → Except RequestError (List AffiliatePart)
  | [] => .ok []
  | a :: rest => do
    checkBps (bpsField index) a.commission
    return ⟨a.account, a.commission⟩ :: (← ofAffiliatesFrom (index + 1) rest)

/-- The affiliates in the order given. Their accounts have been checked already. -/
def ofAffiliates (affiliates : List Affiliate) : Except RequestError (List AffiliatePart) :=
  if maxAffiliates < affiliates.length then
    .error (.invalidParameter "affiliates" .tooManyAffiliates)
  else ofAffiliatesFrom 0 affiliates

def toJson (a : AffiliatePart) : Json :=
  .ofMembers [("account", .str a.account), ("bps", .int a.bps.toNat)]

end AffiliatePart

structure CcmPart where
  gasBudget : Quantity
  message : String
  additionalData : String
deriving DecidableEq, Repr

namespace CcmPart

def checkBytes (field value : String) (limit : Nat) : Except RequestError Unit :=
  if !Bytes.isHexText value then .error (.invalidParameter field .notHexBytes)
  else if limit < Bytes.hexSize value then
    .error (.invalidParameter field (.tooManyBytes (Bytes.hexSize value) limit))
  else .ok ()

def ofParams (field : String) (p : CcmParams) : Except RequestError CcmPart := do
  let gasBudget ← (Quantity.ofText p.gasBudget).mapError fun cause =>
    RequestError.invalidParameter (field ++ ".gasBudget") (.unreadable cause)
  checkBytes (field ++ ".message") p.message maxMessageSize
  checkPresent (fun data => checkBytes (field ++ ".ccmAdditionalData") data maxAdditionalDataSize)
    p.additionalData
  return ⟨gasBudget, p.message, p.additionalData.getD "0x"⟩

def toJson (p : CcmPart) : Json :=
  .ofMembers [
    ("gas_budget", .str p.gasBudget.toHex),
    ("message", .str p.message),
    ("ccm_additional_data", .str p.additionalData)]

end CcmPart

structure RefundPart where
  retryDuration : UInt32
  refundAddress : String
  refundCcm : Option CcmPart
  minPrice : Quantity
  maxOracleSlippage : Option UInt16
deriving DecidableEq, Repr

namespace RefundPart

def slippageField : String := "fillOrKillParams.maxOraclePriceSlippage"

def minPriceOf (p : FillOrKillParams) (src dest : Asset) : Except RequestError Quantity :=
  (Price.ofText p.minPrice src dest).mapError .invalidPrice

/-- The policy of a swap from `src` to `dest`, whose refund address has been checked already. -/
def ofParams (src dest : Asset) (p : FillOrKillParams) : Except RequestError RefundPart := do
  checkPresent (checkBps slippageField) p.maxOracleSlippage
  let refundCcm ←
    encodePresent (CcmPart.ofParams "fillOrKillParams.refundCcmMetadata") p.refundCcm
  let minPrice ← minPriceOf p src dest
  return {
    retryDuration := p.retryDuration
    refundAddress := src.chain.wireAddress p.refundAddress
    refundCcm
    minPrice
    maxOracleSlippage := p.maxOracleSlippage }

def toJson (p : RefundPart) : Json :=
  .ofMembers [
    ("retry_duration", .int p.retryDuration.toNat),
    ("refund_address", .str p.refundAddress),
    ("refund_ccm_metadata", .ofOption (p.refundCcm.map CcmPart.toJson)),
    ("min_price", .str p.minPrice.toHex),
    ("max_oracle_price_slippage", .ofOption (p.maxOracleSlippage.map fun bps => .int bps.toNat))]

end RefundPart

def bpsToJson (bps : Option UInt16) : Json :=
  .ofOption (bps.map fun bps => .int bps.toNat)

def affiliatesToJson (affiliates : Option (List AffiliatePart)) : Json :=
  .ofOption (affiliates.map fun affiliates => .arr (affiliates.map AffiliatePart.toJson))

end SwapBroker
