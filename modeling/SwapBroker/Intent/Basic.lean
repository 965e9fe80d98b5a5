import SwapBroker.Registry.Asset

/-!
# Swap intents

What a caller wants swapped, as it was written. Nothing is checked here; the requests check every
field before they are sent.
-/

namespace SwapBroker

structure CcmParams where
  gasBudget : String
  message : String
  additionalData : Option String := none
deriving DecidableEq, Repr

structure DcaParams where
  numberOfChunks : UInt32
  chunkInterval : UInt32
deriving DecidableEq, Repr

/-- What happens to a swap that cannot be executed at a minimum price. -/
structure FillOrKillParams where
  retryDuration : UInt32
  refundAddress : String
  minPrice : String
  maxOracleSlippage : Option UInt16 := none
  refundCcm : Option CcmParams := none
deriving DecidableEq, Repr

/-- An account that takes a part of the commission, in basis points. -/
structure Affiliate where
  account : String
  commission : UInt16
deriving DecidableEq, Repr

structure ExtraParams where
  /-- The hex text of the 32 bytes that seed the swap account on Solana. -/
  seed : Option String := none
deriving DecidableEq, Repr

structure SwapIntent where
  src : Asset
  dest : Asset
  destAddress : String
  srcAddress : Option String := none
  /-- Base units of the source asset, as a numeral. -/
  amount : Option String := none
  commission : Option UInt16 := none
  affiliates : Option (List Affiliate) := none
  maxBoostFee : Option UInt16 := none
  ccm : Option CcmParams := none
  dca : Option DcaParams := none
  fillOrKill : Option FillOrKillParams := none
  extra : Option ExtraParams := none
deriving DecidableEq, Repr

end SwapBroker
