import SwapBroker.Intent.Basic
import SwapBroker.Json.Record

/-!
# Intents as JSON

The members of an intent and of the records in it. Absent fields are left out when an intent is
written, and may be left out or null when one is read. An asset is written as its chain and symbol,
and only supported pairs are read.
-/

namespace SwapBroker

open Record Decoder

def Chain.toJson (c : Chain) : Json := .str c.name

def Symbol.toJson (s : Symbol) : Json := .str s.name

def Chain.decode : Decoder Chain := oneOf Chain.all Chain.name

def Symbol.decode : Decoder Symbol := oneOf Symbol.all Symbol.name

namespace Pair

def toJson (p : Pair) : Json :=
  .ofMembers [("chain", p.chain.toJson), ("asset", p.symbol.toJson)]

def record : Record Pair :=
  Pair.mk <$> required "chain" Chain.decode <*> required "asset" Symbol.decode

def decode : Decoder Pair :=
  record.decode "AssetAndChain" .plain

end Pair

namespace Asset

def toJson (a : Asset) : Json :=
  a.pair.toJson

def decode : Decoder Asset :=
  Pair.decode.andThen fun p =>
    match ofPair? p with
    | some asset => .ok asset
    | none => .error (.unsupportedPair p.chain p.symbol)

end Asset

namespace CcmParams

def toJson (p : CcmParams) : Json :=
  .ofPresent [
    ("gasBudget", some (.str p.gasBudget)),
    ("message", some (.str p.message)),
    ("ccmAdditionalData", p.additionalData.map .str)]

def record : Record CcmParams :=
  CcmParams.mk <$> required "gasBudget" text <*> required "message" text
    <*> optional "ccmAdditionalData" text

def decode : Decoder CcmParams :=
  record.decode "CcmParams" .plain

end CcmParams

namespace DcaParams

def toJson (p : DcaParams) : Json :=
  .ofMembers [
    ("numberOfChunks", .int p.numberOfChunks.toNat),
    ("chunkIntervalBlocks", .int p.chunkInterval.toNat)]

def record : Record DcaParams :=
  DcaParams.mk <$> required "numberOfChunks" uint32 <*> required "chunkIntervalBlocks" uint32

def decode : Decoder DcaParams :=
  record.decode "DcaParams" .plain

end DcaParams

namespace FillOrKillParams

def toJson (p : FillOrKillParams) : Json :=
  .ofPresent [
    ("retryDurationBlocks", some (.int p.retryDuration.toNat)),
    ("refundAddress", some (.str p.refundAddress)),
    ("minPrice", some (.str p.minPrice)),
    ("maxOraclePriceSlippage", p.maxOracleSlippage.map fun bps => .int bps.toNat),
    ("refundCcmMetadata", p.refundCcm.map CcmParams.toJson)]

def record : Record FillOrKillParams :=
  FillOrKillParams.mk <$> required "retryDurationBlocks" uint32
    <*> required "refundAddress" text
    <*> required "minPrice" text
    <*> optional "maxOraclePriceSlippage" uint16
    <*> optional "refundCcmMetadata" CcmParams.decode

def decode : Decoder FillOrKillParams :=
  record.decode "FillOrKillParams" .plain

end FillOrKillParams

namespace Affiliate

def toJson (a : Affiliate) : Json :=
  .ofMembers [("account", .str a.account), ("commissionBps", .int a.commission.toNat)]

def record : Record Affiliate :=
  Affiliate.mk <$> required "account" text <*> required "commissionBps" uint16

def decode : Decoder Affiliate :=
  record.decode "AffiliateBroker" .plain

end Affiliate

namespace ExtraParams

def toJson (p : ExtraParams) : Json :=
  .ofPresent [("seed", p.seed.map .str)]

def record : Record ExtraParams :=
  ExtraParams.mk <$> optional "seed" text

def decode : Decoder ExtraParams :=
  record.decode "ExtraParams" .plain

end ExtraParams

namespace SwapIntent

def toJson (i : SwapIntent) : Json :=
  .ofPresent [
    ("srcAsset", some i.src.toJson),
    ("destAsset", some i.dest.toJson),
    ("destAddress", some (.str i.destAddress)),
    ("srcAddress", i.srcAddress.map .str),
    ("amount", i.amount.map .str),
    ("commissionBps", i.commission.map fun bps => .int bps.toNat),
    ("affiliates", i.affiliates.map fun affiliates => .arr (affiliates.map Affiliate.toJson)),
    ("maxBoostFeeBps", i.maxBoostFee.map fun bps => .int bps.toNat),
    ("ccmParams", i.ccm.map CcmParams.toJson),
    ("dcaParams", i.dca.map DcaParams.toJson),
    ("fillOrKillParams", i.fillOrKill.map FillOrKillParams.toJson),
    ("extraParams", i.extra.map ExtraParams.toJson)]

def record : Record SwapIntent :=
  SwapIntent.mk <$> required "srcAsset" Asset.decode
    <*> required "destAsset" Asset.decode
    <*> required "destAddress" text
    <*> optional "srcAddress" text
    <*> optional "amount" text
    <*> optional "commissionBps" uint16
    <*> optional "affiliates" (list Affiliate.decode)
    <*> optional "maxBoostFeeBps" uint16
    <*> optional "ccmParams" CcmParams.decode
    <*> optional "dcaParams" DcaParams.decode
    <*> optional "fillOrKillParams" FillOrKillParams.decode
    <*> optional "extraParams" ExtraParams.decode

def decode : Decoder SwapIntent :=
  record.decode "SwapIntent" .plain

end SwapIntent

end SwapBroker
