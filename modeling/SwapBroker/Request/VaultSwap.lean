import SwapBroker.Request.Parts

/-!
# Vault swap requests

Asks for the data of a transaction that swaps from a vault on the source chain. The parameters, by
position: source asset, destination asset, destination address, commission, extra parameters of the
source chain, cross-chain message, boost fee, affiliates, chunks. A request on behalf of a broker
account goes to a node instead of the broker and has the account in front.

Bitcoin refunds go back to where the funds came from, so its extra parameters hold the least output
of the whole amount and no refund address.
-/

namespace SwapBroker

structure EvmExtra where
  inputAmount : Quantity
  refund : RefundPart
deriving DecidableEq, Repr

inductive VaultSwapExtra where
  | bitcoin (minOutput : Quantity) (retryDuration : UInt32) (maxOracleSlippage : Option UInt16)
  | ethereum (extra : EvmExtra)
  | arbitrum (extra : EvmExtra)
  | solana (sender seed : Option String) (extra : EvmExtra)
deriving DecidableEq, Repr

namespace VaultSwapExtra

def evmMembers (extra : EvmExtra) : List (String × Option Json) :=
  [("input_amount", some (.str extra.inputAmount.toHex)),
    ("refund_parameters", some extra.refund.toJson)]

def toJson : VaultSwapExtra → Json
  | .bitcoin minOutput retryDuration maxOracleSlippage =>
    .ofMembers [
      ("chain", .str Chain.bitcoin.name),
      ("min_output_amount", .str minOutput.toHex),
      ("retry_duration", .int retryDuration.toNat),
      ("max_oracle_price_slippage", bpsToJson maxOracleSlippage)]
  | .ethereum extra => .ofPresent (("chain", some (.str Chain.ethereum.name)) :: evmMembers extra)
  | .arbitrum extra => .ofPresent (("chain", some (.str Chain.arbitrum.name)) :: evmMembers extra)
  | .solana sender seed extra =>
    .ofPresent (("chain", some (.str Chain.solana.name)) ::
      ("from", sender.map .str) :: ("seed", seed.map .str) :: evmMembers extra)

end VaultSwapExtra

structure VaultSwapRequest where
  account : Option String
  src : Asset
  dest : Asset
  destAddress : String
  commission : UInt16
  extra : VaultSwapExtra
  ccm : Option CcmPart
  maxBoostFee : Option UInt16
  affiliates : Option (List AffiliatePart)
  dca : Option DcaPart
deriving DecidableEq, Repr

namespace VaultSwapRequest

def checkSeed (seed : String) : Except RequestError Unit :=
  if Bytes.isHexText seed ∧ seed.toList.length = 2 + 2 * seedSize then .ok ()
  else .error (.invalidParameter "extraParams.seed" .badSeed)

def hasVault : Chain → Bool
  | .polkadot | .assethub => false
  | _ => true

def noEncoding (src dest : Asset) : RequestError :=
  .unsupportedRoute src.chain dest.chain .noParameterEncoding

def amountOf (i : SwapIntent) : Except RequestError Quantity :=
  match i.amount with
  | none => .error (.missingField "amount")
  | some amount =>
    (Quantity.ofText amount).mapError fun cause => .invalidParameter "amount" (.unreadable cause)

def fillOrKillOf (i : SwapIntent) : Except RequestError FillOrKillParams :=
  match i.fillOrKill with
  | none => .error (.missingField "fillOrKillParams")
  | some p => .ok p

def bitcoinExtra (src dest : Asset) (amount : Quantity) (p : FillOrKillParams) :
    Except RequestError VaultSwapExtra := do
  checkPresent (checkBps RefundPart.slippageField) p.maxOracleSlippage
  let minPrice ← RefundPart.minPriceOf p src dest
  match Price.output? amount minPrice with
  | some minOutput => return .bitcoin minOutput p.retryDuration p.maxOracleSlippage
  | none => throw (.invalidParameter "amount" .outputTooLarge)

def evmExtra (src dest : Asset) (amount : Quantity) (p : FillOrKillParams) :
    Except RequestError EvmExtra := do
  return ⟨amount, ← RefundPart.ofParams src dest p⟩

def extraOf (i : SwapIntent) (amount : Quantity) (p : FillOrKillParams) :
    Except RequestError VaultSwapExtra :=
  match i.src.chain with
  | .bitcoin => bitcoinExtra i.src i.dest amount p
  | .ethereum => do return .ethereum (← evmExtra i.src i.dest amount p)
  | .arbitrum => do return .arbitrum (← evmExtra i.src i.dest amount p)
  | .solana => do
    let seed := i.extra.bind (·.seed)
    checkPresent checkSeed seed
    return .solana i.srcAddress seed (← evmExtra i.src i.dest amount p)
  | .polkadot | .assethub => .error (noEncoding i.src i.dest)

def ofIntent (network : Network) (i : SwapIntent) : Except RequestError VaultSwapRequest := do
  if !hasVault i.src.chain then throw (noEncoding i.src i.dest)
  i.check network
  let amount ← amountOf i
  let fillOrKill ← fillOrKillOf i
  let dca ← encodePresent DcaPart.ofParams i.dca
  let affiliates ← encodePresent AffiliatePart.ofAffiliates i.affiliates
  let ccm ← encodePresent (CcmPart.ofParams "ccmParams") i.ccm
  let extra ← extraOf i amount fillOrKill
  return {
    account := none
    src := i.src
    dest := i.dest
    destAddress := i.dest.chain.wireAddress i.destAddress
    commission := i.commission.getD 0
    extra
    ccm
    maxBoostFee := i.maxBoostFee
    affiliates
    dca }

/-- Sends the request to a node on behalf of a broker account. -/
def withAccount (network : Network) (account : String) (r : VaultSwapRequest) :
    Except RequestError VaultSwapRequest := do
  checkAddress network .protocol .brokerAccount account
  return { r with account := some account }

def method (r : VaultSwapRequest) : String :=
  if r.account.isSome then "cf_request_swap_parameter_encoding"
  else "broker_request_swap_parameter_encoding"

def params (r : VaultSwapRequest) : List Json :=
  (r.account.map Json.str).toList ++
    [r.src.toJson,
      r.dest.toJson,
      .str r.destAddress,
      .int r.commission.toNat,
      r.extra.toJson,
      .ofOption (r.ccm.map CcmPart.toJson),
      bpsToJson r.maxBoostFee,
      affiliatesToJson r.affiliates,
      .ofOption (r.dca.map DcaPart.toJson)]

end VaultSwapRequest

end SwapBroker
