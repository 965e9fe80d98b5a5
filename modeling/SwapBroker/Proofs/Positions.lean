import SwapBroker.Proofs.Acceptance
import SwapBroker.Proofs.Members
import SwapBroker.Request.VaultSwap

/-!
# Where the parameters of a request stand

The parameters of a call have no names, only positions. `Lays` says of a list of parameters that it
is laid out for an intent: what stands in front, and at which position each optional field of the
intent stands, in its form or as null. The forms are stated of the intent, not of the encoded parts,
so that the three methods are compared through what the caller asked for.
-/

namespace SwapBroker

open Outcome

variable {α β : Type}

-- ---------------------------------------------------------------------------
-- Forms of the fields
-- ---------------------------------------------------------------------------

def SentIn (form : α → Json → Prop) : Option α → Json → Prop
  | none, j => j = .null
  | some a, j => form a j

def bpsForm (bps : UInt16) (j : Json) : Prop :=
  j = .int bps.toNat

def DcaParams.form (p : DcaParams) (j : Json) : Prop :=
  j = .ofMembers [
    ("number_of_chunks", .int p.numberOfChunks.toNat),
    ("chunk_interval", .int p.chunkInterval.toNat)]

def affiliatesForm (affiliates : List Affiliate) (j : Json) : Prop :=
  j = .arr (affiliates.map fun a =>
    .ofMembers [("account", .str a.account), ("bps", .int a.commission.toNat)])

def CcmParams.form (p : CcmParams) (j : Json) : Prop :=
  ∃ gas, Quantity.ofText p.gasBudget = .ok gas ∧
    j = .ofMembers [
      ("gas_budget", .str gas.toHex),
      ("message", .str p.message),
      ("ccm_additional_data", .str (p.additionalData.getD "0x"))]

def FillOrKillParams.form (src dest : Asset) (p : FillOrKillParams) (j : Json) : Prop :=
  ∃ price ccm slippage, Price.ofText p.minPrice src dest = .ok price ∧
    SentIn CcmParams.form p.refundCcm ccm ∧ SentIn bpsForm p.maxOracleSlippage slippage ∧
    j = .ofMembers [
      ("retry_duration", .int p.retryDuration.toNat),
      ("refund_address", .str (src.chain.wireAddress p.refundAddress)),
      ("refund_ccm_metadata", ccm),
      ("min_price", .str price.toHex),
      ("max_oracle_price_slippage", slippage)]

theorem SentIn.of_encodePresent {encode : α → Except RequestError β} {toJson : β → Json}
    {form : α → Json → Prop} {value : Option α} {part : Option β}
    (h : encodePresent encode value = .ok part)
    (hform : ∀ a b, encode a = .ok b → form a (toJson b)) :
    SentIn form value (.ofOption (part.map toJson)) := by
  cases encodePresent_ok.mp h with
  | none => rfl
  | some hab => exact hform _ _ hab

theorem sentIn_bps (bps : Option UInt16) : SentIn bpsForm bps (bpsToJson bps) := by
  cases bps <;> rfl

theorem DcaPart.toJson_form {p : DcaParams} {part : DcaPart} (h : ofParams p = .ok part) :
    p.form part.toJson := by
  obtain ⟨-, rfl⟩ := ofParams_ok.mp h
  rfl

theorem AffiliatePart.toJson_form {affiliates : List Affiliate} {parts : List AffiliatePart}
    (h : ofAffiliates affiliates = .ok parts) :
    affiliatesForm affiliates (.arr (parts.map toJson)) := by
  obtain ⟨-, rfl⟩ := ofAffiliates_ok.mp h
  rw [affiliatesForm, List.map_map]
  rfl

theorem CcmPart.toJson_form {field : String} {p : CcmParams} {part : CcmPart}
    (h : ofParams field p = .ok part) : p.form part.toJson := by
  obtain ⟨-, hgas, hmessage, hdata⟩ := ofParams_ok.mp h
  exact ⟨part.gasBudget, hgas, by rw [CcmPart.toJson, hmessage, hdata]⟩

theorem RefundPart.toJson_form {src dest : Asset} {p : FillOrKillParams} {part : RefundPart}
    (h : ofParams src dest p = .ok part) : p.form src dest part.toJson := by
  obtain ⟨-, hccm, hprice, hretry, haddress, hslippage⟩ := ofParams_ok.mp h
  refine ⟨part.minPrice, _, _, hprice, .of_encodePresent hccm fun _ _ => CcmPart.toJson_form,
    sentIn_bps p.maxOracleSlippage, ?_⟩
  rw [RefundPart.toJson, hretry, haddress, hslippage]
  rfl

-- ---------------------------------------------------------------------------
-- Layouts
-- ---------------------------------------------------------------------------

structure Layout where
  ccm : Nat
  maxBoostFee : Nat
  affiliates : Nat
  dca : Nat
  /-- None where the refund policy stands inside another parameter. -/
  refund : Option Nat

namespace Layout

def depositAddress : Layout where
  ccm := 4
  maxBoostFee := 5
  affiliates := 6
  refund := some 7
  dca := 8

def parameterEncoding : Layout where
  ccm := 5
  maxBoostFee := 6
  affiliates := 7
  refund := none
  dca := 8

def cfParameters : Layout where
  refund := some 4
  ccm := 5
  maxBoostFee := 6
  affiliates := 7
  dca := 8

end Layout

def SentAt (params : List Json) (position : Nat) (form : α → Json → Prop) (value : Option α) :
    Prop :=
  ∃ j, params[position]? = some j ∧ SentIn form value j

/-- What stands in front of the optional fields, in every layout. -/
def frontOf (i : SwapIntent) : List Json :=
  [i.src.toJson, i.dest.toJson, .str (i.dest.chain.wireAddress i.destAddress),
    .int (i.commission.getD 0).toNat]

structure Lays (i : SwapIntent) (l : Layout) (params : List Json) : Prop where
  length : params.length = 9
  front : params.take 4 = frontOf i
  ccm : SentAt params l.ccm CcmParams.form i.ccm
  maxBoostFee : SentAt params l.maxBoostFee bpsForm i.maxBoostFee
  affiliates : SentAt params l.affiliates affiliatesForm i.affiliates
  dca : SentAt params l.dca DcaParams.form i.dca
  refund : ∀ n ∈ l.refund, SentAt params n (FillOrKillParams.form i.src i.dest) i.fillOrKill

theorem SentAt.of_encodePresent {params : List Json} {position : Nat}
    {encode : α → Except RequestError β} {toJson : β → Json} {form : α → Json → Prop}
    {value : Option α} {part : Option β} (h : encodePresent encode value = .ok part)
    (hform : ∀ a b, encode a = .ok b → form a (toJson b))
    (hp : params[position]? = some (.ofOption (part.map toJson))) :
    SentAt params position form value :=
  ⟨_, hp, .of_encodePresent h hform⟩

theorem Lays.of_parts {i : SwapIntent} {l : Layout} {params : List Json} {dca : Option DcaPart}
    {affiliates : Option (List AffiliatePart)} {ccm : Option CcmPart}
    (hdca : encodePresent DcaPart.ofParams i.dca = .ok dca)
    (haff : encodePresent AffiliatePart.ofAffiliates i.affiliates = .ok affiliates)
    (hccm : encodePresent (CcmPart.ofParams "ccmParams") i.ccm = .ok ccm)
    (hfront : params.length = 9 ∧ params.take 4 = frontOf i)
    (hplaces : params[l.ccm]? = some (.ofOption (ccm.map CcmPart.toJson)) ∧
      params[l.maxBoostFee]? = some (bpsToJson i.maxBoostFee) ∧
      params[l.affiliates]? = some (affiliatesToJson affiliates) ∧
      params[l.dca]? = some (.ofOption (dca.map DcaPart.toJson)))
    (hrefund : ∀ n ∈ l.refund, SentAt params n (FillOrKillParams.form i.src i.dest) i.fillOrKill) :
    Lays i l params where
  length := hfront.1
  front := hfront.2
  ccm := .of_encodePresent hccm (fun _ _ => CcmPart.toJson_form) hplaces.1
  maxBoostFee := ⟨_, hplaces.2.1, sentIn_bps i.maxBoostFee⟩
  affiliates := .of_encodePresent haff (fun _ _ => AffiliatePart.toJson_form) hplaces.2.2.1
  dca := .of_encodePresent hdca (fun _ _ => DcaPart.toJson_form) hplaces.2.2.2
  refund := hrefund

/-- Where the refund policy has a position of its own, it is encoded with the other parts. -/
theorem Lays.of_encodeParts {network : Network} {i : SwapIntent} {l : Layout} {position : Nat}
    {params : List Json} {parts : EncodedParts} (h : i.encodeParts network = .ok parts)
    (hfront : params.length = 9 ∧ params.take 4 = frontOf i)
    (hplaces : params[l.ccm]? = some (.ofOption (parts.ccm.map CcmPart.toJson)) ∧
      params[l.maxBoostFee]? = some (bpsToJson i.maxBoostFee) ∧
      params[l.affiliates]? = some (affiliatesToJson parts.affiliates) ∧
      params[l.dca]? = some (.ofOption (parts.dca.map DcaPart.toJson)))
    (hposition : l.refund = some position)
    (hrefund : params[position]? = some (.ofOption (parts.refund.map RefundPart.toJson))) :
    Lays i l params := by
  obtain ⟨-, hdca, haff, hccm, hpolicy⟩ := SwapIntent.encodeParts_ok.mp h
  refine .of_parts hdca haff hccm hfront hplaces ?_
  intro n hn
  obtain rfl : position = n := Option.some.inj (hposition.symm.trans hn)
  exact .of_encodePresent hpolicy (fun _ _ => RefundPart.toJson_form) hrefund

theorem EncodedParts.lays_toDeposit {network : Network} {i : SwapIntent} {parts : EncodedParts}
    (h : i.encodeParts network = .ok parts) :
    Lays i .depositAddress (parts.toDeposit i).params :=
  .of_encodeParts h ⟨rfl, rfl⟩ ⟨rfl, rfl, rfl, rfl⟩ rfl rfl

theorem EncodedParts.lays_toCfParameters {network : Network} {i : SwapIntent}
    {parts : EncodedParts} (h : i.encodeParts network = .ok parts) :
    Lays i .cfParameters (parts.toCfParameters i).params :=
  .of_encodeParts h ⟨rfl, rfl⟩ ⟨rfl, rfl, rfl, rfl⟩ rfl rfl

-- ---------------------------------------------------------------------------
-- Vault swaps
-- ---------------------------------------------------------------------------

namespace VaultSwapRequest

theorem amountOf_ok {i : SwapIntent} {amount : Quantity} :
    amountOf i = .ok amount ↔ ∃ text, i.amount = some text ∧ Quantity.ofText text = .ok amount := by
  unfold amountOf
  cases i.amount <;> simp [mapError_ok_iff]

theorem fillOrKillOf_ok {i : SwapIntent} {p : FillOrKillParams} :
    fillOrKillOf i = .ok p ↔ i.fillOrKill = some p := by
  unfold fillOrKillOf
  cases i.fillOrKill <;> simp

theorem ofIntent_ok {network : Network} {i : SwapIntent} {r : VaultSwapRequest} :
    ofIntent network i = .ok r ↔
      hasVault i.src.chain = true ∧ i.check network = .ok () ∧
      encodePresent DcaPart.ofParams i.dca = .ok r.dca ∧
      encodePresent AffiliatePart.ofAffiliates i.affiliates = .ok r.affiliates ∧
      encodePresent (CcmPart.ofParams "ccmParams") i.ccm = .ok r.ccm ∧
      (∃ amount p, amountOf i = .ok amount ∧ i.fillOrKill = some p ∧
        extraOf i amount p = .ok r.extra) ∧
      r = { r with
        account := none
        src := i.src
        dest := i.dest
        destAddress := i.dest.chain.wireAddress i.destAddress
        commission := i.commission.getD 0
        maxBoostFee := i.maxBoostFee } := by
  simp only [ofIntent, guard_bind_ok_iff, bind_ok_iff, exists_check_ok_iff, fillOrKillOf_ok,
    pure_ok_iff]
  constructor
  · rintro ⟨hvault, hc, amount, ham, p, hp, dca, hd, aff, ha, ccm, hm, extra, he, rfl⟩
    exact ⟨by simpa using hvault, hc, hd, ha, hm, ⟨amount, p, ham, hp, he⟩, rfl⟩
  · rintro ⟨hvault, hc, hd, ha, hm, ⟨amount, p, ham, hp, he⟩, hr⟩
    exact ⟨by simpa using hvault, hc, amount, ham, p, hp, _, hd, _, ha, _, hm, _, he, hr.symm⟩

theorem lays_params {network : Network} {i : SwapIntent} {r : VaultSwapRequest}
    (h : ofIntent network i = .ok r) : Lays i .parameterEncoding r.params := by
  obtain ⟨-, -, hdca, haff, hccm, -, hr⟩ := ofIntent_ok.mp h
  rw [hr]
  exact .of_parts hdca haff hccm ⟨rfl, rfl⟩ ⟨rfl, rfl, rfl, rfl⟩ (by rintro n ⟨⟩)

/-- The extra parameter of a source chain whose refunds go to an address of the caller. -/
structure ExtraOf (i : SwapIntent) (refund : Option Json) (x : Json) : Prop where
  chain : x.member? "chain" = some (.str i.src.chain.name)
  inputAmount : ∃ text amount, i.amount = some text ∧ Quantity.ofText text = .ok amount ∧
    x.member? "input_amount" = some (.str amount.toHex)
  refund : x.member? "refund_parameters" = refund
  sender : i.src.chain = .solana → x.member? "from" = i.srcAddress.map .str
  seed : i.src.chain = .solana → x.member? "seed" = (i.extra.bind (·.seed)).map .str

theorem evmExtra_ok {src dest : Asset} {amount : Quantity} {p : FillOrKillParams}
    {extra : EvmExtra} :
    evmExtra src dest amount p = .ok extra ↔
      extra.inputAmount = amount ∧ RefundPart.ofParams src dest p = .ok extra.refund := by
  simp only [evmExtra, bind_ok_iff, pure_ok_iff]
  constructor
  · rintro ⟨refund, hr, rfl⟩
    exact ⟨rfl, hr⟩
  · rintro ⟨rfl, hr⟩
    exact ⟨extra.refund, hr, rfl⟩

theorem extraOf_ok {i : SwapIntent} {p : FillOrKillParams} {extra : VaultSwapExtra}
    {text : String} {amount : Quantity} (htext : i.amount = some text)
    (hamount : Quantity.ofText text = .ok amount)
    (hchain : i.src.chain ∈ [Chain.ethereum, .arbitrum, .solana])
    (h : extraOf i amount p = .ok extra) :
    ∃ part, RefundPart.ofParams i.src i.dest p = .ok part ∧
      ExtraOf i (some part.toJson) extra.toJson := by
  cases hc : i.src.chain with
  | ethereum | arbitrum =>
    simp only [extraOf, hc, bind_ok_iff, evmExtra_ok, pure_ok_iff] at h
    obtain ⟨evm, ⟨rfl, hr⟩, rfl⟩ := h
    refine ⟨evm.refund, hr, ?_, ⟨text, _, htext, hamount, ?_⟩, ?_, ?_, ?_⟩ <;>
      simp [VaultSwapExtra.toJson, VaultSwapExtra.evmMembers, Json.member?_ofPresent, hc]
  | solana =>
    simp only [extraOf, hc, bind_ok_iff, exists_check_ok_iff, evmExtra_ok, pure_ok_iff] at h
    obtain ⟨-, evm, ⟨rfl, hr⟩, rfl⟩ := h
    -- Whether the sender and the seed are members depends on whether they were supplied.
    refine ⟨evm.refund, hr, ?_, ⟨text, _, htext, hamount, ?_⟩, ?_, fun _ => ?_, fun _ => ?_⟩ <;>
      cases i.srcAddress <;> cases i.extra.bind (·.seed) <;>
        simp [VaultSwapExtra.toJson, VaultSwapExtra.evmMembers, Json.member?_ofPresent, hc]
  | polkadot | bitcoin | assethub => simp [hc] at hchain

end VaultSwapRequest

-- ---------------------------------------------------------------------------
-- The three methods side by side
-- ---------------------------------------------------------------------------

structure DepositMatches (deposit cf : List Json) : Prop where
  front : deposit.take 4 = cf.take 4
  ccm : deposit[4]? = cf[5]?
  maxBoostFee : deposit[5]? = cf[6]?
  affiliates : deposit[6]? = cf[7]?
  refund : deposit[7]? = cf[4]?
  dca : deposit[8]? = cf[8]?

/-- The parameters of a vault swap request differ from those of a request for encoded parameters
only in the one that depends on the source chain, which holds the refund policy of the other. -/
structure VaultSwapMatches (i : SwapIntent) (vault cf : List Json) : Prop where
  front : vault.take 4 = cf.take 4
  rest : vault.drop 5 = cf.drop 5
  extra : i.src.chain ∈ [Chain.ethereum, .arbitrum, .solana] →
    ∃ x, vault[4]? = some x ∧ VaultSwapRequest.ExtraOf i cf[4]? x

theorem vaultSwapMatches {network : Network} {i : SwapIntent} {parts : EncodedParts}
    {r : VaultSwapRequest} (hparts : i.encodeParts network = .ok parts)
    (hr : VaultSwapRequest.ofIntent network i = .ok r) :
    VaultSwapMatches i r.params (parts.toCfParameters i).params := by
  obtain ⟨-, hdca, haff, hccm, hrefund⟩ := SwapIntent.encodeParts_ok.mp hparts
  obtain ⟨-, -, hdca', haff', hccm', ⟨amount, p, ham, hp, hextra⟩, hreq⟩ :=
    VaultSwapRequest.ofIntent_ok.mp hr
  -- Both requests encode the same fields, so their parts are the same.
  have hd : r.dca = parts.dca := Except.ok.inj (hdca'.symm.trans hdca)
  have ha : r.affiliates = parts.affiliates := Except.ok.inj (haff'.symm.trans haff)
  have hm : r.ccm = parts.ccm := Except.ok.inj (hccm'.symm.trans hccm)
  have hparams : r.params = (parts.toCfParameters i).params.set 4 r.extra.toJson := by
    rw [hreq, VaultSwapRequest.params, hd, ha, hm]
    rfl
  rw [hparams]
  refine ⟨rfl, rfl, fun hchain => ⟨_, rfl, ?_⟩⟩
  obtain ⟨text, htext, hamount⟩ := VaultSwapRequest.amountOf_ok.mp ham
  obtain ⟨part, hpart, hmembers⟩ := VaultSwapRequest.extraOf_ok htext hamount hchain hextra
  have hsame : parts.refund = some part := by
    rw [hp, encodePresent, hpart] at hrefund
    exact (Except.ok.inj hrefund).symm
  have hcf : (parts.toCfParameters i).params[4]? = some part.toJson := by
    show some (Json.ofOption (parts.refund.map RefundPart.toJson)) = _
    rw [hsame]
    rfl
  rw [hcf]
  exact hmembers

-- ---------------------------------------------------------------------------
-- Requests on behalf of an account
-- ---------------------------------------------------------------------------

theorem VaultSwapRequest.withAccount_ok {network : Network} {account : String}
    {r : VaultSwapRequest} (h : AddressFormat.account.check network account = .ok ()) :
    r.withAccount network account = .ok { r with account := some account } :=
  bind_ok_iff.mpr ⟨(), checkAddress_ok.mpr h, rfl⟩

theorem CfParametersRequest.withAccount_ok {network : Network} {account : String}
    {r : CfParametersRequest} (h : AddressFormat.account.check network account = .ok ()) :
    r.withAccount network account = .ok { r with account := some account } :=
  bind_ok_iff.mpr ⟨(), checkAddress_ok.mpr h, rfl⟩

/-- The requests that can be made of an intent are laid out for it, each method in its own way, and
place the same values. A broker account changes the method and stands in front of the parameters. -/
theorem params_laid_out (network : Network) (i : SwapIntent) :
    (∀ d, DepositRequest.ofIntent network i = .ok d → Lays i .depositAddress d.params) ∧
    (∀ v, VaultSwapRequest.ofIntent network i = .ok v →
      Lays i .parameterEncoding v.params ∧
      v.method = "broker_request_swap_parameter_encoding" ∧
      ∀ account, AddressFormat.account.check network account = .ok () →
        ∃ routed, v.withAccount network account = .ok routed ∧
          routed.params = .str account :: v.params ∧
          routed.method = "cf_request_swap_parameter_encoding") ∧
    (∀ c, CfParametersRequest.ofIntent network i = .ok c →
      Lays i .cfParameters c.params ∧
      c.method = "broker_encode_cf_parameters" ∧
      (∀ account, AddressFormat.account.check network account = .ok () →
        ∃ routed, c.withAccount network account = .ok routed ∧
          routed.params = .str account :: c.params ∧
          routed.method = "cf_encode_cf_parameters") ∧
      (∀ d, DepositRequest.ofIntent network i = .ok d → DepositMatches d.params c.params) ∧
      ∀ v, VaultSwapRequest.ofIntent network i = .ok v → VaultSwapMatches i v.params c.params) := by
  refine ⟨fun d hd => ?_, fun v hv => ?_, fun c hc => ?_⟩
  · obtain ⟨parts, hparts, rfl⟩ := DepositRequest.ofIntent_ok.mp hd
    exact EncodedParts.lays_toDeposit hparts
  · obtain ⟨-, -, -, -, -, -, hreq⟩ := VaultSwapRequest.ofIntent_ok.mp hv
    refine ⟨VaultSwapRequest.lays_params hv, by rw [hreq]; rfl, fun account ha => ?_⟩
    exact ⟨_, VaultSwapRequest.withAccount_ok ha, by rw [hreq]; rfl, rfl⟩
  · obtain ⟨parts, hparts, rfl⟩ := CfParametersRequest.ofIntent_ok.mp hc
    refine ⟨EncodedParts.lays_toCfParameters hparts, rfl, fun account ha => ?_, fun d hd => ?_,
      fun v hv => vaultSwapMatches hparts hv⟩
    · exact ⟨_, CfParametersRequest.withAccount_ok ha, rfl, rfl⟩
    · obtain ⟨same, hsame, rfl⟩ := DepositRequest.ofIntent_ok.mp hd
      obtain rfl : same = parts := Except.ok.inj (hsame.symm.trans hparts)
      exact ⟨rfl, rfl, rfl, rfl, rfl, rfl⟩

def etherForUsdc : SwapIntent where
  src := .eth
  dest := .arbUsdc
  destAddress := "0x02679b10f7b94fc4f273569cc2e5c49eefa5c0f1"
  amount := some "1000000000000000000"
  commission := some 10
  affiliates := some [⟨"0x1cf326c5aaa5af9f0e2791e66310fe8f044faadaf12567eaa0976959d1f7731f", 25⟩]
  dca := some ⟨100, 5⟩
  fillOrKill := some ⟨500, "0x02679b10f7b94fc4f273569cc2e5c49eefa5c0f1", "2458.206", some 50, none⟩

theorem params_laid_out_etherForUsdc :
    ∃ d v c, DepositRequest.ofIntent .mainnet etherForUsdc = .ok d ∧
      VaultSwapRequest.ofIntent .mainnet etherForUsdc = .ok v ∧
      CfParametersRequest.ofIntent .mainnet etherForUsdc = .ok c ∧
      Lays etherForUsdc .depositAddress d.params ∧
      Lays etherForUsdc .parameterEncoding v.params ∧
      DepositMatches d.params c.params ∧ VaultSwapMatches etherForUsdc v.params c.params ∧
      ∃ routed, v.withAccount .mainnet
          "0x1cf326c5aaa5af9f0e2791e66310fe8f044faadaf12567eaa0976959d1f7731f" = .ok routed ∧
        routed.params.length = 10 := by
  obtain ⟨hd, hv, hc⟩ := params_laid_out .mainnet etherForUsdc
  have hcf := hc _ rfl
  have hvault := hv _ rfl
  obtain ⟨routed, hrouted, hparams, -⟩ := hvault.2.2
    "0x1cf326c5aaa5af9f0e2791e66310fe8f044faadaf12567eaa0976959d1f7731f" rfl
  exact ⟨_, _, _, rfl, rfl, rfl, hd _ rfl, hvault.1, hcf.2.2.2.1 _ rfl, hcf.2.2.2.2 _ rfl,
    routed, hrouted, by rw [hparams]; rfl⟩

end SwapBroker
