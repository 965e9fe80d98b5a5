import SwapBroker.Proofs.Stages
import SwapBroker.Proofs.WidePrices

/-!
# The first failing stage of a request

The conditions of each method, in the order in which its request is made, and the stage to which the
error of a refused intent belongs.
-/

namespace SwapBroker

open Outcome

-- ---------------------------------------------------------------------------
-- The conditions of a method
-- ---------------------------------------------------------------------------

namespace FillOrKillParams

def slippageCondition (policy : Option FillOrKillParams) : Condition :=
  ⟨.numbers, ∀ p ∈ policy, ∀ bps ∈ p.maxOracleSlippage, bps.toNat ≤ 10000⟩

def priceCondition (src dest : Asset) (policy : Option FillOrKillParams) : Condition :=
  ⟨.price, ∀ p ∈ policy, ∃ price, Price.ofText p.minPrice src dest = .ok price⟩

def conditions (src dest : Asset) (policy : Option FillOrKillParams) : List Condition :=
  [slippageCondition policy,
    ⟨.numbers, ∀ p ∈ policy, ∀ ccm ∈ p.refundCcm, ccm.Acceptable⟩,
    priceCondition src dest policy]

end FillOrKillParams

namespace SwapIntent

def addressConditions (network : Network) (i : SwapIntent) : List Condition :=
  [⟨.destination, i.dest.chain.checkAddress network i.destAddress = .ok ()⟩,
    ⟨.source, ∀ a ∈ i.srcAddress, i.src.chain.checkAddress network a = .ok ()⟩,
    ⟨.refund, ∀ f ∈ i.fillOrKill, i.src.chain.checkAddress network f.refundAddress = .ok ()⟩,
    ⟨.affiliates, ∀ as ∈ i.affiliates, ∀ a ∈ as,
      AddressFormat.account.check network a.account = .ok ()⟩]

def checkConditions (network : Network) (i : SwapIntent) : List Condition :=
  ⟨.route, i.src ≠ i.dest ∧ ¬ MovesDot i.src i.dest⟩ :: (i.addressConditions network ++
    [⟨.fees, ∀ bps ∈ i.commission, bps.toNat ≤ 10000⟩,
      ⟨.fees, ∀ bps ∈ i.maxBoostFee, bps.toNat ≤ 10000⟩,
      ⟨.coupling, i.dca.isSome → i.fillOrKill.isSome⟩])

def partConditions (i : SwapIntent) : List Condition :=
  [⟨.numbers, ∀ d ∈ i.dca, 1 ≤ d.numberOfChunks.toNat⟩,
    ⟨.numbers, ∀ as ∈ i.affiliates, as.length ≤ 5 ∧ ∀ a ∈ as, a.commission.toNat ≤ 10000⟩,
    ⟨.numbers, ∀ c ∈ i.ccm, c.Acceptable⟩]

def OutputFits (i : SwapIntent) : Prop :=
  ∀ text ∈ i.amount, ∀ p ∈ i.fillOrKill, ∀ amount price, Quantity.ofText text = .ok amount →
    Price.ofText p.minPrice i.src i.dest = .ok price →
    amount.toNat * price.toNat < quantityLimit * Price.one

def extraConditions (i : SwapIntent) : List Condition :=
  match i.src.chain with
  | .bitcoin => [FillOrKillParams.slippageCondition i.fillOrKill,
      FillOrKillParams.priceCondition i.src i.dest i.fillOrKill, ⟨.output, i.OutputFits⟩]
  | .solana => ⟨.numbers, ∀ seed ∈ i.extra.bind (·.seed), Bytes.IsHexOf seed 32⟩ ::
      FillOrKillParams.conditions i.src i.dest i.fillOrKill
  | _ => FillOrKillParams.conditions i.src i.dest i.fillOrKill

def partsConditions (network : Network) (i : SwapIntent) : List Condition :=
  i.checkConditions network ++ i.partConditions ++
    FillOrKillParams.conditions i.src i.dest i.fillOrKill

def vaultSwapConditions (network : Network) (i : SwapIntent) : List Condition :=
  ⟨.route, VaultSwapRequest.hasVault i.src.chain = true⟩ :: i.checkConditions network ++
    [⟨.amount, ∃ text ∈ i.amount, ∃ amount, Quantity.ofText text = .ok amount⟩,
      ⟨.policy, i.fillOrKill.isSome⟩] ++
    i.partConditions ++ i.extraConditions

def accountConditions (network : Network) (account : Option String) : List Condition :=
  [⟨.brokerAccount, ∀ a ∈ account, AddressFormat.account.check network a = .ok ()⟩]

def conditions (network : Network) (account : Option String) (i : SwapIntent) :
    Method → List Condition
  | .depositAddress => i.partsConditions network
  | .parameterEncoding => i.vaultSwapConditions network ++ accountConditions network account
  | .cfParameters => i.partsConditions network ++ accountConditions network account

end SwapIntent

-- ---------------------------------------------------------------------------
-- The order of the conditions
-- ---------------------------------------------------------------------------

theorem SwapIntent.conditions_ordered {network : Network} {account : Option String}
    {i : SwapIntent} {method : Method} :
    Condition.Ordered (i.conditions network account method) := by
  -- The places are numerals whatever the intent is, so that the comparison computes.
  unfold Condition.Ordered
  cases method with
  | depositAddress | cfParameters => exact of_decide_eq_true rfl
  | parameterEncoding =>
    unfold conditions vaultSwapConditions extraConditions
    cases i.src.chain <;> exact of_decide_eq_true rfl

-- ---------------------------------------------------------------------------
-- What decides each part
-- ---------------------------------------------------------------------------

namespace RefundPart

theorem decidedBy_slippage {p : FillOrKillParams} :
    DecidedBy (checkPresent (checkBps slippageField) p.maxOracleSlippage)
      [FillOrKillParams.slippageCondition (some p)] := by
  refine .test ?_ (.checkPresent fun _ => failsAt_checkBps)
  simp [checkPresent_ok, checkBps_ok]

theorem decidedBy_minPriceOf {src dest : Asset} {p : FillOrKillParams} :
    DecidedBy (minPriceOf p src dest) [FillOrKillParams.priceCondition src dest (some p)] := by
  refine .check ?_ (.mapError fun _ => rfl)
  simp [minPriceOf_ok]

theorem decidedBy_ofParams {src dest : Asset} {p : FillOrKillParams} :
    DecidedBy (ofParams src dest p) (FillOrKillParams.conditions src dest (some p)) := by
  refine .cons decidedBy_slippage fun _ _ => .cons (.check ?_ ?_) fun _ _ =>
    .last decidedBy_minPriceOf fun _ => ⟨_, rfl⟩
  · simp [exists_encodePresent_ok, CcmPart.exists_ofParams_ok]
  · exact .encodePresent fun _ => CcmPart.failsAt_ofParams

theorem decidedBy_encodePresent {src dest : Asset} {policy : Option FillOrKillParams} :
    DecidedBy (encodePresent (ofParams src dest) policy)
      (FillOrKillParams.conditions src dest policy) := by
  cases policy with
  | none =>
    refine .of_ok none ?_
    simp [FillOrKillParams.conditions, FillOrKillParams.slippageCondition,
      FillOrKillParams.priceCondition]
  | some p => exact .last decidedBy_ofParams fun _ => ⟨_, rfl⟩

end RefundPart

namespace SwapIntent

theorem decidedBy_checkAddresses {network : Network} {i : SwapIntent} :
    DecidedBy (i.checkAddresses network) (i.addressConditions network) := by
  refine .cons (.test checkAddress_ok failsAt_checkAddress) fun _ _ =>
    .cons (.test ?_ (.checkPresent fun _ => failsAt_checkAddress)) fun _ _ =>
    .cons (.test ?_ (.checkPresent fun _ => failsAt_checkAddress)) fun _ _ =>
    .test ?_ failsAt_checkAccounts
  · simp only [checkPresent_ok, checkAddress_ok, AddressPlace.format, Chain.checkAddress]
  · simp only [checkPresent_ok, checkAddress_ok, AddressPlace.format, Chain.checkAddress]
  · rw [checkAccounts_ok]
    cases i.affiliates <;> simp

theorem decidedBy_check {network : Network} {i : SwapIntent} :
    DecidedBy (i.check network) (i.checkConditions network) := by
  refine .cons (.test checkRoute_ok failsAt_checkRoute) fun _ _ =>
    decidedBy_checkAddresses.bind fun _ _ =>
    .cons (.test ?_ (.checkPresent fun _ => failsAt_checkBps)) fun _ _ =>
    .cons (.test ?_ (.checkPresent fun _ => failsAt_checkBps)) fun _ _ =>
    .test ?_ (.ite (.error rfl) (.ok ()))
  · simp only [checkPresent_ok, checkBps_ok]
  · simp only [checkPresent_ok, checkBps_ok]
  · rw [guard_ok_iff]
    simp [Option.isSome_iff_ne_none]

theorem decidedBy_parts {α : Type} {i : SwapIntent} {cs : List Condition}
    {f : Option DcaPart → Option (List AffiliatePart) → Option CcmPart → Except RequestError α}
    (hf : ∀ dca affiliates ccm, DecidedBy (f dca affiliates ccm) cs) :
    DecidedBy (do
      let dca ← encodePresent DcaPart.ofParams i.dca
      let affiliates ← encodePresent AffiliatePart.ofAffiliates i.affiliates
      let ccm ← encodePresent (CcmPart.ofParams "ccmParams") i.ccm
      f dca affiliates ccm) (i.partConditions ++ cs) := by
  refine .cons (.check ?_ (.encodePresent fun _ => DcaPart.failsAt_ofParams)) fun _ _ =>
    .cons (.check ?_ (.encodePresent fun _ => AffiliatePart.failsAt_ofAffiliates)) fun _ _ =>
    .cons (.check ?_ (.encodePresent fun _ => CcmPart.failsAt_ofParams)) fun _ _ => hf _ _ _
  · simp only [exists_encodePresent_ok, DcaPart.exists_ofParams_ok]
  · simp only [exists_encodePresent_ok, AffiliatePart.exists_ofAffiliates_ok]
  · simp only [exists_encodePresent_ok, CcmPart.exists_ofParams_ok]

theorem decidedBy_encodeParts {network : Network} {i : SwapIntent} :
    DecidedBy (i.encodeParts network) (i.partsConditions network) := by
  unfold partsConditions
  rw [List.append_assoc]
  exact decidedBy_check.bind fun _ _ => decidedBy_parts fun _ _ _ =>
    .last RefundPart.decidedBy_encodePresent fun _ => ⟨_, rfl⟩

end SwapIntent

/-- The one amount and the one price that an intent has fit together. -/
theorem SwapIntent.outputFits_iff {i : SwapIntent} {text : String} {amount price : Quantity}
    {p : FillOrKillParams} (htext : i.amount = some text)
    (hamount : Quantity.ofText text = .ok amount) (hp : i.fillOrKill = some p)
    (hprice : Price.ofText p.minPrice i.src i.dest = .ok price) :
    i.OutputFits ↔ ∃ q, Price.output? amount price = some q := by
  have hquotient : amount.toNat * price.toNat / 2 ^ 128 < 2 ^ 256 ↔
      amount.toNat * price.toNat < quantityLimit * Price.one :=
    Nat.div_lt_iff_lt_mul (Nat.two_pow_pos 128)
  rw [Price.exists_output?_iff, hquotient, OutputFits, htext, hp]
  simp [hamount, hprice]

namespace VaultSwapRequest

theorem checkSeed_ok {seed : String} : checkSeed seed = .ok () ↔ Bytes.IsHexOf seed 32 := by
  have hsize : 2 + 2 * seedSize = 66 := rfl
  simp only [checkSeed, hsize]
  split
  next h =>
    obtain ⟨size, hs⟩ := Bytes.isHexText_iff.mp h.1
    obtain ⟨ds, htext, hlen, -⟩ := id hs
    have hlength := h.2
    rw [htext, List.length_cons, List.length_cons] at hlength
    obtain rfl : size = 32 := by omega
    exact ⟨fun _ => hs, fun _ => rfl⟩
  next h =>
    refine ⟨fun hok => (nomatch hok), fun hs => absurd ⟨Bytes.isHexText_iff.mpr ⟨32, hs⟩, ?_⟩ h⟩
    obtain ⟨ds, htext, hlen, -⟩ := hs
    rw [htext, List.length_cons, List.length_cons, hlen]

theorem decidedBy_bitcoinExtra {i : SwapIntent} {text : String} {amount : Quantity}
    {p : FillOrKillParams} (htext : i.amount = some text)
    (hamount : Quantity.ofText text = .ok amount) (hp : i.fillOrKill = some p) :
    DecidedBy (bitcoinExtra i.src i.dest amount p)
      [FillOrKillParams.slippageCondition (some p),
        FillOrKillParams.priceCondition i.src i.dest (some p), ⟨.output, i.OutputFits⟩] := by
  refine .cons RefundPart.decidedBy_slippage fun _ _ =>
    .cons RefundPart.decidedBy_minPriceOf fun price hprice => .check ?_ ?_
  · rw [SwapIntent.outputFits_iff htext hamount hp (RefundPart.minPriceOf_ok.mp hprice)]
    cases Price.output? amount price with
    | none => exact ⟨fun ⟨_, h⟩ => (nomatch h), fun ⟨_, h⟩ => (nomatch h)⟩
    | some q => exact ⟨fun _ => ⟨q, rfl⟩, fun _ => ⟨_, rfl⟩⟩
  · split
    · exact .ok _
    · exact .error rfl

theorem decidedBy_extraOf {i : SwapIntent} {text : String} {amount : Quantity}
    {p : FillOrKillParams} (hvault : hasVault i.src.chain = true) (htext : i.amount = some text)
    (hamount : Quantity.ofText text = .ok amount) (hp : i.fillOrKill = some p) :
    DecidedBy (extraOf i amount p) i.extraConditions := by
  have hevm : DecidedBy (evmExtra i.src i.dest amount p)
      (FillOrKillParams.conditions i.src i.dest i.fillOrKill) := by
    rw [hp]
    exact .last RefundPart.decidedBy_ofParams fun _ => ⟨_, rfl⟩
  unfold extraOf SwapIntent.extraConditions
  cases hc : i.src.chain with
  | bitcoin =>
    rw [hp]
    exact decidedBy_bitcoinExtra htext hamount hp
  | ethereum | arbitrum => exact .last hevm fun _ => ⟨_, rfl⟩
  | solana =>
    refine .cons (.test ?_ (.checkPresent fun _ => failsAt_checkSeed)) fun _ _ =>
      .last hevm fun _ => ⟨_, rfl⟩
    simp only [checkPresent_ok, checkSeed_ok]
  | polkadot | assethub => simp [hc, hasVault] at hvault

theorem decidedBy_ofIntent {network : Network} {i : SwapIntent} :
    DecidedBy (ofIntent network i) (i.vaultSwapConditions network) := by
  unfold ofIntent SwapIntent.vaultSwapConditions
  simp only [List.append_assoc, List.cons_append, List.nil_append]
  refine .guard rfl (by simp) fun hvault => SwapIntent.decidedBy_check.bind fun _ _ =>
    .cons (.check ?_ failsAt_amountOf) fun amount ham =>
    .cons (.check ?_ failsAt_fillOrKillOf) fun p hp =>
    SwapIntent.decidedBy_parts fun _ _ _ => .last ?_ fun _ => ⟨_, rfl⟩
  · simp only [amountOf_ok, Option.mem_def]
    exact ⟨fun ⟨amount, text, h⟩ => ⟨text, h.1, amount, h.2⟩,
      fun ⟨text, htext, amount, h⟩ => ⟨amount, text, htext, h⟩⟩
  · simp [fillOrKillOf_ok, Option.isSome_iff_exists]
  · obtain ⟨text, htext, hamount⟩ := amountOf_ok.mp ham
    exact decidedBy_extraOf hvault htext hamount (fillOrKillOf_ok.mp hp)

end VaultSwapRequest

-- ---------------------------------------------------------------------------
-- The three methods
-- ---------------------------------------------------------------------------

theorem decidedBy_account {network : Network} {account : String} :
    DecidedBy (checkAddress network .protocol .brokerAccount account)
      (SwapIntent.accountConditions network (some account)) := by
  refine .test ?_ failsAt_checkAddress
  simp [checkAddress_ok, AddressPlace.format]

theorem Request.decidedBy_ofIntent {network : Network} {account : Option String} {i : SwapIntent}
    {method : Method} :
    DecidedBy (ofIntent network account i method) (i.conditions network account method) := by
  cases method with
  | depositAddress =>
    simp only [ofIntent, DepositRequest.ofIntent_eq]
    exact .last (.last SwapIntent.decidedBy_encodeParts fun _ => ⟨_, rfl⟩) fun _ => ⟨_, rfl⟩
  | parameterEncoding =>
    refine VaultSwapRequest.decidedBy_ofIntent.bind fun r _ => ?_
    cases account with
    | none => exact .of_ok _ (by simp [SwapIntent.accountConditions])
    | some account =>
      exact .last (.last decidedBy_account fun _ => ⟨_, rfl⟩) fun _ => ⟨_, rfl⟩
  | cfParameters =>
    simp only [ofIntent, CfParametersRequest.ofIntent_eq]
    refine .bind (.last SwapIntent.decidedBy_encodeParts fun _ => ⟨_, rfl⟩) fun r _ => ?_
    cases account with
    | none => exact .of_ok _ (by simp [SwapIntent.accountConditions])
    | some account =>
      exact .last (.last decidedBy_account fun _ => ⟨_, rfl⟩) fun _ => ⟨_, rfl⟩

/-- A request is made of an intent that passes all stages. Any other intent is refused at the first
stage of the judgement that it does not pass. That is the first in the order with all numbers before
the policy, too, unless a policy is missed at an intent that has wrong numbers. -/
theorem refused_at_first_failing_stage (network : Network) (account : Option String)
    (i : SwapIntent) (method : Method) :
    ((∃ r, Request.ofIntent network account i method = .ok r) ↔
      ∀ s, PassesAt (i.conditions network account method) s) ∧
    ∀ e, Request.ofIntent network account i method = .error e →
      ¬ PassesAt (i.conditions network account method) e.stage ∧
      (∀ s : Stage, s.place < e.stage.place →
        PassesAt (i.conditions network account method) s) ∧
      ((∀ s : Stage, s.numbersFirst < e.stage.numbersFirst →
          PassesAt (i.conditions network account method) s) ↔
        (e.stage = .coupling ∨ e.stage = .policy →
          PassesAt (i.conditions network account method) .amount ∧
          PassesAt (i.conditions network account method) .numbers)) := by
  have hdecided : DecidedBy (Request.ofIntent network account i method)
      (i.conditions network account method) := Request.decidedBy_ofIntent
  refine ⟨hdecided.exists_ok_iff, fun e he => ?_⟩
  obtain ⟨hfails, hbefore⟩ := hdecided.error_at_first SwapIntent.conditions_ordered he
  refine ⟨hfails, hbefore, fun h hstage => ?_, fun h s hs => ?_⟩
  · constructor
    · exact h .amount (by rcases hstage with hstage | hstage <;> rw [hstage] <;> decide)
    · exact h .numbers (by rcases hstage with hstage | hstage <;> rw [hstage] <;> decide)
  · obtain hlt | ⟨hs, hstage⟩ := Stage.place_lt_of_numbersFirst hs
    · exact hbefore s hlt
    · obtain ⟨hamount, hnumbers⟩ := h hstage
      rcases hs with rfl | rfl
      · exact hamount
      · exact hnumbers

def chunksForGreedyAffiliate : SwapIntent where
  src := .eth
  dest := .arbUsdc
  destAddress := "0x02679b10f7b94fc4f273569cc2e5c49eefa5c0f1"
  amount := some "1000000000000000000"
  affiliates := some
    [⟨"0x1cf326c5aaa5af9f0e2791e66310fe8f044faadaf12567eaa0976959d1f7731f", 10001⟩]
  dca := some ⟨100, 5⟩

theorem refused_at_first_failing_stage_chunksForGreedyAffiliate :
    ∃ e, Request.ofIntent .mainnet none chunksForGreedyAffiliate .depositAddress = .error e ∧
      e.stage = .coupling ∧
      PassesAt (chunksForGreedyAffiliate.conditions .mainnet none .depositAddress) .fees := by
  obtain ⟨-, hrefused⟩ :=
    refused_at_first_failing_stage .mainnet none chunksForGreedyAffiliate .depositAddress
  obtain ⟨-, hbefore, -⟩ := hrefused (.invalidDca .withoutFillOrKill) rfl
  exact ⟨_, rfl, rfl, hbefore .fees (by decide)⟩

/-- The error belongs to a stage that is not the first to fail where all numbers come first. -/
def RefusedOutOfOrder (network : Network) (account : Option String) (i : SwapIntent)
    (method : Method) : Prop :=
  ∃ e, Request.ofIntent network account i method = .error e ∧
    ∃ s : Stage, s.numbersFirst < e.stage.numbersFirst ∧
      ¬ PassesAt (i.conditions network account method) s

theorem chunksForGreedyAffiliate_refusedOutOfOrder {method : Method} :
    RefusedOutOfOrder .mainnet none chunksForGreedyAffiliate method := by
  refine ⟨.invalidDca .withoutFillOrKill, ?_, .numbers, by decide, fun hpasses => ?_⟩
  · cases method <;> rfl
  · have hfees : ∀ as ∈ chunksForGreedyAffiliate.affiliates,
        as.length ≤ 5 ∧ ∀ a ∈ as, a.commission.toNat ≤ 10000 := by
      refine hpasses ⟨.numbers, _⟩ ?_ rfl
      cases method <;> simp [SwapIntent.conditions, SwapIntent.partsConditions,
        SwapIntent.vaultSwapConditions, SwapIntent.partConditions]
    exact absurd hfees (by decide)

theorem missing_policy_hides_affiliate_fee :
    RefusedOutOfOrder .mainnet none chunksForGreedyAffiliate .depositAddress ∧
      RefusedOutOfOrder .mainnet none chunksForGreedyAffiliate .parameterEncoding ∧
      RefusedOutOfOrder .mainnet none chunksForGreedyAffiliate .cfParameters :=
  ⟨chunksForGreedyAffiliate_refusedOutOfOrder, chunksForGreedyAffiliate_refusedOutOfOrder,
    chunksForGreedyAffiliate_refusedOutOfOrder⟩

end SwapBroker
