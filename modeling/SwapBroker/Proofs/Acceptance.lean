import SwapBroker.Proofs.Parts
import SwapBroker.Request.CfParameters
import SwapBroker.Request.Deposit

/-!
# Which intents are accepted

Deposit address requests and requests for encoded parameters are made by separate functions. Both
run one sequence of checks and encoders and differ only in where they place the results, so that
they refuse the same intents for the same reason. `SwapIntent.Acceptable` states, field by field,
which intents are not refused.
-/

namespace SwapBroker

open Outcome

structure EncodedParts where
  dca : Option DcaPart
  affiliates : Option (List AffiliatePart)
  ccm : Option CcmPart
  refund : Option RefundPart

namespace SwapIntent

/-- Everything that can fail when a request with a refund policy of its own is made. -/
def encodeParts (network : Network) (i : SwapIntent) : Except RequestError EncodedParts := do
  i.check network
  let dca ← encodePresent DcaPart.ofParams i.dca
  let affiliates ← encodePresent AffiliatePart.ofAffiliates i.affiliates
  let ccm ← encodePresent (CcmPart.ofParams "ccmParams") i.ccm
  let refund ← encodePresent (RefundPart.ofParams i.src i.dest) i.fillOrKill
  return ⟨dca, affiliates, ccm, refund⟩

/-- What an intent has to satisfy on a network, whatever the order in which it is checked. -/
structure Acceptable (network : Network) (i : SwapIntent) : Prop where
  route : i.src ≠ i.dest ∧ ¬ MovesDot i.src i.dest
  destination : i.dest.chain.checkAddress network i.destAddress = .ok ()
  source : ∀ a ∈ i.srcAddress, i.src.chain.checkAddress network a = .ok ()
  refund : ∀ f ∈ i.fillOrKill, i.src.chain.checkAddress network f.refundAddress = .ok ()
  accounts : ∀ as ∈ i.affiliates, ∀ a ∈ as, AddressFormat.account.check network a.account = .ok ()
  commission : ∀ bps ∈ i.commission, bps.toNat ≤ 10000
  maxBoostFee : ∀ bps ∈ i.maxBoostFee, bps.toNat ≤ 10000
  affiliates : ∀ as ∈ i.affiliates, as.length ≤ 5 ∧ ∀ a ∈ as, a.commission.toNat ≤ 10000
  dca : ∀ d ∈ i.dca, i.fillOrKill.isSome ∧ 1 ≤ d.numberOfChunks.toNat
  ccm : ∀ c ∈ i.ccm, c.Acceptable
  fillOrKill : ∀ f ∈ i.fillOrKill, f.Acceptable i.src i.dest

theorem encodeParts_ok {network : Network} {i : SwapIntent} {parts : EncodedParts} :
    i.encodeParts network = .ok parts ↔
      i.check network = .ok () ∧
      encodePresent DcaPart.ofParams i.dca = .ok parts.dca ∧
      encodePresent AffiliatePart.ofAffiliates i.affiliates = .ok parts.affiliates ∧
      encodePresent (CcmPart.ofParams "ccmParams") i.ccm = .ok parts.ccm ∧
      encodePresent (RefundPart.ofParams i.src i.dest) i.fillOrKill = .ok parts.refund := by
  simp only [encodeParts, bind_ok_iff, exists_check_ok_iff, pure_ok_iff]
  constructor
  · rintro ⟨hc, dca, hd, affiliates, ha, ccm, hm, refund, hr, rfl⟩
    exact ⟨hc, hd, ha, hm, hr⟩
  · rintro ⟨hc, hd, ha, hm, hr⟩
    exact ⟨hc, _, hd, _, ha, _, hm, _, hr, rfl⟩

theorem exists_encodeParts_ok {network : Network} {i : SwapIntent} :
    (∃ parts, i.encodeParts network = .ok parts) ↔ i.Acceptable network := by
  have hdca : (∃ part, encodePresent DcaPart.ofParams i.dca = .ok part) ↔
      ∀ d ∈ i.dca, 1 ≤ d.numberOfChunks.toNat := by
    simp only [exists_encodePresent_ok, DcaPart.exists_ofParams_ok]
  have haff : (∃ part, encodePresent AffiliatePart.ofAffiliates i.affiliates = .ok part) ↔
      ∀ as ∈ i.affiliates, as.length ≤ 5 ∧ ∀ a ∈ as, a.commission.toNat ≤ 10000 := by
    simp only [exists_encodePresent_ok, AffiliatePart.exists_ofAffiliates_ok]
  have hccm : (∃ part, encodePresent (CcmPart.ofParams "ccmParams") i.ccm = .ok part) ↔
      ∀ c ∈ i.ccm, c.Acceptable := by
    simp only [exists_encodePresent_ok, CcmPart.exists_ofParams_ok]
  have href : (∃ part, encodePresent (RefundPart.ofParams i.src i.dest) i.fillOrKill = .ok part) ↔
      ∀ f ∈ i.fillOrKill, f.Acceptable i.src i.dest := by
    simp only [exists_encodePresent_ok, RefundPart.exists_ofParams_ok]
  constructor
  · rintro ⟨parts, h⟩
    obtain ⟨hc, hd, ha, hm, hr⟩ := encodeParts_ok.mp h
    obtain ⟨hroute, haddr, hcommission, hboost, hcoupled⟩ := check_ok.mp hc
    obtain ⟨hdest, hsrc, hrefund, haccounts⟩ := checkAddresses_ok.mp haddr
    refine ⟨hroute, hdest, hsrc, hrefund, haccounts, hcommission, hboost, haff.mp ⟨_, ha⟩, ?_,
      hccm.mp ⟨_, hm⟩, href.mp ⟨_, hr⟩⟩
    exact fun d hmem => ⟨hcoupled (Option.isSome_of_mem hmem), hdca.mp ⟨_, hd⟩ d hmem⟩
  · intro h
    have hcoupled : i.dca.isSome → i.fillOrKill.isSome := fun hs =>
      (h.dca _ (Option.get_mem hs)).1
    have hc : i.check network = .ok () := check_ok.mpr ⟨h.route, checkAddresses_ok.mpr
      ⟨h.destination, h.source, h.refund, h.accounts⟩, h.commission, h.maxBoostFee, hcoupled⟩
    obtain ⟨dca, hd⟩ := hdca.mpr fun d hmem => (h.dca d hmem).2
    obtain ⟨affiliates, ha⟩ := haff.mpr h.affiliates
    obtain ⟨ccm, hm⟩ := hccm.mpr h.ccm
    obtain ⟨refund, hr⟩ := href.mpr h.fillOrKill
    exact ⟨⟨dca, affiliates, ccm, refund⟩, encodeParts_ok.mpr ⟨hc, hd, ha, hm, hr⟩⟩

end SwapIntent

-- ---------------------------------------------------------------------------
-- The two requests
-- ---------------------------------------------------------------------------

namespace EncodedParts

def toDeposit (i : SwapIntent) (parts : EncodedParts) : DepositRequest where
  src := i.src
  dest := i.dest
  destAddress := i.dest.chain.wireAddress i.destAddress
  commission := i.commission.getD 0
  ccm := parts.ccm
  maxBoostFee := i.maxBoostFee
  affiliates := parts.affiliates
  refund := parts.refund
  dca := parts.dca

def toCfParameters (i : SwapIntent) (parts : EncodedParts) : CfParametersRequest where
  account := none
  src := i.src
  dest := i.dest
  destAddress := i.dest.chain.wireAddress i.destAddress
  commission := i.commission.getD 0
  refund := parts.refund
  ccm := parts.ccm
  maxBoostFee := i.maxBoostFee
  affiliates := parts.affiliates
  dca := parts.dca

end EncodedParts

theorem DepositRequest.ofIntent_eq (network : Network) (i : SwapIntent) :
    DepositRequest.ofIntent network i = EncodedParts.toDeposit i <$> i.encodeParts network := by
  simp only [SwapIntent.encodeParts, map_bind, map_pure]
  rfl

theorem CfParametersRequest.ofIntent_eq (network : Network) (i : SwapIntent) :
    CfParametersRequest.ofIntent network i =
      EncodedParts.toCfParameters i <$> i.encodeParts network := by
  simp only [SwapIntent.encodeParts, map_bind, map_pure]
  rfl

theorem DepositRequest.ofIntent_ok {network : Network} {i : SwapIntent} {r : DepositRequest} :
    DepositRequest.ofIntent network i = .ok r ↔
      ∃ parts, i.encodeParts network = .ok parts ∧ parts.toDeposit i = r := by
  rw [ofIntent_eq]
  exact map_ok_iff

theorem CfParametersRequest.ofIntent_ok {network : Network} {i : SwapIntent}
    {r : CfParametersRequest} :
    CfParametersRequest.ofIntent network i = .ok r ↔
      ∃ parts, i.encodeParts network = .ok parts ∧ parts.toCfParameters i = r := by
  rw [ofIntent_eq]
  exact map_ok_iff

theorem CfParametersRequest.exists_ofIntent_ok {network : Network} {i : SwapIntent} :
    (∃ r, CfParametersRequest.ofIntent network i = .ok r) ↔
      ∃ parts, i.encodeParts network = .ok parts := by
  simp only [ofIntent_ok]
  exact ⟨fun ⟨_, parts, h, _⟩ => ⟨parts, h⟩, fun ⟨parts, h⟩ => ⟨_, parts, h, rfl⟩⟩

/-- Both requests can be made of exactly the acceptable intents, and both are refused for one
reason. -/
theorem deposit_and_cfParameters_accept_iff (network : Network) (i : SwapIntent) :
    ((∃ d c, DepositRequest.ofIntent network i = .ok d ∧
        CfParametersRequest.ofIntent network i = .ok c) ∨
      ∃ e, DepositRequest.ofIntent network i = .error e ∧
        CfParametersRequest.ofIntent network i = .error e) ∧
    ((∃ d, DepositRequest.ofIntent network i = .ok d) ↔ i.Acceptable network) ∧
    ((∃ c, CfParametersRequest.ofIntent network i = .ok c) ↔ i.Acceptable network) := by
  refine ⟨?_, ?_, ?_⟩
  · rw [DepositRequest.ofIntent_eq, CfParametersRequest.ofIntent_eq]
    cases i.encodeParts network with
    | ok parts => exact .inl ⟨parts.toDeposit i, parts.toCfParameters i, rfl, rfl⟩
    | error e => exact .inr ⟨e, rfl, rfl⟩
  · simp only [DepositRequest.ofIntent_ok, ← SwapIntent.exists_encodeParts_ok]
    exact ⟨fun ⟨_, parts, h, _⟩ => ⟨parts, h⟩, fun ⟨parts, h⟩ => ⟨_, parts, h, rfl⟩⟩
  · simp only [CfParametersRequest.ofIntent_ok, ← SwapIntent.exists_encodeParts_ok]
    exact ⟨fun ⟨_, parts, h, _⟩ => ⟨parts, h⟩, fun ⟨parts, h⟩ => ⟨_, parts, h, rfl⟩⟩

end SwapBroker
