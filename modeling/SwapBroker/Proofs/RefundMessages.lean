import SwapBroker.Proofs.Positions

/-!
# Refund messages

A vault swap from Bitcoin carries no refund policy, since refunds go back to where the funds came
from. A message that the policy of the intent has for the refund is then not examined, though the
other requests refuse the intent for it. Apart from that, an intent of which a vault swap can be
requested is refused by no method.
-/

namespace SwapBroker

open Outcome

namespace VaultSwapRequest

theorem policy_of_extraOf_ok {i : SwapIntent} {amount : Quantity} {p : FillOrKillParams}
    {extra : VaultSwapExtra} (h : extraOf i amount p = .ok extra) :
    (∀ bps ∈ p.maxOracleSlippage, bps.toNat ≤ 10000) ∧
      (∃ price, Price.ofText p.minPrice i.src i.dest = .ok price) ∧
      (i.src.chain ≠ .bitcoin → p.Acceptable i.src i.dest) := by
  have of_part : ∀ part, RefundPart.ofParams i.src i.dest p = .ok part →
      p.Acceptable i.src i.dest := fun part hpart => RefundPart.exists_ofParams_ok.mp ⟨part, hpart⟩
  cases hc : i.src.chain with
  | bitcoin =>
    simp only [extraOf, hc, bitcoinExtra, bind_ok_iff, exists_check_ok_iff, checkPresent_ok,
      checkBps_ok, RefundPart.minPriceOf_ok] at h
    obtain ⟨hslippage, price, hprice, -⟩ := h
    exact ⟨hslippage, ⟨price, hprice⟩, fun hne => absurd rfl hne⟩
  | ethereum | arbitrum =>
    simp only [extraOf, hc, bind_ok_iff, evmExtra_ok] at h
    obtain ⟨evm, ⟨-, hpart⟩, -⟩ := h
    have hp := of_part _ hpart
    exact ⟨hp.slippage, hp.minPrice, fun _ => hp⟩
  | solana =>
    simp only [extraOf, hc, bind_ok_iff, exists_check_ok_iff, evmExtra_ok] at h
    obtain ⟨-, evm, ⟨-, hpart⟩, -⟩ := h
    have hp := of_part _ hpart
    exact ⟨hp.slippage, hp.minPrice, fun _ => hp⟩
  | polkadot | assethub => simp [extraOf, hc] at h

end VaultSwapRequest

theorem SwapIntent.encodeParts_of_vaultSwap {network : Network} {i : SwapIntent}
    {v : VaultSwapRequest} (h : VaultSwapRequest.ofIntent network i = .ok v)
    (hpolicy : ∀ p ∈ i.fillOrKill, p.Acceptable i.src i.dest) :
    ∃ parts, i.encodeParts network = .ok parts := by
  obtain ⟨-, hc, hdca, haff, hccm, -, -⟩ := VaultSwapRequest.ofIntent_ok.mp h
  obtain ⟨refund, hrefund⟩ := exists_encodePresent_ok.mpr fun p hp =>
    RefundPart.exists_ofParams_ok.mpr (hpolicy p hp)
  exact ⟨⟨v.dca, v.affiliates, v.ccm, refund⟩, encodeParts_ok.mpr ⟨hc, hdca, haff, hccm, hrefund⟩⟩

/-- Where a vault swap can be requested, encoded parameters can be too, exactly if the refund message
is acceptable, and that is already known unless the swap is from Bitcoin. -/
theorem cfParameters_of_vaultSwap (network : Network) (i : SwapIntent) (v : VaultSwapRequest)
    (h : VaultSwapRequest.ofIntent network i = .ok v) :
    ((∃ c, CfParametersRequest.ofIntent network i = .ok c) ↔
      ∀ p ∈ i.fillOrKill, ∀ ccm ∈ p.refundCcm, ccm.Acceptable) ∧
    (i.src.chain ≠ .bitcoin → ∃ c, CfParametersRequest.ofIntent network i = .ok c) := by
  obtain ⟨-, -, -, -, -, ⟨amount, p, -, hp, hextra⟩, -⟩ := VaultSwapRequest.ofIntent_ok.mp h
  obtain ⟨hslippage, hprice, hpolicy⟩ := VaultSwapRequest.policy_of_extraOf_ok hextra
  have hmade : (∃ c, CfParametersRequest.ofIntent network i = .ok c) ↔
      p.Acceptable i.src i.dest := by
    rw [CfParametersRequest.exists_ofIntent_ok]
    constructor
    · intro hparts
      exact (SwapIntent.exists_encodeParts_ok.mp hparts).fillOrKill p hp
    · intro hacceptable
      refine SwapIntent.encodeParts_of_vaultSwap h fun q hq => ?_
      obtain rfl : p = q := Option.some.inj (hp.symm.trans hq)
      exact hacceptable
  rw [hmade, hp]
  simp only [Option.mem_some_iff, forall_eq']
  exact ⟨⟨fun ha => ha.refundCcm, fun hccm => ⟨hslippage, hccm, hprice⟩⟩, hpolicy⟩

def bitcoinWithRefundMessage : SwapIntent where
  src := .btc
  dest := .eth
  destAddress := "0x02679b10f7b94fc4f273569cc2e5c49eefa5c0f1"
  amount := some "100000000"
  fillOrKill := some ⟨500, "bc1qqwykx04uenc842d3sf50cjtehtj9tenugk808w", "20", none,
    some ⟨"1000", "hello", none⟩⟩

def bitcoinWithHexMessage : SwapIntent :=
  { bitcoinWithRefundMessage with
    fillOrKill := some ⟨500, "bc1qqwykx04uenc842d3sf50cjtehtj9tenugk808w", "20", none,
      some ⟨"1000", "0x68656c6c6f", none⟩⟩ }

/-- Of two swaps from Bitcoin, the one with the acceptable message is encoded, and the other is not. A
swap from another chain is encoded without a look at its message. -/
theorem cfParameters_of_vaultSwap_messages :
    (∃ v c, VaultSwapRequest.ofIntent .mainnet bitcoinWithHexMessage = .ok v ∧
        CfParametersRequest.ofIntent .mainnet bitcoinWithHexMessage = .ok c) ∧
      (∃ v, VaultSwapRequest.ofIntent .mainnet bitcoinWithRefundMessage = .ok v ∧
        ¬ ∃ c, CfParametersRequest.ofIntent .mainnet bitcoinWithRefundMessage = .ok c) ∧
      ∃ v c, VaultSwapRequest.ofIntent .mainnet etherForUsdc = .ok v ∧
        CfParametersRequest.ofIntent .mainnet etherForUsdc = .ok c := by
  obtain ⟨vHex, hvHex⟩ : ∃ v, VaultSwapRequest.ofIntent .mainnet bitcoinWithHexMessage = .ok v :=
    exists_ok_of_isSome (by decide +kernel)
  obtain ⟨v, hv⟩ : ∃ v, VaultSwapRequest.ofIntent .mainnet bitcoinWithRefundMessage = .ok v :=
    exists_ok_of_isSome (by decide +kernel)
  have hacceptable : (⟨"1000", "0x68656c6c6f", none⟩ : CcmParams).Acceptable :=
    (@CcmPart.exists_ofParams_ok "ccmParams" _).mp ⟨_, rfl⟩
  have hrefused : ¬ (⟨"1000", "hello", none⟩ : CcmParams).Acceptable := fun h => by
    obtain ⟨part, hpart⟩ := (@CcmPart.exists_ofParams_ok "ccmParams" _).mpr h
    cases hpart
  refine ⟨?_, ⟨v, hv, fun hc => ?_⟩, ?_⟩
  · obtain ⟨hiff, -⟩ := cfParameters_of_vaultSwap .mainnet bitcoinWithHexMessage vHex hvHex
    obtain ⟨c, hc⟩ := hiff.mpr fun p hp ccm hccm => by
      cases hp
      cases hccm
      exact hacceptable
    exact ⟨vHex, c, hvHex, hc⟩
  · obtain ⟨hiff, -⟩ := cfParameters_of_vaultSwap .mainnet bitcoinWithRefundMessage v hv
    exact hrefused (hiff.mp hc _ rfl _ rfl)
  · obtain ⟨-, hmade⟩ := cfParameters_of_vaultSwap .mainnet etherForUsdc _ rfl
    obtain ⟨c, hc⟩ := hmade (by decide)
    exact ⟨_, c, rfl, hc⟩

theorem vaultSwap_with_unchecked_refundMessage :
    (∃ v, VaultSwapRequest.ofIntent .mainnet bitcoinWithRefundMessage = .ok v) ∧
      CfParametersRequest.ofIntent .mainnet bitcoinWithRefundMessage =
        .error (.invalidParameter "fillOrKillParams.refundCcmMetadata.message" .notHexBytes) :=
  ⟨exists_ok_of_isSome (by decide +kernel), by decide +kernel⟩

end SwapBroker
