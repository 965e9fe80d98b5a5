import SwapBroker.Proofs.Checks

/-!
# Which parts can be encoded

An encoder of a part succeeds exactly on the parameters that are `Acceptable`, and then the part
holds what the parameters say. The conditions are stated of the texts themselves, and the limits as
numbers.
-/

namespace SwapBroker

open Outcome

-- ---------------------------------------------------------------------------
-- Hex texts
-- ---------------------------------------------------------------------------

namespace Bytes

def IsHexOf (s : String) (size : Nat) : Prop :=
  ∃ ds, s.toList = '0' :: 'x' :: ds ∧ ds.length = 2 * size ∧ ∀ c ∈ ds, Text.isHexDigit c = true

theorem afterMark?_eq_some_iff {cs ds : List Char} :
    afterMark? cs = some ds ↔ cs = '0' :: 'x' :: ds := by
  unfold afterMark?
  split <;> simp_all

theorem isHexText_iff {s : String} : isHexText s = true ↔ ∃ size, IsHexOf s size := by
  constructor
  · intro h
    unfold isHexText at h
    split at h
    next ds hd =>
      simp only [Bool.and_eq_true, decide_eq_true_eq, List.all_eq_true] at h
      exact ⟨ds.length / 2, ds, afterMark?_eq_some_iff.mp hd, by omega, h.2⟩
    next => simp at h
  · rintro ⟨size, ds, hs, hlen, hall⟩
    rw [isHexText, afterMark?_eq_some_iff.mpr hs]
    simp only [Bool.and_eq_true, decide_eq_true_eq, List.all_eq_true]
    exact ⟨by omega, hall⟩

theorem IsHexOf.hexSize {s : String} {size : Nat} (h : IsHexOf s size) : hexSize s = size := by
  obtain ⟨ds, hs, hlen, -⟩ := h
  simp only [Bytes.hexSize, hs, List.length_cons]
  omega

end Bytes

-- ---------------------------------------------------------------------------
-- Chunks and affiliates
-- ---------------------------------------------------------------------------

namespace DcaPart

theorem ofParams_ok {p : DcaParams} {part : DcaPart} :
    ofParams p = .ok part ↔
      1 ≤ p.numberOfChunks.toNat ∧ part = ⟨p.numberOfChunks, p.chunkInterval⟩ := by
  have hzero : p.numberOfChunks = 0 ↔ p.numberOfChunks.toNat = 0 := by
    rw [← UInt32.toNat_inj]; rfl
  simp only [ofParams, hzero]
  split
  · simp; omega
  · simp only [Except.ok.injEq, eq_comm (b := part)]
    constructor
    · exact fun h => ⟨by omega, h⟩
    · exact And.right

theorem exists_ofParams_ok {p : DcaParams} :
    (∃ part, ofParams p = .ok part) ↔ 1 ≤ p.numberOfChunks.toNat := by
  simp [ofParams_ok]

end DcaPart

namespace AffiliatePart

def ofAffiliate (a : Affiliate) : AffiliatePart :=
  ⟨a.account, a.commission⟩

theorem ofAffiliatesFrom_ok {index : Nat} {affiliates : List Affiliate}
    {parts : List AffiliatePart} :
    ofAffiliatesFrom index affiliates = .ok parts ↔
      (∀ a ∈ affiliates, a.commission.toNat ≤ 10000) ∧ parts = affiliates.map ofAffiliate := by
  induction affiliates generalizing index parts with
  | nil => simp [ofAffiliatesFrom, eq_comm]
  | cons a rest ih =>
    simp only [ofAffiliatesFrom, bind_ok_iff, exists_check_ok_iff, checkBps_ok, ih, pure_ok_iff]
    constructor
    · rintro ⟨ha, _, ⟨hrest, rfl⟩, rfl⟩
      exact ⟨List.forall_mem_cons.mpr ⟨ha, hrest⟩, rfl⟩
    · rintro ⟨hall, rfl⟩
      obtain ⟨ha, hrest⟩ := List.forall_mem_cons.mp hall
      exact ⟨ha, _, ⟨hrest, rfl⟩, rfl⟩

/-- The affiliates are few, none takes more than the whole, and they keep their order. -/
theorem ofAffiliates_ok {affiliates : List Affiliate} {parts : List AffiliatePart} :
    ofAffiliates affiliates = .ok parts ↔
      (affiliates.length ≤ 5 ∧ ∀ a ∈ affiliates, a.commission.toNat ≤ 10000) ∧
      parts = affiliates.map ofAffiliate := by
  have hmax : maxAffiliates = 5 := rfl
  simp only [ofAffiliates, hmax]
  split
  · simp; omega
  · rw [ofAffiliatesFrom_ok, and_assoc]
    exact (and_iff_right (by omega)).symm

theorem exists_ofAffiliates_ok {affiliates : List Affiliate} :
    (∃ parts, ofAffiliates affiliates = .ok parts) ↔
      affiliates.length ≤ 5 ∧ ∀ a ∈ affiliates, a.commission.toNat ≤ 10000 := by
  simp [ofAffiliates_ok]

end AffiliatePart

-- ---------------------------------------------------------------------------
-- Cross-chain messages
-- ---------------------------------------------------------------------------

structure CcmParams.Acceptable (p : CcmParams) : Prop where
  gasBudget : ∃ gas, Quantity.ofText p.gasBudget = .ok gas
  message : ∃ size ≤ 15000, Bytes.IsHexOf p.message size
  additionalData : ∀ data ∈ p.additionalData, ∃ size ≤ 3000, Bytes.IsHexOf data size

namespace CcmPart

theorem checkBytes_ok {field value : String} {limit : Nat} :
    checkBytes field value limit = .ok () ↔ ∃ size ≤ limit, Bytes.IsHexOf value size := by
  unfold checkBytes
  cases ht : Bytes.isHexText value with
  | false =>
    simp only [Bool.not_false, if_true, reduceCtorEq, false_iff]
    rintro ⟨size, -, hs⟩
    simp [Bytes.isHexText_iff.mpr ⟨size, hs⟩] at ht
  | true =>
    obtain ⟨size, hs⟩ := Bytes.isHexText_iff.mp ht
    simp only [Bool.not_true, Bool.false_eq_true, if_false, hs.hexSize]
    split
    · simp only [reduceCtorEq, false_iff]
      rintro ⟨other, hle, ho⟩
      have hsame : other = size := ho.hexSize.symm.trans hs.hexSize
      omega
    · exact ⟨fun _ => ⟨size, by omega, hs⟩, fun _ => rfl⟩

theorem ofParams_ok {field : String} {p : CcmParams} {part : CcmPart} :
    ofParams field p = .ok part ↔
      p.Acceptable ∧ Quantity.ofText p.gasBudget = .ok part.gasBudget ∧
      part.message = p.message ∧ part.additionalData = p.additionalData.getD "0x" := by
  simp only [ofParams, bind_ok_iff, exists_check_ok_iff, mapError_ok_iff, checkBytes_ok,
    checkPresent_ok, pure_ok_iff]
  constructor
  · rintro ⟨gas, hgas, hmsg, hdata, rfl⟩
    exact ⟨⟨⟨gas, hgas⟩, hmsg, hdata⟩, hgas, rfl, rfl⟩
  · rintro ⟨⟨-, hmsg, hdata⟩, hgas, hm, hd⟩
    exact ⟨part.gasBudget, hgas, hmsg, hdata, by rw [← hm, ← hd]⟩

theorem exists_ofParams_ok {field : String} {p : CcmParams} :
    (∃ part, ofParams field p = .ok part) ↔ p.Acceptable := by
  constructor
  · rintro ⟨part, h⟩
    exact (ofParams_ok.mp h).1
  · intro h
    obtain ⟨gas, hgas⟩ := h.gasBudget
    exact ⟨⟨gas, p.message, p.additionalData.getD "0x"⟩, ofParams_ok.mpr ⟨h, hgas, rfl, rfl⟩⟩

end CcmPart

-- ---------------------------------------------------------------------------
-- Refund policies
-- ---------------------------------------------------------------------------

/-- What a refund policy has to satisfy besides the validity of its address. -/
structure FillOrKillParams.Acceptable (src dest : Asset) (p : FillOrKillParams) : Prop where
  slippage : ∀ bps ∈ p.maxOracleSlippage, bps.toNat ≤ 10000
  refundCcm : ∀ ccm ∈ p.refundCcm, ccm.Acceptable
  minPrice : ∃ price, Price.ofText p.minPrice src dest = .ok price

namespace RefundPart

theorem minPriceOf_ok {p : FillOrKillParams} {src dest : Asset} {price : Quantity} :
    minPriceOf p src dest = .ok price ↔ Price.ofText p.minPrice src dest = .ok price :=
  mapError_ok_iff

theorem ofParams_ok {src dest : Asset} {p : FillOrKillParams} {part : RefundPart} :
    ofParams src dest p = .ok part ↔
      (∀ bps ∈ p.maxOracleSlippage, bps.toNat ≤ 10000) ∧
      encodePresent (CcmPart.ofParams "fillOrKillParams.refundCcmMetadata") p.refundCcm =
        .ok part.refundCcm ∧
      Price.ofText p.minPrice src dest = .ok part.minPrice ∧
      part.retryDuration = p.retryDuration ∧
      part.refundAddress = src.chain.wireAddress p.refundAddress ∧
      part.maxOracleSlippage = p.maxOracleSlippage := by
  simp only [ofParams, bind_ok_iff, exists_check_ok_iff, checkPresent_ok, checkBps_ok, minPriceOf_ok,
    pure_ok_iff]
  constructor
  · rintro ⟨hslip, ccm, hccm, price, hprice, rfl⟩
    exact ⟨hslip, hccm, hprice, rfl, rfl, rfl⟩
  · rintro ⟨hslip, hccm, hprice, hr, ha, hs⟩
    exact ⟨hslip, part.refundCcm, hccm, part.minPrice, hprice, by rw [← hr, ← ha, ← hs]⟩

theorem exists_ofParams_ok {src dest : Asset} {p : FillOrKillParams} :
    (∃ part, ofParams src dest p = .ok part) ↔ p.Acceptable src dest := by
  constructor
  · rintro ⟨part, h⟩
    obtain ⟨hslip, hccm, hprice, -⟩ := ofParams_ok.mp h
    refine ⟨hslip, fun ccm hmem => ?_, part.minPrice, hprice⟩
    exact CcmPart.exists_ofParams_ok.mp (exists_encodePresent_ok.mp ⟨_, hccm⟩ ccm hmem)
  · rintro ⟨hslip, hccm, price, hprice⟩
    have hencodes : ∀ c ∈ p.refundCcm,
        ∃ part, CcmPart.ofParams "fillOrKillParams.refundCcmMetadata" c = .ok part :=
      fun c hmem => CcmPart.exists_ofParams_ok.mpr (hccm c hmem)
    obtain ⟨ccm, hc⟩ := exists_encodePresent_ok.mpr hencodes
    exact ⟨⟨p.retryDuration, src.chain.wireAddress p.refundAddress, ccm, price,
      p.maxOracleSlippage⟩, ofParams_ok.mpr ⟨hslip, hc, hprice, rfl, rfl, rfl⟩⟩

end RefundPart

end SwapBroker
