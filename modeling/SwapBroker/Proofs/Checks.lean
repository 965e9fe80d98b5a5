import SwapBroker.Proofs.Outcomes
import SwapBroker.Request.Parts

/-!
# What a passed check says

Each lemma reads the success of one check of a request as the condition that it decides. An address
is left as the outcome of its format's own check.
-/

namespace SwapBroker

open Outcome

-- ---------------------------------------------------------------------------
-- Values that may be absent
-- ---------------------------------------------------------------------------

theorem checkPresent_ok {α : Type} {check : α → Except RequestError Unit} {value : Option α} :
    checkPresent check value = .ok () ↔ ∀ a ∈ value, check a = .ok () := by
  cases value <;> simp [checkPresent]

theorem encodePresent_ok {α β : Type} {encode : α → Except RequestError β} {value : Option α}
    {part : Option β} :
    encodePresent encode value = .ok part ↔ Option.Rel (fun a b => encode a = .ok b) value part := by
  cases value with
  | none => cases part <;> simp [encodePresent]
  | some a => cases part <;> simp [encodePresent, map_ok_iff]

theorem exists_encodePresent_ok {α β : Type} {encode : α → Except RequestError β}
    {value : Option α} :
    (∃ part, encodePresent encode value = .ok part) ↔ ∀ a ∈ value, ∃ b, encode a = .ok b := by
  cases value with
  | none => simp [encodePresent]
  | some a => simp [encodePresent, map_ok_iff, exists_comm]

-- ---------------------------------------------------------------------------
-- Routes, basis points and addresses
-- ---------------------------------------------------------------------------

theorem checkBps_ok {field : String} {bps : UInt16} :
    checkBps field bps = .ok () ↔ bps.toNat ≤ 10000 := by
  have hmax : maxBps.toNat = 10000 := rfl
  simp only [checkBps, UInt16.lt_iff_toNat_lt, hmax]
  split <;> simp <;> omega

/-- The two ways in which DOT would move between Polkadot and Assethub. -/
def MovesDot (src dest : Asset) : Prop :=
  (src = .dot ∧ dest = .hubDot) ∨ (src = .hubDot ∧ dest = .dot)

theorem checkRoute_ok {src dest : Asset} :
    checkRoute src dest = .ok () ↔ src ≠ dest ∧ ¬ MovesDot src dest := by
  unfold checkRoute MovesDot
  split
  · simp_all
  · split <;> simp_all

theorem checkAddress_ok {network : Network} {place : AddressPlace} {role : Role}
    {address : String} :
    checkAddress network place role address = .ok () ↔
      place.format.check network address = .ok () := by
  rw [checkAddress, mapError_ok_iff, AddressPlace.validate]
  cases place.format.check network address <;> simp

theorem checkAccounts_ok {network : Network} {affiliates : List Affiliate} :
    checkAccounts network affiliates = .ok () ↔
      ∀ a ∈ affiliates, AddressFormat.account.check network a.account = .ok () := by
  induction affiliates with
  | nil => simp [checkAccounts]
  | cons a rest ih =>
    simp only [checkAccounts, bind_ok_iff, exists_check_ok_iff, checkAddress_ok, ih,
      AddressPlace.format, List.forall_mem_cons]

namespace SwapIntent

theorem checkAddresses_ok {network : Network} {i : SwapIntent} :
    i.checkAddresses network = .ok () ↔
      i.dest.chain.checkAddress network i.destAddress = .ok () ∧
      (∀ a ∈ i.srcAddress, i.src.chain.checkAddress network a = .ok ()) ∧
      (∀ f ∈ i.fillOrKill, i.src.chain.checkAddress network f.refundAddress = .ok ()) ∧
      ∀ as ∈ i.affiliates, ∀ a ∈ as, AddressFormat.account.check network a.account = .ok () := by
  simp only [checkAddresses, bind_ok_iff, exists_check_ok_iff, checkAddress_ok, checkPresent_ok,
    checkAccounts_ok, AddressPlace.format, Chain.checkAddress]
  cases i.affiliates <;> simp

theorem check_ok {network : Network} {i : SwapIntent} :
    i.check network = .ok () ↔
      (i.src ≠ i.dest ∧ ¬ MovesDot i.src i.dest) ∧ i.checkAddresses network = .ok () ∧
      (∀ b ∈ i.commission, b.toNat ≤ 10000) ∧ (∀ b ∈ i.maxBoostFee, b.toNat ≤ 10000) ∧
      (i.dca.isSome → i.fillOrKill.isSome) := by
  simp only [check, bind_ok_iff, exists_check_ok_iff, checkRoute_ok, checkPresent_ok, checkBps_ok,
    guard_ok_iff]
  simp [Option.isSome_iff_ne_none]

end SwapIntent

end SwapBroker
