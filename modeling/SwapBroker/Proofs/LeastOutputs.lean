import Mathlib.Algebra.Order.Field.Power
import Mathlib.Data.Nat.Cast.Order.Field
import SwapBroker.Proofs.Precedence
import SwapBroker.Proofs.PriceTexts
import SwapBroker.Proofs.QuantityTexts

/-!
# The least output of a swap of bitcoin

A vault swap of bitcoin does not state its least price but the least output of the whole amount. The
price is rounded down to its fixed-point form, and the output at that price is rounded down again, so
that it falls short of the exact output by less than one base unit and what the first rounding costs
over the amount. Only an output of more than 256 bits is refused.
-/

namespace SwapBroker

open Outcome

-- ---------------------------------------------------------------------------
-- The two roundings
-- ---------------------------------------------------------------------------

namespace Price

/-- The base units of `dest` that so many satoshis yield at a price, rounded down twice. -/
def leastOutput (amount : ℕ) (price : ℚ) (dest : Asset) : ℕ :=
  amount * ⌊price * 2 ^ 128 * 10 ^ ((dest.decimals : ℤ) - 8)⌋₊ / 2 ^ 128

/-- Rounding down before and after the product with `n` costs less than one and `n / 2 ^ 128`. -/
theorem mul_floor_div_bounds (n : ℕ) {y : ℚ} (hy : 0 ≤ y) :
    ((n * ⌊y⌋₊ / 2 ^ 128 : ℕ) : ℚ) ≤ n * (y / 2 ^ 128) ∧
      n * (y / 2 ^ 128) < ((n * ⌊y⌋₊ / 2 ^ 128 : ℕ) : ℚ) + 1 + n / 2 ^ 128 := by
  have hlow : (⌊y⌋₊ : ℚ) ≤ y := Nat.floor_le hy
  have hhigh : y ≤ ⌊y⌋₊ + 1 := (Nat.lt_floor_add_one y).le
  constructor
  · calc ((n * ⌊y⌋₊ / 2 ^ 128 : ℕ) : ℚ)
        ≤ ((n * ⌊y⌋₊ : ℕ) : ℚ) / ((2 ^ 128 : ℕ) : ℚ) := Nat.cast_div_le
      _ = n * (⌊y⌋₊ / 2 ^ 128) := by push_cast; ring
      _ ≤ n * (y / 2 ^ 128) := by gcongr
  · have hquotient : (n : ℚ) * ⌊y⌋₊ / 2 ^ 128 < ((n * ⌊y⌋₊ / 2 ^ 128 : ℕ) : ℚ) + 1 := by
      rw [div_lt_iff₀ (by positivity)]
      exact_mod_cast Nat.lt_mul_of_div_lt (Nat.lt_succ_self (n * ⌊y⌋₊ / 2 ^ 128)) (by positivity)
    calc (n : ℚ) * (y / 2 ^ 128)
        ≤ n * (((⌊y⌋₊ : ℚ) + 1) / 2 ^ 128) := by gcongr
      _ = (n : ℚ) * ⌊y⌋₊ / 2 ^ 128 + n / 2 ^ 128 := by ring
      _ < ((n * ⌊y⌋₊ / 2 ^ 128 : ℕ) : ℚ) + 1 + n / 2 ^ 128 := by gcongr

theorem leastOutput_bounds (amount : ℕ) {price : ℚ} (dest : Asset) (hprice : 0 ≤ price) :
    leastOutput amount price dest ≤ amount * price * 10 ^ ((dest.decimals : ℤ) - 8) ∧
      amount * price * 10 ^ ((dest.decimals : ℤ) - 8) <
        leastOutput amount price dest + 1 + (amount : ℚ) / 2 ^ 128 := by
  have hexact : amount * price * 10 ^ ((dest.decimals : ℤ) - 8) =
      amount * (price * 2 ^ 128 * 10 ^ ((dest.decimals : ℤ) - 8) / 2 ^ 128) := by field_simp
  rw [hexact]
  exact mul_floor_div_bounds amount (by positivity)

end Price

-- ---------------------------------------------------------------------------
-- What an intent offers
-- ---------------------------------------------------------------------------

namespace SwapIntent

structure Offers (i : SwapIntent) (amount : ℕ) (price : ℚ) : Prop where
  amount : ∃ text ∈ i.amount, Quantity.Denotes text amount
  minPrice : ∃ policy ∈ i.fillOrKill, ∃ t : DecimalText, t.Spells policy.minPrice ∧ t.value = price

structure Reads (i : SwapIntent) (amount : Quantity) (policy : FillOrKillParams)
    (price : Quantity) : Prop where
  readsAmount : VaultSwapRequest.amountOf i = .ok amount
  hasPolicy : i.fillOrKill = some policy
  readsPrice : Price.ofText policy.minPrice i.src i.dest = .ok price

variable {i : SwapIntent} {amount price : Quantity} {policy : FillOrKillParams}

theorem Reads.exists_offers (h : i.Reads amount policy price) : ∃ n x, i.Offers n x := by
  obtain ⟨text, htext, hread⟩ := VaultSwapRequest.amountOf_ok.mp h.readsAmount
  obtain ⟨t, ht, -⟩ := Price.ofText_ok_iff_countable.mp h.readsPrice
  exact ⟨amount.toNat, t.value, ⟨text, htext, Quantity.ofText_ok.mp hread⟩, policy, h.hasPolicy, t,
    ht, rfl⟩

variable {n : ℕ} {x : ℚ}

theorem Offers.amount_eq (h : i.Offers n x) (hread : i.Reads amount policy price) :
    amount.toNat = n := by
  obtain ⟨text, htext, hamount⟩ := VaultSwapRequest.amountOf_ok.mp hread.readsAmount
  obtain ⟨text', htext', hn⟩ := h.amount
  obtain rfl : text = text' := Option.some.inj (htext.symm.trans htext')
  exact (Quantity.ofText_ok.mp hamount).unique hn

theorem Offers.eq_leastOutput (h : i.Offers n x) (hsrc : i.src.chain = .bitcoin)
    (hread : i.Reads amount policy price) :
    0 ≤ x ∧ amount.toNat * price.toNat / 2 ^ 128 = Price.leastOutput n x i.dest := by
  obtain ⟨policy', hpolicy, t, ht, rfl⟩ := h.minPrice
  obtain rfl : policy = policy' := Option.some.inj (hread.hasPolicy.symm.trans hpolicy)
  obtain ⟨hsign, hfloor⟩ := Price.toNat_of_spells hread.readsPrice ht
  have hdecimals : i.src.decimals = 8 := by
    revert hsrc
    cases i.src <;> decide
  refine ⟨hsign, ?_⟩
  rw [h.amount_eq hread, hfloor, Price.floorOf, hdecimals]
  rfl

theorem Offers.outputFits_iff (h : i.Offers n x) (hsrc : i.src.chain = .bitcoin)
    (hread : i.Reads amount policy price) :
    i.OutputFits ↔ Price.leastOutput n x i.dest < 2 ^ 256 := by
  obtain ⟨text, htext, hamount⟩ := VaultSwapRequest.amountOf_ok.mp hread.readsAmount
  obtain ⟨-, hleast⟩ := h.eq_leastOutput hsrc hread
  rw [SwapIntent.outputFits_iff htext hamount hread.hasPolicy hread.readsPrice, ← hleast]
  simp only [Price.output?_eq_some_iff]
  constructor
  · rintro ⟨out, hout⟩
    exact hout ▸ out.lt_limit
  · intro hlt
    exact ⟨⟨_, hlt⟩, rfl⟩

end SwapIntent

-- ---------------------------------------------------------------------------
-- Accepted requests
-- ---------------------------------------------------------------------------

theorem CfParametersRequest.minPrice_of_ofIntent {network : Network} {i : SwapIntent}
    {amount price : Quantity} {policy : FillOrKillParams} {c : CfParametersRequest}
    (h : ofIntent network i = .ok c) (hread : i.Reads amount policy price) :
    ∃ refund, c.params[4]? = some refund ∧
      refund.member? "min_price" = some (.str price.toHex) := by
  obtain ⟨parts, hparts, rfl⟩ := CfParametersRequest.ofIntent_ok.mp h
  obtain ⟨refund, hrefund, hsent⟩ := (EncodedParts.lays_toCfParameters hparts).refund 4 rfl
  rw [hread.hasPolicy] at hsent
  obtain ⟨price', ccm, slippage, hprice, -, -, rfl⟩ := hsent
  obtain rfl : price = price' := Except.ok.inj (hread.readsPrice.symm.trans hprice)
  exact ⟨_, hrefund, by simp [Json.member?_ofMembers]⟩

namespace VaultSwapRequest

variable {network : Network} {i : SwapIntent}

theorem bitcoinExtra_ok {src dest : Asset} {amount : Quantity} {policy : FillOrKillParams}
    {extra : VaultSwapExtra} :
    bitcoinExtra src dest amount policy = .ok extra ↔
      (∀ bps ∈ policy.maxOracleSlippage, bps.toNat ≤ 10000) ∧
      ∃ price out, Price.ofText policy.minPrice src dest = .ok price ∧
        Price.output? amount price = some out ∧
        .bitcoin out policy.retryDuration policy.maxOracleSlippage = extra := by
  simp only [bitcoinExtra, bind_ok_iff, exists_check_ok_iff, checkPresent_ok, checkBps_ok,
    RefundPart.minPriceOf_ok]
  refine and_congr_right fun _ => exists_congr fun price => ?_
  cases Price.output? amount price with
  | none => simp [throw, throwThe, MonadExceptOf.throw]
  | some out => simp [pure_ok_iff]

theorem output_of_ofIntent {r : VaultSwapRequest} (h : ofIntent network i = .ok r)
    (hsrc : i.src.chain = .bitcoin) :
    ∃ amount policy price out, i.Reads amount policy price ∧
      Price.output? amount price = some out ∧
      r.params[4]? = some
        (VaultSwapExtra.bitcoin out policy.retryDuration policy.maxOracleSlippage).toJson := by
  obtain ⟨-, -, -, -, -, ⟨amount, policy, hamount, hpolicy, hextra⟩, hr⟩ := ofIntent_ok.mp h
  rw [extraOf, hsrc] at hextra
  obtain ⟨-, price, out, hprice, hout, hbitcoin⟩ := bitcoinExtra_ok.mp hextra
  refine ⟨amount, policy, price, out, ⟨hamount, hpolicy, hprice⟩, hout, ?_⟩
  rw [hbitcoin, hr]
  rfl

-- ---------------------------------------------------------------------------
-- Refused outputs
-- ---------------------------------------------------------------------------

theorem bitcoinExtra_error {src dest : Asset} {amount : Quantity} {policy : FillOrKillParams}
    {e : RequestError} (h : bitcoinExtra src dest amount policy = .error e)
    (hs : e.stage = .output) : e = .invalidParameter "amount" .outputTooLarge := by
  obtain ⟨_, h⟩ := error_of_bind h
    ((FailsAt.checkPresent fun _ => failsAt_checkBps).ne (by rw [hs]; decide))
  obtain ⟨price, h⟩ := error_of_bind h
    ((FailsAt.mapError (s := .price) fun _ => rfl).ne (by rw [hs]; decide))
  cases hout : Price.output? amount price with
  | some out => simp [hout, pure, Except.pure] at h
  | none =>
    rw [hout] at h
    exact (Except.error.inj h).symm

theorem error_at_output (hsrc : i.src.chain = .bitcoin) {e : RequestError}
    (h : ofIntent network i = .error e) (hs : e.stage = .output) :
    e = .invalidParameter "amount" .outputTooLarge := by
  have hnumbers : e.stage ≠ .numbers := by rw [hs]; decide
  have hcheck : i.check network ≠ .error e := SwapIntent.decidedBy_check.ne (by
    simp [SwapIntent.checkConditions, SwapIntent.addressConditions, hs])
  have hvault : ¬ (!hasVault i.src.chain) = true := by rw [hsrc]; decide
  rw [ofIntent, if_neg hvault] at h
  -- No step before the extra parameters fails at this stage, so that the error is theirs.
  obtain ⟨_, h⟩ := error_of_bind h hcheck
  obtain ⟨amount, h⟩ := error_of_bind h (failsAt_amountOf.ne (by rw [hs]; decide))
  obtain ⟨policy, h⟩ := error_of_bind h (failsAt_fillOrKillOf.ne (by rw [hs]; decide))
  obtain ⟨dca, h⟩ := error_of_bind h
    ((FailsAt.encodePresent fun _ => DcaPart.failsAt_ofParams).ne hnumbers)
  obtain ⟨affiliates, h⟩ := error_of_bind h
    ((FailsAt.encodePresent fun _ => AffiliatePart.failsAt_ofAffiliates).ne hnumbers)
  obtain ⟨ccm, h⟩ := error_of_bind h
    ((FailsAt.encodePresent fun _ => CcmPart.failsAt_ofParams).ne hnumbers)
  rw [extraOf, hsrc] at h
  have hextra : bitcoinExtra i.src i.dest amount policy = .error e := by
    by_contra hne
    obtain ⟨_, hdone⟩ := error_of_bind h hne
    cases hdone
  exact bitcoinExtra_error hextra hs

theorem passesAt_output_iff (hsrc : i.src.chain = .bitcoin) :
    PassesAt (i.vaultSwapConditions network) .output ↔ i.OutputFits := by
  simp [PassesAt, SwapIntent.vaultSwapConditions, SwapIntent.checkConditions,
    SwapIntent.addressConditions, SwapIntent.partConditions, SwapIntent.extraConditions, hsrc,
    FillOrKillParams.slippageCondition, FillOrKillParams.priceCondition, or_imp, forall_and]

section

variable (hsrc : i.src.chain = .bitcoin)
  (hpasses : ∀ s, s ≠ .output → PassesAt (i.vaultSwapConditions network) s)

include hsrc hpasses

theorem error_of_passes {e : RequestError} (h : ofIntent network i = .error e) :
    e = .invalidParameter "amount" .outputTooLarge := by
  obtain ⟨before, c, after, hconditions, -, hfails, hstage⟩ := decidedBy_ofIntent.error e h
  refine error_at_output hsrc h ?_
  by_contra hs
  exact hfails (hpasses e.stage hs c (by rw [hconditions]; simp) hstage.symm)

theorem exists_reads_of_passes : ∃ amount policy price, i.Reads amount policy price := by
  have hamount : ∃ text ∈ i.amount, ∃ amount, Quantity.ofText text = .ok amount :=
    hpasses .amount (by decide) ⟨.amount, _⟩ (by simp [SwapIntent.vaultSwapConditions]) rfl
  have hpolicy : i.fillOrKill.isSome :=
    hpasses .policy (by decide) ⟨.policy, _⟩ (by simp [SwapIntent.vaultSwapConditions]) rfl
  have hprice : ∀ p ∈ i.fillOrKill, ∃ price, Price.ofText p.minPrice i.src i.dest = .ok price :=
    hpasses .price (by decide) ⟨.price, _⟩ (by
      simp [SwapIntent.vaultSwapConditions, SwapIntent.extraConditions, hsrc,
        FillOrKillParams.priceCondition]) rfl
  obtain ⟨text, htext, amount, hread⟩ := hamount
  obtain ⟨policy, hpolicy⟩ := Option.isSome_iff_exists.mp hpolicy
  obtain ⟨price, hprice⟩ := hprice policy hpolicy
  exact ⟨amount, policy, price, amountOf_ok.mpr ⟨text, htext, hread⟩, hpolicy, hprice⟩

/-- Where everything else is right, only the size of the output matters. -/
theorem exists_ok_iff_leastOutput_lt {n : ℕ} {x : ℚ} (h : i.Offers n x) :
    (∃ r, ofIntent network i = .ok r) ↔ Price.leastOutput n x i.dest < 2 ^ 256 := by
  obtain ⟨amount, policy, price, hread⟩ := exists_reads_of_passes hsrc hpasses
  rw [decidedBy_ofIntent.exists_ok_iff, ← h.outputFits_iff hsrc hread]
  refine ⟨fun hall => (passesAt_output_iff hsrc).mp (hall .output), fun hfits s => ?_⟩
  by_cases hs : s = .output
  · exact hs ▸ (passesAt_output_iff hsrc).mpr hfits
  · exact hpasses s hs

end

-- ---------------------------------------------------------------------------
-- The least output
-- ---------------------------------------------------------------------------

/-- A request that is made of an intent from Bitcoin states, at the position of the extra parameters,
the least output of what the intent offers. It is what the amount yields at the price that a request
for encoded parameters states, and falls short of the exact output by little. Where everything else
is right, a request is refused exactly if the least output has more than 256 bits. -/
theorem minOutput_of_bitcoin (network : Network) (i : SwapIntent)
    (hsrc : i.src.chain = .bitcoin) :
    ((∃ r, ofIntent network i = .ok r) ∨
        (∀ s, s ≠ .output → PassesAt (i.vaultSwapConditions network) s) →
      ∃ n x, i.Offers n x) ∧
    ∀ n x, i.Offers n x →
      (∀ r, ofIntent network i = .ok r → ∃ amount out : Quantity,
        amount.toNat = n ∧ out.toNat = Price.leastOutput n x i.dest ∧
        (∃ extra, r.params[4]? = some extra ∧
          extra.member? "chain" = some (.str "Bitcoin") ∧
          extra.member? "min_output_amount" = some (.str out.toHex)) ∧
        (∀ c, CfParametersRequest.ofIntent network i = .ok c → ∃ refund hex price,
          c.params[4]? = some refund ∧ refund.member? "min_price" = some (.str hex) ∧
          Quantity.ofHex hex = .ok price ∧ Price.output? amount price = some out) ∧
        Price.leastOutput n x i.dest ≤ n * x * 10 ^ ((i.dest.decimals : ℤ) - 8) ∧
        n * x * 10 ^ ((i.dest.decimals : ℤ) - 8) <
          Price.leastOutput n x i.dest + 1 + (n : ℚ) / 2 ^ 128) ∧
      ((∀ s, s ≠ .output → PassesAt (i.vaultSwapConditions network) s) →
        ((∃ r, ofIntent network i = .ok r) ↔ Price.leastOutput n x i.dest < 2 ^ 256) ∧
        (ofIntent network i = .error (.invalidParameter "amount" .outputTooLarge) ↔
          2 ^ 256 ≤ Price.leastOutput n x i.dest)) := by
  refine ⟨?_, fun n x hoffers => ⟨fun r hr => ?_, fun hpasses => ?_⟩⟩
  · rintro (⟨r, hr⟩ | hpasses)
    · obtain ⟨_, _, _, _, hread, -⟩ := output_of_ofIntent hr hsrc
      exact hread.exists_offers
    · obtain ⟨_, _, _, hread⟩ := exists_reads_of_passes hsrc hpasses
      exact hread.exists_offers
  · obtain ⟨amount, policy, price, out, hread, hout, hextra⟩ := output_of_ofIntent hr hsrc
    obtain ⟨hsign, hleast⟩ := hoffers.eq_leastOutput hsrc hread
    refine ⟨amount, out, hoffers.amount_eq hread, ?_, ⟨_, hextra, ?_, ?_⟩, fun c hc => ?_,
      Price.leastOutput_bounds n i.dest hsign⟩
    · exact (Price.output?_eq_some_iff.mp hout).symm.trans hleast
    · simp [VaultSwapExtra.toJson, Json.member?_ofMembers, Chain.name]
    · simp [VaultSwapExtra.toJson, Json.member?_ofMembers]
    · obtain ⟨refund, hrefund, hmember⟩ := CfParametersRequest.minPrice_of_ofIntent hc hread
      exact ⟨refund, _, price, hrefund, hmember, Quantity.ofHex_toHex price, hout⟩
  · have hok := exists_ok_iff_leastOutput_lt hsrc hpasses hoffers
    refine ⟨hok, ?_⟩
    rw [← Nat.not_lt, ← hok]
    constructor
    · rintro herror ⟨r, hr⟩
      cases herror.symm.trans hr
    · intro hrefused
      cases h : ofIntent network i with
      | ok r => exact absurd ⟨r, h⟩ hrefused
      | error e => rw [error_of_passes hsrc hpasses h]

/-- One bitcoin, of whose exact output the two roundings cost one base unit. -/
def bitcoinForUsdc : SwapIntent where
  src := .btc
  dest := .usdc
  destAddress := "0x02679b10f7b94fc4f273569cc2e5c49eefa5c0f1"
  amount := some "0x5f5e100"
  fillOrKill := some ⟨500, "bc1qqwykx04uenc842d3sf50cjtehtj9tenugk808w", "64000.5", some 50, none⟩

theorem minOutput_of_bitcoin_bitcoinForUsdc :
    bitcoinForUsdc.src.chain = .bitcoin ∧
      (∀ s, s ≠ .output → PassesAt (bitcoinForUsdc.vaultSwapConditions .mainnet) s) ∧
      ∃ r c n x, ofIntent .mainnet bitcoinForUsdc = .ok r ∧
        CfParametersRequest.ofIntent .mainnet bitcoinForUsdc = .ok c ∧
        bitcoinForUsdc.Offers n x ∧ Price.leastOutput n x .usdc < 2 ^ 256 ∧
        ∃ amount out : Quantity, amount.toNat = n ∧ out.toNat = Price.leastOutput n x .usdc ∧
          (∃ extra, r.params[4]? = some extra ∧
            extra.member? "min_output_amount" = some (.str out.toHex)) ∧
          ∃ refund hex price, c.params[4]? = some refund ∧
            refund.member? "min_price" = some (.str hex) ∧ Quantity.ofHex hex = .ok price ∧
            Price.output? amount price = some out := by
  obtain ⟨r, hr⟩ := exists_ok_of_isSome (x := ofIntent .mainnet bitcoinForUsdc) (by decide +kernel)
  obtain ⟨c, hc⟩ := exists_ok_of_isSome
    (x := CfParametersRequest.ofIntent .mainnet bitcoinForUsdc) (by decide +kernel)
  have hpasses : ∀ s, s ≠ .output → PassesAt (bitcoinForUsdc.vaultSwapConditions .mainnet) s :=
    fun s _ => decidedBy_ofIntent.exists_ok_iff.mp ⟨r, hr⟩ s
  obtain ⟨hoffered, hleast⟩ := minOutput_of_bitcoin .mainnet bitcoinForUsdc rfl
  obtain ⟨n, x, hoffers⟩ := hoffered (.inr hpasses)
  obtain ⟨haccepted, hjudged⟩ := hleast n x hoffers
  obtain ⟨amount, out, hamount, hout, ⟨extra, hextra, -, hmember⟩, hprice, -⟩ := haccepted r hr
  exact ⟨rfl, hpasses, r, c, n, x, hr, hc, hoffers, (hjudged hpasses).1.mp ⟨r, hr⟩, amount, out,
    hamount, hout, ⟨extra, hextra, hmember⟩, hprice c hc⟩

end VaultSwapRequest

end SwapBroker
