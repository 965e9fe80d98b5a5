import SwapBroker.Proofs.PriceDisplay

/-!
# The scale of a displayed price

A price can be displayed if its whole part fits a display decimal. It is then displayed at the largest
scale at which it fits, rounded down in the last place, and zeros at the end of the places are left
out. What is displayed falls short of the exact price by less than one unit of that scale.
-/

namespace SwapBroker

theorem DecimalText.mantissa_mod_ten {t : DecimalText} (h : t.places.getLast? = some '0') :
    t.magnitude.scale ≠ 0 ∧ t.magnitude.mantissa % 10 = 0 := by
  obtain ⟨before, hplaces⟩ := List.getLast?_eq_some_iff.mp h
  have hzero : Radix.ofDigits 10 (['0'].map Text.digitValue) = 0 := rfl
  constructor
  · simp [magnitude, hplaces]
  · rw [magnitude, hplaces, ← List.append_assoc, List.map_append, Radix.ofDigits_append, hzero]
    simp

namespace Decimal

/-- There is no zero at the end of the places. -/
def Reduced (d : Decimal) : Prop :=
  d.scale = 0 ∨ d.mantissa % 10 ≠ 0

theorem reduced_normalize (d : Decimal) : d.normalize.Reduced := by
  obtain ⟨m, s⟩ := d
  show (normalize.go m s).Reduced
  induction s generalizing m with
  | zero => exact .inl rfl
  | succ s ih =>
    unfold normalize.go
    split
    next => exact ih (m / 10)
    next hm => exact .inr hm

theorem Reduced.exists_spells {d : Decimal} (h : d.Reduced) :
    ∃ t : DecimalText, t.Spells d.text ∧ t.negative = false ∧ t.magnitude = d ∧
      t.places.getLast? ≠ some '0' := by
  obtain ⟨t, hread, hsign, rfl⟩ := d.read?_text
  refine ⟨t, DecimalText.read?_eq_some_iff.mp hread, hsign, rfl, fun hlast => ?_⟩
  obtain ⟨hscale, hdigit⟩ := DecimalText.mantissa_mod_ten hlast
  exact h.elim hscale fun hm => hm hdigit

end Decimal

namespace Price

open Decimal

variable {price : Quantity} {src dest : Asset}

theorem exact_eq (price : Quantity) (src dest : Asset) :
    exact price src dest =
      price.toNat * 10 ^ ((src.decimals : ℤ) - dest.decimals) / 2 ^ 128 := by
  have hflip : (10 : ℚ) ^ ((src.decimals : ℤ) - dest.decimals) =
      (10 ^ ((dest.decimals : ℤ) - src.decimals))⁻¹ := by
    rw [← zpow_neg, neg_sub]
  rw [exact, unit, hflip]
  field_simp

/-- The largest of the scales up to 28 at which the mantissa of a number has at most 96 bits. -/
structure FinestScale (q : ℚ) (scale : ℕ) : Prop where
  le : scale ≤ 28
  fits : ⌊q * 10 ^ scale⌋₊ < 2 ^ 96
  largest : ∀ s ≤ 28, ⌊q * 10 ^ s⌋₊ < 2 ^ 96 → s ≤ scale

theorem FinestUpTo.finestScale {d : Decimal} (h : FinestUpTo price src dest 28 d) :
    FinestScale (exact price src dest) d.scale where
  le := h.scale_le
  fits := by
    rw [← mantissaAt_eq, ← h.mantissa_eq]
    exact h.fits
  largest s hs hfits := by
    rw [← mantissaAt_eq] at hfits
    by_contra hlt
    exact absurd (h.finest s (by omega) hs) (Nat.not_le_of_lt hfits)

theorem mantissaAt_mono {s t : ℕ} (h : s ≤ t) :
    mantissaAt price src dest s ≤ mantissaAt price src dest t := by
  rw [mantissaAt_eq, mantissaAt_eq]
  apply Nat.floor_mono
  gcongr
  · exact exact_nonneg price src dest
  · norm_num

theorem displayUpTo?_eq_none_iff {limit : ℕ} :
    displayUpTo? price src dest limit = none ↔ 2 ^ 96 ≤ mantissaAt price src dest 0 := by
  have hlimit : displayLimit = 2 ^ 96 := rfl
  -- A price that does not fit without places fits at no scale that the search tries before.
  induction limit with
  | zero =>
    simp only [displayUpTo?, hlimit]
    split
    next hfits => simpa using hfits
    next hfits => simpa using hfits
  | succ limit ih =>
    simp only [displayUpTo?, hlimit]
    split
    next hfits =>
      have hwhole := (mantissaAt_mono (Nat.zero_le (limit + 1))).trans_lt hfits
      simpa using hwhole
    next => exact ih

theorem display_error_iff {e : PriceError} :
    display price src dest = .error e ↔
      e = ⟨price.toHex, .tooLargeToDisplay⟩ ∧ 2 ^ 96 ≤ ⌊exact price src dest⌋₊ := by
  have hwhole : mantissaAt price src dest 0 = ⌊exact price src dest⌋₊ := by
    rw [mantissaAt_eq, pow_zero, mul_one]
  have hnone : displayUpTo? price src dest displayScale = none ↔ _ := displayUpTo?_eq_none_iff
  rw [← hwhole, ← hnone, display_eq]
  cases displayUpTo? price src dest displayScale <;> simp [eq_comm]

theorem FinestUpTo.exact_lt {limit : ℕ} {d : Decimal} (h : FinestUpTo price src dest limit d) :
    exact price src dest < d.value + 1 / 10 ^ d.scale := by
  rw [h.value_eq, ← add_div, lt_div_iff₀ (by positivity)]
  exact Nat.lt_floor_add_one _

/-- A price whose whole part has more than 96 bits is not displayed. Any other is displayed at the
largest scale at which it fits, rounded down there and without zeros at the end of its places, so that
less than one unit of that scale is dropped. -/
theorem display_at_finest_scale (price : Quantity) (src dest : Asset) :
    exact price src dest = price.toNat * 10 ^ ((src.decimals : ℤ) - dest.decimals) / 2 ^ 128 ∧
    (display price src dest = .error ⟨price.toHex, .tooLargeToDisplay⟩ ↔
      2 ^ 96 ≤ ⌊exact price src dest⌋₊) ∧
    (⌊exact price src dest⌋₊ < 2 ^ 96 →
      ∃ d scale, display price src dest = .ok d ∧ FinestScale (exact price src dest) scale ∧
        d.value = ⌊exact price src dest * 10 ^ scale⌋₊ / 10 ^ scale ∧
        (∃ t : DecimalText, t.Spells d.text ∧ t.negative = false ∧ t.magnitude = d ∧
          t.places.getLast? ≠ some '0') ∧
        d.value ≤ exact price src dest ∧ exact price src dest < d.value + 1 / 10 ^ scale) := by
  refine ⟨exact_eq price src dest, ?_, fun hfits => ?_⟩
  · rw [display_error_iff, and_iff_right rfl]
  · cases h : display price src dest with
    | error e => exact absurd (display_error_iff.mp h).2 (Nat.not_le_of_lt hfits)
    | ok d =>
      obtain ⟨x, hx, rfl⟩ := display_ok.mp h
      refine ⟨x.normalize, x.scale, rfl, hx.finestScale, ?_, (reduced_normalize x).exists_spells,
        value_le_exact h, ?_⟩
      · rw [value_normalize, hx.value_eq]
      · rw [value_normalize]
        exact hx.exact_lt

/-- A third has no end, so that the finest scale is used up. -/
theorem display_at_finest_scale_third :
    ⌊exact ⟨113427455640312821154458202477256070485, by decide⟩ .usdc .usdt⌋₊ < 2 ^ 96 ∧
      ∃ d scale,
        display ⟨113427455640312821154458202477256070485, by decide⟩ .usdc .usdt = .ok d ∧
        FinestScale (exact ⟨113427455640312821154458202477256070485, by decide⟩ .usdc .usdt) scale ∧
        d = ⟨3333333333333333333333333333, 28⟩ := by
  obtain ⟨-, herror, hshown⟩ :=
    display_at_finest_scale ⟨113427455640312821154458202477256070485, by decide⟩ .usdc .usdt
  have hok : display ⟨113427455640312821154458202477256070485, by decide⟩ .usdc .usdt =
      .ok ⟨3333333333333333333333333333, 28⟩ := by decide +kernel
  have hfits : ⌊exact ⟨113427455640312821154458202477256070485, by decide⟩ .usdc .usdt⌋₊ < 2 ^ 96 := by
    refine Nat.lt_of_not_le fun hle => ?_
    have herr := herror.mpr hle
    rw [hok] at herr
    cases herr
  obtain ⟨d, scale, hd, hscale, -⟩ := hshown hfits
  exact ⟨hfits, d, scale, hd, hscale, Except.ok.inj (hd.symm.trans hok)⟩

end Price

end SwapBroker
