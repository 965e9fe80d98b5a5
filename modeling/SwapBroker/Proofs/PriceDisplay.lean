import SwapBroker.Proofs.PriceTexts

/-!
# Displayed prices

A fixed-point price is displayed at the finest scale at which it fits, rounded down there.
Converting the displayed text again gives the price back exactly when nothing had to be dropped:
when the exact price is itself a decimal that can be displayed. Otherwise the result is smaller.
-/

namespace SwapBroker.Price

open Decimal

-- ---------------------------------------------------------------------------
-- The two conversions
-- ---------------------------------------------------------------------------

/-- The displayed decimal stands at the largest scale at which the mantissa fits. -/
structure FinestUpTo (price : Quantity) (src dest : Asset) (limit : ℕ) (d : Decimal) : Prop where
  scale_le : d.scale ≤ limit
  mantissa_eq : d.mantissa = mantissaAt price src dest d.scale
  fits : d.mantissa < 2 ^ 96
  finest : ∀ s, d.scale < s → s ≤ limit → 2 ^ 96 ≤ mantissaAt price src dest s

variable {price : Quantity} {src dest : Asset}

theorem finestUpTo_iff_of_fits {limit : ℕ} {d : Decimal}
    (hfits : mantissaAt price src dest limit < 2 ^ 96) :
    FinestUpTo price src dest limit d ↔ ⟨mantissaAt price src dest limit, limit⟩ = d := by
  constructor
  · intro h
    obtain ⟨m, scale⟩ := d
    have hscale : scale = limit := by
      by_contra hne
      have hlt : scale < limit := lt_of_le_of_ne h.scale_le hne
      exact absurd (h.finest limit hlt le_rfl) (by omega)
    have hm : m = mantissaAt price src dest scale := h.mantissa_eq
    rw [hm, hscale]
  · rintro rfl
    exact ⟨le_rfl, rfl, hfits, fun s hs hle => absurd hs (Nat.not_lt_of_le hle)⟩

theorem not_finestUpTo_zero {d : Decimal} (hfits : ¬ mantissaAt price src dest 0 < 2 ^ 96) :
    ¬ FinestUpTo price src dest 0 d := by
  intro h
  have hm := h.mantissa_eq
  rw [Nat.le_zero.mp h.scale_le] at hm
  exact hfits (hm ▸ h.fits)

theorem finestUpTo_succ_iff {limit : ℕ} {d : Decimal}
    (hfits : ¬ mantissaAt price src dest (limit + 1) < 2 ^ 96) :
    FinestUpTo price src dest (limit + 1) d ↔ FinestUpTo price src dest limit d := by
  constructor
  · intro h
    have hne : d.scale ≠ limit + 1 := by
      intro heq
      have hm := h.mantissa_eq
      rw [heq] at hm
      exact hfits (hm ▸ h.fits)
    exact ⟨by have := h.scale_le; omega, h.mantissa_eq, h.fits,
      fun s hs hle => h.finest s hs (by omega)⟩
  · intro h
    refine ⟨by have := h.scale_le; omega, h.mantissa_eq, h.fits, fun s hs hle => ?_⟩
    rcases Nat.lt_or_eq_of_le hle with hlt | rfl
    · exact h.finest s hs (by omega)
    · exact Nat.le_of_not_lt hfits

theorem displayUpTo?_eq_some_iff {limit : ℕ} {d : Decimal} :
    displayUpTo? price src dest limit = some d ↔ FinestUpTo price src dest limit d := by
  have hlimit : displayLimit = 2 ^ 96 := rfl
  -- The search goes down from the limit, so the scales it passed are those that do not fit.
  induction limit with
  | zero =>
    simp only [displayUpTo?, hlimit]
    split
    next hfits => rw [Option.some.injEq, finestUpTo_iff_of_fits hfits]
    next hfits => simp [not_finestUpTo_zero hfits]
  | succ limit ih =>
    simp only [displayUpTo?, hlimit]
    split
    next hfits => rw [Option.some.injEq, finestUpTo_iff_of_fits hfits]
    next hfits => exact ih.trans (finestUpTo_succ_iff hfits).symm

theorem display_ok {d : Decimal} :
    display price src dest = .ok d ↔ ∃ e, FinestUpTo price src dest 28 e ∧ e.normalize = d := by
  have hscale : displayScale = 28 := rfl
  simp only [display_eq, hscale, ← displayUpTo?_eq_some_iff]
  cases displayUpTo? price src dest 28 <;> simp

-- ---------------------------------------------------------------------------
-- What is displayed
-- ---------------------------------------------------------------------------

theorem FinestUpTo.value_eq {limit : ℕ} {d : Decimal} (h : FinestUpTo price src dest limit d) :
    d.value = ⌊exact price src dest * 10 ^ d.scale⌋₊ / 10 ^ d.scale := by
  rw [Decimal.value, h.mantissa_eq, mantissaAt_eq]

theorem scale_le_of_display {d : Decimal} (h : display price src dest = .ok d) : d.scale ≤ 28 := by
  obtain ⟨e, he, rfl⟩ := display_ok.mp h
  exact (normalize_scale_le e).trans he.scale_le

theorem value_le_exact {d : Decimal} (h : display price src dest = .ok d) :
    d.value ≤ exact price src dest := by
  obtain ⟨e, he, rfl⟩ := display_ok.mp h
  rw [value_normalize, he.value_eq, div_le_iff₀ (by positivity)]
  exact Nat.floor_le (mul_nonneg (exact_nonneg price src dest) (by positivity))

theorem value_eq_exact_iff {d : Decimal} (h : display price src dest = .ok d) :
    d.value = exact price src dest ↔ Displayable (exact price src dest) := by
  obtain ⟨e, he, rfl⟩ := display_ok.mp h
  rw [value_normalize]
  constructor
  · intro heq
    exact ⟨e, he.fits, he.scale_le, heq.symm⟩
  · rintro ⟨x, hx, hscale, hexact⟩
    have hmantissa : exact price src dest * 10 ^ x.scale = x.mantissa := by
      rw [hexact, Decimal.value, div_mul_cancel₀ _ (by positivity)]
    -- The chosen scale has room for all places of the exact price, which would fit at its own.
    have hle : x.scale ≤ e.scale := by
      by_contra hlt
      have hfinest := he.finest x.scale (by omega) hscale
      rw [mantissaAt_eq, hmantissa, Nat.floor_natCast] at hfinest
      omega
    have hwhole : exact price src dest * 10 ^ e.scale =
        ((x.mantissa * 10 ^ (e.scale - x.scale) : ℕ) : ℚ) := by
      push_cast
      rw [← hmantissa, mul_assoc, ← pow_add, Nat.add_sub_cancel' hle]
    rw [he.value_eq, hwhole, Nat.floor_natCast, ← hwhole, mul_div_cancel_right₀ _ (by positivity)]

theorem exists_ofText_display {d : Decimal} (h : display price src dest = .ok d) :
    ∃ again, ofText d.text src dest = .ok again ∧ again.toNat = ⌊d.value * unit src dest⌋₊ ∧
      again.toNat ≤ price.toNat := by
  have hle : ⌊d.value * unit src dest⌋₊ ≤ price.toNat := by
    apply Nat.floor_le_of_le
    rw [← exact_mul_unit price src dest]
    exact mul_le_mul_of_nonneg_right (value_le_exact h) (unit_pos src dest).le
  have hscale : countable d.scale src dest = true := by
    have := scale_le_of_display h
    exact countable_of_lt (by omega)
  refine ⟨⟨_, lt_of_le_of_lt hle price.lt_limit⟩, ?_, rfl, hle⟩
  exact ofText_text.mpr ⟨hscale, fixedPoint_eq d src dest⟩

/-- The price comes back when its display dropped nothing, and only then. -/
theorem again_eq_iff {d : Decimal} {again : Quantity} (h : display price src dest = .ok d)
    (hagain : again.toNat = ⌊d.value * unit src dest⌋₊) :
    again = price ↔ Displayable (exact price src dest) := by
  rw [← value_eq_exact_iff h]
  constructor
  · rintro rfl
    apply le_antisymm (value_le_exact h)
    rw [exact, div_le_iff₀ (unit_pos src dest), hagain]
    exact Nat.floor_le (mul_nonneg d.value_nonneg (unit_pos src dest).le)
  · intro heq
    apply Quantity.ext
    rw [hagain, heq, exact_mul_unit, Nat.floor_natCast]

theorem exact_eq_of_ofText {text : String} {t : DecimalText} {n : ℕ}
    (h : ofText text src dest = .ok price) (hread : DecimalText.read? text = some t)
    (hwhole : t.magnitude.value * unit src dest = n) :
    exact price src dest = t.magnitude.value := by
  obtain ⟨t', hread', -, -, hfixed⟩ := ofText_ok.mp h
  obtain rfl : t = t' := Option.some.inj (hread.symm.trans hread')
  rw [exact, ← hfixed, fixedPoint_eq, hwhole, Nat.floor_natCast, ← hwhole,
    mul_div_cancel_right₀ _ (unit_pos src dest).ne']

/-- Converting what is displayed of a converted price never gives more than that price, and gives it
back exactly when it is the fixed-point form of a display decimal. This is so of every display
decimal that is converted without rounding. -/
theorem ofText_display_text {text : String} {d : Decimal}
    (hprice : ofText text src dest = .ok price) (hdisplay : display price src dest = .ok d) :
    ∃ again, ofText d.text src dest = .ok again ∧ again.toNat ≤ price.toNat ∧
      (again = price ↔ Displayable (exact price src dest)) ∧
      ∀ t, DecimalText.read? text = some t → Displayable t.magnitude.value →
        (∃ n : ℕ, t.magnitude.value * unit src dest = n) → again = price := by
  obtain ⟨again, hok, hvalue, hle⟩ := exists_ofText_display hdisplay
  have hiff := again_eq_iff hdisplay hvalue
  refine ⟨again, hok, hle, hiff, ?_⟩
  rintro t hread hdisplayable ⟨n, hwhole⟩
  rw [hiff, exact_eq_of_ofText hprice hread hwhole]
  exact hdisplayable

theorem ofText_display_text_three_places :
    ∃ price d again, ofText "2458.206" .btc .eth = .ok price ∧ display price .btc .eth = .ok d ∧
      ofText d.text .btc .eth = .ok again ∧ again = price := by
  have hprice : ofText "2458.206" .btc .eth =
      .ok ⟨8364841560592524565164482402364172080104079360000000, by decide⟩ := rfl
  have hdisplay : display ⟨8364841560592524565164482402364172080104079360000000, by decide⟩
      .btc .eth = .ok ⟨2458206, 3⟩ := by decide +kernel
  obtain ⟨again, hagain, -, -, hback⟩ := ofText_display_text hprice hdisplay
  refine ⟨_, _, again, hprice, hdisplay, hagain, ?_⟩
  apply hback ⟨false, "2458".toList, "206".toList⟩ rfl
  · exact ⟨⟨2458206, 3⟩, by decide, by decide, rfl⟩
  · refine ⟨8364841560592524565164482402364172080104079360000000, ?_⟩
    have hmagnitude : (⟨false, "2458".toList, "206".toList⟩ : DecimalText).magnitude =
        ⟨2458206, 3⟩ := rfl
    rw [hmagnitude]
    norm_num [Decimal.value, unit, Asset.decimals]

/-- A tenth is rounded down when it is converted, and its display falls short of it. -/
theorem display_of_a_tenth :
    ¬ ∀ (text : String) (src dest : Asset) (price : Quantity) (d : Decimal),
      ofText text src dest = .ok price → display price src dest = .ok d →
        ofText d.text src dest = .ok price := by
  intro h
  have hback := h "0.1" .usdc .usdt ⟨34028236692093846346337460743176821145, by decide⟩
    ⟨999999999999999999999999999, 28⟩ rfl (by decide +kernel)
  exact absurd (ofText_text.mp hback).2 (by decide +kernel)

end SwapBroker.Price
