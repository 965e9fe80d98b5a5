import SwapBroker.Proofs.DisplayScales

/-!
# The order of displayed prices

Of two prices at one scale, the smaller is displayed as the smaller. The smaller may be displayed at a
larger scale, though, and keep a place that the larger has no room for. That undoes the order at the
widest mantissas, by at most five units of that place, and nowhere else.
-/

namespace SwapBroker

theorem Decimal.value_le_value_iff {x y : Decimal} (h : y.scale ≤ x.scale) :
    x.value ≤ y.value ↔ x.mantissa ≤ y.mantissa * 10 ^ (x.scale - y.scale) := by
  have hscale : (10 : ℚ) ^ x.scale = 10 ^ (x.scale - y.scale) * 10 ^ y.scale := by
    rw [← pow_add, Nat.sub_add_cancel h]
  rw [value, value, div_le_div_iff₀ (by positivity) (by positivity), hscale, ← mul_assoc,
    mul_le_mul_iff_left₀ (by positivity)]
  norm_cast

namespace Price

open Decimal

variable {price low high : Quantity} {src dest : Asset}

-- ---------------------------------------------------------------------------
-- Mantissas
-- ---------------------------------------------------------------------------

theorem exact_mono (src dest : Asset) (h : low.toNat ≤ high.toNat) :
    exact low src dest ≤ exact high src dest :=
  div_le_div_of_nonneg_right (Nat.cast_le.mpr h) (unit_pos src dest).le

theorem mantissaAt_le (h : low.toNat ≤ high.toNat) (scale : ℕ) :
    mantissaAt low src dest scale ≤ mantissaAt high src dest scale := by
  rw [mantissaAt_eq, mantissaAt_eq]
  exact Nat.floor_mono (mul_le_mul_of_nonneg_right (exact_mono src dest h) (by positivity))

theorem mantissaAt_succ_div_ten (scale : ℕ) :
    mantissaAt price src dest (scale + 1) / 10 = mantissaAt price src dest scale := by
  have hplace : exact price src dest * 10 ^ scale =
      exact price src dest * 10 ^ (scale + 1) / (10 : ℕ) := by
    rw [pow_succ]
    push_cast
    ring
  rw [mantissaAt_eq, mantissaAt_eq, hplace, Nat.floor_div_natCast]

theorem FinestScale.unique {q : ℚ} {s t : ℕ} (hs : FinestScale q s) (ht : FinestScale q t) : s = t :=
  Nat.le_antisymm (ht.largest s hs.le hs.fits) (hs.largest t ht.le ht.fits)

-- ---------------------------------------------------------------------------
-- Two prices
-- ---------------------------------------------------------------------------

/-- The larger price has its widest mantissa but for the last digit, for which there is no room, and
the smaller one keeps a digit there. -/
structure PartedAt (low high : Quantity) (src dest : Asset) (scale : ℕ) : Prop where
  lowScale : FinestScale (exact low src dest) (scale + 1)
  highScale : FinestScale (exact high src dest) scale
  highMantissa : ⌊exact high src dest * 10 ^ scale⌋₊ = 2 ^ 96 / 10
  lowMantissa : 10 * (2 ^ 96 / 10) < ⌊exact low src dest * 10 ^ (scale + 1)⌋₊

variable {x y : Decimal}

theorem FinestUpTo.scale_le_of_le (h : low.toNat ≤ high.toNat) (hx : FinestUpTo low src dest 28 x)
    (hy : FinestUpTo high src dest 28 y) : y.scale ≤ x.scale := by
  by_contra hlt
  have hwide := hx.finest y.scale (by omega) hy.scale_le
  have hfits := hy.fits
  rw [hy.mantissa_eq] at hfits
  exact absurd (hwide.trans (mantissaAt_le h y.scale)) (Nat.not_le_of_lt hfits)

/-- A scale that could be larger leaves room for no further digit. -/
theorem FinestUpTo.le_mantissa (hy : FinestUpTo high src dest 28 y) (h : y.scale < 28) :
    2 ^ 96 / 10 ≤ y.mantissa := by
  rw [hy.mantissa_eq, ← mantissaAt_succ_div_ten]
  exact Nat.div_le_div_right (hy.finest (y.scale + 1) (Nat.lt_succ_self _) h)

/-- The larger decimal has one place less, and in it no room for the last digit of the smaller. -/
structure Inverted (x y : Decimal) : Prop where
  scale : x.scale = y.scale + 1
  larger : y.mantissa = 2 ^ 96 / 10
  smaller : 10 * (2 ^ 96 / 10) < x.mantissa

theorem FinestUpTo.mantissa_le_iff (h : low.toNat ≤ high.toNat) (hx : FinestUpTo low src dest 28 x)
    (hy : FinestUpTo high src dest 28 y) :
    x.mantissa ≤ y.mantissa * 10 ^ (x.scale - y.scale) ↔ ¬ Inverted x y := by
  obtain ⟨k, hk⟩ := Nat.exists_eq_add_of_le (FinestUpTo.scale_le_of_le h hx hy)
  have hxfits := hx.fits
  have hscale := hx.scale_le
  -- The mantissas differ in one place, in none, or in so many that the larger price has the larger.
  rcases k with _ | _ | k
  · have hle : x.mantissa ≤ y.mantissa := by
      rw [hx.mantissa_eq, hy.mantissa_eq, hk]
      exact mantissaAt_le h y.scale
    rw [hk, Nat.add_zero, Nat.sub_self, pow_zero, mul_one]
    exact iff_of_true hle fun hinverted => by have := hinverted.scale; omega
  · have hwide := hy.le_mantissa (by omega)
    rw [hk, Nat.add_sub_cancel_left]
    constructor
    · intro hle hinverted
      have hlarger := hinverted.larger
      have hsmaller := hinverted.smaller
      omega
    · intro hnot
      by_contra hlt
      exact hnot ⟨hk, by omega, by omega⟩
  · have hwide := hy.le_mantissa (by omega)
    have hle : x.mantissa ≤ y.mantissa * 10 ^ (k + 2) :=
      calc x.mantissa ≤ y.mantissa * 10 ^ 2 := by omega
        _ ≤ y.mantissa * 10 ^ (k + 2) :=
          Nat.mul_le_mul_left _ (Nat.pow_le_pow_right (by decide) (by omega))
    rw [hk, Nat.add_sub_cancel_left]
    exact iff_of_true hle fun hinverted => by have := hinverted.scale; omega

theorem Inverted.value_eq {digit : ℕ} (h : Inverted x y)
    (hdigit : x.mantissa = 10 * (2 ^ 96 / 10) + digit) :
    x.value = y.value + digit / 10 ^ x.scale := by
  rw [Decimal.value, Decimal.value, hdigit, ← h.larger, h.scale, pow_succ]
  push_cast
  field_simp

theorem partedAt_iff (hx : FinestUpTo low src dest 28 x) (hy : FinestUpTo high src dest 28 y)
    {scale : ℕ} : PartedAt low high src dest scale ↔ y.scale = scale ∧ Inverted x y := by
  constructor
  · intro h
    have hxscale := hx.finestScale.unique h.lowScale
    have hyscale := hy.finestScale.unique h.highScale
    refine ⟨hyscale, by omega, ?_, ?_⟩
    · rw [hy.mantissa_eq, mantissaAt_eq, hyscale, h.highMantissa]
    · rw [hx.mantissa_eq, mantissaAt_eq, hxscale]
      exact h.lowMantissa
  · rintro ⟨rfl, hinverted⟩
    have hscale := hinverted.scale
    refine ⟨hscale ▸ hx.finestScale, hy.finestScale, ?_, ?_⟩
    · rw [← mantissaAt_eq, ← hy.mantissa_eq, hinverted.larger]
    · rw [← mantissaAt_eq, ← hscale, ← hx.mantissa_eq]
      exact hinverted.smaller

-- ---------------------------------------------------------------------------
-- What is displayed of them
-- ---------------------------------------------------------------------------

/-- Of two prices, the smaller is displayed as the smaller, unless it keeps a digit behind the widest
mantissa that the larger one drops. It is then displayed as the larger by at most five units of that
digit's place. If the smaller price is too large to display, so is the larger. -/
theorem display_ordered (src dest : Asset) {low high : Quantity} (h : low.toNat ≤ high.toNat) :
    (∀ d e, display low src dest = .ok d → display high src dest = .ok e →
      (d.value ≤ e.value ↔ ¬ ∃ scale, PartedAt low high src dest scale) ∧
      ∀ scale, PartedAt low high src dest scale →
        e.value = (2 ^ 96 / 10 : ℕ) / 10 ^ scale ∧
        ∃ digit : ℕ, 1 ≤ digit ∧ digit ≤ 5 ∧ d.value = e.value + digit / 10 ^ (scale + 1)) ∧
    ((∃ fault, display low src dest = .error fault) →
      display high src dest = .error ⟨high.toHex, .tooLargeToDisplay⟩) := by
  refine ⟨fun d e hd he => ?_, ?_⟩
  · obtain ⟨x, hx, rfl⟩ := display_ok.mp hd
    obtain ⟨y, hy, rfl⟩ := display_ok.mp he
    simp only [value_normalize, partedAt_iff hx hy]
    constructor
    · rw [value_le_value_iff (FinestUpTo.scale_le_of_le h hx hy), FinestUpTo.mantissa_le_iff h hx hy]
      simp
    · rintro _ ⟨rfl, hinverted⟩
      have hfits := hx.fits
      have hsmaller := hinverted.smaller
      obtain ⟨digit, hdigit⟩ := Nat.exists_eq_add_of_le hsmaller.le
      refine ⟨?_, digit, by omega, by omega, ?_⟩
      · rw [Decimal.value, hinverted.larger]
      · rw [hinverted.value_eq hdigit, hinverted.scale]
  · rintro ⟨fault, hfault⟩
    obtain ⟨-, hlarge⟩ := display_error_iff.mp hfault
    refine display_error_iff.mpr ⟨rfl, hlarge.trans ?_⟩
    exact Nat.floor_mono (exact_mono src dest h)

def widest : Quantity :=
  ⟨2695994666715063979466701508667934830672, by decide⟩

def pastWidest : Quantity :=
  ⟨2695994666715063979466701508701963067364, by decide⟩

theorem display_widest :
    display widest .usdc .usdt = .ok ⟨79228162514264337593543950335, 28⟩ := by
  decide +kernel

theorem display_pastWidest :
    display pastWidest .usdc .usdt = .ok ⟨7922816251426433759354395033, 27⟩ := by
  decide +kernel

theorem widest_inverted : ¬ (⟨79228162514264337593543950335, 28⟩ : Decimal).value ≤
    (⟨7922816251426433759354395033, 27⟩ : Decimal).value := by
  norm_num [Decimal.value]

theorem display_ordered_widest :
    widest.toNat ≤ pastWidest.toNat ∧ ∃ scale, PartedAt widest pastWidest .usdc .usdt scale := by
  have hle : widest.toNat ≤ pastWidest.toNat := by decide
  obtain ⟨hordered, -⟩ := display_ordered .usdc .usdt hle
  obtain ⟨hiff, -⟩ := hordered _ _ display_widest display_pastWidest
  exact ⟨hle, not_not.mp fun hnone => widest_inverted (hiff.mpr hnone)⟩

theorem larger_price_displayed_smaller :
    ¬ ∀ (src dest : Asset) (low high : Quantity) (d e : Decimal), low.toNat ≤ high.toNat →
      display low src dest = .ok d → display high src dest = .ok e → d.value ≤ e.value := fun h =>
  widest_inverted (h .usdc .usdt widest pastWidest _ _ (by decide) display_widest display_pastWidest)

end Price

end SwapBroker
