import Mathlib.Algebra.Order.Floor.Semifield
import Mathlib.Data.Rat.Floor
import Mathlib.Tactic.FieldSimp
import Mathlib.Tactic.Linarith
import Mathlib.Tactic.NormNum
import Mathlib.Tactic.Positivity
import Mathlib.Tactic.Ring
import SwapBroker.Proofs.WidePrices

/-!
# Prices as rational numbers

Decimals and fixed-point prices stand for rational numbers, and both conversions between them are
floors: `fixedPoint` of the value in units of a fixed-point price, and `mantissaAt` of the exact
price in units of the last place.
-/

namespace SwapBroker

namespace Decimal

def value (d : Decimal) : ℚ :=
  d.mantissa / 10 ^ d.scale

theorem value_nonneg (d : Decimal) : 0 ≤ d.value := by
  unfold value
  positivity

/-- The number fits a display decimal. -/
def Displayable (x : ℚ) : Prop :=
  ∃ d : Decimal, d.mantissa < 2 ^ 96 ∧ d.scale ≤ 28 ∧ x = d.value

theorem normalize_go_value (m s : Nat) : (normalize.go m s).value = (⟨m, s⟩ : Decimal).value := by
  induction s generalizing m with
  | zero => rfl
  | succ s ih =>
    unfold normalize.go
    split
    next hm =>
      have hten : (m : ℚ) = (m / 10 : ℕ) * 10 := by
        exact_mod_cast (Nat.div_mul_cancel (Nat.dvd_of_mod_eq_zero hm)).symm
      rw [ih, value, value]
      simp only
      rw [hten, pow_succ]
      field_simp
    · rfl

@[simp] theorem value_normalize (d : Decimal) : d.normalize.value = d.value :=
  normalize_go_value d.mantissa d.scale

theorem normalize_scale_le (d : Decimal) : d.normalize.scale ≤ d.scale := by
  obtain ⟨m, s⟩ := d
  show (normalize.go m s).scale ≤ s
  induction s generalizing m with
  | zero => exact le_rfl
  | succ s ih =>
    unfold normalize.go
    split
    · exact (ih (m / 10)).trans (Nat.le_succ s)
    · exact le_rfl

end Decimal

namespace Price

def unit (src dest : Asset) : ℚ :=
  2 ^ 128 * 10 ^ ((dest.decimals : ℤ) - src.decimals)

/-- The exact decimal price that a fixed-point price stands for. -/
def exact (price : Quantity) (src dest : Asset) : ℚ :=
  price.toNat / unit src dest

theorem unit_pos (src dest : Asset) : 0 < unit src dest :=
  mul_pos (by norm_num) (zpow_pos (by norm_num) _)

theorem exact_nonneg (price : Quantity) (src dest : Asset) : 0 ≤ exact price src dest :=
  div_nonneg (Nat.cast_nonneg _) (unit_pos src dest).le

theorem exact_mul_unit (price : Quantity) (src dest : Asset) :
    exact price src dest * unit src dest = price.toNat :=
  div_mul_cancel₀ _ (unit_pos src dest).ne'

theorem timesTenFloor_eq (n : ℕ) (e : ℤ) : timesTenFloor n e = ⌊(n : ℚ) * 10 ^ e⌋₊ := by
  unfold timesTenFloor
  simp only [Nat.pow_eq]
  split
  next he =>
    have hpow : (n : ℚ) * 10 ^ e = ((n * 10 ^ e.toNat : ℕ) : ℚ) := by
      push_cast
      rw [← zpow_natCast, Int.toNat_of_nonneg he]
    rw [hpow, Nat.floor_natCast]
  next he =>
    have hpow : (n : ℚ) * 10 ^ e = n / ((10 ^ (-e).toNat : ℕ) : ℚ) := by
      push_cast
      rw [← zpow_natCast, Int.toNat_of_nonneg (by omega), zpow_neg, div_inv_eq_mul]
    rw [hpow, Nat.floor_div_natCast, Nat.floor_natCast]

theorem fixedPoint_eq (d : Decimal) (src dest : Asset) :
    fixedPoint d src dest = ⌊d.value * unit src dest⌋₊ := by
  have hexact : ((d.mantissa * one : ℕ) : ℚ) * 10 ^ ((dest.decimals : ℤ) - src.decimals - d.scale) =
      d.value * unit src dest := by
    rw [one, Nat.pow_eq, Decimal.value, unit, zpow_sub₀ (by norm_num), zpow_natCast]
    push_cast
    ring
  rw [fixedPoint, timesTenFloor_eq, hexact]

theorem mantissaAt_eq (price : Quantity) (src dest : Asset) (scale : ℕ) :
    mantissaAt price src dest scale = ⌊exact price src dest * 10 ^ scale⌋₊ := by
  have hexact : exact price src dest * 10 ^ scale =
      (price.toNat : ℚ) * 10 ^ ((src.decimals : ℤ) - dest.decimals + scale) / (one : ℕ) := by
    have hflip : (10 : ℚ) ^ ((src.decimals : ℤ) - dest.decimals) =
        (10 ^ ((dest.decimals : ℤ) - src.decimals))⁻¹ := by
      rw [← zpow_neg, neg_sub]
    rw [exact, unit, one, Nat.pow_eq, zpow_add₀ (by norm_num), zpow_natCast, hflip]
    push_cast
    field_simp
    norm_num
  rw [mantissaAt, timesTenFloor_eq, hexact, Nat.floor_div_natCast]

end Price

end SwapBroker
