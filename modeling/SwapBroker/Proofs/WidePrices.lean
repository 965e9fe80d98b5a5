import SwapBroker.Price
import SwapBroker.Proofs.WideNumbers

/-!
# Prices in wide numbers

A price is displayed and applied in wide numbers. The decimals of the assets keep every power, product
and mantissa within its width, so that both come out as if numbers had no bound, and a display fails
only for a price that no scale makes small enough.
-/

namespace SwapBroker

theorem Asset.decimals_bounds (a : Asset) : 6 ≤ a.decimals ∧ a.decimals ≤ 18 := by
  cases a <;> decide

theorem Decimal.ofInt_natCast {m scale : ℕ} (hm : m < 2 ^ 96) (hscale : scale ≤ 28) :
    ofInt m scale = .ok ⟨m, scale⟩ := by
  have hplaces : ¬ displayScale < scale := Nat.not_lt_of_le hscale
  have hlarge : ¬ (displayLimit : ℤ) ≤ m := by
    rw [Int.ofNat_le]
    exact Nat.not_le_of_lt hm
  have hsmall : ¬ (m : ℤ) < 0 := by omega
  rw [ofInt, if_neg hplaces, if_neg hlarge, if_neg hsmall, Int.toNat_natCast]

namespace Price

-- ---------------------------------------------------------------------------
-- Displaying in unbounded numbers
-- ---------------------------------------------------------------------------

def mantissaAt (value : Quantity) (src dest : Asset) (scale : Nat) : Nat :=
  timesTenFloor value.toNat ((src.decimals : Int) - dest.decimals + scale) / one

def displayUpTo? (value : Quantity) (src dest : Asset) : (scale : Nat) → Option Decimal
  | 0 =>
    let m := mantissaAt value src dest 0
    if m < Decimal.displayLimit then some ⟨m, 0⟩ else none
  | scale + 1 =>
    let m := mantissaAt value src dest (scale + 1)
    if m < Decimal.displayLimit then some ⟨m, scale + 1⟩ else displayUpTo? value src dest scale

-- ---------------------------------------------------------------------------
-- What fits
-- ---------------------------------------------------------------------------

variable {value : Quantity} {src dest : Asset} {scale : ℕ}

theorem natAbs_displayExponent_le (h : scale ≤ 28) : (displayExponent src dest scale).natAbs ≤ 40 := by
  obtain ⟨hsrc, hsrc'⟩ := src.decimals_bounds
  obtain ⟨hdest, hdest'⟩ := dest.decimals_bounds
  unfold displayExponent
  omega

theorem timesTenFloor_natAbs (n : ℕ) (e : ℤ) :
    timesTenFloor n e = if 0 ≤ e then n * 10 ^ e.natAbs else n / 10 ^ e.natAbs := by
  unfold timesTenFloor
  split
  · rw [Nat.pow_eq, show e.toNat = e.natAbs by omega]
  · rw [Nat.pow_eq, show (-e).toNat = e.natAbs by omega]

theorem toNat_timesTen_displayExponent (h : scale ≤ 28) :
    (Wide.timesTen value (displayExponent src dest scale)).toNat =
      timesTenFloor value.toNat (displayExponent src dest scale) := by
  have hexp : (displayExponent src dest scale).natAbs ≤ 77 :=
    (natAbs_displayExponent_le h).trans (by decide)
  rw [Wide.toNat_timesTen hexp, timesTenFloor_natAbs]

theorem toNat_wideMantissa (h : scale ≤ 28) :
    (wideMantissa value src dest scale).toNat = mantissaAt value src dest scale := by
  rw [wideMantissa, Wide.toNat_shiftRight, toNat_timesTen_displayExponent h]
  rfl

theorem toNat_low_wideMantissa (h : scale ≤ 28)
    (hfits : mantissaAt value src dest scale < 2 ^ 96) :
    (wideMantissa value src dest scale).low.toNat = mantissaAt value src dest scale := by
  have hlow : (wideMantissa value src dest scale).toNat < 2 ^ 128 := by
    rw [toNat_wideMantissa h]
    omega
  rw [Wide.toNat_low hlow, toNat_wideMantissa h]

/-- A mantissa of at most 96 bits is not negative in the signed 128 bits that are read of it. -/
theorem toInt_low_wideMantissa (h : scale ≤ 28)
    (hfits : mantissaAt value src dest scale < 2 ^ 96) :
    (wideMantissa value src dest scale).low.toInt = mantissaAt value src dest scale := by
  have hlow := toNat_low_wideMantissa h hfits
  have hsign : 2 * (wideMantissa value src dest scale).low.toNat < 2 ^ 128 := by
    rw [hlow]
    omega
  rw [BitVec.toInt_eq_toNat_of_lt hsign, hlow]

theorem ofInt_low_wideMantissa (h : scale ≤ 28)
    (hfits : mantissaAt value src dest scale < 2 ^ 96) :
    Decimal.ofInt (wideMantissa value src dest scale).low.toInt scale =
      .ok ⟨mantissaAt value src dest scale, scale⟩ := by
  rw [toInt_low_wideMantissa h hfits, Decimal.ofInt_natCast hfits h]

-- ---------------------------------------------------------------------------
-- The same in both
-- ---------------------------------------------------------------------------

theorem displayFrom_eq (h : scale ≤ 28) :
    displayFrom value src dest scale =
      match displayUpTo? value src dest scale with
      | some d => .ok d
      | none => .error .tooLargeToDisplay := by
  induction scale with
  | zero =>
    unfold displayFrom displayUpTo?
    simp only [toNat_wideMantissa h]
    split
    next hfits => rw [ofInt_low_wideMantissa h hfits]; rfl
    next => rfl
  | succ scale ih =>
    unfold displayFrom displayUpTo?
    simp only [toNat_wideMantissa h]
    split
    next hfits => rw [ofInt_low_wideMantissa h hfits]; rfl
    next => exact ih (by omega)

theorem display_eq (value : Quantity) (src dest : Asset) :
    display value src dest =
      match displayUpTo? value src dest Decimal.displayScale with
      | some d => .ok d.normalize
      | none => .error ⟨value.toHex, .tooLargeToDisplay⟩ := by
  have hshown : displayFrom value src dest Decimal.displayScale = _ := displayFrom_eq (Nat.le_refl 28)
  rw [display, hshown]
  cases displayUpTo? value src dest Decimal.displayScale <;> rfl

theorem output?_eq_some_iff {amount price out : Quantity} :
    output? amount price = some out ↔ amount.toNat * price.toNat / 2 ^ 128 = out.toNat := by
  rw [output?, Wide.toQuantity?_eq_some_iff, Wide.toNat_shiftRight, Wide.toNat_ofQuantity_mul]

-- ---------------------------------------------------------------------------
-- Nothing is lost
-- ---------------------------------------------------------------------------

/-- No step on the way to a mantissa wraps, and a mantissa that fits is kept whole by the casts that
make a display decimal of it. -/
structure KeptWhole (value : Quantity) (e : ℤ) (m : Wide) (scale : ℕ) : Prop where
  exponent : (UInt32.ofNat e.natAbs).toNat = e.natAbs
  power_lt : 10 ^ e.natAbs < Wide.limit
  power : (Wide.tenPow (UInt32.ofNat e.natAbs)).toNat = 10 ^ e.natAbs
  product_lt : value.toNat * 10 ^ e.natAbs < Wide.limit
  scaled : (Wide.timesTen value e).toNat = timesTenFloor value.toNat e
  mantissa : m.toNat = timesTenFloor value.toNat e / 2 ^ 128
  words : m.toNat < 2 ^ 96 → m.low.toNat = m.toNat
  signed : m.toNat < 2 ^ 96 → m.low.toInt = m.toNat
  decimal : m.toNat < 2 ^ 96 → Decimal.ofInt m.low.toInt scale = .ok ⟨m.toNat, scale⟩

theorem keptWhole (value : Quantity) (src dest : Asset) (h : scale ≤ 28) :
    KeptWhole value (displayExponent src dest scale) (wideMantissa value src dest scale) scale := by
  have hexp : (displayExponent src dest scale).natAbs ≤ 40 := natAbs_displayExponent_le h
  have hpow : 10 ^ (displayExponent src dest scale).natAbs ≤ 10 ^ 40 :=
    Nat.pow_le_pow_right (by decide) hexp
  have hmantissa : (wideMantissa value src dest scale).toNat = mantissaAt value src dest scale :=
    toNat_wideMantissa h
  refine ⟨?_, hpow.trans_lt (by decide), Wide.toNat_tenPow_ofNat (hexp.trans (by decide)), ?_,
    toNat_timesTen_displayExponent h, hmantissa, ?_, ?_, ?_⟩
  · exact UInt32.toNat_ofNat_of_lt' (hexp.trans_lt (by decide))
  · exact Nat.mul_lt_mul'' value.lt_limit (hpow.trans_lt (by decide))
  all_goals rw [hmantissa]
  · exact toNat_low_wideMantissa h
  · exact toInt_low_wideMantissa h
  · exact ofInt_low_wideMantissa h

theorem display_ok_or_tooLarge (value : Quantity) (src dest : Asset) :
    (∃ d, display value src dest = .ok d) ∨
      display value src dest = .error ⟨value.toHex, .tooLargeToDisplay⟩ := by
  rw [display_eq]
  cases displayUpTo? value src dest Decimal.displayScale with
  | none => exact .inr rfl
  | some d => exact .inl ⟨_, rfl⟩

theorem exists_output?_iff {amount price : Quantity} :
    (∃ out, output? amount price = some out) ↔ amount.toNat * price.toNat / 2 ^ 128 < 2 ^ 256 := by
  simp only [output?_eq_some_iff]
  constructor
  · rintro ⟨out, hout⟩
    exact hout.trans_lt out.lt_limit
  · intro hlt
    exact ⟨⟨_, hlt⟩, rfl⟩

/-- The arithmetic of prices is exact though its width is fixed: at no scale that is tried does the
display of a price lose anything, so that it fails only for a price that is too large at each, and the
output of an amount is the floor of the exact product wherever that is a quantity. -/
theorem wide_arithmetic_exact (src dest : Asset) :
    (∀ value scale, scale ≤ 28 →
      KeptWhole value (displayExponent src dest scale) (wideMantissa value src dest scale) scale) ∧
    (∀ value, (∃ d, display value src dest = .ok d) ∨
      display value src dest = .error ⟨value.toHex, .tooLargeToDisplay⟩) ∧
    ∀ amount price : Quantity,
      amount.toNat * price.toNat < Wide.limit ∧
      (Wide.ofQuantity amount * Wide.ofQuantity price).toNat = amount.toNat * price.toNat ∧
      ((∃ out, output? amount price = some out) ↔
        amount.toNat * price.toNat / 2 ^ 128 < 2 ^ 256) ∧
      ∀ out, output? amount price = some out ↔
        out.toNat = amount.toNat * price.toNat / 2 ^ 128 := by
  refine ⟨fun value scale h => keptWhole value src dest h,
    fun value => display_ok_or_tooLarge value src dest, fun amount price => ⟨?_, ?_, ?_, fun out => ?_⟩⟩
  · exact Nat.mul_lt_mul'' amount.lt_limit price.lt_limit
  · exact Wide.toNat_ofQuantity_mul amount price
  · exact exists_output?_iff
  · rw [output?_eq_some_iff]
    exact eq_comm

theorem wide_arithmetic_exact_widest :
    28 ≤ 28 ∧ displayExponent .eth .usdc 28 = 40 ∧
      (Wide.timesTen ⟨2 ^ 256 - 1, by decide⟩ 40).toNat = (2 ^ 256 - 1) * 10 ^ 40 ∧
      (wideMantissa ⟨2 ^ 128, by decide⟩ .usdc .usdt 28).low.toInt = 10 ^ 28 ∧
      Decimal.ofInt (wideMantissa ⟨2 ^ 128, by decide⟩ .usdc .usdt 28).low.toInt 28 =
        .ok ⟨10 ^ 28, 28⟩ := by
  have hwide := (wide_arithmetic_exact .eth .usdc).1 ⟨2 ^ 256 - 1, by decide⟩ 28 (by decide)
  have hone := (wide_arithmetic_exact .usdc .usdt).1 ⟨2 ^ 128, by decide⟩ 28 (by decide)
  have hmantissa : (wideMantissa ⟨2 ^ 128, by decide⟩ .usdc .usdt 28).toNat = 10 ^ 28 :=
    hone.mantissa
  have hfits : (wideMantissa ⟨2 ^ 128, by decide⟩ .usdc .usdt 28).toNat < 2 ^ 96 := by
    rw [hmantissa]
    decide
  refine ⟨by decide, rfl, hwide.scaled, ?_, ?_⟩
  · rw [hone.signed hfits, hmantissa]
    rfl
  · rw [hone.decimal hfits, hmantissa]

end Price

end SwapBroker
