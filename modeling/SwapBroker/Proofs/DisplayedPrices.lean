import SwapBroker.Proofs.PriceDisplay

/-!
# Displayed prices and written numbers

Converting a number to a fixed-point price rounds down, and so does displaying the price. What is
displayed is therefore never more than the number that was written. It is that number exactly if
neither conversion had anything to drop.
-/

namespace SwapBroker.Price

open Decimal

variable {text : String} {src dest : Asset} {price : Quantity} {t : DecimalText} {d : Decimal}

-- ---------------------------------------------------------------------------
-- The price of a number
-- ---------------------------------------------------------------------------

theorem exact_of_spells (h : ofText text src dest = .ok price) (ht : t.Spells text) :
    0 ≤ t.value * unit src dest ∧ exact price src dest = ⌊t.value * unit src dest⌋₊ / unit src dest := by
  obtain ⟨hsign, hfloor⟩ := toNat_of_spells h ht
  refine ⟨mul_nonneg hsign (unit_pos src dest).le, ?_⟩
  rw [exact, hfloor, floorOf, unit, mul_assoc]

theorem exact_le_value (h : ofText text src dest = .ok price) (ht : t.Spells text) :
    exact price src dest ≤ t.value := by
  obtain ⟨hpos, hexact⟩ := exact_of_spells h ht
  rw [hexact, div_le_iff₀ (unit_pos src dest)]
  exact Nat.floor_le hpos

theorem exact_eq_value_iff (h : ofText text src dest = .ok price) (ht : t.Spells text) :
    exact price src dest = t.value ↔ ∃ n : ℕ, t.value * unit src dest = n := by
  obtain ⟨-, hexact⟩ := exact_of_spells h ht
  rw [hexact, div_eq_iff (unit_pos src dest).ne']
  constructor
  · intro hwhole
    exact ⟨_, hwhole.symm⟩
  · rintro ⟨n, hn⟩
    rw [hn, Nat.floor_natCast]

-- ---------------------------------------------------------------------------
-- What is displayed of it
-- ---------------------------------------------------------------------------

theorem display_le_value (h : ofText text src dest = .ok price) (ht : t.Spells text)
    (hdisplay : display price src dest = .ok d) : d.value ≤ t.value :=
  (value_le_exact hdisplay).trans (exact_le_value h ht)

theorem display_eq_value_iff (h : ofText text src dest = .ok price) (ht : t.Spells text)
    (hdisplay : display price src dest = .ok d) :
    d.value = t.value ↔ Displayable t.value ∧ ∃ n : ℕ, t.value * unit src dest = n := by
  rw [← exact_eq_value_iff h ht]
  constructor
  · intro heq
    -- The exact price stands between the two, so that all three are equal.
    have hexact : exact price src dest = t.value :=
      le_antisymm (exact_le_value h ht) (heq ▸ value_le_exact hdisplay)
    have hdisplayable := (value_eq_exact_iff hdisplay).mp (heq.trans hexact.symm)
    exact ⟨hexact ▸ hdisplayable, hexact⟩
  · rintro ⟨hdisplayable, hexact⟩
    rw [← hexact] at hdisplayable ⊢
    exact (value_eq_exact_iff hdisplay).mpr hdisplayable

/-- What is displayed of a converted price is at most the number that was written. It is that number
exactly if this is a display decimal that is converted without rounding. What is displayed of any
price can be converted again, and gives at most that price. -/
theorem display_never_overstates (src dest : Asset) :
    (∀ text price d, ofText text src dest = .ok price → display price src dest = .ok d →
      ∃ t : DecimalText, t.Spells text ∧ d.value ≤ t.value ∧
        (d.value = t.value ↔ Displayable t.value ∧
          ∃ n : ℕ, t.value * 2 ^ 128 * 10 ^ ((dest.decimals : ℤ) - src.decimals) = n) ∧
        ∃ again, ofText d.text src dest = .ok again ∧ again.toNat ≤ price.toNat) ∧
    ∀ price d, display price src dest = .ok d →
      ∃ again, ofText d.text src dest = .ok again ∧ again.toNat ≤ price.toNat := by
  have hagain (price : Quantity) (d : Decimal) (hdisplay : display price src dest = .ok d) :
      ∃ again, ofText d.text src dest = .ok again ∧ again.toNat ≤ price.toNat := by
    obtain ⟨again, hok, -, hle⟩ := exists_ofText_display hdisplay
    exact ⟨again, hok, hle⟩
  refine ⟨fun text price d h hdisplay => ?_, hagain⟩
  obtain ⟨t, ht, -⟩ := ofText_ok_iff_countable.mp h
  refine ⟨t, ht, display_le_value h ht hdisplay, ?_, hagain price d hdisplay⟩
  simpa only [unit, mul_assoc] using display_eq_value_iff h ht hdisplay

/-- Four places are kept between assets whose decimals differ by twelve. -/
theorem display_never_overstates_four_places :
    ∃ price, ofText "0.0004" .usdc .eth = .ok price ∧ display price .usdc .eth = .ok ⟨4, 4⟩ ∧
      (∃ t : DecimalText, t.Spells "0.0004" ∧ (⟨4, 4⟩ : Decimal).value ≤ t.value) ∧
      ∃ again, ofText (⟨4, 4⟩ : Decimal).text .usdc .eth = .ok again ∧
        again.toNat ≤ price.toNat := by
  have hprice : ofText "0.0004" .usdc .eth = .ok ⟨4 * 2 ^ 128 * 10 ^ 8, by decide⟩ := rfl
  have hdisplay : display ⟨4 * 2 ^ 128 * 10 ^ 8, by decide⟩ .usdc .eth = .ok ⟨4, 4⟩ := by
    decide +kernel
  obtain ⟨t, ht, hle, -, hagain⟩ :=
    (display_never_overstates .usdc .eth).1 "0.0004" _ _ hprice hdisplay
  exact ⟨_, hprice, hdisplay, ⟨t, ht, hle⟩, hagain⟩

end SwapBroker.Price
