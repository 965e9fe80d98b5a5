import SwapBroker.Proofs.DecimalTexts
import SwapBroker.Proofs.PriceValues

/-!
# Prices as they are written

A text stands for a rational number if it spells a decimal. It is accepted as a price exactly if that
number is not negative and its fixed-point form has at most 256 bits, and the price is then the floor
of the exact value. A refusal names the text.
-/

namespace SwapBroker

namespace DecimalText

def value (t : DecimalText) : ℚ :=
  (if t.negative then -1 else 1) *
    (Radix.ofDigits 10 (t.whole.map Text.digitValue) +
      Radix.ofDigits 10 (t.places.map Text.digitValue) / 10 ^ t.places.length)

theorem value_eq (t : DecimalText) :
    t.value = (if t.negative then -1 else 1) * t.magnitude.value := by
  have hsum : t.magnitude.value = Radix.ofDigits 10 (t.whole.map Text.digitValue) +
      Radix.ofDigits 10 (t.places.map Text.digitValue) / 10 ^ t.places.length := by
    rw [Decimal.value, magnitude, List.map_append, Radix.ofDigits_append, List.length_map]
    push_cast
    field_simp
  rw [value, hsum]

/-- Only a minus sign before a number other than zero makes it negative. -/
theorem value_nonneg_iff {t : DecimalText} :
    0 ≤ t.value ↔ ¬ (t.negative = true ∧ t.magnitude.mantissa ≠ 0) := by
  have hzero : t.magnitude.value ≤ 0 ↔ t.magnitude.mantissa = 0 := by
    rw [Decimal.value, div_le_iff₀ (by positivity), zero_mul]
    exact_mod_cast Nat.le_zero
  rw [value_eq]
  cases t.negative with
  | false => simp [t.magnitude.value_nonneg]
  | true => simp [hzero]

theorem value_of_nonneg {t : DecimalText} (h : 0 ≤ t.value) : t.value = t.magnitude.value := by
  have hmagnitude := t.magnitude.value_nonneg
  rw [value_eq] at h ⊢
  cases hsign : t.negative with
  | false => simp
  | true =>
    simp only [hsign, if_true, neg_one_mul] at h ⊢
    linarith

end DecimalText

namespace Price

/-- The fixed-point form of a number, rounded down, of whatever size. -/
def floorOf (x : ℚ) (src dest : Asset) : ℕ :=
  ⌊x * 2 ^ 128 * 10 ^ ((dest.decimals : ℤ) - src.decimals)⌋₊

theorem fixedPoint_eq_floorOf (d : Decimal) (src dest : Asset) :
    fixedPoint d src dest = floorOf d.value src dest := by
  rw [fixedPoint_eq, floorOf, unit, mul_assoc]

variable {text : String} {src dest : Asset} {price : Quantity}

theorem ofText_ok :
    ofText text src dest = .ok price ↔
      ∃ t, DecimalText.read? text = some t ∧ ¬ (t.negative = true ∧ t.magnitude.mantissa ≠ 0) ∧
        countable t.places.length src dest = true ∧ fixedPoint t.magnitude src dest = price.toNat := by
  unfold ofText
  cases DecimalText.read? text with
  | none => simp
  | some t =>
    by_cases hneg : t.negative = true ∧ t.magnitude.mantissa ≠ 0
    · simp [hneg]
    · simp only [if_neg hneg, Option.some.injEq, exists_eq_left', ← Quantity.ofNat?_eq_some_iff]
      rw [and_iff_right hneg]
      cases countable t.places.length src dest with
      | false => simp
      | true => cases Quantity.ofNat? (fixedPoint t.magnitude src dest) <;> simp

theorem ofText_text {d : Decimal} :
    ofText d.text src dest = .ok price ↔
      countable d.scale src dest = true ∧ fixedPoint d src dest = price.toNat := by
  obtain ⟨t, hread, hsign, hmagnitude⟩ := d.read?_text
  have hscale : t.places.length = d.scale := congrArg Decimal.scale hmagnitude
  simp [ofText_ok, hread, hsign, hmagnitude, hscale]

theorem countable_of_lt {places : ℕ} (h : places < 2 ^ 31) : countable places src dest = true := by
  have hdecimals : src.decimals ≤ 18 := by cases src <;> decide
  simp only [countable, Bool.and_eq_true, decide_eq_true_eq, Nat.pow_eq]
  omega

theorem input_of_ofText_error {e : PriceError} (h : ofText text src dest = .error e) :
    e.input = text := by
  unfold ofText at h
  repeat' split at h
  all_goals cases h
  all_goals rfl

theorem ofText_ok_iff_countable :
    ofText text src dest = .ok price ↔
      ∃ t : DecimalText, t.Spells text ∧ 0 ≤ t.value ∧
        countable t.places.length src dest = true ∧ price.toNat = floorOf t.value src dest := by
  rw [ofText_ok]
  refine exists_congr fun t => ?_
  rw [DecimalText.read?_eq_some_iff, ← DecimalText.value_nonneg_iff, fixedPoint_eq_floorOf,
    eq_comm (a := floorOf _ _ _)]
  refine and_congr_right fun _ => and_congr_right fun hsign => ?_
  rw [DecimalText.value_of_nonneg hsign]

theorem toNat_of_spells {t : DecimalText} (h : ofText text src dest = .ok price)
    (ht : t.Spells text) : 0 ≤ t.value ∧ price.toNat = floorOf t.value src dest := by
  obtain ⟨u, hu, hsign, -, hfloor⟩ := ofText_ok_iff_countable.mp h
  rw [← DecimalText.read?_eq_some_iff] at ht hu
  obtain rfl : t = u := Option.some.inj (ht.symm.trans hu)
  exact ⟨hsign, hfloor⟩

theorem ofText_ok_iff_spells
    (hplaces : ∀ t : DecimalText, t.Spells text → t.places.length < 2 ^ 31) :
    ofText text src dest = .ok price ↔
      ∃ t : DecimalText, t.Spells text ∧ 0 ≤ t.value ∧ price.toNat = floorOf t.value src dest := by
  rw [ofText_ok_iff_countable]
  refine exists_congr fun t => and_congr_right fun hspells => and_congr_right fun _ => ?_
  exact and_iff_right (countable_of_lt (hplaces t hspells))

/-- A text with fewer than `2 ^ 31` places is accepted exactly if it spells a number that is not
negative and has a fixed-point form of at most 256 bits. The price is that form, the exact value
rounded down once. Any other text is refused with an error that holds it. -/
theorem ofText_exact (text : String) (src dest : Asset)
    (hplaces : ∀ t : DecimalText, t.Spells text → t.places.length < 2 ^ 31) :
    (∀ price, ofText text src dest = .ok price ↔
      ∃ t : DecimalText, t.Spells text ∧ 0 ≤ t.value ∧
        price.toNat = ⌊t.value * 2 ^ 128 * 10 ^ ((dest.decimals : ℤ) - src.decimals)⌋₊) ∧
    ((∃ price, ofText text src dest = .ok price) ↔
      ∃ t : DecimalText, t.Spells text ∧ 0 ≤ t.value ∧
        ⌊t.value * 2 ^ 128 * 10 ^ ((dest.decimals : ℤ) - src.decimals)⌋₊ < 2 ^ 256) ∧
    ((¬ ∃ price, ofText text src dest = .ok price) →
      ∃ fault, ofText text src dest = .error ⟨text, fault⟩) := by
  refine ⟨fun price => ofText_ok_iff_spells hplaces, ?_, fun hrefused => ?_⟩
  · constructor
    · rintro ⟨price, hprice⟩
      obtain ⟨t, hspells, hsign, hfloor⟩ := (ofText_ok_iff_spells hplaces).mp hprice
      exact ⟨t, hspells, hsign, hfloor.symm.trans_lt price.lt_limit⟩
    · rintro ⟨t, hspells, hsign, hlt⟩
      exact ⟨⟨_, hlt⟩, (ofText_ok_iff_spells hplaces).mpr ⟨t, hspells, hsign, rfl⟩⟩
  · cases h : ofText text src dest with
    | ok price => exact absurd ⟨price, h⟩ hrefused
    | error e =>
      obtain ⟨input, fault⟩ := e
      obtain rfl : input = text := input_of_ofText_error h
      exact ⟨fault, rfl⟩

theorem ofText_exact_half :
    (∀ t : DecimalText, t.Spells ".5" → t.places.length < 2 ^ 31) ∧
      ∃ t : DecimalText, t.Spells ".5" ∧ 0 ≤ t.value ∧
        170141183460469231731687303715884105728 =
          ⌊t.value * 2 ^ 128 * 10 ^ ((Asset.sol.decimals : ℤ) - Asset.sol.decimals)⌋₊ := by
  have hplaces : ∀ t : DecimalText, t.Spells ".5" → t.places.length < 2 ^ 31 := by
    intro t ht
    have hread : DecimalText.read? ".5" = some ⟨false, [], ['5']⟩ := rfl
    obtain rfl := Option.some.inj (hread.symm.trans (DecimalText.read?_eq_some_iff.mpr ht))
    decide
  obtain ⟨hiff, -, -⟩ := ofText_exact ".5" .sol .sol hplaces
  exact ⟨hplaces, (hiff ⟨170141183460469231731687303715884105728, by decide⟩).mp rfl⟩

end Price

end SwapBroker
