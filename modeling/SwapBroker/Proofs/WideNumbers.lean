import Mathlib.Tactic.Ring
import SwapBroker.Wide

/-!
# What wide numbers hold

A wide number is as good as the natural number it stands for while that stays below the bound: words
are its digits to the base `2 ^ 64`, numbers cut out of the lower words are the number itself, and
products and powers that fit do not wrap.
-/

namespace SwapBroker.Wide

variable {x y : Wide}

theorem toNat_ofQuantity (q : Quantity) : (ofQuantity q).toNat = q.toNat := by
  have hlt : q.toNat < 2 ^ 256 := q.lt_limit
  rw [ofQuantity, BitVec.toNat_setWidth_of_le (by decide), BitVec.toNat_ofNat, Nat.mod_eq_of_lt hlt]

-- ---------------------------------------------------------------------------
-- Words
-- ---------------------------------------------------------------------------

theorem toNat_word (x : Wide) (i : ℕ) : (x.word i).toNat = x.toNat / 2 ^ (64 * i) % 2 ^ 64 := by
  rw [word, BitVec.extractLsb'_toNat, Nat.shiftRight_eq_div_pow]

/-- The highest word that a number can reach decides whether the words below it hold the number. -/
theorem word_eq_zero_iff {i : ℕ} (h : x.toNat < 2 ^ (64 * (i + 1))) :
    x.word i = 0 ↔ x.toNat < 2 ^ (64 * i) := by
  have hword : x.toNat / 2 ^ (64 * i) < 2 ^ 64 := by
    rw [Nat.div_lt_iff_lt_mul (Nat.two_pow_pos _), ← pow_add, Nat.add_comm]
    exact h
  rw [BitVec.toNat_eq, toNat_word, Nat.mod_eq_of_lt hword]
  simp [Nat.div_eq_zero_iff]

theorem lt_of_upper_words {k n : ℕ} (h : x.toNat < 2 ^ (64 * (k + n)))
    (hzero : ∀ i, k ≤ i → i < k + n → x.word i = 0) : x.toNat < 2 ^ (64 * k) := by
  induction n with
  | zero => exact h
  | succ n ih =>
    have htop : x.word (k + n) = 0 := hzero (k + n) (by omega) (by omega)
    exact ih ((word_eq_zero_iff h).mp htop) fun i hle hlt => hzero i hle (by omega)

theorem toNat_lt_of_width {w n : ℕ} (b : BitVec w) (h : w = n) : b.toNat < 2 ^ n :=
  h ▸ b.isLt

theorem upper_words_zero_iff : (∀ i ∈ [4, 5, 6, 7], x.word i = 0) ↔ x.toNat < 2 ^ 256 := by
  have hmem (i : ℕ) : i ∈ [4, 5, 6, 7] ↔ 4 ≤ i ∧ i < 4 + 4 := by
    simp only [List.mem_cons, List.not_mem_nil, or_false]
    omega
  constructor
  · intro hzero
    exact lt_of_upper_words (k := 4) (n := 4) (toNat_lt_of_width x rfl) fun i hle hlt =>
      hzero i ((hmem i).mpr ⟨hle, hlt⟩)
  · intro h i hi
    obtain ⟨hle, -⟩ := (hmem i).mp hi
    have hlow : x.toNat < 2 ^ (64 * i) := h.trans_le (Nat.pow_le_pow_right (by decide) (by omega))
    have hnext : x.toNat < 2 ^ (64 * (i + 1)) :=
      hlow.trans_le (Nat.pow_le_pow_right (by decide) (by omega))
    exact (word_eq_zero_iff hnext).mpr hlow

theorem word_append {n i : ℕ} (h : 64 * i = n) :
    x.word i ++ x.setWidth n = x.setWidth (64 + n) := by
  apply BitVec.eq_of_getLsbD_eq
  intro j hj
  simp only [BitVec.getLsbD_append, word, BitVec.getLsbD_extractLsb', BitVec.getLsbD_setWidth, hj]
  by_cases hlow : j < n
  · simp [hlow]
  · have hword : j - n < 64 := by omega
    have hbit : 64 * i + (j - n) = j := by omega
    simp [hlow, hword, hbit]

theorem four_words (x : Wide) :
    x.word 3 ++ (x.word 2 ++ (x.word 1 ++ x.word 0)) = x.setWidth (64 + (64 + (64 + 64))) := by
  have hlowest : x.word 0 = x.setWidth 64 := (BitVec.setWidth_eq_extractLsb' (by decide)).symm
  rw [hlowest, word_append rfl, word_append rfl, word_append rfl]

theorem toQuantity?_eq_some_iff {q : Quantity} : x.toQuantity? = some q ↔ x.toNat = q.toNat := by
  unfold toQuantity?
  split
  next hzero =>
    have hlow : (x.word 3 ++ (x.word 2 ++ (x.word 1 ++ x.word 0))).toNat = x.toNat := by
      rw [four_words, BitVec.toNat_setWidth, Nat.mod_eq_of_lt (upper_words_zero_iff.mp hzero)]
    simp [Quantity.ext_iff, hlow]
  next hzero =>
    have hne : x.toNat ≠ q.toNat := fun heq => hzero (upper_words_zero_iff.mpr (heq ▸ q.lt_limit))
    simp [hne]

theorem low_eq (x : Wide) : x.low = x.setWidth 128 := by
  apply BitVec.eq_of_getLsbD_eq
  intro i hi
  simp only [low, word, BitVec.getLsbD_or, BitVec.getLsbD_setWidth, BitVec.getLsbD_shiftLeft,
    BitVec.getLsbD_extractLsb', hi, decide_true, Bool.true_and, Nat.mul_zero, Nat.zero_add]
  by_cases h : i < 64
  · simp [h]
  · have hword : i - 64 < 64 := by omega
    have hwidth : i - 64 < 128 := by omega
    have hbit : 64 * 1 + (i - 64) = i := by omega
    simp [h, hword, hwidth, hbit]

theorem toNat_low (h : x.toNat < 2 ^ 128) : x.low.toNat = x.toNat := by
  rw [low_eq, BitVec.toNat_setWidth, Nat.mod_eq_of_lt h]

-- ---------------------------------------------------------------------------
-- Products, powers and quotients
-- ---------------------------------------------------------------------------

theorem toNat_mul_of_double {w n : ℕ} {a b : BitVec w} (hw : w = n + n)
    (h : a.toNat * b.toNat < 2 ^ n * 2 ^ n) : (a * b).toNat = a.toNat * b.toNat := by
  subst hw
  apply BitVec.toNat_mul_of_lt
  rwa [Nat.pow_add]

theorem toNat_mul (h : x.toNat * y.toNat < limit) : (x * y).toNat = x.toNat * y.toNat :=
  toNat_mul_of_double (n := 256) rfl h

theorem toNat_ofQuantity_mul (p q : Quantity) :
    (ofQuantity p * ofQuantity q).toNat = p.toNat * q.toNat := by
  have hlt : (ofQuantity p).toNat * (ofQuantity q).toNat < limit := by
    rw [toNat_ofQuantity, toNat_ofQuantity]
    exact Nat.mul_lt_mul'' p.lt_limit q.lt_limit
  rw [toNat_mul hlt, toNat_ofQuantity, toNat_ofQuantity]

theorem toNat_shiftRight (x : Wide) (n : ℕ) : (x >>> n).toNat = x.toNat / 2 ^ n := by
  rw [BitVec.toNat_ushiftRight, Nat.shiftRight_eq_div_pow]

theorem toNat_tenPow {e : UInt32} (h : 10 ^ e.toNat < limit) : (tenPow e).toNat = 10 ^ e.toNat := by
  show (tenPow.go e.toNat).toNat = _
  generalize e.toNat = n at h
  induction n with
  | zero => decide +kernel
  | succ n ih =>
    have hten : (10 : Wide).toNat = 10 := by decide +kernel
    have hpow : (tenPow.go n).toNat = 10 ^ n :=
      ih ((Nat.pow_le_pow_right (by decide) (Nat.le_succ n)).trans_lt h)
    have hlt : (tenPow.go n).toNat * (10 : Wide).toNat < limit := by
      rwa [hpow, hten, ← pow_succ]
    rw [tenPow.go, toNat_mul hlt, hpow, hten, pow_succ]

/-- Exponents are counted in 32 bits, and powers with exponents up to 77 are quantities. -/
theorem toNat_tenPow_ofNat {n : ℕ} (h : n ≤ 77) : (tenPow (UInt32.ofNat n)).toNat = 10 ^ n := by
  have hn : (UInt32.ofNat n).toNat = n := UInt32.toNat_ofNat_of_lt' (by
    show n < 2 ^ 32
    omega)
  have hlt : 10 ^ n < limit := (Nat.pow_le_pow_right (by decide) h).trans_lt (by decide)
  rw [toNat_tenPow (by rwa [hn]), hn]

theorem toNat_timesTen {q : Quantity} {e : ℤ} (h : e.natAbs ≤ 77) :
    (timesTen q e).toNat =
      if 0 ≤ e then q.toNat * 10 ^ e.natAbs else q.toNat / 10 ^ e.natAbs := by
  have hpow := toNat_tenPow_ofNat h
  unfold timesTen
  split
  · have hlt : (ofQuantity q).toNat * (tenPow (UInt32.ofNat e.natAbs)).toNat < limit := by
      rw [toNat_ofQuantity, hpow]
      have hquantity : 10 ^ e.natAbs < quantityLimit :=
        (Nat.pow_le_pow_right (by decide) h).trans_lt (by decide)
      exact Nat.mul_lt_mul'' q.lt_limit hquantity
    rw [toNat_mul hlt, toNat_ofQuantity, hpow]
  · rw [BitVec.toNat_udiv, toNat_ofQuantity, hpow]

end SwapBroker.Wide
