import Mathlib.Data.Bool.AllAny
import Mathlib.Data.List.Induction
import SwapBroker.Text.Numeral
import SwapBroker.Text.RadixLaws

/-!
# Laws of numerals

A numeral is never empty, consists of digits of its base, and reads back as its number. Zeros in
front do not change what is read, and a leading digit that is not zero tells the size of the number.
Digits without zeros in front are the digits that are written of their number.
-/

namespace SwapBroker

namespace Radix

theorem digitsOnto_lt {base : Nat} (n : Nat) (tail : List Nat) (htail : ∀ d ∈ tail, d < base) :
    ∀ d ∈ digitsOnto base n tail, d < base := by
  fun_induction digitsOnto base n tail with
  | case1 n tail h => exact htail
  | case2 n tail h ih =>
    apply ih
    intro d hd
    rcases List.mem_cons.mp hd with rfl | hd
    · exact Nat.mod_lt n (by omega)
    · exact htail d hd

theorem digits_lt {base n d : Nat} (hd : d ∈ digits base n) : d < base :=
  digitsOnto_lt n [] (by simp) d hd

theorem ofDigits_replicate_zero (base k : Nat) (ds : List Nat) :
    ofDigits base (List.replicate k 0 ++ ds) = ofDigits base ds := by
  induction k with
  | zero => rfl
  | succ k ih => rw [List.replicate_succ, List.cons_append, ofDigits_cons, Nat.zero_mul, ih,
      Nat.zero_add]

theorem ofDigits_lt {base : Nat} {ds : List Nat} (h : ∀ d ∈ ds, d < base) :
    ofDigits base ds < base ^ ds.length := by
  induction ds with
  | nil => simp [ofDigits]
  | cons d ds ih =>
    obtain ⟨hd, hds⟩ := List.forall_mem_cons.mp h
    calc ofDigits base (d :: ds) = d * base ^ ds.length + ofDigits base ds := ofDigits_cons ..
      _ < d * base ^ ds.length + base ^ ds.length := Nat.add_lt_add_left (ih hds) _
      _ = (d + 1) * base ^ ds.length := by ring
      _ ≤ base * base ^ ds.length := Nat.mul_le_mul_right _ hd
      _ = base ^ (d :: ds).length := by rw [List.length_cons, Nat.pow_succ']

theorem ofDigits_cons_bounds {base d : Nat} {ds : List Nat} (h : ∀ e ∈ ds, e < base) :
    d * base ^ ds.length ≤ ofDigits base (d :: ds) ∧
      ofDigits base (d :: ds) < (d + 1) * base ^ ds.length := by
  have hlt := ofDigits_lt h
  rw [ofDigits_cons, Nat.succ_mul]
  omega

theorem exists_digitsOnto_eq_cons {base n : Nat} (tail : List Nat) (hb : 2 ≤ base) (hn : n ≠ 0) :
    ∃ d ds, digitsOnto base n tail = d :: ds ∧ d ≠ 0 := by
  fun_induction digitsOnto base n tail with
  | case1 n tail h => omega
  | case2 n tail h ih =>
    by_cases hq : n / base = 0
    · have hr : n % base = n := Nat.mod_eq_of_lt ((Nat.div_eq_zero_iff.mp hq).resolve_left (by omega))
      rw [hq, digitsOnto, dif_pos (.inl rfl)]
      exact ⟨_, _, rfl, by omega⟩
    · exact ih hq

theorem exists_digits_eq_cons {base n : Nat} (hb : 2 ≤ base) (hn : n ≠ 0) :
    ∃ d ds, digits base n = d :: ds ∧ d ≠ 0 :=
  exists_digitsOnto_eq_cons [] hb hn

/-- How many digits a number has tells the powers of the base between which it lies. -/
theorem length_digits_iff {base n k : Nat} (hb : 2 ≤ base) (hn : n ≠ 0) :
    (digits base n).length = k + 1 ↔ base ^ k ≤ n ∧ n < base ^ (k + 1) := by
  obtain ⟨d, ds, hds, hd⟩ := exists_digits_eq_cons hb hn
  have hlt : ∀ e ∈ d :: ds, e < base := fun e he => digits_lt (n := n) (hds ▸ he)
  have hvalue : ofDigits base (d :: ds) = n := hds ▸ ofDigits_digits hb n
  obtain ⟨hlead, -⟩ := ofDigits_cons_bounds (d := d) (List.forall_mem_cons.mp hlt).2
  have hlow : base ^ ds.length ≤ n := by
    calc base ^ ds.length ≤ d * base ^ ds.length := Nat.le_mul_of_pos_left _ (Nat.pos_of_ne_zero hd)
      _ ≤ n := hvalue ▸ hlead
  have hhigh : n < base ^ (ds.length + 1) := hvalue ▸ ofDigits_lt hlt
  rw [hds, List.length_cons, Nat.add_right_cancel_iff]
  constructor
  · rintro rfl
    exact ⟨hlow, hhigh⟩
  · rintro ⟨hlow', hhigh'⟩
    have hle : ds.length < k + 1 := (Nat.pow_lt_pow_iff_right hb).mp (hlow.trans_lt hhigh')
    have hge : k < ds.length + 1 := (Nat.pow_lt_pow_iff_right hb).mp (hlow'.trans_lt hhigh)
    omega

theorem ofDigits_cons_ne_zero {base d : Nat} (ds : List Nat) (hb : 0 < base) (hd : d ≠ 0) :
    ofDigits base (d :: ds) ≠ 0 := by
  have hpos : 0 < d * base ^ ds.length := Nat.mul_pos (Nat.pos_of_ne_zero hd) (Nat.pow_pos hb)
  rw [ofDigits_cons]
  omega

theorem digitsOnto_ofDigits {base : Nat} {ds : List Nat} (tail : List Nat) (hb : 2 ≤ base)
    (h : ∀ d ∈ ds, d < base) (hlead : ds.head? ≠ some 0) :
    digitsOnto base (ofDigits base ds) tail = ds ++ tail := by
  -- The last digit is the remainder of the number, and the others write its quotient.
  induction ds using List.reverseRecOn generalizing tail with
  | nil => simp [ofDigits, digitsOnto]
  | append_singleton ds d ih =>
    obtain ⟨hds, hd⟩ := List.forall_mem_append.mp h
    have hd : d < base := hd d (List.mem_singleton.mpr rfl)
    have hvalue : ofDigits base (ds ++ [d]) = base * ofDigits base ds + d := by
      simp [ofDigits, Nat.mul_comm]
    have hdiv : (base * ofDigits base ds + d) / base = ofDigits base ds := by
      rw [Nat.mul_add_div (by omega), Nat.div_eq_of_lt hd, Nat.add_zero]
    have hmod : (base * ofDigits base ds + d) % base = d := by
      rw [Nat.mul_add_mod, Nat.mod_eq_of_lt hd]
    have hne : base * ofDigits base ds + d ≠ 0 := by
      rw [← hvalue]
      cases ds with
      | nil => exact ofDigits_cons_ne_zero [] (by omega) (by simpa using hlead)
      | cons e es => exact ofDigits_cons_ne_zero _ (by omega) (by simpa using hlead)
    have hfirst : ds.head? ≠ some 0 := by
      cases ds with
      | nil => simp
      | cons e es => simpa using hlead
    rw [hvalue, digitsOnto, dif_neg (by omega), hdiv, hmod, ih _ hds hfirst, List.append_assoc]
    rfl

theorem digits_ofDigits {base : Nat} {ds : List Nat} (hb : 2 ≤ base) (h : ∀ d ∈ ds, d < base)
    (hlead : ds.head? ≠ some 0) : digits base (ofDigits base ds) = ds := by
  rw [digits, digitsOnto_ofDigits [] hb h hlead, List.append_nil]

theorem head?_digits_ne_zero {base n : Nat} (hb : 2 ≤ base) : (digits base n).head? ≠ some 0 := by
  by_cases hn : n = 0
  · simp [hn, digits, digitsOnto]
  · obtain ⟨d, ds, hds, hd⟩ := exists_digits_eq_cons hb hn
    simpa [hds] using hd

end Radix

namespace Text

theorem digitValue_digitChar {d : Nat} (hd : d < 16) : digitValue (digitChar d) = d := by
  have all : ∀ d : Fin 16, digitValue (digitChar d) = d := by decide
  exact all ⟨d, hd⟩

theorem isDecimalDigit_digitChar {d : Nat} (hd : d < 10) : isDecimalDigit (digitChar d) = true := by
  have all : ∀ d : Fin 10, isDecimalDigit (digitChar d) = true := by decide
  exact all ⟨d, hd⟩

theorem toNat_lt_of_isHexDigit {c : Char} (h : isHexDigit c = true) : c.toNat < 128 := by
  simp only [isHexDigit, isDecimalDigit, Bool.or_eq_true, Bool.and_eq_true, decide_eq_true_eq,
    Char.le_def, UInt32.le_iff_toNat_le] at h
  have h9 : '9'.val.toNat = 57 := rfl
  have hf : 'f'.val.toNat = 102 := rfl
  have hF : 'F'.val.toNat = 70 := rfl
  show c.val.toNat < 128
  omega

theorem mem_hexDigits {c : Char} (h : isHexDigit c = true) :
    c ∈ "0123456789abcdefABCDEF".toList := by
  have all : ∀ n : Fin 128, isHexDigit (Char.ofNat n) = true →
      Char.ofNat n ∈ "0123456789abcdefABCDEF".toList := by decide
  have hc := all ⟨c.toNat, toNat_lt_of_isHexDigit h⟩
  rw [Char.ofNat_toNat] at hc
  exact hc h

theorem digitChar_digitValue {c : Char} (h : isHexDigit c = true) :
    digitValue c < 16 ∧ digitChar (digitValue c) = c.toLower := by
  have all : ∀ c ∈ "0123456789abcdefABCDEF".toList,
      digitValue c < 16 ∧ digitChar (digitValue c) = c.toLower :=
    List.all_iff_forall_prop.mp (by decide)
  exact all c (mem_hexDigits h)

theorem digitValue_eq_zero_iff {c : Char} (h : isHexDigit c = true) : digitValue c = 0 ↔ c = '0' := by
  have all : ∀ c ∈ "0123456789abcdefABCDEF".toList, digitValue c = 0 ↔ c = '0' :=
    List.all_iff_forall_prop.mp (by decide)
  exact all c (mem_hexDigits h)

theorem digitChar_small {d : Nat} (hd : d < 16) :
    isHexDigit (digitChar d) = true ∧ digitChar d ∈ "0123456789abcdef".toList := by
  have all : ∀ d : Fin 16, isHexDigit (digitChar d) = true ∧
      digitChar d ∈ "0123456789abcdef".toList := by decide
  exact all ⟨d, hd⟩

theorem toLower_of_small {c : Char} (hc : c ∈ "0123456789abcdef".toList) : c.toLower = c := by
  have all : ∀ c ∈ "0123456789abcdef".toList, c.toLower = c := by simp
  exact all c hc

theorem digitChar_digitValue_of_small {c : Char} (hc : c ∈ "0123456789abcdef".toList) :
    isHexDigit c = true ∧ digitValue c < 16 ∧ digitChar (digitValue c) = c := by
  have all : ∀ c ∈ "0123456789abcdef".toList, isHexDigit c = true := by
    simp [isHexDigit, isDecimalDigit]
  obtain ⟨hlt, hsame⟩ := digitChar_digitValue (all c hc)
  exact ⟨all c hc, hlt, hsame.trans (toLower_of_small hc)⟩

theorem numeral_ne_nil (base n : Nat) (hb : 2 ≤ base) : numeral base n ≠ [] := by
  unfold numeral
  split
  · simp
  next hn =>
    intro hnil
    have hdigits : Radix.digits base n = [] := List.map_eq_nil_iff.mp hnil
    have hzero := Radix.ofDigits_digits hb n
    rw [hdigits] at hzero
    exact hn hzero.symm

theorem exists_digitChar_of_mem_numeral {base n : Nat} {c : Char} (hb : 0 < base)
    (hc : c ∈ numeral base n) : ∃ d < base, digitChar d = c := by
  unfold numeral at hc
  split at hc
  · exact ⟨0, hb, by rw [List.mem_singleton.mp hc]; rfl⟩
  · obtain ⟨d, hd, rfl⟩ := List.mem_map.mp hc
    exact ⟨d, Radix.digits_lt hd, rfl⟩

theorem isDecimalDigit_of_mem_numeral {n : Nat} {c : Char} (hc : c ∈ numeral 10 n) :
    isDecimalDigit c = true := by
  obtain ⟨d, hd, rfl⟩ := exists_digitChar_of_mem_numeral (by decide) hc
  exact isDecimalDigit_digitChar hd

theorem isHexDigit_of_mem_numeral {n : Nat} {c : Char} (hc : c ∈ numeral 16 n) :
    isHexDigit c = true := by
  obtain ⟨d, hd, rfl⟩ := exists_digitChar_of_mem_numeral (by decide) hc
  exact (digitChar_small hd).1

theorem ofDigits_numeral {base : Nat} (hb : 2 ≤ base) (hle : base ≤ 16) (n : Nat) :
    Radix.ofDigits base ((numeral base n).map digitValue) = n := by
  unfold numeral
  split
  next hn =>
    rw [hn, List.map_singleton, Radix.ofDigits_cons]
    rfl
  · have hvalues : ∀ d ∈ Radix.digits base n, (digitValue ∘ digitChar) d = id d := fun d hd =>
      digitValue_digitChar (Nat.lt_of_lt_of_le (Radix.digits_lt hd) hle)
    rw [List.map_map, List.map_congr_left hvalues, List.map_id, Radix.ofDigits_digits hb]

theorem head?_numeral {base n : Nat} (hb : 2 ≤ base) (hle : base ≤ 16)
    (h : (numeral base n).head? = some '0') : numeral base n = ['0'] := by
  have all : ∀ d : Fin 16, digitChar d = '0' → d = 0 := by decide
  unfold numeral at h ⊢
  split at h
  next hn => rw [if_pos hn]
  next hn =>
    obtain ⟨d, ds, hds, hd⟩ := Radix.exists_digits_eq_cons hb hn
    have hlt : d < 16 := Nat.lt_of_lt_of_le (Radix.digits_lt (hds ▸ List.mem_cons_self)) hle
    rw [hds, List.map_cons, List.head?_cons, Option.some.injEq] at h
    exact absurd (congrArg Fin.val (all ⟨d, hlt⟩ h)) hd

theorem numeral_ofDigits {base : Nat} {ds : List Nat} (hb : 2 ≤ base) (hne : ds ≠ [])
    (h : ∀ d ∈ ds, d < base) (hlead : ds.head? ≠ some 0) :
    numeral base (Radix.ofDigits base ds) = ds.map digitChar := by
  obtain ⟨d, rest, rfl⟩ := List.exists_cons_of_ne_nil hne
  have hd : d ≠ 0 := by simpa using hlead
  rw [numeral, if_neg (Radix.ofDigits_cons_ne_zero rest (by omega) hd), Radix.digits_ofDigits hb h hlead]

end Text

end SwapBroker
