import Mathlib.Tactic.Ring
import SwapBroker.Text.Radix

/-!
# Laws of positional numbers

The value of digits is a sum of powers of the base, and writing a number gives digits of its value.
-/

namespace SwapBroker.Radix

theorem foldl_digits (base : Nat) (ds : List Nat) (n : Nat) :
    ds.foldl (fun n d => n * base + d) n = n * base ^ ds.length + ofDigits base ds := by
  induction ds generalizing n with
  | nil => simp [ofDigits]
  | cons d ds ih =>
    have split : ofDigits base (d :: ds) = (0 * base + d) * base ^ ds.length + ofDigits base ds :=
      ih (0 * base + d)
    rw [List.foldl_cons, ih, split, List.length_cons]
    ring

theorem ofDigits_cons (base d : Nat) (ds : List Nat) :
    ofDigits base (d :: ds) = d * base ^ ds.length + ofDigits base ds := by
  rw [ofDigits, List.foldl_cons, foldl_digits, Nat.zero_mul, Nat.zero_add]

theorem ofDigits_append (base : Nat) (ds es : List Nat) :
    ofDigits base (ds ++ es) = ofDigits base ds * base ^ es.length + ofDigits base es := by
  rw [ofDigits, List.foldl_append, foldl_digits]
  rfl

theorem ofDigits_digitsOnto {base : Nat} (hb : 2 ≤ base) (n : Nat) (tail : List Nat) :
    ofDigits base (digitsOnto base n tail) = n * base ^ tail.length + ofDigits base tail := by
  fun_induction digitsOnto base n tail with
  | case1 n tail h => simp [show n = 0 by omega]
  | case2 n tail h ih =>
    have hn : n = n / base * base + n % base := (Nat.div_add_mod' n base).symm
    rw [ih, ofDigits_cons, List.length_cons]
    conv_rhs => rw [hn]
    ring

theorem ofDigits_digits {base : Nat} (hb : 2 ≤ base) (n : Nat) :
    ofDigits base (digits base n) = n := by
  simpa [digits, ofDigits] using ofDigits_digitsOnto hb n []

end SwapBroker.Radix
