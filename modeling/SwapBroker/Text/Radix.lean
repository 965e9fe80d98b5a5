/-!
# Positional numbers

`ofDigits` reads a number from its digits and `digits` writes it without a leading zero. Both have
the most significant digit first, and zero has no digits.
-/

namespace SwapBroker.Radix

def ofDigits (base : Nat) (ds : List Nat) : Nat :=
  ds.foldl (fun n d => n * base + d) 0

def digitsOnto (base n : Nat) (tail : List Nat) : List Nat :=
  if _ : n = 0 ∨ base < 2 then tail
  else digitsOnto base (n / base) (n % base :: tail)
termination_by n
decreasing_by exact Nat.div_lt_self (by omega) (by omega)

/-- The digits of `n` in `base`, none for zero. -/
def digits (base n : Nat) : List Nat :=
  digitsOnto base n []

end SwapBroker.Radix
