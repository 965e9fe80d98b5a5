import SwapBroker.Json.Basic

/-!
# JSON numbers

A number without point and exponent is an integer when it lies between `-2 ^ 63` and `2 ^ 64 - 1`
and is not a negative zero. Every other number is read as floating point: of its digits the
longest leading part below `2 ^ 64` counts, and the rest is dropped.
-/

namespace SwapBroker.Json

structure Numeral where
  negative : Bool
  whole : List Char
  fraction : List Char
  exponent : Int
  isPlain : Bool

namespace Numeral

def takeDigits (s : List Char) : List Char × List Char :=
  s.span Text.isDecimalDigit

def readExponent? (s : List Char) : Option (Int × List Char) :=
  let (negative, s) := match s with
    | '-' :: rest => (true, rest)
    | '+' :: rest => (false, rest)
    | _ => (false, s)
  let (digits, rest) := takeDigits s
  if digits = [] then none
  else
    let n : Int := Radix.ofDigits 10 (digits.map Text.digitValue)
    some (if negative then -n else n, rest)

/-- A numeral at the start of a text. A zero is not followed by another digit, and a point has
digits on both sides. -/
def read? (s : List Char) : Option (Numeral × List Char) := do
  let (negative, s) := match s with
    | '-' :: rest => (true, rest)
    | _ => (false, s)
  let (whole, s) := takeDigits s
  guard (whole ≠ [] ∧ (whole.head? = some '0' → whole.length = 1))
  let (fraction, s, pointed) ← match s with
    | '.' :: rest =>
      let (fraction, rest) := takeDigits rest
      if fraction = [] then none else some (fraction, rest, true)
    | _ => some ([], s, false)
  match s with
  | 'e' :: rest | 'E' :: rest =>
    let (exponent, rest) ← readExponent? rest
    return (⟨negative, whole, fraction, exponent, false⟩, rest)
  | _ => return (⟨negative, whole, fraction, 0, !pointed⟩, s)

/-- Appends digits to a significand as long as it stays below `2 ^ 64`. The result is the
significand and the number of digits left over. -/
def absorb (significand : Nat) : List Char → Nat × Nat
  | [] => (significand, 0)
  | d :: rest =>
    let next := significand * 10 + Text.digitValue d
    if next < UInt64.size then absorb next rest else (significand, rest.length + 1)

/-- The value of a numeral, none when it is beyond floating point. -/
def value? (n : Numeral) : Option Json :=
  let size := Radix.ofDigits 10 (n.whole.map Text.digitValue)
  if n.isPlain ∧ !n.negative ∧ size < UInt64.size then some (.int size)
  else if n.isPlain ∧ n.negative ∧ 0 < size ∧ Int64.minValue.toInt ≤ -size then some (.int (-size))
  else
    let (significand, dropped) := absorb 0 n.whole
    let (significand, left) := absorb significand n.fraction
    let shift : Int := dropped - (n.fraction.length - left : Nat)
    (Binary64.ofDecimal? n.negative significand (n.exponent + shift)).map .float

end Numeral

end SwapBroker.Json
