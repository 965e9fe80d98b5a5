import SwapBroker.Text.Numeral

/-!
# Binary floating point

Numbers of 64-bit binary floating point as exact dyadic fractions, with the one rounding rule they
have (to nearest, a tie to the even neighbour), and their shortest decimal text. Only finite
numbers occur: a result beyond the largest is no number.
-/

namespace SwapBroker

structure Binary64 where
  negative : Bool
  significand : Nat
  exponent : Int
deriving DecidableEq, Repr

namespace Binary64

def leastExponent : Int := -1074

def greatestExponent : Int := 971

def significandLimit : Nat := Nat.pow 2 53

def scaled (num den : Nat) (e : Int) : Nat × Nat :=
  if 0 ≤ e then (num * Nat.pow 2 e.toNat, den) else (num, den * Nat.pow 2 (-e).toNat)

def roundDiv (num den : Nat) : Nat :=
  let q := num / den
  let twice := 2 * (num % den)
  if den < twice || (twice == den && q % 2 == 1) then q + 1 else q

def ofRatio? (negative : Bool) (num den : Nat) : Option Binary64 :=
  if num = 0 then some ⟨negative, 0, leastExponent⟩
  else
    let guess := max leastExponent ((num.log2 : Int) - den.log2 - 53)
    let (n, d) := scaled num den (-guess)
    let e := if significandLimit ≤ n / d then guess + 1 else guess
    let (n, d) := scaled num den (-e)
    let m := roundDiv n d
    let (m, e) := if m = significandLimit then (significandLimit / 2, e + 1) else (m, e)
    if greatestExponent < e then none else some ⟨negative, m, e⟩

def ratio (x : Binary64) : Nat × Nat :=
  scaled x.significand 1 x.exponent

def isZero (x : Binary64) : Bool :=
  x.significand = 0

def tenTo (k : Nat) : Binary64 :=
  (ofRatio? false (Nat.pow 10 k) 1).getD ⟨false, 0, leastExponent⟩

def mul? (x y : Binary64) : Option Binary64 :=
  let (a, b) := x.ratio
  let (c, d) := y.ratio
  ofRatio? (x.negative != y.negative) (a * c) (b * d)

def div? (x y : Binary64) : Option Binary64 :=
  let (a, b) := x.ratio
  let (c, d) := y.ratio
  ofRatio? (x.negative != y.negative) (a * d) (b * c)

/-- Divides by ten to the power of 308 as long as the exponent is below what one power can hold.
Three divisions bring every significand of 64 bits to zero. -/
def scaleDown : Nat → Binary64 → Nat → Option Binary64
  | 0, x, _ => div? x (tenTo 308)
  | n + 1, x, k =>
    if k ≤ 308 ∨ x.isZero then div? x (tenTo (min k 308))
    else (div? x (tenTo 308)).bind fun y => scaleDown n y (k - 308)

/-- Reads `significand * 10 ^ exponent`, rounding the significand, the power of ten and the result
each in turn. -/
def ofDecimal? (negative : Bool) (significand : Nat) (exponent : Int) : Option Binary64 := do
  let x ← ofRatio? negative significand 1
  if 0 ≤ exponent then
    if exponent ≤ 308 then mul? x (tenTo exponent.toNat)
    else if x.isZero then some x
    else none
  else scaleDown 3 x (-exponent).toNat

def timesTen (num den : Nat) (e : Int) : Nat × Nat :=
  if 0 ≤ e then (num * Nat.pow 10 e.toNat, den) else (num, den * Nat.pow 10 (-e).toNat)

def pointPosition (num den : Nat) : Int :=
  let guess : Int := ((num.log2 : Int) - den.log2) * 30103 / 100000
  let atLeast (e : Int) : Bool :=
    let (n, d) := timesTen num den (-e)
    d ≤ n
  if atLeast (guess + 1) then guess + 2
  else if atLeast guess then guess + 1
  else if atLeast (guess - 1) then guess
  else guess - 1

/-- The nearest decimal with `count` digits to a number, if it lies within the interval of the
fractions that round to the number. -/
def decimalWithin? (x : Binary64) (count : Nat) : Option (Nat × Int) :=
  let (num, den) := x.ratio
  let point := pointPosition num den
  let e := point - count
  let (n, d) := timesTen num den (-e)
  let reads (m : Nat) : Bool :=
    let (a, b) := timesTen m 1 e
    match ofRatio? x.negative a b with
    | some y => y.ratio == x.ratio
    | none => false
  let low := n / d
  let near := roundDiv n d
  let far := if near = low then low + 1 else low
  if reads near then some (near, e) else if reads far then some (far, e) else none

def shortest (x : Binary64) : Nat × Int :=
  ((List.range 17).findSome? fun i => decimalWithin? x (i + 1)).getD (0, 0)

/-- The text of a number: positional with at least one place from `0.00001` up to sixteen digits
before the point, and with an exponent otherwise. -/
def text (x : Binary64) : String :=
  let sign := if x.negative then ['-'] else []
  if x.isZero then String.ofList (sign ++ ['0', '.', '0'])
  else
    let (m, e) := x.shortest
    let digits := Text.numeral 10 m
    let significant := (digits.reverse.dropWhile (· = '0')).reverse
    let point := digits.length + e
    let zeros (n : Int) := List.replicate n.toNat '0'
    let body :=
      if (significant.length : Int) ≤ point ∧ point ≤ 16 then
        significant ++ zeros (point - significant.length) ++ ['.', '0']
      else if 0 < point ∧ point ≤ 16 then
        significant.take point.toNat ++ '.' :: significant.drop point.toNat
      else if -5 < point ∧ point ≤ 0 then
        ['0', '.'] ++ zeros (-point) ++ significant
      else
        let exponent := point - 1
        let mark := if exponent < 0 then ['e', '-'] else ['e', '+']
        let rest := significant.drop 1
        significant.take 1 ++ (if rest = [] then [] else '.' :: rest) ++ mark ++
          Text.numeral 10 exponent.natAbs
    String.ofList (sign ++ body)

end Binary64

end SwapBroker
