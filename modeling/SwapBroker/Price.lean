import SwapBroker.Registry.Asset
import SwapBroker.Wide

/-!
# Prices

A caller writes a price as a plain decimal: whole destination tokens for one whole source token.
The protocol holds it as a quantity in units of `2 ^ -128`, for base units of both assets. The
conversion to the protocol is the floor of the exact value, of unbounded numbers; the conversion back
is the floor at the finest decimal scale, at most 28 places, that a display decimal can hold, and is
done in wide numbers.
-/

namespace SwapBroker

structure Decimal where
  mantissa : Nat
  scale : Nat
deriving DecidableEq, Repr

namespace Decimal

def displayLimit : Nat := Nat.pow 2 96

def displayScale : Nat := 28

inductive Fault where
  | tooManyPlaces (scale : Nat)
  | tooLarge
  | tooSmall
deriving DecidableEq, Repr

def Fault.message : Fault → String
  | .tooManyPlaces scale =>
    "Scale exceeds the maximum precision allowed: " ++ Text.decimal scale ++ " > " ++
      Text.decimal displayScale
  | .tooLarge => "Number exceeds maximum value that can be represented."
  | .tooSmall => "Number less than minimum value that can be represented."

/-- The display decimal `m / 10 ^ scale`. Display decimals have no sign. -/
def ofInt (m : Int) (scale : Nat) : Except Fault Decimal :=
  if displayScale < scale then .error (.tooManyPlaces scale)
  else if displayLimit ≤ m then .error .tooLarge
  else if m < 0 then .error .tooSmall
  else .ok ⟨m.toNat, scale⟩

def normalize (d : Decimal) : Decimal :=
  go d.mantissa d.scale
where
  go (m : Nat) : Nat → Decimal
    | 0 => ⟨m, 0⟩
    | s + 1 => if m % 10 = 0 then go (m / 10) s else ⟨m, s + 1⟩

def text (d : Decimal) : String :=
  let digits := Text.numeral 10 d.mantissa
  let padded := List.replicate (d.scale + 1 - digits.length) '0' ++ digits
  let whole := padded.take (padded.length - d.scale)
  let places := padded.drop (padded.length - d.scale)
  String.ofList (if places = [] then whole else whole ++ '.' :: places)

end Decimal

structure DecimalText where
  negative : Bool
  whole : List Char
  places : List Char
deriving DecidableEq, Repr

namespace DecimalText

/-- Splits off the sign and then splits at the first point. Both parts together need a digit, and
hold nothing else. -/
def read? (s : String) : Option DecimalText :=
  let (negative, unsigned) := match s.toList with
    | '-' :: rest => (true, rest)
    | rest => (false, rest)
  let (whole, places) := (Text.cutAt? '.' unsigned).getD (unsigned, [])
  if whole ++ places ≠ [] ∧ (whole ++ places).all Text.isDecimalDigit then
    some ⟨negative, whole, places⟩
  else none

def magnitude (t : DecimalText) : Decimal where
  mantissa := Radix.ofDigits 10 ((t.whole ++ t.places).map Text.digitValue)
  scale := t.places.length

end DecimalText

inductive PriceFault where
  | notADecimal
  | negative
  | tooManyPlaces
  | tooLarge
  | tooLargeToDisplay
  | undisplayable (cause : Decimal.Fault)
deriving DecidableEq, Repr

def PriceFault.message : PriceFault → String
  | .notADecimal => "expected a plain decimal number"
  | .negative => "price must not be negative"
  | .tooManyPlaces => "too many fractional digits"
  | .tooLarge => "fixed-point price exceeds 256 bits"
  | .tooLargeToDisplay => "price is too large to display"
  | .undisplayable cause => cause.message

structure PriceError where
  input : String
  fault : PriceFault
deriving DecidableEq, Repr

def PriceError.message (e : PriceError) : String :=
  "Invalid price " ++ Text.quoted e.input ++ ": " ++ e.fault.message

namespace Price

def one : Nat := Nat.pow 2 128

def timesTenFloor (n : Nat) (e : Int) : Nat :=
  if 0 ≤ e then n * Nat.pow 10 e.toNat else n / Nat.pow 10 (-e).toNat

/-- The floor of `d * 2 ^ 128 * 10 ^ (dest.decimals - src.decimals)`. -/
def fixedPoint (d : Decimal) (src dest : Asset) : Nat :=
  timesTenFloor (d.mantissa * one) ((dest.decimals : Int) - src.decimals - d.scale)

/-- Places are counted in 32 bits, and so is the power of ten that is divided by. -/
def countable (places : Nat) (src dest : Asset) : Bool :=
  places < Nat.pow 2 32 && places + src.decimals - dest.decimals < Nat.pow 2 32

def ofText (price : String) (src dest : Asset) : Except PriceError Quantity :=
  match DecimalText.read? price with
  | none => .error ⟨price, .notADecimal⟩
  | some t =>
    if t.negative ∧ t.magnitude.mantissa ≠ 0 then .error ⟨price, .negative⟩
    else if !countable t.places.length src dest then .error ⟨price, .tooManyPlaces⟩
    else match Quantity.ofNat? (fixedPoint t.magnitude src dest) with
      | some q => .ok q
      | none => .error ⟨price, .tooLarge⟩

def displayExponent (src dest : Asset) (scale : Nat) : Int :=
  (src.decimals : Int) - dest.decimals + scale

def wideMantissa (value : Quantity) (src dest : Asset) (scale : Nat) : Wide :=
  Wide.timesTen value (displayExponent src dest scale) >>> (128 : Nat)

/-- The decimal of the largest scale up to `scale` whose mantissa a display decimal can hold. -/
def displayFrom (value : Quantity) (src dest : Asset) (scale : Nat) : Except PriceFault Decimal :=
  let m := wideMantissa value src dest scale
  if m.toNat < Decimal.displayLimit then
    (Decimal.ofInt m.low.toInt scale).mapError .undisplayable
  else match scale with
    | 0 => .error .tooLargeToDisplay
    | scale + 1 => displayFrom value src dest scale

def display (value : Quantity) (src dest : Asset) : Except PriceError Decimal :=
  match displayFrom value src dest Decimal.displayScale with
  | .ok d => .ok d.normalize
  | .error fault => .error ⟨value.toHex, fault⟩

def output? (amount price : Quantity) : Option Quantity :=
  Wide.toQuantity? ((Wide.ofQuantity amount * Wide.ofQuantity price) >>> (128 : Nat))

end Price

end SwapBroker
