import SwapBroker.Text.Numeral
import SwapBroker.Text.Quoted

/-!
# Quantities

Amounts, prices, fees and block numbers are unsigned numbers of at most 256 bits. They travel as
hex numerals after `0x`; a caller may also write them in decimal. Reading looks for the mark first,
then for digits, then at each digit from the left, and at the size last.
-/

namespace SwapBroker

def quantityLimit : Nat := Nat.pow 2 256

structure Quantity where
  toNat : Nat
  lt_limit : toNat < quantityLimit
deriving DecidableEq, Repr

namespace Quantity

def ofNat? (n : Nat) : Option Quantity :=
  if h : n < quantityLimit then some ⟨n, h⟩ else none

@[ext] theorem ext {a b : Quantity} (h : a.toNat = b.toNat) : a = b := by
  cases a; cases b; cases h; rfl

theorem ofNat?_eq_some_iff {n : Nat} {q : Quantity} : ofNat? n = some q ↔ n = q.toNat := by
  unfold ofNat?
  constructor
  · intro h
    split at h
    · cases h; rfl
    · cases h
  · rintro rfl
    exact dif_pos q.lt_limit

inductive ReadError where
  | unmarked
  | empty
  | badHexDigit (c : Char)
  | badDecimalDigit (c : Char)
  | tooLarge
deriving DecidableEq, Repr

def ReadError.message : ReadError → String
  | .unmarked => "missing 0x prefix"
  | .empty => "no digits after 0x prefix"
  | .badHexDigit c => "invalid hex digit " ++ Text.quotedChar c
  | .badDecimalDigit c => "invalid decimal digit " ++ Text.quotedChar c
  | .tooLarge => "value does not fit in 256 bits"

/-- The canonical text: `0x` and small hex digits without a leading zero. -/
def toHex (q : Quantity) : String :=
  String.ofList ('0' :: 'x' :: Text.numeral 16 q.toNat)

def afterHexMark? : List Char → Option (List Char)
  | '0' :: 'x' :: ds => some ds
  | '0' :: 'X' :: ds => some ds
  | _ => none

def ofNumeral (base : Nat) (isDigit : Char → Bool) (bad : Char → ReadError) (ds : List Char) :
    Except ReadError Quantity :=
  if ds = [] then .error .empty
  else match ds.find? (!isDigit ·) with
    | some c => .error (bad c)
    | none =>
      match ofNat? (Radix.ofDigits base (ds.map Text.digitValue)) with
      | some q => .ok q
      | none => .error .tooLarge

def ofHex (s : String) : Except ReadError Quantity :=
  match afterHexMark? s.toList with
  | some ds => ofNumeral 16 Text.isHexDigit .badHexDigit ds
  | none => .error .unmarked

/-- Reads a hex numeral if the text is marked as one, and a decimal numeral otherwise. -/
def ofText (s : String) : Except ReadError Quantity :=
  match afterHexMark? s.toList with
  | some ds => ofNumeral 16 Text.isHexDigit .badHexDigit ds
  | none => ofNumeral 10 Text.isDecimalDigit .badDecimalDigit s.toList

end Quantity

end SwapBroker
