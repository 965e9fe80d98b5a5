import SwapBroker.Text.Ascii
import SwapBroker.Text.Radix

/-!
# Numerals

The text of a number: its digits without a leading zero, and `0` for zero. Characters are also
written by their numbers.
-/

namespace SwapBroker.Text

def numeral (base n : Nat) : List Char :=
  if n = 0 then ['0'] else (Radix.digits base n).map digitChar

def decimal (n : Nat) : String :=
  String.ofList (numeral 10 n)

def natural? (base : Nat) (s : List Char) : Option Nat :=
  if s ≠ [] ∧ s.all (isDigitIn base) then some (Radix.ofDigits base (s.map digitValue)) else none

def uint64? (n : Nat) : Option UInt64 :=
  if n < UInt64.size then some (UInt64.ofNat n) else none

def integer : Int → String
  | .ofNat n => decimal n
  | .negSucc n => String.ofList ('-' :: numeral 10 (n + 1))

def hexByte (b : UInt8) : List Char :=
  [digitChar (b.toNat / 16), digitChar (b.toNat % 16)]

/-- The character whose number is written in exactly `count` hex digits. Surrogates are no
characters. -/
def codePoint? (count : Nat) (digits : List Char) : Option Char :=
  let n := Radix.ofDigits 16 (digits.map digitValue)
  if digits.length = count ∧ digits.all isHexDigit ∧ n.isValidChar then some (Char.ofNat n)
  else none

end SwapBroker.Text
