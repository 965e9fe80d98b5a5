import SwapBroker.Text.Numeral

/-!
# Bytes and their hex text

Payloads, seeds and account ids travel as `0x` followed by two hex digits for each byte.
-/

namespace SwapBroker

abbrev Bytes := List UInt8

namespace Bytes

def toHex (bytes : Bytes) : List Char :=
  bytes.flatMap Text.hexByte

def ofHex? : List Char → Option Bytes
  | [] => some []
  | [_] => none
  | hi :: lo :: rest =>
    if Text.isHexDigit hi && Text.isHexDigit lo then
      (ofHex? rest).map (UInt8.ofNat (Text.digitValue hi * 16 + Text.digitValue lo) :: ·)
    else none

/-- The hex digits of a marked text. Only the small `x` marks bytes. -/
def afterMark? : List Char → Option (List Char)
  | '0' :: 'x' :: ds => some ds
  | _ => none

def isHexText (s : String) : Bool :=
  match afterMark? s.toList with
  | some ds => ds.length % 2 = 0 && ds.all Text.isHexDigit
  | none => false

def hexSize (s : String) : Nat :=
  (s.toList.length - 2) / 2

end Bytes

end SwapBroker
