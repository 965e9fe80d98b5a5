import SwapBroker.Address.Error
import SwapBroker.Digest.Keccak256

/-!
# Addresses of Ethereum and Arbitrum

`0x` and the forty hex digits of twenty bytes. An address with letters of both cases has to have the
case that EIP-55 gives it; one with letters of a single case is accepted as it is. The address does
not name its network.
-/

namespace SwapBroker.Evm

def addressSize : Nat := 20

/-- The digits with the letter case of EIP-55: a letter is capital where the digest of the small
digits has a hex digit of eight or more. -/
def checksumCase (digits : List Char) : List Char :=
  let small := digits.map Char.toLower
  let marks := Bytes.toHex (Digest.Keccak256.digest (small.map fun c => UInt8.ofNat c.toNat))
  (small.zip marks).map fun (c, mark) => if 8 ≤ Text.digitValue mark then c.toUpper else c

def hasBothCases (digits : List Char) : Bool :=
  digits.any Char.isUpper && digits.any Char.isLower

def check (address : String) : Except AddressError Unit :=
  match Bytes.afterMark? address.toList with
  | none => .error (.format .unmarked)
  | some digits =>
    if !digits.all Text.isHexDigit then .error (.encoding .notHex)
    else if digits.length ≠ 2 * addressSize then
      .error (.length addressSize (digits.length / 2))
    else if hasBothCases digits ∧ digits ≠ checksumCase digits then .error .checksum
    else .ok ()

end SwapBroker.Evm
