import SwapBroker.Bytes
import SwapBroker.Digest.Sha256
import SwapBroker.Text.Quoted

/-!
# Base58

Bytes as a numeral in base 58. Zero bytes in front, which the number cannot show, are written as
that many digits one. The checked form ends in the first four bytes of the second iterate of
SHA-256.
-/

namespace SwapBroker.Base58

def alphabet : List Char :=
  "123456789ABCDEFGHJKLMNPQRSTUVWXYZabcdefghijkmnopqrstuvwxyz".toList

/-- The first character that is no digit. Places are counted in bytes of the text. -/
inductive ReadError where
  | notADigit (c : Char) (place : Nat)
  | notAscii (place : Nat)
deriving DecidableEq, Repr

def ReadError.message : ReadError → String
  | .notADigit c place =>
    "provided string contained invalid character " ++ Text.quotedChar c ++ " at byte " ++
      Text.decimal place
  | .notAscii place =>
    "provided string contained non-ascii character starting at byte " ++ Text.decimal place

def digitAt (n : Nat) : Char :=
  alphabet.getD n '1'

def readDigits (place : Nat) : List Char → Except ReadError (List Nat)
  | [] => .ok []
  | c :: rest =>
    match alphabet.idxOf? c with
    | some d => (readDigits (place + 1) rest).map (d :: ·)
    | none => .error (if c.toNat < 128 then .notADigit c place else .notAscii place)

def ofDigits (ds : List Nat) : Bytes :=
  List.replicate (ds.takeWhile (· = 0)).length 0 ++
    (Radix.digits 256 (Radix.ofDigits 58 ds)).map UInt8.ofNat

def decode (s : String) : Except ReadError Bytes :=
  (readDigits 0 s.toList).map ofDigits

def encode (bytes : Bytes) : String :=
  String.ofList (List.replicate (bytes.takeWhile (· = 0)).length '1' ++
    (Radix.digits 58 (Radix.ofDigits 256 (bytes.map UInt8.toNat))).map digitAt)

inductive CheckedError where
  | unreadable (cause : ReadError)
  | tooShort
  | badChecksum
deriving DecidableEq, Repr

def checksumSize : Nat := 4

def checksum (payload : Bytes) : Bytes :=
  (Digest.Sha256.digest (Digest.Sha256.digest payload)).take checksumSize

def decodeChecked (s : String) : Except CheckedError Bytes :=
  match decode s with
  | .error cause => .error (.unreadable cause)
  | .ok bytes =>
    if bytes.length < checksumSize then .error .tooShort
    else
      let payload := bytes.take (bytes.length - checksumSize)
      if bytes.drop (bytes.length - checksumSize) = checksum payload then .ok payload
      else .error .badChecksum

end SwapBroker.Base58
