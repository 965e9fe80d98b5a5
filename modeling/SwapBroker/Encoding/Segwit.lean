import SwapBroker.Bytes

/-!
# Segwit addresses

A human readable name, the separator `1`, and five-bit digits: a witness version, a witness
program, and a checksum of six digits. Version 0 has the checksum constant of bech32, and the later
versions have the one of bech32m.
-/

namespace SwapBroker.Segwit

structure Address where
  name : String
  version : Nat
  program : Bytes
deriving DecidableEq, Repr

def charset : List Char :=
  "qpzry9x8gf2tvdw0s3jn54khce6mua7l".toList

def maxLength : Nat := 90

def checksumSize : Nat := 6

def maxVersion : Nat := 16

def generators : List Nat :=
  [0x3b6a57b2, 0x26508e6d, 0x1ea119fa, 0x3d4233dd, 0x2a1462b3]

def step (register digit : Nat) : Nat :=
  let top := register >>> 25
  let shifted := ((register &&& 0x1ffffff) <<< 5) ^^^ digit
  ((List.range 5).zip generators).foldl
    (fun r (i, g) => if (top >>> i) &&& 1 = 1 then r ^^^ g else r) shifted

def expand (name : List Char) : List Nat :=
  name.map (·.toNat >>> 5) ++ 0 :: name.map (·.toNat &&& 31)

def register (name : List Char) (digits : List Nat) : Nat :=
  (expand name ++ digits).foldl step 1

/-- What the register ends in for a valid address. -/
def checksumConstant (version : Nat) : Nat :=
  if version = 0 then 1 else 0x2bc830a3

def splitLast? (s : List Char) : Option (List Char × List Char) :=
  (Text.cutAt? '1' s.reverse).map fun (data, name) => (name.reverse, data.reverse)

def bitsOf (digit : Nat) : List Bool :=
  [16, 8, 4, 2, 1].map fun weight => digit / weight % 2 = 1

def takeBytes : List Bool → Bytes × List Bool
  | b7 :: b6 :: b5 :: b4 :: b3 :: b2 :: b1 :: b0 :: rest =>
    let value := [b7, b6, b5, b4, b3, b2, b1, b0].foldl (fun n b => 2 * n + b.toNat) 0
    let (bytes, left) := takeBytes rest
    (UInt8.ofNat value :: bytes, left)
  | left => ([], left)

/-- The bytes of a list of digits. At most four bits may be left over, and they have to be zero. -/
def programOf? (digits : List Nat) : Option Bytes :=
  let (bytes, left) := takeBytes (digits.flatMap bitsOf)
  if left.length ≤ 4 ∧ left.all (!·) then some bytes else none

def fits (version : Nat) (program : Bytes) : Bool :=
  2 ≤ program.length && program.length ≤ 40 &&
    (version ≠ 0 || program.length = 20 || program.length = 32)

def isNameChar (c : Char) : Bool :=
  33 ≤ c.toNat && c.toNat ≤ 126

/-- Reads an address with any human readable part. All letters are small or all are capital. -/
def decode? (s : String) : Option Address := do
  let cs := s.toList
  guard (cs.length ≤ maxLength)
  guard !(cs.any Char.isUpper && cs.any Char.isLower)
  let (name, data) ← splitLast? (cs.map Char.toLower)
  guard (name ≠ [] ∧ name.all isNameChar)
  let digits ← data.mapM charset.idxOf?
  let version ← digits.head?
  guard (version ≤ maxVersion ∧ checksumSize < digits.length)
  guard (register name digits = checksumConstant version)
  let program ← programOf? ((digits.take (digits.length - checksumSize)).drop 1)
  guard (fits version program)
  return ⟨String.ofList name, version, program⟩

end SwapBroker.Segwit
