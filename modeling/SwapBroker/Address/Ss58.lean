import SwapBroker.Address.Error
import SwapBroker.Digest.Blake2b

/-!
# SS58 addresses

The base58 text of an address type, an account id of 32 bytes and a checksum of two. A type below 64
takes one byte; a type below `2 ^ 14` takes two, of which the first is from 64 to 127 and holds bits
2 to 7, and the second holds bits 8 to 13 below bits 0 and 1. Accounts of Polkadot, Assethub and the
protocol itself are written so, or as the hex text of the account id.
-/

namespace SwapBroker

structure Ss58 where
  type : Nat
  account : Bytes
deriving DecidableEq, Repr

namespace Ss58

def accountSize : Nat := 32

def checksumSize : Nat := 2

def typeBytes (type : Nat) : Bytes :=
  if type < 64 then [UInt8.ofNat type]
  else [UInt8.ofNat ((type &&& 0xfc) >>> 2 ||| 0x40), UInt8.ofNat (type >>> 8 ||| (type &&& 3) <<< 6)]

def checksum (body : Bytes) : Bytes :=
  (Digest.Blake2b.digest ("SS58PRE".toUTF8.toList ++ body)).take checksumSize

def encode (a : Ss58) : String :=
  let body := typeBytes a.type ++ a.account
  Base58.encode (body ++ checksum body)

def readType : Bytes → Except AddressError (Nat × Nat)
  | [] => .error (.encoding .empty)
  | first :: rest =>
    if first < 64 then .ok (first.toNat, 1)
    else if first < 128 then
      match rest with
      | [] => .error (.encoding .truncatedType)
      | second :: _ =>
        let high := (second.toNat &&& 0x3f) <<< 8
        .ok ((first.toNat &&& 0x3f) <<< 2 ||| second.toNat >>> 6 ||| high, 2)
    else .error (.format (.reservedType first))

def ofBytes (bytes : Bytes) : Except AddressError Ss58 := do
  let (type, size) ← readType bytes
  let expected := size + accountSize + checksumSize
  if bytes.length ≠ expected then throw (.length expected bytes.length)
  let body := bytes.take (size + accountSize)
  if checksum body ≠ bytes.drop (size + accountSize) then throw .checksum
  return ⟨type, body.drop size⟩

def decode (address : String) : Except AddressError Ss58 :=
  match Base58.decode address with
  | .error cause => .error (.encoding (.notBase58 cause))
  | .ok bytes => ofBytes bytes

def isHexAccount (address : String) : Bool :=
  match Bytes.afterMark? address.toList with
  | some digits => digits.length = 2 * accountSize && digits.all Text.isHexDigit
  | none => false

/-- Accepts an account id in hex, and an SS58 address of one of the given types. -/
def check (types : List Nat) (address : String) : Except AddressError Unit :=
  if isHexAccount address then .ok ()
  else do
    let decoded ← decode address
    if decoded.type ∉ types then throw (.wrongNetwork (.ss58 types) (.ss58 [decoded.type]))

/-- The form in which an account is sent: the hex text of its id. A text that is no SS58 address has
its letters made small. -/
def wireText (address : String) : String :=
  match decode address with
  | .ok decoded => String.ofList ('0' :: 'x' :: Bytes.toHex decoded.account)
  | .error _ => Text.lower address

end Ss58

end SwapBroker
