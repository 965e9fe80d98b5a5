import SwapBroker.Encoding.Base58
import SwapBroker.Registry.Network

/-!
# Why an address is refused

An address that is not written in its alphabet, fails its checksum, has the wrong length or belongs
to another network is refused for that reason.
-/

namespace SwapBroker

inductive EncodingFault where
  | notHex
  | notBase58 (cause : Base58.ReadError)
  | noRoomForChecksum
  | notSegwit
  | empty
  | truncatedType
deriving DecidableEq, Repr

def EncodingFault.message : EncodingFault → String
  | .notHex => "non-hex character"
  | .notBase58 cause => cause.message
  | .noRoomForChecksum => "provided string is too small to contain a checksum"
  | .notSegwit => "decoding segwit address failed"
  | .empty => "empty address"
  | .truncatedType => "truncated prefix"

inductive FormatFault where
  | unmarked
  | reservedType (byte : UInt8)
  | unknownVersion (byte : UInt8)
deriving DecidableEq, Repr

def FormatFault.message : FormatFault → String
  | .unmarked => "missing 0x prefix"
  | .reservedType byte => String.ofList ("reserved prefix byte 0x".toList ++ Text.hexByte byte)
  | .unknownVersion byte => String.ofList ("unknown version byte 0x".toList ++ Text.hexByte byte)

/-- How an address names its network. -/
inductive NetworkMark where
  | bitcoin (network : BitcoinNetwork)
  | segwitName (name : String)
  | ss58 (types : List Nat)
deriving DecidableEq, Repr

def NetworkMark.name : NetworkMark → String
  | .bitcoin network => network.name
  | .segwitName name => "unknown prefix " ++ Text.quoted name
  | .ss58 types => "SS58 prefix " ++ " or ".intercalate (types.map Text.decimal)

inductive AddressError where
  | encoding (fault : EncodingFault)
  | checksum
  | length (expected actual : Nat)
  | wrongNetwork (expected found : NetworkMark)
  | format (fault : FormatFault)
deriving DecidableEq, Repr

def AddressError.message : AddressError → String
  | .encoding fault => "malformed encoding: " ++ fault.message
  | .checksum => "checksum mismatch"
  | .length expected actual =>
    "expected " ++ Text.decimal expected ++ " bytes, got " ++ Text.decimal actual
  | .wrongNetwork expected found =>
    "address is for " ++ found.name ++ ", expected " ++ expected.name
  | .format fault => fault.message

end SwapBroker
