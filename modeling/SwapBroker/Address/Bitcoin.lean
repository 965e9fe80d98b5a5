import SwapBroker.Address.Error
import SwapBroker.Encoding.Segwit

/-!
# Bitcoin addresses

Segwit addresses are told by how they start, in any letter case; all others are base58 with a
checksum, one version byte and a hash of twenty bytes. Both forms name the Bitcoin network.
-/

namespace SwapBroker.Bitcoin

def payloadSize : Nat := 21

def segwitStarts : List String :=
  ["bc1", "tb1", "bcrt1"]

def looksSegwit (address : String) : Bool :=
  segwitStarts.any fun start => Text.startsWith start (Text.lower address)

/-- The network whose segwit addresses have a human readable part, or that part itself. -/
def markOfName (name : String) : NetworkMark :=
  match BitcoinNetwork.all.find? (·.segwitName = name) with
  | some network => .bitcoin network
  | none => .segwitName name

def checkSegwit (expected : BitcoinNetwork) (address : String) : Except AddressError Unit :=
  match Segwit.decode? address with
  | none => .error (.encoding .notSegwit)
  | some decoded =>
    if decoded.name = expected.segwitName then .ok ()
    else .error (.wrongNetwork (.bitcoin expected) (markOfName decoded.name))

/-- The network that a version byte belongs to. Both test networks have the bytes of the first. -/
def networkOfVersion? (version : UInt8) : Option BitcoinNetwork :=
  [BitcoinNetwork.mainnet, .testnet].find? (version ∈ ·.versions)

def checkBase58 (expected : BitcoinNetwork) (address : String) : Except AddressError Unit :=
  match Base58.decodeChecked address with
  | .error (.unreadable cause) => .error (.encoding (.notBase58 cause))
  | .error .tooShort => .error (.encoding .noRoomForChecksum)
  | .error .badChecksum => .error .checksum
  | .ok payload =>
    if payload.length ≠ payloadSize then .error (.length payloadSize payload.length)
    else
      let version := payload.headD 0
      if version ∈ expected.versions then .ok ()
      else match networkOfVersion? version with
        | some found => .error (.wrongNetwork (.bitcoin expected) (.bitcoin found))
        | none => .error (.format (.unknownVersion version))

def check (network : Network) (address : String) : Except AddressError Unit :=
  if looksSegwit address then checkSegwit network.bitcoin address
  else checkBase58 network.bitcoin address

end SwapBroker.Bitcoin
