import SwapBroker.Address.Basic
import SwapBroker.Json.Decode
import SwapBroker.Json.Printer

/-!
# Why a reply is refused

A reply that does not have the expected shape, or names an address that is not valid on the source
chain, is malformed.
-/

namespace SwapBroker

inductive ReplyFault where
  | notAChannel (cause : DecodeError)
  | notAVaultSwap (cause : DecodeError)
  | wrongChain (expected found : Chain)
  | notHex (field value : String)
  | badAddress (field address : String) (chain : Chain) (reason : AddressError)
  | notAText (found : Json)
deriving Repr

def ReplyFault.message : ReplyFault → String
  | .notAChannel cause => "deposit channel: " ++ cause.message
  | .notAVaultSwap cause => "vault swap: " ++ cause.message
  | .wrongChain expected found =>
    "expected a " ++ expected.name ++ " vault swap, got " ++ found.name
  | .notHex field value => field ++ " is not hex encoded: " ++ Text.quoted value
  | .badAddress field address chain reason =>
    field ++ " " ++ Text.quoted address ++ " is not a " ++ chain.name ++ " address: " ++
      reason.message
  | .notAText found => "expected a hex string, got " ++ found.compact

namespace Reply

def checkHex (field value : String) : Except ReplyFault Unit :=
  if Bytes.isHexText value then .ok () else .error (.notHex field value)

def checkAddress (network : Network) (chain : Chain) (field address : String) :
    Except ReplyFault Unit :=
  (chain.checkAddress network address).mapError (.badAddress field address chain)

end Reply

end SwapBroker
