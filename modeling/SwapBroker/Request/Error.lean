import SwapBroker.Address.Basic
import SwapBroker.Price

/-!
# Why a request is refused

An intent from which no request can be made is refused before anything is sent.
-/

namespace SwapBroker

inductive RouteFault where
  | sameAsset
  | dotBetweenItsChains
  | noParameterEncoding
deriving DecidableEq, Repr

def RouteFault.message (src : Chain) : RouteFault → String
  | .sameAsset => "source and destination asset are the same"
  | .dotBetweenItsChains => "DOT cannot be swapped between Polkadot and Assethub"
  | .noParameterEncoding => "parameter encoding is not supported for " ++ src.name

inductive DcaFault where
  | withoutFillOrKill
  | noChunks
deriving DecidableEq, Repr

def DcaFault.message : DcaFault → String
  | .withoutFillOrKill => "Fill or kill parameters are required for DCA"
  | .noChunks => "number of chunks must be at least 1"

def maxBps : UInt16 := 10000

def maxAffiliates : Nat := 5

def seedSize : Nat := 32

inductive ParameterFault where
  | bpsTooLarge (bps : UInt16)
  | tooManyAffiliates
  | notHexBytes
  | tooManyBytes (size limit : Nat)
  | unreadable (cause : Quantity.ReadError)
  | badSeed
  | outputTooLarge
deriving DecidableEq, Repr

def ParameterFault.message : ParameterFault → String
  | .bpsTooLarge bps =>
    Text.decimal bps.toNat ++ " exceeds the maximum of " ++ Text.decimal maxBps.toNat ++ " bps"
  | .tooManyAffiliates => "at most " ++ Text.decimal maxAffiliates ++ " affiliates are allowed"
  | .notHexBytes => "expected 0x-prefixed hex bytes"
  | .tooManyBytes size limit =>
    Text.decimal size ++ " bytes exceeds the limit of " ++ Text.decimal limit
  | .unreadable cause => cause.message
  | .badSeed => "expected " ++ Text.decimal seedSize ++ " bytes of 0x-prefixed hex"
  | .outputTooLarge => "output amount exceeds 256 bits"

inductive RequestError where
  | invalidAddress (e : InvalidAddress)
  | invalidPrice (e : PriceError)
  | unsupportedRoute (src dest : Chain) (fault : RouteFault)
  | invalidDca (fault : DcaFault)
  | missingField (name : String)
  | invalidParameter (field : String) (fault : ParameterFault)
deriving DecidableEq, Repr

def RequestError.message : RequestError → String
  | .invalidAddress e => e.message
  | .invalidPrice e => e.message
  | .unsupportedRoute src dest fault =>
    "Unsupported route " ++ src.name ++ " -> " ++ dest.name ++ ": " ++ fault.message src
  | .invalidDca fault => "Invalid DCA parameters: " ++ fault.message
  | .missingField name => "Missing required field: " ++ name
  | .invalidParameter field fault => "Invalid value for " ++ field ++ ": " ++ fault.message

end SwapBroker
