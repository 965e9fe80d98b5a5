import SwapBroker.Intent.Basic
import SwapBroker.Request.Error

/-!
# Checks common to all requests

The route comes first, then the addresses (destination, source, refund, affiliates), then commission
and boost fee, and last that a swap in chunks has fill-or-kill parameters.
-/

namespace SwapBroker

def checkBps (field : String) (bps : UInt16) : Except RequestError Unit :=
  if maxBps < bps then .error (.invalidParameter field (.bpsTooLarge bps)) else .ok ()

def checkPresent (check : α → Except RequestError Unit) : Option α → Except RequestError Unit
  | some value => check value
  | none => .ok ()

def checkRoute (src dest : Asset) : Except RequestError Unit :=
  if src = dest then .error (.unsupportedRoute src.chain dest.chain .sameAsset)
  else match src, dest with
    | .dot, .hubDot | .hubDot, .dot =>
      .error (.unsupportedRoute src.chain dest.chain .dotBetweenItsChains)
    | _, _ => .ok ()

def checkAddress (network : Network) (place : AddressPlace) (role : Role) (address : String) :
    Except RequestError Unit :=
  (place.validate network role address).mapError .invalidAddress

def checkAccounts (network : Network) : List Affiliate → Except RequestError Unit
  | [] => .ok ()
  | a :: rest => do
    checkAddress network .protocol .affiliate a.account
    checkAccounts network rest

namespace SwapIntent

def checkAddresses (network : Network) (i : SwapIntent) : Except RequestError Unit := do
  checkAddress network (.on i.dest.chain) .destination i.destAddress
  checkPresent (checkAddress network (.on i.src.chain) .source) i.srcAddress
  checkPresent (fun f => checkAddress network (.on i.src.chain) .refund f.refundAddress) i.fillOrKill
  checkAccounts network (i.affiliates.getD [])

/-- The checks that do not depend on the method. -/
def check (network : Network) (i : SwapIntent) : Except RequestError Unit := do
  checkRoute i.src i.dest
  i.checkAddresses network
  checkPresent (checkBps "commissionBps") i.commission
  checkPresent (checkBps "maxBoostFeeBps") i.maxBoostFee
  if i.dca.isSome ∧ i.fillOrKill.isNone then throw (.invalidDca .withoutFillOrKill)

end SwapIntent

end SwapBroker
