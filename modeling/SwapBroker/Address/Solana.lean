import SwapBroker.Address.Error

/-!
# Solana addresses

The base58 text of a public key of 32 bytes. The address does not name its network.
-/

namespace SwapBroker.Solana

def keySize : Nat := 32

def check (address : String) : Except AddressError Unit :=
  match Base58.decode address with
  | .error cause => .error (.encoding (.notBase58 cause))
  | .ok bytes => if bytes.length ≠ keySize then .error (.length keySize bytes.length) else .ok ()

end SwapBroker.Solana
