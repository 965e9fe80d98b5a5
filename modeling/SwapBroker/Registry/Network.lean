import SwapBroker.Registry.Chain
import SwapBroker.Text.Blank

/-!
# Networks

A deployment of the swap protocol and the address conventions it expects of the chains it is
connected to.
-/

namespace SwapBroker

inductive BitcoinNetwork where
  | mainnet
  | testnet
  | regtest
deriving DecidableEq, Repr

namespace BitcoinNetwork

def all : List BitcoinNetwork :=
  [.mainnet, .testnet, .regtest]

def name : BitcoinNetwork → String
  | .mainnet => "mainnet"
  | .testnet => "testnet"
  | .regtest => "regtest"

/-- The version bytes of addresses that pay to a key and to a script. The two test networks share
theirs. -/
def versions : BitcoinNetwork → List UInt8
  | .mainnet => [0x00, 0x05]
  | .testnet | .regtest => [0x6f, 0xc4]

def segwitName : BitcoinNetwork → String
  | .mainnet => "bc"
  | .testnet => "tb"
  | .regtest => "bcrt"

end BitcoinNetwork

inductive Network where
  | mainnet
  | perseverance
  | sisyphos
  | backspin
  | localnet
deriving DecidableEq, Repr

namespace Network

def all : List Network :=
  [.mainnet, .perseverance, .sisyphos, .backspin, .localnet]

def name : Network → String
  | .mainnet => "mainnet"
  | .perseverance => "perseverance"
  | .sisyphos => "sisyphos"
  | .backspin => "backspin"
  | .localnet => "localnet"

def isMainnet : Network → Bool
  | .mainnet => true
  | _ => false

def bitcoin : Network → BitcoinNetwork
  | .mainnet => .mainnet
  | .perseverance | .sisyphos => .testnet
  | .backspin | .localnet => .regtest

/-- The SS58 address types of Polkadot and Assethub: the one of Polkadot everywhere, and the
generic one on test networks too. -/
def polkadotTypes (n : Network) : List Nat :=
  if n.isMainnet then [0] else [0, 42]

/-- The SS58 address type of accounts of the protocol itself, on every network. -/
def accountTypes : List Nat :=
  [2112]

def ofText (text : String) : Except NameError Network :=
  match findNamed? all name (Text.trim text) with
  | some network => .ok network
  | none => .error (.unknownNetwork text)

end Network

end SwapBroker
