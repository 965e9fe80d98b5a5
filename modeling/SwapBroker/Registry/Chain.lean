import SwapBroker.Text.Quoted

/-!
# Chains and asset symbols

The chains between which assets are swapped and the symbols under which assets are traded. Names
are written with fixed letter case and read in any.
-/

namespace SwapBroker

inductive Chain where
  | ethereum
  | polkadot
  | bitcoin
  | arbitrum
  | solana
  | assethub
deriving DecidableEq, Repr

namespace Chain

def all : List Chain :=
  [.ethereum, .polkadot, .bitcoin, .arbitrum, .solana, .assethub]

def name : Chain → String
  | .ethereum => "Ethereum"
  | .polkadot => "Polkadot"
  | .bitcoin => "Bitcoin"
  | .arbitrum => "Arbitrum"
  | .solana => "Solana"
  | .assethub => "Assethub"

end Chain

inductive Symbol where
  | btc
  | eth
  | flip
  | usdc
  | usdt
  | wbtc
  | dot
  | sol
deriving DecidableEq, Repr

namespace Symbol

def all : List Symbol :=
  [.btc, .eth, .flip, .usdc, .usdt, .wbtc, .dot, .sol]

def name : Symbol → String
  | .btc => "BTC"
  | .eth => "ETH"
  | .flip => "FLIP"
  | .usdc => "USDC"
  | .usdt => "USDT"
  | .wbtc => "WBTC"
  | .dot => "DOT"
  | .sol => "SOL"

end Symbol

inductive NameError where
  | unknownChain (text : String)
  | unknownAsset (text : String)
  | notAPair (text : String)
  | unknownNetwork (text : String)
  | unsupportedPair (chain : Chain) (symbol : Symbol)
deriving DecidableEq, Repr

def NameError.message : NameError → String
  | .unknownChain text => "Invalid value for chain: unknown chain " ++ Text.quoted text
  | .unknownAsset text => "Invalid value for asset: unknown asset " ++ Text.quoted text
  | .notAPair text =>
    "Invalid value for asset: expected <chain>:<asset>, got " ++ Text.quoted text
  | .unknownNetwork text => "Invalid value for network: unknown network " ++ Text.quoted text
  | .unsupportedPair chain symbol =>
    "Asset " ++ symbol.name ++ " is not supported on " ++ chain.name

/-- The first entry whose name is the text, in any letter case. -/
def findNamed? (all : List α) (name : α → String) (text : String) : Option α :=
  all.find? fun entry => Text.sameIgnoringCase (name entry) text

def Chain.ofText (text : String) : Except NameError Chain :=
  match findNamed? Chain.all Chain.name text with
  | some chain => .ok chain
  | none => .error (.unknownChain text)

def Symbol.ofText (text : String) : Except NameError Symbol :=
  match findNamed? Symbol.all Symbol.name text with
  | some symbol => .ok symbol
  | none => .error (.unknownAsset text)

end SwapBroker
