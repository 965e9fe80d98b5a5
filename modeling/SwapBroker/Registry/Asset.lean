import SwapBroker.Registry.Chain

/-!
# Assets

An asset is a symbol on a chain that lists it. `Pair` is any combination of chain and symbol, as it
is exchanged with the broker; `Asset` holds the supported ones.
-/

namespace SwapBroker

structure Pair where
  chain : Chain
  symbol : Symbol
deriving DecidableEq, Repr

namespace Pair

def ofText (text : String) : Except NameError Pair :=
  match Text.cutAt? ':' text.toList with
  | none => .error (.notAPair text)
  | some (chain, symbol) => do
    return ⟨← Chain.ofText (String.ofList chain), ← Symbol.ofText (String.ofList symbol)⟩

end Pair

inductive Asset where
  | eth
  | flip
  | usdc
  | usdt
  | wbtc
  | dot
  | btc
  | arbEth
  | arbUsdc
  | arbUsdt
  | sol
  | solUsdc
  | solUsdt
  | hubDot
  | hubUsdc
  | hubUsdt
deriving DecidableEq, Repr

namespace Asset

def all : List Asset :=
  [.eth, .flip, .usdc, .usdt, .wbtc, .dot, .btc, .arbEth, .arbUsdc, .arbUsdt, .sol, .solUsdc,
    .solUsdt, .hubDot, .hubUsdc, .hubUsdt]

def chain : Asset → Chain
  | .eth | .flip | .usdc | .usdt | .wbtc => .ethereum
  | .dot => .polkadot
  | .btc => .bitcoin
  | .arbEth | .arbUsdc | .arbUsdt => .arbitrum
  | .sol | .solUsdc | .solUsdt => .solana
  | .hubDot | .hubUsdc | .hubUsdt => .assethub

def symbol : Asset → Symbol
  | .eth | .arbEth => .eth
  | .flip => .flip
  | .usdc | .arbUsdc | .solUsdc | .hubUsdc => .usdc
  | .usdt | .arbUsdt | .solUsdt | .hubUsdt => .usdt
  | .wbtc => .wbtc
  | .dot | .hubDot => .dot
  | .btc => .btc
  | .sol => .sol

def decimals : Asset → Nat
  | .eth | .flip | .arbEth => 18
  | .dot | .hubDot => 10
  | .sol => 9
  | .btc | .wbtc => 8
  | .usdc | .usdt | .arbUsdc | .arbUsdt | .solUsdc | .solUsdt | .hubUsdc | .hubUsdt => 6

def name : Asset → String
  | .eth => "Eth"
  | .flip => "Flip"
  | .usdc => "Usdc"
  | .usdt => "Usdt"
  | .wbtc => "Wbtc"
  | .dot => "Dot"
  | .btc => "Btc"
  | .arbEth => "ArbEth"
  | .arbUsdc => "ArbUsdc"
  | .arbUsdt => "ArbUsdt"
  | .sol => "Sol"
  | .solUsdc => "SolUsdc"
  | .solUsdt => "SolUsdt"
  | .hubDot => "HubDot"
  | .hubUsdc => "HubUsdc"
  | .hubUsdt => "HubUsdt"

def pair (a : Asset) : Pair :=
  ⟨a.chain, a.symbol⟩

def ofPair? (p : Pair) : Option Asset :=
  all.find? (·.pair = p)

/-- Reads a pair such as `Arbitrum:USDC` or, without a colon, a short name such as `ArbUsdc`. -/
def ofText (text : String) : Except NameError Asset :=
  if ':' ∈ text.toList then do
    let p ← Pair.ofText text
    match ofPair? p with
    | some asset => return asset
    | none => throw (.unsupportedPair p.chain p.symbol)
  else match findNamed? all name text with
    | some asset => .ok asset
    | none => .error (.unknownAsset text)

@[simp] theorem ofPair?_pair (a : Asset) : ofPair? a.pair = some a := by
  cases a <;> rfl

end Asset

end SwapBroker
