import SwapBroker.Address.Bitcoin
import SwapBroker.Address.Evm
import SwapBroker.Address.Solana
import SwapBroker.Address.Ss58

/-!
# Addresses by chain

Each chain has one address format, and formats are checked against a network. Accounts of the
protocol itself have a format of their own.
-/

namespace SwapBroker

inductive AddressFormat where
  | bitcoin
  | evm
  | solana
  | polkadot
  | account
deriving DecidableEq, Repr

namespace AddressFormat

def name : AddressFormat → String
  | .bitcoin => "Bitcoin"
  | .evm => "EVM"
  | .solana => "Solana"
  | .polkadot => "Polkadot"
  | .account => "Chainflip"

def check (network : Network) : AddressFormat → String → Except AddressError Unit
  | .bitcoin => Bitcoin.check network
  | .evm => Evm.check
  | .solana => Solana.check
  | .polkadot => Ss58.check network.polkadotTypes
  | .account => Ss58.check Network.accountTypes

end AddressFormat

def Chain.addressFormat : Chain → AddressFormat
  | .ethereum | .arbitrum => .evm
  | .bitcoin => .bitcoin
  | .polkadot | .assethub => .polkadot
  | .solana => .solana

def Chain.checkAddress (network : Network) (chain : Chain) (address : String) :
    Except AddressError Unit :=
  chain.addressFormat.check network address

/-- The form in which an address of a chain is sent to the broker. -/
def Chain.wireAddress (chain : Chain) (address : String) : String :=
  match chain.addressFormat with
  | .polkadot => Ss58.wireText address
  | _ => address

inductive Role where
  | destination
  | source
  | refund
  | affiliate
  | brokerAccount
deriving DecidableEq, Repr

def Role.name : Role → String
  | .destination => "destination"
  | .source => "source"
  | .refund => "refund"
  | .affiliate => "affiliate"
  | .brokerAccount => "broker account"

/-- What an address has to be valid for: a chain, or the protocol itself. -/
inductive AddressPlace where
  | on (chain : Chain)
  | protocol
deriving DecidableEq, Repr

namespace AddressPlace

def name : AddressPlace → String
  | on chain => chain.name
  | protocol => AddressFormat.account.name

def format : AddressPlace → AddressFormat
  | on chain => chain.addressFormat
  | protocol => .account

end AddressPlace

structure InvalidAddress where
  place : AddressPlace
  role : Role
  address : String
  reason : AddressError
deriving DecidableEq, Repr

def InvalidAddress.message (e : InvalidAddress) : String :=
  "Invalid " ++ e.role.name ++ " address " ++ Text.quoted e.address ++ " for " ++ e.place.name ++
    ": " ++ e.reason.message

def AddressPlace.validate (network : Network) (place : AddressPlace) (role : Role)
    (address : String) : Except InvalidAddress Unit :=
  match place.format.check network address with
  | .ok () => .ok ()
  | .error reason => .error ⟨place, role, address, reason⟩

end SwapBroker
