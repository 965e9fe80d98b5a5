import SwapBroker.Json.Record
import SwapBroker.Reply.Error

/-!
# Vault swaps

The reply to a request for the encoding of a vault swap: the data of a transaction on the source
chain, which is tagged with that chain. Payloads are hex texts, and all addresses have to be valid
on the source chain.
-/

namespace SwapBroker

open Record Decoder

structure BitcoinVaultSwap where
  payload : String
  depositAddress : String
deriving DecidableEq, Repr

structure EvmVaultSwap where
  value : Quantity
  recipient : String
  calldata : String
  /-- The token to approve first, none for a native asset. -/
  sourceToken : Option String
deriving DecidableEq, Repr

structure SolanaAccount where
  pubkey : String
  isSigner : Bool
  isWritable : Bool
deriving DecidableEq, Repr

structure SolanaVaultSwap where
  programId : String
  data : String
  accounts : List SolanaAccount
deriving DecidableEq, Repr

inductive VaultSwap where
  | bitcoin (swap : BitcoinVaultSwap)
  | ethereum (swap : EvmVaultSwap)
  | arbitrum (swap : EvmVaultSwap)
  | solana (swap : SolanaVaultSwap)
deriving DecidableEq, Repr

def VaultSwap.chain : VaultSwap → Chain
  | .bitcoin _ => .bitcoin
  | .ethereum _ => .ethereum
  | .arbitrum _ => .arbitrum
  | .solana _ => .solana

def BitcoinVaultSwap.record : Record BitcoinVaultSwap :=
  BitcoinVaultSwap.mk <$> required "nulldata_payload" text <*> required "deposit_address" text

def EvmVaultSwap.record : Record EvmVaultSwap :=
  EvmVaultSwap.mk <$> required "value" quantity
    <*> required "to" text
    <*> required "calldata" text
    <*> optional "source_token_address" text

def SolanaAccount.record : Record SolanaAccount :=
  SolanaAccount.mk <$> required "pubkey" text
    <*> required "is_signer" boolean
    <*> required "is_writable" boolean

def SolanaAccount.decode : Decoder SolanaAccount :=
  SolanaAccount.record.decode "SolanaAccount" .inUnion

def SolanaVaultSwap.record : Record SolanaVaultSwap :=
  SolanaVaultSwap.mk <$> required "program_id" text
    <*> required "data" text
    <*> required "accounts" (list SolanaAccount.decode)

namespace VaultSwap

inductive Tag where
  | bitcoin
  | ethereum
  | arbitrum
  | solana
deriving DecidableEq, Repr

namespace Tag

def all : List Tag :=
  [.bitcoin, .ethereum, .arbitrum, .solana]

def chain : Tag → Chain
  | .bitcoin => .bitcoin
  | .ethereum => .ethereum
  | .arbitrum => .arbitrum
  | .solana => .solana

def decode : Decoder Tag := whole fun
  | .str s => variant all (·.chain.name) s
  | other => .error (.wrongType other "variant identifier")

end Tag

def decodeAs : Tag → Decoder VaultSwap
  | .bitcoin => (BitcoinVaultSwap.record.decode "BitcoinVaultSwap" .inUnion).map .bitcoin
  | .ethereum => (EvmVaultSwap.record.decode "EvmVaultSwap" .inUnion).map .ethereum
  | .arbitrum => (EvmVaultSwap.record.decode "EvmVaultSwap" .inUnion).map .arbitrum
  | .solana => (SolanaVaultSwap.record.decode "SolanaVaultSwap" .inUnion).map .solana

def tagName : String := "chain"

/-- Reads an object with a member for the tag, or an array that starts with the tag. -/
def decode : Decoder VaultSwap := whole fun
  | .obj members =>
    match Json.lookup? tagName members with
    | none => .error (.missingField tagName)
    | some value => do
      let tag ← Tag.decode value
      decodeAs tag (.obj (members.filter (·.1 ≠ tagName)))
  | .arr [] => .error (.missingField tagName)
  | .arr (value :: items) => do
    let tag ← Tag.decode value
    decodeAs tag (.arr items)
  | other => .error (.wrongType other "internally tagged enum VaultSwapData")

def checkAccounts (network : Network) : List SolanaAccount → Except ReplyFault Unit
  | [] => .ok ()
  | a :: rest => do
    Reply.checkAddress network .solana "pubkey" a.pubkey
    checkAccounts network rest

def checkEvm (network : Network) (chain : Chain) (swap : EvmVaultSwap) :
    Except ReplyFault Unit := do
  Reply.checkHex "calldata" swap.calldata
  Reply.checkAddress network chain "to" swap.recipient
  match swap.sourceToken with
  | some token => Reply.checkAddress network chain "source_token_address" token
  | none => return ()

/-- Checks the payload first and then the addresses. -/
def check (network : Network) : VaultSwap → Except ReplyFault Unit
  | .bitcoin swap => do
    Reply.checkHex "nulldata_payload" swap.payload
    Reply.checkAddress network .bitcoin "deposit_address" swap.depositAddress
  | .ethereum swap => checkEvm network .ethereum swap
  | .arbitrum swap => checkEvm network .arbitrum swap
  | .solana swap => do
    Reply.checkHex "data" swap.data
    Reply.checkAddress network .solana "program_id" swap.programId
    checkAccounts network swap.accounts

def ofReply (network : Network) (srcChain : Chain) (reply : Json) :
    Except ReplyFault VaultSwap := do
  let swap ← (decode reply).mapError .notAVaultSwap
  if swap.chain ≠ srcChain then throw (.wrongChain srcChain swap.chain)
  check network swap
  return swap

def evmMembers (swap : EvmVaultSwap) : List (String × Option Json) :=
  [("value", some (.str swap.value.toHex)),
    ("to", some (.str swap.recipient)),
    ("calldata", some (.str swap.calldata)),
    ("sourceTokenAddress", swap.sourceToken.map .str)]

def accountToJson (a : SolanaAccount) : Json :=
  .ofMembers [
    ("pubkey", .str a.pubkey),
    ("isSigner", .bool a.isSigner),
    ("isWritable", .bool a.isWritable)]

def members : VaultSwap → List (String × Option Json)
  | .bitcoin swap =>
    [("nulldataPayload", some (.str swap.payload)),
      ("depositAddress", some (.str swap.depositAddress))]
  | .ethereum swap | .arbitrum swap => evmMembers swap
  | .solana swap =>
    [("programId", some (.str swap.programId)),
      ("data", some (.str swap.data)),
      ("accounts", some (.arr (swap.accounts.map accountToJson)))]

def toJson (swap : VaultSwap) : Json :=
  .ofPresent (("chain", some (.str swap.chain.name)) :: swap.members)

end VaultSwap

def encodedParametersOfReply : Json → Except ReplyFault String
  | .str s => do
    Reply.checkHex "cf parameters" s
    return s
  | other => .error (.notAText other)

end SwapBroker
