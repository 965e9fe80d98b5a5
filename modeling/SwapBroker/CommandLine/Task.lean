import SwapBroker.CommandLine.Arguments
import SwapBroker.Request.Basic

/-!
# Tasks

What can be asked for on the command line: to convert a price, to check an address, to show the
call that a method makes of an intent, and to send it.
-/

namespace SwapBroker

def Method.name : Method → String
  | .depositAddress => "request-swap-deposit-address"
  | .parameterEncoding => "request-swap-parameter-encoding"
  | .cfParameters => "encode-cf-parameters"

def Method.all : List Method :=
  [.depositAddress, .parameterEncoding, .cfParameters]

def Method.ofName? (name : String) : Option Method :=
  all.find? (·.name = name)

namespace CommandLine

inductive Task where
  | toFixedPoint (price : String) (src dest : Asset)
  | ofFixedPoint (value : String) (src dest : Asset)
  | validate (chain : Chain) (network : Network) (address : String)
  | encode (method : Method) (intent : String) (network : Network) (account : Option String)
  | request (method : Method) (intent : String)
deriving DecidableEq, Repr

structure Invocation where
  config : Option String
  /-- Accepted, but nothing is logged. -/
  logLevel : Option String
  task : Task
deriving DecidableEq, Repr

def text (s : String) : Option String :=
  some s

def path (s : String) : Option String :=
  if s = "" then none else some s

def chain (s : String) : Option Chain :=
  (Chain.ofText s).toOption

def network (s : String) : Option Network :=
  (Network.ofText s).toOption

def asset (s : String) : Option Asset :=
  (Asset.ofText s).toOption

open Signature

def priceMenu : Menu Task := .choice [
  ("to-x128", .command (Task.toFixedPoint <$> word "price" text <*> option "src" asset
    <*> option "dest" asset)),
  ("from-x128", .command (Task.ofFixedPoint <$> word "value" text <*> option "src" asset
    <*> option "dest" asset))]

def commands : List (String × Menu Task) := [
  ("price", priceMenu),
  ("validate-address", .command (Task.validate <$> option "chain" chain
    <*> optionOr "network" network .mainnet <*> word "address" text)),
  ("encode", .command (Task.encode <$> word "method" Method.ofName? <*> option "intent" path
    <*> optionOr "network" network .perseverance <*> optional "broker-account" text none none)),
  ("request", .command (Task.request <$> word "method" Method.ofName? <*> option "intent" path))]

def general : Signature (Task → Invocation) :=
  Invocation.mk <$> optional "config" path (some 'c') (some .config)
    <*> optional "log-level" text none (some .logLevel)

/-- Reads a command line. The command is read before variables are looked at. -/
def Invocation.ofArguments (env : Environment) (arguments : List String) :
    Except Stop Invocation := do
  let (given, chosen) ← readArguments true false general.parameters [] arguments
  let (menu, rest) ← Menu.choose commands chosen
  let task ← menu.read env (arguments.length + 1) rest
  return (← general.finish env given) task

end CommandLine

end SwapBroker
