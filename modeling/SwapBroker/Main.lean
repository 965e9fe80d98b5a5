import SwapBroker.CommandLine.Run
import SwapBroker.Transport.HttpMessage
import Std.Async.DNS
import Std.Async.TCP
import Std.Async.Timer

/-!
# The command line program

Gives a run of the command line access to the files, the environment and the network, and prints
what comes of it. Failures and usage go to the standard error.
-/

namespace SwapBroker.Main

open Std.Async

def files : Files IO where
  read? path := do
    try return some (← IO.FS.readFile path)
    catch _ => return none
  isThere path := do
    try
      discard (IO.FS.realPath path)
      return true
    catch _ => return false

def readEnvironment : IO Environment := do
  let values ← Variable.all.mapM fun v => do return (v, ← IO.getEnv v.name)
  return fun v => (values.find? (·.1 = v)).bind (·.2)

partial def receive (socket : TCP.Socket.Client) (bytes : List UInt8) : Async Exchange := do
  let more ← socket.recv? 65536
  let bytes := bytes ++ (more.map ByteArray.toList).getD []
  match Received.ofBytes more.isNone bytes with
  | .answer status body =>
    match String.fromUTF8? ⟨body.toArray⟩ with
    | some body => return .answered status body
    | none => return .broken "the answer is not a text"
  | .malformed => return .broken "the answer is malformed"
  | .partly => if more.isNone then return .broken "the connection was closed" else receive socket bytes

def converse (address : HttpAddress) (body : String) : Async Exchange := do
  let hosts ← DNS.getAddrInfo address.host (toString address.service)
  let service := address.service.toUInt16
  match hosts.toList with
  | [] => return .broken "the host is not known"
  | host :: _ =>
    let socket ← TCP.Socket.Client.mk
    socket.connect (match host with
      | .v4 host => .v4 ⟨host, service⟩
      | .v6 host => .v6 ⟨host, service⟩)
    socket.send (postText address body).toUTF8
    receive socket []

def exchange (transport : HttpTransport) (body : Json) : IO Exchange := do
  match HttpAddress.ofUrl? transport.url with
  | none => return .broken "the address is not supported"
  | some address =>
    let _ : Inhabited Exchange := ⟨.timedOut⟩
    let limit : Async Exchange := do
      sleep (.ofNat transport.timeout)
      return .timedOut
    try (Async.race (converse address body.compact) limit).block
    catch e => return .broken (toString e)

def usage : String :=
  "usage: broker-cli [--config FILE] [--log-level LEVEL] COMMAND\n\n" ++
  "  price to-x128 PRICE --src ASSET --dest ASSET\n" ++
  "  price from-x128 VALUE --src ASSET --dest ASSET\n" ++
  "  validate-address ADDRESS --chain CHAIN [--network NETWORK]\n" ++
  "  encode METHOD --intent FILE [--network NETWORK] [--broker-account ACCOUNT]\n" ++
  "  request METHOD --intent FILE\n\n" ++
  "methods: " ++ ", ".intercalate (Method.all.map Method.name) ++ "\n" ++
  "networks: " ++ ", ".intercalate (Network.all.map Network.name)

end SwapBroker.Main

open SwapBroker

def main (arguments : List String) : IO UInt32 := do
  let surroundings : CommandLine.Surroundings IO := {
    env := ← Main.readEnvironment
    files := Main.files
    exchange := Main.exchange }
  let outcome ← CommandLine.run surroundings arguments
  IO.print outcome.output
  match outcome.message with
  | some message => IO.eprintln ("Error: " ++ message)
  | none => if outcome.output.isEmpty then IO.eprintln Main.usage
  return outcome.exitCode.toUInt32
