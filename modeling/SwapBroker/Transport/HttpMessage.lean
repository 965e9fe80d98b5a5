import SwapBroker.Text.Numeral

/-!
# HTTP messages

The bytes of a request that posts a JSON text, and the answer in the bytes that came back. The
request asks the server to close the connection after its answer.
-/

namespace SwapBroker

structure HttpAddress where
  host : String
  service : Nat
  authority : String
  target : String
deriving DecidableEq, Repr

namespace HttpAddress

def defaultService : Nat := 80

def service? (s : List Char) : Option Nat :=
  if s = [] then some defaultService else (Text.natural? 10 s).filter (· < UInt16.size)

/-- The host, in brackets if it is numeric with colons, and the service after it. -/
def hostAndService? : List Char → Option (List Char × Nat)
  | '[' :: rest => do
    let (host, rest) ← Text.cutAt? ']' rest
    match rest with
    | [] => return (host, defaultService)
    | ':' :: service => return (host, ← service? service)
    | _ => none
  | s =>
    match Text.cutAt? ':' s with
    | some (host, service) => (service? service).map (host, ·)
    | none => some (s, defaultService)

def ofUrl? (url : String) : Option HttpAddress := do
  let rest ← Text.dropStart? "http://".toList url.toList
  let (authority, rest) := rest.span fun c => c ∉ ['/', '?', '#']
  let (host, service) ← hostAndService? authority
  guard (host ≠ [])
  let target := rest.takeWhile (· ≠ '#')
  let target := if target.head? = some '/' then target else '/' :: target
  return ⟨String.ofList host, service, String.ofList authority, String.ofList target⟩

end HttpAddress

def lineEnd : String := "\x0d\x0a"

def postText (address : HttpAddress) (body : String) : String :=
  lineEnd.intercalate [
    "POST " ++ address.target ++ " HTTP/1.1",
    "Host: " ++ address.authority,
    "Content-Type: application/json",
    "Accept: */*",
    "Content-Length: " ++ Text.decimal body.utf8ByteSize,
    "Connection: close",
    "",
    body]

inductive Received where
  | partly
  | answer (status : Nat) (body : List UInt8)
  | malformed
deriving DecidableEq, Repr

namespace Received

def cutLine? : List UInt8 → Option (List UInt8 × List UInt8)
  | 13 :: 10 :: rest => some ([], rest)
  | b :: rest => (cutLine? rest).map fun (line, rest) => (b :: line, rest)
  | [] => none

def lineText (line : List UInt8) : List Char :=
  line.map fun b => Char.ofNat b.toNat

/-- The lines up to an empty one, put onto `taken`, and what follows. The fuel bounds their
number. -/
def cutHead? : (fuel : Nat) → (taken : List (List Char)) → List UInt8 →
    Option (List (List Char) × List UInt8)
  | 0, _, _ => none
  | fuel + 1, taken, bytes => do
    let (line, rest) ← cutLine? bytes
    if line = [] then return (taken.reverse, rest)
    cutHead? fuel (lineText line :: taken) rest

def status? (line : List Char) : Option Nat := do
  match ← Text.dropStart? "HTTP/1.".toList line with
  | _ :: ' ' :: rest => Text.natural? 10 (rest.take 3)
  | _ => none

def trimmed (s : List Char) : List Char :=
  ((s.dropWhile (· = ' ')).reverse.dropWhile (· = ' ')).reverse

def header? (name : String) (lines : List (List Char)) : Option (List Char) :=
  lines.findSome? fun line => do
    let (start, value) ← Text.cutAt? ':' line
    guard (start.map Char.toLower = name.toList)
    return trimmed value

def chunks (status : Nat) : (fuel : Nat) → (taken : List UInt8) → List UInt8 → Received
  | 0, _, _ => .partly
  | fuel + 1, taken, bytes =>
    match cutLine? bytes with
    | none => .partly
    | some (line, rest) =>
      match Text.natural? 16 ((lineText line).takeWhile Text.isHexDigit) with
      | none => .malformed
      | some 0 => .answer status taken
      | some size =>
        if rest.length < size + 2 then .partly
        else chunks status fuel (taken ++ rest.take size) (rest.drop (size + 2))

/-- Reads the bytes received so far. `ended` tells whether more can follow: without a size, the body
reaches to the end. -/
def ofBytes (ended : Bool) (bytes : List UInt8) : Received :=
  match cutHead? (bytes.length + 1) [] bytes with
  | none => .partly
  | some ([], _) => .malformed
  | some (first :: headers, rest) =>
    match status? first with
    | none => .malformed
    | some status =>
      if (header? "transfer-encoding" headers).any (·.map Char.toLower = "chunked".toList) then
        chunks status (rest.length + 1) [] rest
      else match (header? "content-length" headers).bind (Text.natural? 10) with
        | some size => if rest.length < size then .partly else .answer status (rest.take size)
        | none => if ended then .answer status rest else .partly

end Received

end SwapBroker
