import SwapBroker.Toml.Scalar
import SwapBroker.Toml.Document

/-!
# Reading TOML documents

A document is a sequence of lines: headers that open tables, and keys with their values, which
belong to the table opened last. Only strings and arrays may extend over several lines.
-/

namespace SwapBroker.Toml

def skipLayout? : (inComment : Bool) → List Char → Option (List Char)
  | _, [] => some []
  | _, '\n' :: rest => skipLayout? false rest
  | _, '\r' :: '\n' :: rest => skipLayout? false rest
  | true, c :: rest => if isTextChar c then skipLayout? true rest else none
  | false, c :: rest =>
    if c = '#' then skipLayout? true rest
    else if isSpace c then skipLayout? false rest
    else some (c :: rest)

def endLine? : (inComment : Bool) → List Char → Option (List Char)
  | _, [] => some []
  | _, '\n' :: rest => some rest
  | _, '\r' :: '\n' :: rest => some rest
  | true, c :: rest => if isTextChar c then endLine? true rest else none
  | false, c :: rest =>
    if c = '#' then endLine? true rest
    else if isSpace c then endLine? false rest
    else none

mutual
/-- A value at the start of a text. The fuel bounds the steps and `depth` the nesting. -/
def readValue? : (fuel depth : Nat) → List Char → Option (Toml × List Char)
  | 0, _, _ => none
  | _ + 1, _, '"' :: rest => (readText? '"' rest).map fun (s, rest) => (.string s, rest)
  | _ + 1, _, '\'' :: rest => (readText? '\'' rest).map fun (s, rest) => (.string s, rest)
  | _ + 1, 0, '[' :: _ => none
  | _ + 1, 0, '\x7b' :: _ => none
  | fuel + 1, depth + 1, '[' :: rest => readItems? fuel depth [] rest
  | fuel + 1, depth + 1, '\x7b' :: rest =>
    match skipSpace rest with
    | '\x7d' :: rest => some (.table [], rest)
    | rest => readEntries? fuel depth [] rest
  | _ + 1, _, s => readScalar? s
def readItems? : (fuel depth : Nat) → (taken : List Toml) → List Char → Option (Toml × List Char)
  | 0, _, _, _ => none
  | fuel + 1, depth, taken, s => do
    match ← skipLayout? false s with
    | ']' :: rest => return (.array taken.reverse, rest)
    | s =>
      let (item, rest) ← readValue? fuel depth s
      match ← skipLayout? false rest with
      | ',' :: rest => readItems? fuel depth (item :: taken) rest
      | ']' :: rest => return (.array (item :: taken).reverse, rest)
      | _ => none
def readEntries? : (fuel depth : Nat) → Nodes → List Char → Option (Toml × List Char)
  | 0, _, _, _ => none
  | fuel + 1, depth, nodes, s => do
    let (key, rest) ← readKey? s
    match rest with
    | '=' :: rest =>
      let (value, rest) ← readValue? fuel depth (skipSpace rest)
      let nodes ← nodes.assign? key.name value key.path
      match skipSpace rest with
      | ',' :: rest => readEntries? fuel depth nodes rest
      | '\x7d' :: rest => return (.table (finishedEntries nodes), rest)
      | _ => none
    | _ => none
end

/-- The lines of a document, added to `root`. Keys belong to the table at the path `here`. The fuel
bounds the number of lines. -/
def readDocument? : (fuel : Nat) → (root : Nodes) → (here : List String) → List Char → Option Nodes
  | 0, _, _, _ => none
  | fuel + 1, root, here, s => do
    match ← skipLayout? false s with
    | [] => return root
    | '[' :: '[' :: rest =>
      let (key, rest) ← readKey? rest
      let rest ← endLine? false (← Text.dropStart? [']', ']'] rest)
      readDocument? fuel (← root.openItem? key) (key.path ++ [key.name]) rest
    | '[' :: rest =>
      let (key, rest) ← readKey? rest
      let rest ← endLine? false (← Text.dropStart? [']'] rest)
      readDocument? fuel (← root.openTable? key) (key.path ++ [key.name]) rest
    | s =>
      let (key, rest) ← readKey? s
      let rest ← Text.dropStart? ['='] rest
      let (value, rest) ← readValue? (2 * rest.length + 2) maxDepth (skipSpace rest)
      let rest ← endLine? false rest
      readDocument? fuel (← Nodes.along? here (Nodes.assign? key.name value key.path) root) here
        rest

/-- Reads a text that is a TOML document. A byte order mark may precede it. -/
def read? (text : String) : Option Toml := do
  let s := match text.toList with
    | '\ufeff' :: rest => rest
    | s => s
  return .table (finishedEntries (← readDocument? (s.length + 1) [] [] s))

end SwapBroker.Toml
