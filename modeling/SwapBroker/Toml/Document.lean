import SwapBroker.Toml.Text
import SwapBroker.Toml.Basic

/-!
# TOML documents as they are built

The tables of a document are written in pieces. A table may be added to according to how it came
about: one made by a longer header may still get a header of its own, one made by dotted keys may
get more dotted keys, and nothing is defined twice. Values, also inline tables, are complete.
-/

namespace SwapBroker.Toml

inductive Origin where
  | header
  /-- A header that names a table within it. -/
  | passing
  | dotted
  | item
deriving DecidableEq, Repr

inductive Node where
  | value (v : Toml)
  | table (origin : Origin) (entries : List (String × Node))
  /-- An array whose tables have headers of their own. Only the last can be added to. -/
  | tables (earlier : List (List (String × Node))) (last : List (String × Node))

abbrev Nodes := List (String × Node)

namespace Nodes

def lookup? (name : String) (nodes : Nodes) : Option Node :=
  (nodes.find? (·.1 = name)).map (·.2)

def replace (name : String) (node : Node) (nodes : Nodes) : Nodes :=
  nodes.map fun entry => if entry.1 = name then (name, node) else entry

def add? (name : String) (node : Node) (nodes : Nodes) : Option Nodes :=
  if (nodes.lookup? name).isSome then none else some (nodes ++ [(name, node)])

/-- Changes the table called `name`, or the last table of the array of that name. `admits` tells of
which origin it may be. If it is not there yet, it is made with the origin `absent`. -/
def within? (absent : Origin) (admits : Origin → Bool) (name : String)
    (change : Nodes → Option Nodes) (nodes : Nodes) : Option Nodes :=
  match nodes.lookup? name with
  | none => do nodes.add? name (.table absent (← change []))
  | some (.table origin inner) => do
    guard (admits origin)
    return nodes.replace name (.table origin (← change inner))
  | some (.tables earlier last) => do
    guard (admits .item)
    return nodes.replace name (.tables earlier (← change last))
  | some (.value _) => none

def along? (path : List String) (change : Nodes → Option Nodes) : Nodes → Option Nodes :=
  path.foldr (fun name change => within? .passing (fun _ => true) name change) change

def openTable? (key : Key) : Nodes → Option Nodes :=
  along? key.path fun nodes =>
    match nodes.lookup? key.name with
    | none => nodes.add? key.name (.table .header [])
    | some (.table .passing inner) => some (nodes.replace key.name (.table .header inner))
    | some _ => none

def openItem? (key : Key) : Nodes → Option Nodes :=
  along? key.path fun nodes =>
    match nodes.lookup? key.name with
    | none => nodes.add? key.name (.tables [] [])
    | some (.tables earlier last) =>
      some (nodes.replace key.name (.tables (earlier ++ [last]) []))
    | some _ => none

/-- Gives a key a value. Of the tables on its path the innermost has to be one of dotted keys, and
those around it must not have headers that name them alone. -/
def assign? (name : String) (value : Toml) : (path : List String) → Nodes → Option Nodes
  | [] => add? name (.value value)
  | [inner] => within? .dotted (· = .dotted) inner (add? name (.value value))
  | outer :: path => within? .dotted (· ≠ .header) outer (assign? name value path)

end Nodes

mutual
def Node.finished : Node → Toml
  | .value v => v
  | .table _ entries => .table (finishedEntries entries)
  | .tables earlier last => .array (finishedItems earlier ++ [.table (finishedEntries last)])
def finishedEntries : List (String × Node) → Entries
  | [] => []
  | (name, node) :: rest => (name, node.finished) :: finishedEntries rest
def finishedItems : List (List (String × Node)) → List Toml
  | [] => []
  | entries :: rest => .table (finishedEntries entries) :: finishedItems rest
end

end SwapBroker.Toml
