import SwapBroker.Json.Binary64

/-!
# JSON values

A number is an integer or a binary floating point number. The members of an object are a list: in
the order of the text while a text is read, and in the order of their names, each name once, after
`sorted`.
-/

namespace SwapBroker

inductive Json where
  | null
  | bool (b : Bool)
  | int (n : Int)
  | float (x : Binary64)
  | str (s : String)
  | arr (items : List Json)
  | obj (members : List (String × Json))
deriving Repr

namespace Json

abbrev Members := List (String × Json)

/-- Puts a member at its place in the order of names. A member of the same name gives way. -/
def insertMember (name : String) (value : Json) : Members → Members
  | [] => [(name, value)]
  | (other, v) :: rest =>
    if name < other then (name, value) :: (other, v) :: rest
    else if name = other then (name, value) :: rest
    else (other, v) :: insertMember name value rest

def sortMembers (members : Members) : Members :=
  members.foldl (fun sorted (name, value) => insertMember name value sorted) []

def ofMembers (members : Members) : Json :=
  .obj (sortMembers members)

def ofPresent (members : List (String × Option Json)) : Json :=
  ofMembers (members.filterMap fun (name, value) => value.map (name, ·))

mutual
def sorted : Json → Json
  | .arr items => .arr (sortedItems items)
  | .obj members => .obj (sortedMembers [] members)
  | other => other
def sortedItems : List Json → List Json
  | [] => []
  | item :: rest => item.sorted :: sortedItems rest
def sortedMembers (placed : Members) : Members → Members
  | [] => placed
  | (name, value) :: rest => sortedMembers (insertMember name value.sorted placed) rest
end

def lookup? (name : String) (members : Members) : Option Json :=
  (members.find? (·.1 = name)).map (·.2)

def ofOption : Option Json → Json
  | some value => value
  | none => .null

end Json

end SwapBroker
