import SwapBroker.Json.Basic

/-!
# Writing JSON text

The compact form has no blanks. The indented form puts each item and member on a line of its own,
two blanks deeper than its container; an empty container stays on one line.
-/

namespace SwapBroker.Json

def escapeChar (c : Char) : List Char :=
  if c = '"' ∨ c = '\\' then ['\\', c]
  else if c = '\x08' then ['\\', 'b']
  else if c = '\x0c' then ['\\', 'f']
  else if c = '\n' then ['\\', 'n']
  else if c = '\r' then ['\\', 'r']
  else if c = '\t' then ['\\', 't']
  else if c.toNat < 0x20 then ['\\', 'u', '0', '0'] ++ Text.hexByte (UInt8.ofNat c.toNat)
  else [c]

def stringText (s : String) : String :=
  String.ofList ('"' :: s.toList.flatMap escapeChar ++ ['"'])

mutual
def compact : Json → String
  | .null => "null"
  | .bool b => if b then "true" else "false"
  | .int n => Text.integer n
  | .float x => x.text
  | .str s => stringText s
  | .arr items => "[" ++ ",".intercalate (compactItems items) ++ "]"
  | .obj members => "\x7b" ++ ",".intercalate (compactMembers members) ++ "\x7d"
def compactItems : List Json → List String
  | [] => []
  | item :: rest => item.compact :: compactItems rest
def compactMembers : Members → List String
  | [] => []
  | (name, value) :: rest => (stringText name ++ ":" ++ value.compact) :: compactMembers rest
end

def newLine (depth : Nat) : String :=
  String.ofList ('\n' :: List.replicate (2 * depth) ' ')

def container (opening closing : String) (depth : Nat) (parts : List String) : String :=
  if parts = [] then opening ++ closing
  else
    opening ++ newLine (depth + 1) ++ ("," ++ newLine (depth + 1)).intercalate parts ++
      newLine depth ++ closing

mutual
/-- The indented text of a value that stands `depth` containers deep. -/
def indented (depth : Nat) : Json → String
  | .arr items => container "[" "]" depth (indentedItems (depth + 1) items)
  | .obj members => container "\x7b" "\x7d" depth (indentedMembers (depth + 1) members)
  | .null => "null"
  | .bool b => if b then "true" else "false"
  | .int n => Text.integer n
  | .float x => x.text
  | .str s => stringText s
def indentedItems (depth : Nat) : List Json → List String
  | [] => []
  | item :: rest => item.indented depth :: indentedItems depth rest
def indentedMembers (depth : Nat) : Members → List String
  | [] => []
  | (name, value) :: rest =>
    (stringText name ++ ": " ++ value.indented depth) :: indentedMembers depth rest
end

end SwapBroker.Json
