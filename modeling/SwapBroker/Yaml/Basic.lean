import SwapBroker.Text.Numeral

/-!
# YAML values

The values of YAML documents. A scalar is text; a plain one, without quotation marks, may stand for
something else where another type is expected. Values with anchors may be referred to elsewhere.
-/

namespace SwapBroker

inductive ScalarStyle where
  | plain
  | quoted
  | literal
  | folded
deriving DecidableEq, Repr

inductive Yaml where
  | scalar (style : ScalarStyle) (tag : Option String) (text : String)
  | sequence (items : List Yaml)
  | mapping (entries : List (Yaml × Yaml))
  | anchored (anchor : Nat) (value : Yaml)
  | reference (anchor : Nat)
deriving Repr

namespace Yaml

def empty : Yaml :=
  .scalar .plain none ""

mutual
def anchors : Yaml → List (Nat × Yaml)
  | .anchored anchor value => (anchor, value) :: value.anchors
  | .sequence items => itemAnchors items
  | .mapping entries => entryAnchors entries
  | .scalar .. | .reference _ => []
def itemAnchors : List Yaml → List (Nat × Yaml)
  | [] => []
  | item :: rest => item.anchors ++ itemAnchors rest
def entryAnchors : List (Yaml × Yaml) → List (Nat × Yaml)
  | [] => []
  | (key, value) :: rest => key.anchors ++ value.anchors ++ entryAnchors rest
end

/-- The value without its anchor, or the last one with the anchor that it refers to. -/
def resolved (anchors : List (Nat × Yaml)) : Yaml → Yaml
  | .anchored _ value => value
  | .reference anchor => ((anchors.reverse.find? (·.1 = anchor)).map (·.2)).getD empty
  | value => value

def asText? : Yaml → Option String
  | scalar _ _ text => some text
  | _ => none

def nullTexts : List String :=
  ["null", "Null", "NULL", "~"]

def nullTag : String := "tag:yaml.org,2002:null"

def integerTag : String := "tag:yaml.org,2002:int"

/-- The value unless it stands for an absent one. What is tagged as absent has to be written so. -/
def asPresent? : Yaml → Option (Option Yaml)
  | scalar .plain tag text =>
    if tag = some nullTag then if text ∈ nullTexts then some none else none
    else if tag = none ∧ (text = "" ∨ text ∈ nullTexts) then some none
    else some (some (scalar .plain tag text))
  | value => some (some value)

def asChoice? : Yaml → Option String
  | scalar style tag text =>
    match tag.map String.toList with
    | some ('!' :: name) =>
      if style = .plain ∧ (text = "" ∨ text ∈ nullTexts) then some (String.ofList name) else none
    | _ => some text
  | _ => none

/-- The natural number of a plain scalar: digits after a plus sign or none, without a leading zero
in base ten and after `0x`, `0o` or `0b` in the other bases. -/
def naturalText? (s : List Char) : Option Nat :=
  let s := match s with
    | '+' :: rest => rest
    | _ => s
  match s with
  | '0' :: 'x' :: digits => Text.natural? 16 digits
  | '0' :: 'o' :: digits => Text.natural? 8 digits
  | '0' :: 'b' :: digits => Text.natural? 2 digits
  | '0' :: _ :: _ => none
  | digits => Text.natural? 10 digits

/-- The number of a plain scalar, or of a literal block that is tagged as an integer. -/
def asNatural? : Yaml → Option Nat
  | scalar .plain _ text => naturalText? text.toList
  | scalar .literal tag text => if tag = some integerTag then naturalText? text.toList else none
  | _ => none

end Yaml

end SwapBroker
