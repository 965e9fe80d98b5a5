import SwapBroker.Yaml.Basic
import SwapBroker.Yaml.Token

/-!
# Reading YAML documents

A text is one document, which may have directives and marks for its start and its end. Where
nothing stands for a key, a value or an item, it is empty. The items of a sequence that is a value
of a mapping need not be indented further than the keys. The parts of a collection that were read so
far are in `taken`, the last one first.
-/

namespace SwapBroker.Yaml

def isNext (tokens : List Token) : List Token → Bool
  | [] => false
  | t :: _ => t ∈ tokens

structure Properties where
  anchor : Option Nat
  tag : Option String
deriving DecidableEq

namespace Properties

def take : List Token → Properties × List Token
  | .anchor n :: .tag t :: rest => (⟨some n, some t⟩, rest)
  | .tag t :: .anchor n :: rest => (⟨some n, some t⟩, rest)
  | .anchor n :: rest => (⟨some n, none⟩, rest)
  | .tag t :: rest => (⟨none, some t⟩, rest)
  | rest => (⟨none, none⟩, rest)

def label (p : Properties) (value : Yaml) : Yaml :=
  match p.anchor with
  | some n => .anchored n value
  | none => value

/-- A tag of an exclamation mark alone says nothing about a scalar. -/
def scalar (p : Properties) (style : ScalarStyle) (text : String) : Yaml :=
  p.label (.scalar style (p.tag.filter (· ≠ "!")) text)

def absent? (p : Properties) : Option Yaml :=
  if p = ⟨none, none⟩ then none else some (p.label (.scalar .plain p.tag ""))

end Properties

mutual
/-- A value at the start of the tokens. A block stands only where `inBlock` allows it, and items
without a block of their own only where `items` does. The fuel bounds the steps. -/
def readValue? : (fuel : Nat) → (inBlock items : Bool) → List Token → Option (Yaml × List Token)
  | 0, _, _, _ => none
  | fuel + 1, inBlock, items, tokens => do
    let (p, tokens) := Properties.take tokens
    let collection : Option (Yaml × List Token) → Option (Yaml × List Token) :=
      fun read => read.map fun (value, rest) => (p.label value, rest)
    let absent : Option (Yaml × List Token) := p.absent?.map (·, tokens)
    match tokens with
    | .reference n :: rest => if p = ⟨none, none⟩ then some (.reference n, rest) else absent
    | .scalar style text :: rest => some (p.scalar style text, rest)
    | .openBracket :: rest => collection (readFlowItems? fuel [] rest)
    | .openBrace :: rest => collection (readFlowEntries? fuel [] rest)
    | .sequenceStart :: rest => if inBlock then collection (readItems? fuel [] rest) else absent
    | .mappingStart :: rest => if inBlock then collection (readEntries? fuel [] rest) else absent
    | .item :: _ => if items then collection (readLooseItems? fuel [] tokens) else absent
    | _ => absent
def readOptional? : (fuel : Nat) → (inBlock items : Bool) → (after : List Token) → List Token →
    Option (Yaml × List Token)
  | 0, _, _, _, _ => none
  | fuel + 1, inBlock, items, after, tokens =>
    if isNext after tokens then some (empty, tokens) else readValue? fuel inBlock items tokens
def readItems? : (fuel : Nat) → (taken : List Yaml) → List Token → Option (Yaml × List Token)
  | 0, _, _ => none
  | fuel + 1, taken, tokens =>
    match tokens with
    | .item :: rest => do
      let (item, rest) ← readOptional? fuel true false [.item, .blockEnd] rest
      readItems? fuel (item :: taken) rest
    | .blockEnd :: rest => some (.sequence taken.reverse, rest)
    | _ => none
def readLooseItems? : (fuel : Nat) → (taken : List Yaml) → List Token → Option (Yaml × List Token)
  | 0, _, _ => none
  | fuel + 1, taken, tokens =>
    match tokens with
    | .item :: rest => do
      let (item, rest) ← readOptional? fuel true false [.item, .key, .value, .blockEnd] rest
      readLooseItems? fuel (item :: taken) rest
    | _ => some (.sequence taken.reverse, tokens)
def readEntries? : (fuel : Nat) → (taken : List (Yaml × Yaml)) → List Token →
    Option (Yaml × List Token)
  | 0, _, _ => none
  | fuel + 1, taken, tokens =>
    match tokens with
    | .key :: rest => do
      let (entry, rest) ← readEntry? fuel true [.key, .value, .blockEnd] rest
      readEntries? fuel (entry :: taken) rest
    | .blockEnd :: rest => some (.mapping taken.reverse, rest)
    | _ => none
def readEntry? : (fuel : Nat) → (inBlock : Bool) → (after : List Token) → List Token →
    Option ((Yaml × Yaml) × List Token)
  | 0, _, _, _ => none
  | fuel + 1, inBlock, after, tokens => do
    let (key, rest) ← readOptional? fuel inBlock inBlock (.value :: after) tokens
    let (value, rest) ← readEntryValue? fuel inBlock after rest
    return ((key, value), rest)
def readEntryValue? : (fuel : Nat) → (inBlock : Bool) → (after : List Token) → List Token →
    Option (Yaml × List Token)
  | 0, _, _, _ => none
  | fuel + 1, inBlock, after, tokens =>
    match tokens with
    | .value :: rest => readOptional? fuel inBlock inBlock after rest
    | _ => some (empty, tokens)
/-- The items up to the closing bracket, put onto `taken`. A key among them makes a mapping of one
entry, and where the key is missing after its mark, the token in its place is passed over. The last
item may be followed by a comma. -/
def readFlowItems? : (fuel : Nat) → (taken : List Yaml) → List Token → Option (Yaml × List Token)
  | 0, _, _ => none
  | fuel + 1, taken, tokens =>
    match tokens with
    | .closeBracket :: rest => some (.sequence taken.reverse, rest)
    | _ => do
      let (item, rest) ← match tokens with
        | .key :: rest => do
          let (key, rest) ←
            if isNext [.value, .comma, .closeBracket] rest then pure (empty, rest.tail)
            else readValue? fuel false false rest
          let (value, rest) ← readEntryValue? fuel false [.comma, .closeBracket] rest
          pure (Yaml.mapping [(key, value)], rest)
        | _ => readValue? fuel false false tokens
      match rest with
      | .comma :: rest => readFlowItems? fuel (item :: taken) rest
      | .closeBracket :: rest => return (.sequence (item :: taken).reverse, rest)
      | _ => none
def readFlowEntries? : (fuel : Nat) → (taken : List (Yaml × Yaml)) → List Token →
    Option (Yaml × List Token)
  | 0, _, _ => none
  | fuel + 1, taken, tokens =>
    match tokens with
    | .closeBrace :: rest => some (.mapping taken.reverse, rest)
    | _ => do
      let (entry, rest) ← match tokens with
        | .key :: rest => readEntry? fuel false [.comma, .closeBrace] rest
        | _ => do
          let (key, rest) ← readValue? fuel false false tokens
          pure ((key, empty), rest)
      match rest with
      | .comma :: rest => readFlowEntries? fuel (entry :: taken) rest
      | .closeBrace :: rest => return (.mapping (entry :: taken).reverse, rest)
      | _ => none
end

/-- The only document of the tokens. After directives its start has to be marked. -/
def ofTokens? (tokens : List Token) : Option Yaml := do
  let fuel := 3 * tokens.length + 3
  let content := tokens.dropWhile (· = .directive)
  let (value, rest) ← match content with
    | .documentStart :: rest =>
      if rest = [] ∨ isNext [.directive, .documentStart, .documentEnd] rest then some (empty, rest)
      else readValue? fuel true false rest
    | _ => if content = tokens then readValue? fuel true false tokens else none
  guard (rest.all (· = .documentEnd))
  return value

def read? (text : String) : Option Yaml := do
  ofTokens? (← tokens? text)

end SwapBroker.Yaml
