import SwapBroker.Yaml.Basic
import SwapBroker.Yaml.Scalar
import SwapBroker.Yaml.Block
import SwapBroker.Yaml.Tag

/-!
# Tokens of YAML documents

Outside of brackets the structure of a document is in its indentation. Tokens make it explicit:
every block of a sequence or a mapping has a token for its start and its end, and every key and
every value of a mapping one before it.

A key is recognised by the colon after it, so its token and that of the mapping's start are put in
front of what was read since. A key and its colon stand on one line, unless a question mark before
the key tells that it is one.

An anchor is known by the number of names that were anchors before it. So a name that is used again
gets a new number, which it shares with the next new name.
-/

namespace SwapBroker.Yaml

inductive Token where
  | directive
  | documentStart
  | documentEnd
  | sequenceStart
  | mappingStart
  | blockEnd
  | openBracket
  | closeBracket
  | openBrace
  | closeBrace
  | comma
  | item
  | key
  | value
  | anchor (number : Nat)
  | reference (number : Nat)
  | tag (text : String)
  | scalar (style : ScalarStyle) (text : String)
deriving DecidableEq, Repr

structure PossibleKey where
  start : Glyph
  before : Nat
  /-- Whether nothing else can stand there. -/
  isRequired : Bool

def keyLimit : Nat := 1024

def PossibleKey.reaches (k : PossibleKey) (g : Glyph) : Bool :=
  k.start.line = g.line && g.offset ≤ k.start.offset + keyLimit

structure Layout where
  tokens : List Token
  blocks : List Nat
  /-- What may be a key around each open bracket, the innermost first. -/
  outer : List (Option PossibleKey)
  possible : Option PossibleKey
  keyAllowed : Bool
  hasVersion : Bool
  handles : List (String × String)
  /-- The numbers of the names that are anchors. -/
  anchors : List (String × Nat)

namespace Layout

def start : Layout where
  tokens := []
  blocks := []
  outer := []
  possible := none
  keyAllowed := true
  hasVersion := false
  handles := standardHandles
  anchors := []

def inFlow (l : Layout) : Bool :=
  !l.outer.isEmpty

def inside (l : Layout) : Nat :=
  (l.blocks.head?.map (· + 1)).getD 0

def push (t : Token) (l : Layout) : Layout :=
  { l with tokens := t :: l.tokens }

def insert (before : Nat) (t : Token) (l : Layout) : Layout :=
  let later := l.tokens.length - before
  { l with tokens := l.tokens.take later ++ t :: l.tokens.drop later }

def closeWhile (beyond : Nat → Bool) (l : Layout) : Layout :=
  if l.inFlow then l
  else { l with
    tokens := (l.blocks.takeWhile beyond).map (fun _ => .blockEnd) ++ l.tokens
    blocks := l.blocks.dropWhile beyond }

def closeTo (column : Nat) : Layout → Layout :=
  closeWhile (column < ·)

def closeAll : Layout → Layout :=
  closeWhile fun _ => true

def openBlock (column before : Nat) (t : Token) (l : Layout) : Layout :=
  if l.inFlow ∨ column < l.inside then l
  else { l.insert before t with blocks := column :: l.blocks }

def forget? (l : Layout) : Option Layout :=
  if l.possible.any PossibleKey.isRequired then none
  else some { l with possible := none }

def mayBeKey? (g : Glyph) (l : Layout) : Option Layout :=
  if l.keyAllowed then do
    let l ← l.forget?
    let isRequired := !l.inFlow && l.blocks.head? = some g.column
    return { l with possible := some ⟨g, l.tokens.length, isRequired⟩ }
  else some l

/-- Gives up the keys whose colon would stand too far from them. -/
def expire? (g : Glyph) (l : Layout) : Option Layout :=
  let keys := l.possible :: l.outer
  if keys.any fun k => k.any fun k => k.isRequired && !k.reaches g then none
  else some { l with
    possible := l.possible.filter (·.reaches g)
    outer := l.outer.map fun k => k.filter (·.reaches g) }

def openFlow? (g : Glyph) (t : Token) (l : Layout) : Option Layout := do
  let l ← l.mayBeKey? g
  return { l.push t with outer := l.possible :: l.outer, possible := none, keyAllowed := true }

def closeFlow? (t : Token) (l : Layout) : Option Layout := do
  let l ← l.forget?
  return { l.push t with possible := l.outer.head?.join, outer := l.outer.tail, keyAllowed := false }

def document? (t : Token) (l : Layout) : Option Layout := do
  let l ← l.closeAll.forget?
  return { l.push t with keyAllowed := false }

def directive? (d : Directive) (l : Layout) : Option Layout := do
  let l ← l.closeAll.forget?
  let l := { l.push .directive with keyAllowed := false }
  match d with
  | .version => if l.hasVersion then none else some { l with hasVersion := true }
  | .handle name start =>
    let added := l.handles.take (l.handles.length - standardHandles.length)
    if added.any (·.1 = name) then none
    else some { l with handles := (name, start) :: l.handles }

def item? (g : Glyph) (l : Layout) : Option Layout := do
  guard (l.inFlow || l.keyAllowed)
  let l ← (l.openBlock g.column l.tokens.length .sequenceStart).forget?
  return { l.push .item with keyAllowed := true }

def comma? (l : Layout) : Option Layout := do
  let l ← l.forget?
  return { l.push .comma with keyAllowed := true }

/-- The colon between a key and its value. Without a key before it, it starts a mapping itself. -/
def value? (g : Glyph) (l : Layout) : Option Layout :=
  match l.possible with
  | some k =>
    let l := (l.insert k.before .key).openBlock k.start.column k.before .mappingStart
    some { l.push .value with possible := none, keyAllowed := false }
  | none => do
    guard (l.inFlow || l.keyAllowed)
    let l := l.openBlock g.column l.tokens.length .mappingStart
    return { l.push .value with keyAllowed := !l.inFlow }

def keyMark? (g : Glyph) (l : Layout) : Option Layout := do
  guard (l.inFlow || l.keyAllowed)
  let l ← (l.openBlock g.column l.tokens.length .mappingStart).forget?
  return { l.push .key with keyAllowed := !l.inFlow }

def anchor (name : String) (l : Layout) : Layout :=
  let number := l.anchors.length
  { l.push (.anchor number) with
    anchors := (name, number) :: l.anchors.filter (·.1 ≠ name)
    keyAllowed := false }

def reference? (name : String) (l : Layout) : Option Layout := do
  let (_, number) ← l.anchors.find? (·.1 = name)
  return { l.push (.reference number) with keyAllowed := false }

/-- Skips blanks and comments. Outside of brackets a key may stand at the start of a line, but not
after tabs. -/
def skipBlank (l : Layout) : (inComment : Bool) → List Glyph → Layout × List Glyph
  | _, [] => (l, [])
  | inComment, g :: rest =>
    if g.endsLine then skipBlank { l with keyAllowed := l.keyAllowed || !l.inFlow } false rest
    else if inComment ∨ g.char = ' ' ∨ (g.char = '\t' ∧ (l.inFlow ∨ !l.keyAllowed)) then
      skipBlank l inComment rest
    else if g.char = '#' then skipBlank l true rest
    else (l, g :: rest)

def readAnchorName? (s : List Glyph) : Option (String × List Glyph) := do
  let (name, rest) := takeName s
  let isEnd (c : Char) : Bool := c ∈ ['?', ':', ',', ']', '\x7d', '%', '@', '\x60']
  guard (name ≠ "" ∧ (atBlank rest || (rest.head?.map (isEnd ·.char)).getD false))
  return (name, rest)

def isReserved (c : Char) : Bool :=
  c ∈ ['|', '>', '%', '@', '\x60', '\t']

def readToken? (l : Layout) (g : Glyph) (rest : List Glyph) : Option (Layout × List Glyph) := do
  let s := g :: rest
  let l ← l.expire? g
  let l := l.closeTo g.column
  if g.char = '%' ∧ g.column = 0 then
    let (d, rest) ← readDirective? rest
    return (← l.directive? d, rest)
  if atMark '-' s then return (← l.document? .documentStart, s.drop 3)
  if atMark '.' s then return (← l.document? .documentEnd, s.drop 3)
  match g.char with
  | '[' => return (← l.openFlow? g .openBracket, rest)
  | ']' => return (← l.closeFlow? .closeBracket, rest)
  | '\x7b' => return (← l.openFlow? g .openBrace, rest)
  | '\x7d' => return (← l.closeFlow? .closeBrace, rest)
  | ',' => return (← l.comma?, rest)
  | '&' =>
    let l ← l.mayBeKey? g
    let (name, rest) ← readAnchorName? rest
    return (l.anchor name, rest)
  | '*' =>
    let l ← l.mayBeKey? g
    let (name, rest) ← readAnchorName? rest
    return (← l.reference? name, rest)
  | '!' =>
    let l ← l.mayBeKey? g
    let (tag, rest) ← readTag? l.handles l.inFlow rest
    return ({ l.push (.tag tag) with keyAllowed := false }, rest)
  | '\'' | '"' =>
    let l ← l.mayBeKey? g
    let (text, rest) ← readQuoted? g.char s.length [] rest
    return ({ l.push (.scalar .quoted text) with keyAllowed := false }, rest)
  | c =>
    if c = '-' ∧ atBlank rest then return (← l.item? g, rest)
    if c = '?' ∧ (l.inFlow ∨ atBlank rest) then return (← l.keyMark? g, rest)
    if c = ':' ∧ (l.inFlow ∨ atBlank rest) then return (← l.value? g, rest)
    if (c = '|' ∨ c = '>') ∧ !l.inFlow then
      let l ← l.forget?
      let (text, rest) ← readBlock? (c = '>') l.inside rest
      let style := if c = '>' then .folded else .literal
      return ({ l.push (.scalar style text) with keyAllowed := true }, rest)
    guard !isReserved c
    let l ← l.mayBeKey? g
    let plain ← readPlain? l.inFlow l.inside s.length [] [] s
    return ({ l.push (.scalar .plain plain.text) with keyAllowed := plain.endedLine }, plain.rest)

def readTokens? : (fuel : Nat) → Layout → List Glyph → Option (List Token)
  | 0, _, _ => none
  | fuel + 1, l, s => do
    match l.skipBlank false s with
    | (l, []) => return (← l.closeAll.forget?).tokens.reverse
    | (l, g :: rest) =>
      let (l, rest) ← l.readToken? g rest
      readTokens? fuel l rest

end Layout

/-- Controls other than tabs and line ends, and two characters that are none, are not allowed in a
document. -/
def isAllowed (c : Char) : Bool :=
  let n := c.toNat
  c = '\t' || c = '\n' || c = '\r' || n = 0x85 || (0x20 ≤ n && n ≤ 0x7e) ||
    (0xa0 ≤ n && n ≤ 0xfffd) || 0x10000 ≤ n

def tokens? (text : String) : Option (List Token) :=
  let s := text.toList
  if s.all isAllowed then Layout.readTokens? (s.length + 1) .start (glyphs s) else none

end SwapBroker.Yaml
