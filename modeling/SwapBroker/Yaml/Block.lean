import SwapBroker.Yaml.Glyph

/-!
# Block scalars of YAML documents

A scalar may be a block of lines that are indented further than what it belongs to. In a literal
block the line ends are kept. In a folded one a single line end becomes a space, and of several all
but the first are kept, unless one of the lines around them starts with a blank.
-/

namespace SwapBroker.Yaml

/-- What remains of the line ends after the last line: none, one or all. -/
inductive Chomping where
  | strip
  | clip
  | keep
deriving DecidableEq, Repr

structure BlockHeader where
  chomping : Chomping
  /-- How much further the block is indented, if it is told. -/
  depth : Option Nat

def takeChomping (s : List Glyph) : Option Chomping × List Glyph :=
  match s with
  | [] => (none, [])
  | g :: rest =>
    if g.char = '-' then (some .strip, rest)
    else if g.char = '+' then (some .keep, rest)
    else (none, s)

def takeDepth (s : List Glyph) : Option Nat × List Glyph :=
  match s with
  | [] => (none, [])
  | g :: rest =>
    if Text.isDecimalDigit g.char then (some (Text.digitValue g.char), rest) else (none, s)

def readBlockHeader? (s : List Glyph) : Option (BlockHeader × List Glyph) := do
  let (before, s) := takeChomping s
  let (depth, s) := takeDepth s
  let (chomping, s) := if before.isSome then (before, s) else takeChomping s
  guard (depth ≠ some 0)
  return (⟨chomping.getD .clip, depth⟩, ← endLine? s)

structure BlockGap where
  ends : List Char
  width : Nat
  rest : List Glyph

/-- The gap at the start of a line, with `ends` and `width` as far as they are known. Indentation
goes up to the column `limit` if there is one, and has no tabs. -/
def readBlockGap? (limit : Option Nat) : (ends : List Char) → (width : Nat) → List Glyph →
    Option BlockGap
  | ends, width, [] => some ⟨ends.reverse, width, []⟩
  | ends, width, g :: rest =>
    let isIndentation : Bool := limit.all fun limit => g.column < limit
    if g.char = ' ' ∧ isIndentation then readBlockGap? limit ends width rest
    else if g.char = '\t' ∧ isIndentation then none
    else if g.endsLine then readBlockGap? limit (g.char :: ends) (max width g.column) rest
    else some ⟨ends.reverse, max width g.column, g :: rest⟩

structure BlockText where
  taken : List Char
  afterBlank : Bool
  lineEnd : List Char
  gap : BlockGap

namespace BlockText

def joint (b : BlockText) (folds startsBlank : Bool) : List Char :=
  if folds ∧ b.lineEnd = ['\n'] ∧ !b.afterBlank ∧ !startsBlank then
    if b.gap.ends = [] then [' '] else b.gap.ends
  else b.lineEnd ++ b.gap.ends

def text (b : BlockText) (chomping : Chomping) : String :=
  String.ofList (b.taken.reverse ++
    match chomping with
    | .strip => []
    | .clip => b.lineEnd
    | .keep => b.lineEnd ++ b.gap.ends)

end BlockText

def readBlockLines? (folds : Bool) (indent : Nat) : (fuel : Nat) → BlockText → Option BlockText
  | 0, _ => none
  | fuel + 1, b =>
    match b.gap.rest with
    | [] => some b
    | g :: rest =>
      if g.column ≠ indent then some b
      else do
        let (line, rest) := (g :: rest).span fun g => !g.endsLine
        let gap ← readBlockGap? (some indent) [] 0 (rest.drop 1)
        readBlockLines? folds indent fuel {
          taken := (line.map Glyph.char).reverse ++ (b.joint folds g.isSpace).reverse ++ b.taken
          afterBlank := g.isSpace
          lineEnd := (rest.take 1).map Glyph.char
          gap }

/-- A block after its mark. It stands in the column `inside` or further right, and unless its
header tells more, as its first lines do. -/
def readBlock? (folds : Bool) (inside : Nat) (s : List Glyph) : Option (String × List Glyph) := do
  let (header, s) ← readBlockHeader? s
  let told := header.depth.map (inside - 1 + ·)
  let gap ← readBlockGap? told [] 0 s
  let indent := told.getD (max (max gap.width inside) 1)
  let b ← readBlockLines? folds indent (s.length + 1) ⟨[], false, [], gap⟩
  return (b.text header.chomping, b.gap.rest)

end SwapBroker.Yaml
