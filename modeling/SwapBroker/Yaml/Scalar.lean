import SwapBroker.Yaml.Glyph

/-!
# Scalars of YAML documents

A scalar may extend over several lines. The blanks around a line end are dropped; a single line end
becomes a space, and of several all but the first are kept.
-/

namespace SwapBroker.Yaml

def folded (gap : List Glyph) : List Char :=
  match (gap.filter Glyph.endsLine).map Glyph.char with
  | [] => gap.map Glyph.char
  | ['\n'] => [' ']
  | '\n' :: more => more
  | ends => ends

def readEscape? : List Glyph → Option (Char × List Glyph)
  | [] => none
  | g :: rest =>
    let codePoint (count : Nat) : Option (Char × List Glyph) :=
      (Text.codePoint? count ((rest.take count).map Glyph.char)).map fun c => (c, rest.drop count)
    match g.char with
    | '0' => some (Char.ofNat 0, rest)
    | 'a' => some ('\x07', rest)
    | 'b' => some ('\x08', rest)
    | 't' => some ('\t', rest)
    | '\t' => some ('\t', rest)
    | 'n' => some ('\n', rest)
    | 'v' => some ('\x0b', rest)
    | 'f' => some ('\x0c', rest)
    | 'r' => some ('\r', rest)
    | 'e' => some ('\x1b', rest)
    | ' ' => some (' ', rest)
    | '"' => some ('"', rest)
    | '/' => some ('/', rest)
    | '\\' => some ('\\', rest)
    | 'N' => some ('\x85', rest)
    | '_' => some ('\xa0', rest)
    | 'L' => some ('\u2028', rest)
    | 'P' => some ('\u2029', rest)
    | 'x' => codePoint 2
    | 'u' => codePoint 4
    | 'U' => codePoint 8
    | _ => none

/-- The characters of a quoted scalar up to its closing mark, put onto `taken`. Between apostrophes
an apostrophe is written twice; between quotation marks there are escapes, and a backslash at the
end of a line joins it to the next. The fuel bounds the number of characters. -/
def readQuoted? (mark : Char) : (fuel : Nat) → (taken : List Char) → List Glyph →
    Option (String × List Glyph)
  | 0, _, _ => none
  | _, _, [] => none
  | fuel + 1, taken, g :: rest =>
    if atDocumentMark (g :: rest) then none
    else if g.char = mark then
      match mark, rest with
      | '\'', next :: more =>
        if next.char = '\'' then readQuoted? mark fuel ('\'' :: taken) more
        else some (String.ofList taken.reverse, rest)
      | _, _ => some (String.ofList taken.reverse, rest)
    else if g.char = '\\' ∧ mark = '"' then
      match rest with
      | next :: more =>
        if next.endsLine then
          let (gap, rest) := more.span Glyph.isBlank
          readQuoted? mark fuel (((gap.filter Glyph.endsLine).map Glyph.char).reverse ++ taken) rest
        else do
          let (c, rest) ← readEscape? (next :: more)
          readQuoted? mark fuel (c :: taken) rest
      | [] => none
    else if g.isBlank then
      let (gap, rest) := (g :: rest).span Glyph.isBlank
      readQuoted? mark fuel ((folded gap).reverse ++ taken) rest
    else readQuoted? mark fuel (g.char :: taken) rest

def isFlowMark (c : Char) : Bool :=
  c ∈ [',', '[', ']', '\x7b', '\x7d']

/-- The characters of a plain scalar up to a blank, put onto `taken`. A colon before a blank ends
it, and within brackets so do they and commas, which no colon may stand before. -/
def readWord? (inFlow : Bool) : (taken : List Char) → List Glyph → Option (List Char × List Glyph)
  | taken, [] => some (taken, [])
  | taken, g :: rest =>
    let nextIsMark : Bool := match rest with
      | next :: _ => isFlowMark next.char || next.char = '?'
      | [] => false
    if g.isBlank then some (taken, g :: rest)
    else if inFlow ∧ g.char = ':' ∧ nextIsMark then none
    else if (g.char = ':' ∧ atBlank rest) ∨ (inFlow ∧ isFlowMark g.char) then
      some (taken, g :: rest)
    else readWord? inFlow (g.char :: taken) rest

structure Plain where
  text : String
  endedLine : Bool
  rest : List Glyph

/-- A plain scalar from one of its words on, put onto `taken`; `gap` are the blanks before the
word. Outside of brackets it ends before a line that starts left of `indent`, and no line of it has
a tab there. A number sign after a blank ends it too. The fuel bounds the number of words. -/
def readPlain? (inFlow : Bool) (indent : Nat) : (fuel : Nat) → (taken : List Char) →
    (gap s : List Glyph) → Option Plain
  | 0, _, _, _ => none
  | fuel + 1, taken, gap, s => do
    let finish (gap s : List Glyph) (taken : List Char) : Plain :=
      ⟨String.ofList taken.reverse, gap.any Glyph.endsLine, s⟩
    if atDocumentMark s ∨ (s.head?.map Glyph.char) = some '#' then return finish gap s taken
    let (word, s) ← readWord? inFlow [] s
    if word = [] then return finish gap s taken
    let taken := word ++ (folded gap).reverse ++ taken
    let (gap, s) := s.span Glyph.isBlank
    if gap = [] then return finish gap s taken
    guard !((gap.dropWhile Glyph.isSpace).any fun g => g.char = '\t' && g.column < indent)
    let column := (s.head?.map Glyph.column).getD 0
    if !inFlow && gap.any Glyph.endsLine && column < indent then return finish gap s taken
    readPlain? inFlow indent fuel taken gap s

end SwapBroker.Yaml
