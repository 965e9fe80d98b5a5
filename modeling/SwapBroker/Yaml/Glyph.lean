import SwapBroker.Text.Numeral

/-!
# Characters of YAML documents

The layout of a document depends on where its characters stand, so they carry their positions.
-/

namespace SwapBroker.Yaml

structure Glyph where
  char : Char
  line : Nat
  column : Nat
  offset : Nat

/-- Line ends are written in one way, apart from the separators of lines and paragraphs. -/
def unifyLineEnds : List Char → List Char
  | [] => []
  | '\r' :: '\n' :: rest => '\n' :: unifyLineEnds rest
  | c :: rest => (if c = '\r' ∨ c = '\x85' then '\n' else c) :: unifyLineEnds rest

def isLineEnd (c : Char) : Bool :=
  c = '\n' || c = '\u2028' || c = '\u2029'

def glyphsFrom (line column offset : Nat) : List Char → List Glyph
  | [] => []
  | c :: rest =>
    ⟨c, line, column, offset⟩ ::
      if isLineEnd c then glyphsFrom (line + 1) 0 (offset + c.utf8Size) rest
      else glyphsFrom line (column + 1) (offset + c.utf8Size) rest

/-- The glyphs of a text. A byte order mark before it is not one of them, but takes up a column. -/
def glyphs (s : List Char) : List Glyph :=
  (glyphsFrom 0 0 0 (unifyLineEnds s)).dropWhile fun g => g.char = '\ufeff' && g.offset = 0

namespace Glyph

def endsLine (g : Glyph) : Bool :=
  isLineEnd g.char

def isSpace (g : Glyph) : Bool :=
  g.char = ' ' || g.char = '\t'

def isBlank (g : Glyph) : Bool :=
  g.isSpace || g.endsLine

end Glyph

def atBlank : List Glyph → Bool
  | [] => true
  | g :: _ => g.isBlank

def atMark (mark : Char) : List Glyph → Bool
  | a :: b :: c :: rest =>
    a.column = 0 && a.char = mark && b.char = mark && c.char = mark && atBlank rest
  | _ => false

def atDocumentMark (s : List Glyph) : Bool :=
  atMark '-' s || atMark '.' s

def dropChar? (c : Char) : List Glyph → Option (List Glyph)
  | g :: rest => if g.char = c then some rest else none
  | [] => none

def endLine? (s : List Glyph) : Option (List Glyph) :=
  match s.dropWhile Glyph.isSpace with
  | [] => some []
  | g :: rest =>
    if g.endsLine then some rest
    else if g.char = '#' then some ((rest.dropWhile fun g => !g.endsLine).drop 1)
    else none

def isNameChar (c : Char) : Bool :=
  c.isAlphanum || c = '_' || c = '-'

def takeName (s : List Glyph) : String × List Glyph :=
  let (name, rest) := s.span fun g => isNameChar g.char
  (String.ofList (name.map Glyph.char), rest)

end SwapBroker.Yaml
