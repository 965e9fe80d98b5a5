import SwapBroker.Text.Numeral

/-!
# Strings and keys of TOML documents

A string is enclosed in quotation marks, with escapes, or in apostrophes, without. Three of the
marks enclose a string of several lines. A key is a chain of names, each of them bare or a string
of one line. What was read so far is in `taken`, the last part first, and fuel bounds the steps.
-/

namespace SwapBroker.Toml

def isTextChar (c : Char) : Bool :=
  c = '\t' || (0x20 ≤ c.toNat && c.toNat ≠ 0x7f)

def isSpace (c : Char) : Bool :=
  c = ' ' || c = '\t'

def skipSpace (s : List Char) : List Char :=
  s.dropWhile isSpace

def readCodePoint? (count : Nat) (s : List Char) : Option (Char × List Char) :=
  (Text.codePoint? count (s.take count)).map fun c => (c, s.drop count)

def readEscape? : List Char → Option (Char × List Char)
  | '"' :: rest => some ('"', rest)
  | '\\' :: rest => some ('\\', rest)
  | 'b' :: rest => some ('\x08', rest)
  | 't' :: rest => some ('\t', rest)
  | 'n' :: rest => some ('\n', rest)
  | 'f' :: rest => some ('\x0c', rest)
  | 'r' :: rest => some ('\r', rest)
  | 'u' :: rest => readCodePoint? 4 rest
  | 'U' :: rest => readCodePoint? 8 rest
  | _ => none

def readLine? (mark : Char) : (fuel : Nat) → (taken : List Char) → List Char →
    Option (String × List Char)
  | 0, _, _ => none
  | _, _, [] => none
  | fuel + 1, taken, c :: rest =>
    if c = mark then some (String.ofList taken.reverse, rest)
    else if c = '\\' ∧ mark = '"' then do
      let (c, rest) ← readEscape? rest
      readLine? mark fuel (c :: taken) rest
    else if isTextChar c then readLine? mark fuel (c :: taken) rest
    else none

def newline? : List Char → Option (List Char)
  | '\n' :: rest => some rest
  | '\r' :: '\n' :: rest => some rest
  | _ => none

def skipLines (s : List Char) : List Char :=
  s.dropWhile fun c => isSpace c || c = '\n' || c = '\r'

/-- The characters of a string of several lines up to its closing marks, put onto `taken`. Up to
two marks directly before the closing ones belong to the string. A backslash at the end of a line
drops the blanks and line ends after it. -/
def readLines? (mark : Char) : (fuel : Nat) → (taken : List Char) → List Char →
    Option (String × List Char)
  | 0, _, _ => none
  | _, _, [] => none
  | fuel + 1, taken, c :: rest =>
    if c = mark then
      let marks := 1 + (rest.takeWhile (· = mark)).length
      if marks < 3 then readLines? mark fuel (c :: taken) rest
      else
        let inside := min marks 5 - 3
        some (String.ofList (List.replicate inside mark ++ taken).reverse, rest.drop (inside + 2))
    else if c = '\\' ∧ mark = '"' then
      match newline? (skipSpace rest) with
      | some rest => readLines? mark fuel taken (skipLines rest)
      | none => do
        let (c, rest) ← readEscape? rest
        readLines? mark fuel (c :: taken) rest
    else match newline? (c :: rest) with
      | some after =>
        readLines? mark fuel ((if c = '\r' then ['\n', '\r'] else ['\n']) ++ taken) after
      | none => if isTextChar c then readLines? mark fuel (c :: taken) rest else none

/-- A string after its first mark. A line end directly after the marks of a string of several
lines does not belong to it. -/
def readText? (mark : Char) (s : List Char) : Option (String × List Char) :=
  match Text.dropStart? [mark, mark] s with
  | some rest => readLines? mark (rest.length + 1) [] ((newline? rest).getD rest)
  | none => readLine? mark (s.length + 1) [] s

def isBareChar (c : Char) : Bool :=
  c.isAlphanum || c = '_' || c = '-'

def readName? : List Char → Option (String × List Char)
  | '"' :: rest => readLine? '"' (rest.length + 1) [] rest
  | '\'' :: rest => readLine? '\'' (rest.length + 1) [] rest
  | s =>
    let (name, rest) := s.span isBareChar
    if name = [] then none else some (String.ofList name, rest)

/-- The names of a key, put onto `taken`, and what follows the spaces after it. The last name comes
first. The fuel bounds the number of names. -/
def readNames? : (fuel : Nat) → (taken : List String) → List Char →
    Option (List String × List Char)
  | 0, _, _ => none
  | fuel + 1, taken, s => do
    let (name, rest) ← readName? (skipSpace s)
    match skipSpace rest with
    | '.' :: rest => readNames? fuel (name :: taken) rest
    | rest => return (name :: taken, rest)

structure Key where
  path : List String
  name : String

/-- How deep values may be nested, and how many names a key may have. -/
def maxDepth : Nat := 80

def readKey? (s : List Char) : Option (Key × List Char) := do
  match ← readNames? (s.length + 1) [] s with
  | (name :: before, rest) =>
    guard (before.length < maxDepth)
    return (⟨before.reverse, name⟩, rest)
  | ([], _) => none

end SwapBroker.Toml
