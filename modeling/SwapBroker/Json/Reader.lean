import SwapBroker.Json.Written

/-!
# Reading JSON text

The whole text has to be one value with blanks around it. The members of an object keep the order
and the repetitions of the text. What is needed of a value may be nested 127 deep. Repeated parts are
put onto `taken`, the last one first, and fuel bounds the number of steps.
-/

namespace SwapBroker.Json

def isBlank (c : Char) : Bool :=
  c = ' ' || c = '\n' || c = '\t' || c = '\r'

def skipBlank (s : List Char) : List Char :=
  s.dropWhile isBlank

namespace Written

def escaped? : Char → Option Nat
  | '"' => some 0x22
  | '\\' => some 0x5c
  | '/' => some 0x2f
  | 'b' => some 0x08
  | 'f' => some 0x0c
  | 'n' => some 0x0a
  | 'r' => some 0x0d
  | 't' => some 0x09
  | _ => none

/-- The characters of a string up to its closing quotation mark, put onto `taken`. An escape may
be the number of a character in four hex digits. -/
def readString? (taken : List Nat) : List Char → Option (List Nat × List Char)
  | [] => none
  | '"' :: rest => some (taken.reverse, rest)
  | '\\' :: 'u' :: a :: b :: c :: d :: rest =>
    if [a, b, c, d].all Text.isHexDigit then
      readString? (Radix.ofDigits 16 ([a, b, c, d].map Text.digitValue) :: taken) rest
    else none
  | '\\' :: c :: rest =>
    match escaped? c with
    | some code => readString? (code :: taken) rest
    | none => none
  | c :: rest =>
    if c.toNat < 0x20 ∨ c = '\\' then none else readString? (c.toNat :: taken) rest

mutual
def readValue? : (fuel : Nat) → List Char → Option (Written × List Char)
  | 0, _ => none
  | fuel + 1, s =>
    match skipBlank s with
    | 'n' :: 'u' :: 'l' :: 'l' :: rest => some (.null, rest)
    | 't' :: 'r' :: 'u' :: 'e' :: rest => some (.bool true, rest)
    | 'f' :: 'a' :: 'l' :: 's' :: 'e' :: rest => some (.bool false, rest)
    | '"' :: rest => (readString? [] rest).map fun (s, rest) => (.str s, rest)
    | '[' :: rest =>
      match skipBlank rest with
      | ']' :: rest => some (.arr [], rest)
      | rest => readItems? fuel [] rest
    | '\x7b' :: rest =>
      match skipBlank rest with
      | '\x7d' :: rest => some (.obj [], rest)
      | rest => readMembers? fuel [] rest
    | s => (Numeral.read? s).map fun (n, rest) => (.number n, rest)
def readItems? : (fuel : Nat) → (taken : List Written) → List Char → Option (Written × List Char)
  | 0, _, _ => none
  | fuel + 1, taken, s => do
    let (item, rest) ← readValue? fuel s
    match skipBlank rest with
    | ',' :: rest => readItems? fuel (item :: taken) rest
    | ']' :: rest => some (.arr (item :: taken).reverse, rest)
    | _ => none
def readMembers? : (fuel : Nat) → (taken : List (List Nat × Written)) → List Char →
    Option (Written × List Char)
  | 0, _, _ => none
  | fuel + 1, taken, s =>
    match skipBlank s with
    | '"' :: rest => do
      let (name, rest) ← readString? [] rest
      match skipBlank rest with
      | ':' :: rest =>
        let (value, rest) ← readValue? fuel rest
        match skipBlank rest with
        | ',' :: rest => readMembers? fuel ((name, value) :: taken) rest
        | '\x7d' :: rest => some (.obj ((name, value) :: taken).reverse, rest)
        | _ => none
      | _ => none
    | _ => none
end

def read? (text : String) : Option Written := do
  let s := text.toList
  -- Of two steps in a row at least one takes a character.
  let (written, rest) ← readValue? (2 * s.length + 2) s
  guard (skipBlank rest = [])
  return written

end Written

/-- How deep the needed part of a value may be nested. -/
def maxDepth : Nat := 127

def read? (need : Need) (text : String) : Option Json := do
  (← Written.read? text).value? maxDepth need

/-- Reads a text that is one JSON value, with the members of objects in the order of their names.
Of two members with one name the later counts. -/
def readSorted? (text : String) : Option Json :=
  (read? .all text).map sorted

end SwapBroker.Json
