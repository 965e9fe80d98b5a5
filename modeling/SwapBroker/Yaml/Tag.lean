import SwapBroker.Yaml.Glyph

/-!
# Tags and directives of YAML documents

A tag names the type of a value. It is written in full, or as a handle that stands for its first
part and the rest of it. Directives before a document tell the version of the language and add
handles.
-/

namespace SwapBroker.Yaml

def standardHandles : List (String × String) :=
  [("!", "!"), ("!!", "tag:yaml.org,2002:")]

def isTagChar (inFull : Bool) (c : Char) : Bool :=
  isNameChar c ||
    c ∈ [';', '/', '?', ':', '@', '&', '=', '+', '$', '.', '!', '~', '*', '\'', '(', ')', '%'] ||
    (inFull && c ∈ [',', '[', ']'])

/-- The bytes of a tag, of which some are written as a percent sign and two hex digits. -/
def tagBytes? : List Char → Option (List UInt8)
  | [] => some []
  | '%' :: a :: b :: rest =>
    if Text.isHexDigit a && Text.isHexDigit b then
      (tagBytes? rest).map (UInt8.ofNat (16 * Text.digitValue a + Text.digitValue b) :: ·)
    else none
  | c :: rest => if c = '%' then none else (tagBytes? rest).map (UInt8.ofNat c.toNat :: ·)

def readTagText? (inFull : Bool) (s : List Glyph) : Option (String × List Glyph) := do
  let (written, rest) := s.span fun g => isTagChar inFull g.char
  let bytes ← tagBytes? (written.map Glyph.char)
  return (← String.fromUTF8? ⟨bytes.toArray⟩, rest)

/-- A tag after its exclamation mark. Within brackets a comma may follow it, otherwise only a
blank. -/
def readTag? (handles : List (String × String)) (inFlow : Bool) (s : List Glyph) :
    Option (String × List Glyph) := do
  let (tag, rest) ← match dropChar? '<' s with
    | some rest => do
      let (tag, rest) ← readTagText? true rest
      guard (tag ≠ "")
      pure (tag, ← dropChar? '>' rest)
    | none => do
      let (name, rest) := takeName s
      match dropChar? '!' rest with
      | some rest => do
        let (text, rest) ← readTagText? false rest
        guard (text ≠ "")
        let (_, start) ← handles.find? (·.1 = "!" ++ name ++ "!")
        pure (start ++ text, rest)
      | none => do
        let (text, rest) ← readTagText? false s
        if text = "" then pure ("!", rest)
        else do
          let (_, start) ← handles.find? (·.1 = "!")
          pure (start ++ text, rest)
  guard (atBlank rest || (inFlow && (dropChar? ',' rest).isSome))
  return (tag, rest)

inductive Directive where
  | version
  | handle (name start : String)

def readVersionPart? (s : List Glyph) : Option (Nat × List Glyph) := do
  let (digits, rest) := s.span fun g => Text.isDecimalDigit g.char
  guard (digits.length ≤ 9)
  return (← Text.natural? 10 (digits.map Glyph.char), rest)

/-- A directive after its percent sign, and what follows its line. The versions 1.1 and 1.2 are
known. -/
def readDirective? (s : List Glyph) : Option (Directive × List Glyph) := do
  let (name, rest) := takeName s
  guard (atBlank rest)
  let rest := rest.dropWhile Glyph.isSpace
  match name with
  | "YAML" =>
    let (major, rest) ← readVersionPart? rest
    let (minor, rest) ← readVersionPart? (← dropChar? '.' rest)
    guard (major = 1 ∧ (minor = 1 ∨ minor = 2))
    return (.version, ← endLine? rest)
  | "TAG" =>
    let (letters, rest) := takeName (← dropChar? '!' rest)
    let (handle, rest) ← match dropChar? '!' rest with
      | some rest => some ("!" ++ letters ++ "!", rest)
      | none => if letters = "" then some ("!", rest) else none
    guard ((rest.head?.map Glyph.isSpace).getD false)
    let (start, rest) ← readTagText? true (rest.dropWhile Glyph.isSpace)
    guard (start ≠ "" ∧ atBlank rest)
    return (.handle handle start, ← endLine? rest)
  | _ => none

end SwapBroker.Yaml
