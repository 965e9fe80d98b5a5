import SwapBroker.Text.Ascii
import SwapBroker.Text.Glyphs
import SwapBroker.Text.Radix

/-!
# Quoted text in messages

Messages show a text between quotation marks and a single character between apostrophes. The
enclosing mark, the backslash and the characters without a glyph are escaped, and all other
characters stand for themselves.
-/

namespace SwapBroker.Text

/-- One character as it stands between two `mark`s. -/
def escaped (mark c : Char) : List Char :=
  if c = mark ∨ c = '\\' then ['\\', c]
  else if c = '\n' then ['\\', 'n']
  else if c = '\r' then ['\\', 'r']
  else if c = '\t' then ['\\', 't']
  else if c = Char.ofNat 0 then ['\\', '0']
  else if isInvisible c then
    ['\\', 'u', '\x7b'] ++ (Radix.digits 16 c.toNat).map digitChar ++ ['\x7d']
  else [c]

def quoted (s : String) : String :=
  String.ofList ('"' :: s.toList.flatMap (escaped '"') ++ ['"'])

def quotedChar (c : Char) : String :=
  String.ofList ('\'' :: escaped '\'' c ++ ['\''])

end SwapBroker.Text
