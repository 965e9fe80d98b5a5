import SwapBroker.Json.Number
import SwapBroker.Toml.Basic

/-!
# Unquoted TOML values

Booleans, numbers, dates and times, each read from all the characters of the value. Digits may be
grouped by single underscores. Integers have at most 128 bits.
-/

namespace SwapBroker.Toml

/-- The text without its underscores, each of which has a digit on both sides. -/
def ungroup? (isDigit : Char → Bool) : (afterDigit : Bool) → List Char → Option (List Char)
  | _, [] => some []
  | true, '_' :: c :: rest =>
    if isDigit c then (ungroup? isDigit true rest).map (c :: ·) else none
  | _, '_' :: _ => none
  | _, c :: rest => (ungroup? isDigit (isDigit c) rest).map (c :: ·)

def natural? (base : Nat) (s : List Char) : Option Nat := do
  Text.natural? base (← ungroup? (Text.isDigitIn base) false s)

def decimal? : List Char → Option Nat
  | '0' :: _ :: _ => none
  | s => natural? 10 s

def takeSign : List Char → Bool × List Char
  | '-' :: rest => (true, rest)
  | '+' :: rest => (false, rest)
  | s => (false, s)

def integerText? : List Char → Option Int
  | '0' :: 'x' :: digits => (natural? 16 digits).map Int.ofNat
  | '0' :: 'o' :: digits => (natural? 8 digits).map Int.ofNat
  | '0' :: 'b' :: digits => (natural? 2 digits).map Int.ofNat
  | s =>
    let (negative, digits) := takeSign s
    (decimal? digits).map fun n => if negative then -(n : Int) else n

def integer? (s : List Char) : Option Toml := do
  let n ← integerText? s
  guard (-(Nat.pow 2 127 : Int) ≤ n ∧ n < (Nat.pow 2 128 : Int))
  return .integer n

/-- A number with a point or an exponent within floating point, an infinity, or not a number. -/
def float? (s : List Char) : Option Toml := do
  let (_, size) := takeSign s
  if size = ['i', 'n', 'f'] ∨ size = ['n', 'a', 'n'] then return .float (String.ofList s)
  let digits ← ungroup? Text.isDecimalDigit false size
  let (numeral, rest) ← Json.Numeral.read? digits
  guard (rest = [] ∧ !numeral.negative ∧ !numeral.isPlain)
  let _ ← numeral.value?
  return .float (String.ofList s)

def twoDigits? : List Char → Option (Nat × List Char)
  | a :: b :: rest =>
    if Text.isDecimalDigit a && Text.isDecimalDigit b then
      some (10 * Text.digitValue a + Text.digitValue b, rest)
    else none
  | _ => none

def mark? (c : Char) (s : List Char) : Option (List Char) :=
  Text.dropStart? [c] s

def isLeapYear (year : Nat) : Bool :=
  year % 4 == 0 && (year % 100 != 0 || year % 400 == 0)

def daysIn (year month : Nat) : Nat :=
  if month = 2 then if isLeapYear year then 29 else 28
  else if month ∈ [4, 6, 9, 11] then 30
  else 31

def afterDate? (s : List Char) : Option (List Char) := do
  let (century, s) ← twoDigits? s
  let (rest, s) ← twoDigits? s
  let (month, s) ← twoDigits? (← mark? '-' s)
  let (day, s) ← twoDigits? (← mark? '-' s)
  guard (1 ≤ month ∧ month ≤ 12 ∧ 1 ≤ day ∧ day ≤ daysIn (100 * century + rest) month)
  return s

def afterTime? (s : List Char) : Option (List Char) := do
  let (hour, s) ← twoDigits? s
  let (minute, s) ← twoDigits? (← mark? ':' s)
  let (second, s) ← twoDigits? (← mark? ':' s)
  guard (hour ≤ 23 ∧ minute ≤ 59 ∧ second ≤ 60)
  match s with
  | '.' :: rest =>
    guard ((rest.head?.map Text.isDecimalDigit).getD false)
    return rest.dropWhile Text.isDecimalDigit
  | _ => return s

def isOffset (s : List Char) : Bool :=
  match s with
  | ['Z'] | ['z'] => true
  | '+' :: rest | '-' :: rest =>
    match twoDigits? rest with
    | some (hour, ':' :: rest) =>
      match twoDigits? rest with
      | some (minute, []) => hour ≤ 23 && minute ≤ 59
      | _ => false
    | _ => false
  | _ => false

def isDatetime (s : List Char) : Bool :=
  afterTime? s = some [] ||
    match afterDate? s with
    | some [] => true
    | some (separator :: rest) =>
      separator ∈ ['T', 't', ' '] &&
        match afterTime? rest with
        | some [] => true
        | some rest => isOffset rest
        | none => false
    | none => false

def datetime? (s : List Char) : Option Toml :=
  if isDatetime s then some (.datetime (String.ofList s)) else none

def boolean? (s : List Char) : Option Toml :=
  if s = ['t', 'r', 'u', 'e'] then some (.boolean true)
  else if s = ['f', 'a', 'l', 's', 'e'] then some (.boolean false)
  else none

def scalar? (s : List Char) : Option Toml :=
  boolean? s <|> integer? s <|> float? s <|> datetime? s

def isScalarChar (c : Char) : Bool :=
  c.isAlphanum || c ∈ ['+', '-', '_', '.', ':']

/-- An unquoted value at the start of a text. A date may be followed by a blank and a time. -/
def readScalar? (s : List Char) : Option (Toml × List Char) :=
  let (word, rest) := s.span isScalarChar
  let (word, rest) :=
    match afterDate? word, rest with
    | some [], ' ' :: c :: more =>
      if Text.isDecimalDigit c then
        let (time, rest) := (c :: more).span isScalarChar
        (word ++ ' ' :: time, rest)
      else (word, rest)
    | _, _ => (word, rest)
  (scalar? word).map fun value => (value, rest)

end SwapBroker.Toml
