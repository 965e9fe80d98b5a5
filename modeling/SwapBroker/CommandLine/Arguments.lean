import SwapBroker.Environment
import SwapBroker.Text.Ascii

/-!
# Arguments of a command line

A command takes words and options with values, each at most once, in any order: `--name value`,
`--name=value`, and with a letter `-n value`, `-nvalue` and `-n=value`. After `--` everything is a
word. An option may take its value from a variable of the environment instead.

Arguments are dealt with from the left: each is accepted as soon as it is complete, and a demand
for help or for the version ends the reading there.
-/

namespace SwapBroker.CommandLine

inductive Stop where
  | help
  | version
  | misuse
deriving DecidableEq, Repr

structure Parameter where
  name : String
  isWord : Bool
  letter : Option Char
  /-- The variable that stands in for an option that is not given. -/
  standIn : Option Variable
  accepts : String → Bool

abbrev Given := List (String × String)

structure Signature (α : Type) where
  parameters : List Parameter
  build : (String → Option String) → Option α

namespace Signature

variable {α β : Type}

/-- A parameter that `fallback` stands in for when it is not given, if there is one. -/
def parameter (isWord : Bool) (name : String) (read : String → Option α) (fallback : Option α)
    (letter : Option Char) (standIn : Option Variable) : Signature α where
  parameters := [⟨name, isWord, letter, standIn, fun text => (read text).isSome⟩]
  build value :=
    match value name with
    | some text => read text
    | none => fallback

def word (name : String) (read : String → Option α) : Signature α :=
  parameter true name read none none none

def option (name : String) (read : String → Option α) : Signature α :=
  parameter false name read none none none

def optionOr (name : String) (read : String → Option α) (value : α) : Signature α :=
  parameter false name read (some value) none none

def optional (name : String) (read : String → Option α) (letter : Option Char)
    (standIn : Option Variable) : Signature (Option α) :=
  parameter false name (fun text => (read text).map some) (some none) letter standIn

def map (f : α → β) (s : Signature α) : Signature β where
  parameters := s.parameters
  build value := (s.build value).map f

def apply (f : Signature (α → β)) (s : Unit → Signature α) : Signature β where
  parameters := f.parameters ++ (s ()).parameters
  build value := do
    let g ← f.build value
    return g (← (s ()).build value)

instance : Functor Signature where
  map := map

instance : Seq Signature where
  seq := apply

end Signature

def give (p : Parameter) (value : String) (given : Given) : Except Stop Given :=
  if given.any (·.1 = p.name) ∨ !p.accepts value then .error .misuse
  else .ok ((p.name, value) :: given)

def giveWord (parameters : List Parameter) (value : String) (given : Given) : Except Stop Given :=
  match parameters.find? fun p => p.isWord && !given.any (·.1 = p.name) with
  | some p => give p value given
  | none => .error .misuse

inductive Argument where
  | word
  /-- The argument that turns all others into words. -/
  | dashes
  | stop (s : Stop)
  | option (p : Parameter) (value : Option String)

def letterOption (p : Parameter) : List Char → Argument
  | [] => .option p none
  | '=' :: value => .option p (some (String.ofList value))
  | value => .option p (some (String.ofList value))

def Argument.of (hasVersion : Bool) (parameters : List Parameter) (text : String) : Argument :=
  match text.toList with
  | ['-', '-'] => .dashes
  | '-' :: '-' :: rest =>
    let (name, value) := match Text.cutAt? '=' rest with
      | some (name, value) => (name, some (String.ofList value))
      | none => (rest, none)
    let name := String.ofList name
    match parameters.find? fun p => !p.isWord && p.name = name with
    | some p => .option p value
    | none =>
      if value.isSome then .stop .misuse
      else if name = "help" then .stop .help
      else if name = "version" ∧ hasVersion then .stop .version
      else .stop .misuse
  | '-' :: c :: rest =>
    match parameters.find? fun p => p.letter = some c with
    | some p => letterOption p rest
    | none =>
      if c = 'h' then .stop .help
      else if c = 'V' ∧ hasVersion then .stop .version
      else .stop .misuse
  | _ => .word

def startsOption (text : String) : Bool :=
  match text.toList with
  | '-' :: _ :: _ => true
  | _ => false

/-- The values that arguments give, and the first word with what follows it where words are not
taken as values. -/
def readArguments (hasVersion takesWords : Bool) (parameters : List Parameter) :
    Given → List String → Except Stop (Given × Option (String × List String))
  | given, [] => .ok (given, none)
  | given, text :: rest =>
    match Argument.of hasVersion parameters text with
    | .stop s => .error s
    | .dashes => do
      let words ← rest.foldlM (fun given value => giveWord parameters value given) given
      return (words, none)
    | .word =>
      if takesWords then do
        let given ← giveWord parameters text given
        readArguments hasVersion takesWords parameters given rest
      else .ok (given, some (text, rest))
    | .option p (some value) => do
      let given ← give p value given
      readArguments hasVersion takesWords parameters given rest
    | .option p none =>
      match rest with
      | [] => .error .misuse
      | value :: rest =>
        if startsOption value then .error .misuse
        else do
          let given ← give p value given
          readArguments hasVersion takesWords parameters given rest

def addVariables (env : Environment) (parameters : List Parameter)
    (given : Given) : Except Stop Given :=
  parameters.foldlM (fun given p =>
    if given.any (·.1 = p.name) then .ok given
    else match p.standIn.bind env with
      | some value => give p value given
      | none => .ok given) given

def Signature.finish {α : Type} (s : Signature α) (env : Environment)
    (given : Given) : Except Stop α := do
  let given ← addVariables env s.parameters given
  match s.build fun name => (given.find? (·.1 = name)).map (·.2) with
  | some value => return value
  | none => throw .misuse

inductive Menu (α : Type) where
  | command (signature : Signature α)
  | choice (entries : List (String × Menu α))

namespace Menu

variable {α : Type}

def find? (name : String) (entries : List (String × Menu α)) : Option (Menu α) :=
  (entries.find? (·.1 = name)).map (·.2)

/-- Whether names lead to something that can be explained. The explanation of commands is itself
one of the commands of every choice. -/
def explains : Menu α → List String → Bool
  | _, [] => true
  | .command _, _ :: _ => false
  | .choice entries, name :: rest =>
    if name = "help" then rest = []
    else match find? name entries with
      | some menu => menu.explains rest
      | none => false

def choose (entries : List (String × Menu α)) :
    Option (String × List String) → Except Stop (Menu α × List String)
  | none => .error .misuse
  | some (name, rest) =>
    if name = "help" then
      if (Menu.choice entries).explains rest then .error .help else .error .misuse
    else match find? name entries with
      | some menu => .ok (menu, rest)
      | none => .error .misuse

/-- What the arguments make of the chosen command. The fuel bounds the number of choices. -/
def read (env : Environment) : (fuel : Nat) → Menu α → List String → Except Stop α
  | 0, _, _ => .error .misuse
  | _ + 1, .command s, arguments => do
    let (given, _) ← readArguments false true s.parameters [] arguments
    s.finish env given
  | fuel + 1, .choice entries, arguments => do
    let (_, chosen) ← readArguments false false [] [] arguments
    let (menu, rest) ← choose entries chosen
    menu.read env fuel rest

end Menu

end SwapBroker.CommandLine
