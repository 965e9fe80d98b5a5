import SwapBroker.Text.Ascii
import SwapBroker.Text.Numeral
import SwapBroker.Toml.Basic

/-!
# Schemas of configuration tables

A schema lists the required and the optional fields of a table. A value is checked field by field,
the required ones first: that it is there, then its type, then by a check of its own. The first
violation is the error, under the path of field names that leads to it.
-/

namespace SwapBroker

inductive ValueFault where
  | notUrl
  | outOfRange (n : Int) (min max : Option Int)
  | notOneOf (choices : List String)
  | custom (text : String)
deriving DecidableEq, Repr

def ValueFault.message : ValueFault → String
  | .notUrl => "URL must start with http:// or https://"
  | .outOfRange n min max =>
    Text.integer n ++ " is outside the allowed range " ++ (min.map Text.integer).getD "" ++ "..=" ++
      (max.map Text.integer).getD ""
  | .notOneOf choices => "expected one of " ++ ", ".intercalate choices
  | .custom text => text

inductive ValidationError where
  | missingField (path : String)
  | invalidValue (path : String) (fault : ValueFault)
  | typeMismatch (path expected actual : String)
deriving DecidableEq, Repr

def ValidationError.message : ValidationError → String
  | .missingField path => "Missing required field: " ++ path
  | .invalidValue path fault => "Invalid value for field '" ++ path ++ "': " ++ fault.message
  | .typeMismatch path expected actual =>
    "Type mismatch for field '" ++ path ++ "': expected " ++ expected ++ ", got " ++ actual

mutual
inductive FieldType where
  | string
  | url
  | integer (min max : Option Int)
  /-- A string that is one of some choices in any letter case. -/
  | oneOf (choices : List String)
  | table (required optional : List Field)
inductive Field where
  /-- A field with a check of its own, which gives the reason for a refusal. -/
  | mk (name : String) (type : FieldType) (refusal? : Option (Toml → Option String))
end

structure Schema where
  required : List Field
  optional : List Field

namespace Schema

def isUrl (s : String) : Bool :=
  Text.startsWith "http://" s || Text.startsWith "https://" s

def join (path name : String) : String :=
  if path = "" then name else path ++ "." ++ name

def tablePath (path : String) : String :=
  if path = "" then "root" else path

def mismatch (path expected : String) (value : Toml) : ValidationError :=
  .typeMismatch path expected value.typeName

def inRange (min max : Option Int) (n : Int) : Bool :=
  min.all (· ≤ n) && max.all (n ≤ ·)

mutual
def checkType (path : String) (value : Toml) : FieldType → Except ValidationError Unit
  | .string =>
    match value with
    | .string _ => .ok ()
    | _ => .error (mismatch path "string" value)
  | .url =>
    match value with
    | .string s => if isUrl s then .ok () else .error (.invalidValue path .notUrl)
    | _ => .error (mismatch path "string" value)
  | .integer min max =>
    match value with
    | .integer n =>
      if inRange min max n then .ok () else .error (.invalidValue path (.outOfRange n min max))
    | _ => .error (mismatch path "integer" value)
  | .oneOf choices =>
    match value with
    | .string s =>
      if choices.any (Text.sameIgnoringCase s) then .ok ()
      else .error (.invalidValue path (.notOneOf choices))
    | _ => .error (mismatch path "string" value)
  | .table required optional =>
    match value with
    | .table entries => do
      checkRequired path entries required
      checkOptional path entries optional
    | _ => .error (mismatch (tablePath path) "table" value)
def checkField (path : String) (value : Toml) : Field → Except ValidationError Unit
  | .mk _ type refusal? => do
    checkType path value type
    match refusal?.bind (· value) with
    | some reason => throw (.invalidValue path (.custom reason))
    | none => return ()
def checkRequired (path : String) (entries : Toml.Entries) : List Field → Except ValidationError Unit
  | [] => .ok ()
  | .mk name type refusal? :: rest =>
    match Toml.lookup? name entries with
    | none => .error (.missingField (join path name))
    | some value => do
      checkField (join path name) value (.mk name type refusal?)
      checkRequired path entries rest
def checkOptional (path : String) (entries : Toml.Entries) : List Field → Except ValidationError Unit
  | [] => .ok ()
  | .mk name type refusal? :: rest =>
    match Toml.lookup? name entries with
    | none => checkOptional path entries rest
    | some value => do
      checkField (join path name) value (.mk name type refusal?)
      checkOptional path entries rest
end

def validate (s : Schema) (value : Toml) : Except ValidationError Unit :=
  checkType "" value (.table s.required s.optional)

end Schema

end SwapBroker
