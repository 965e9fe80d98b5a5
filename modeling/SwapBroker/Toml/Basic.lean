/-!
# TOML values

The values of TOML documents, which also configure transports. Floats and times are kept as they
are written, since nothing is computed with them.
-/

namespace SwapBroker

inductive Toml where
  | string (s : String)
  | integer (n : Int)
  | float (literal : String)
  | boolean (b : Bool)
  | datetime (literal : String)
  | array (items : List Toml)
  | table (entries : List (String × Toml))
deriving Repr

namespace Toml

abbrev Entries := List (String × Toml)

def typeName : Toml → String
  | string _ => "string"
  | integer _ => "integer"
  | float _ => "float"
  | boolean _ => "boolean"
  | datetime _ => "datetime"
  | array _ => "array"
  | table _ => "table"

def asString? : Toml → Option String
  | string s => some s
  | _ => none

def asInteger? : Toml → Option Int
  | integer n => some n
  | _ => none

def asTable? : Toml → Option Entries
  | table entries => some entries
  | _ => none

def lookup? (name : String) (entries : Entries) : Option Toml :=
  (entries.find? (·.1 = name)).map (·.2)

def get? (name : String) (t : Toml) : Option Toml :=
  t.asTable?.bind (lookup? name)

end Toml

end SwapBroker
