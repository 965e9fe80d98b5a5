import SwapBroker.Json.Reader
import SwapBroker.Quantity
import SwapBroker.Registry.Asset

/-!
# Decoding JSON values

A decoder turns a JSON value into a value of a type or names the first thing in it that does not
fit. The words of its messages are fixed, so errors hold causes and `message` words them.
-/

namespace SwapBroker

/-- What bounds the number of items of a record written as an array. -/
inductive ArrayForm where
  | plain
  /-- An array within a tagged union, such as the items that follow its tag. -/
  | inUnion
deriving DecidableEq, Repr

inductive DecodeError where
  | missingField (name : String)
  | duplicateField (name : String)
  | wrongType (found : Json) (expected : String)
  | outOfRange (n : Int) (expected : String)
  | unknownVariant (name : String) (known : List String)
  | notOneKey
  | tooFewItems (count : Nat) (record : String) (fields : Nat)
  | tooManyItems (form : ArrayForm) (count : Nat) (fields : Nat)
  | negativeQuantity (n : Int)
  | unreadableQuantity (cause : Quantity.ReadError) (text : String)
  | unsupportedPair (chain : Chain) (symbol : Symbol)
deriving Repr

namespace Json

def description : Json → String
  | .null => "null"
  | .bool b => "boolean `" ++ (if b then "true" else "false") ++ "`"
  | .int n => "integer `" ++ Text.integer n ++ "`"
  | .float x => "floating point `" ++ x.text ++ "`"
  | .str s => "string " ++ Text.quoted s
  | .arr _ => "sequence"
  | .obj _ => "map"

end Json

def countOf (n : Nat) (noun : String) : String :=
  Text.decimal n ++ " " ++ noun ++ (if n = 1 then "" else "s")

namespace DecodeError

def message : DecodeError → String
  | missingField name => "missing field `" ++ name ++ "`"
  | duplicateField name => "duplicate field `" ++ name ++ "`"
  | wrongType found expected =>
    "invalid type: " ++ found.description ++ ", expected " ++ expected
  | outOfRange n expected =>
    "invalid value: integer `" ++ Text.integer n ++ "`, expected " ++ expected
  | unknownVariant name known =>
    "unknown variant `" ++ name ++ "`, expected one of " ++
      ", ".intercalate (known.map fun v => "`" ++ v ++ "`")
  | notOneKey => "invalid value: map, expected map with a single key"
  | tooFewItems count record fields =>
    "invalid length " ++ Text.decimal count ++ ", expected struct " ++ record ++ " with " ++
      countOf fields "element"
  | tooManyItems .plain count _ =>
    "invalid length " ++ Text.decimal count ++ ", expected fewer elements in array"
  | tooManyItems .inUnion count fields =>
    "invalid length " ++ Text.decimal count ++ ", expected " ++ countOf fields "element" ++
      " in sequence"
  | negativeQuantity n => "negative integer " ++ Text.integer n
  | unreadableQuantity cause text => cause.message ++ ": " ++ Text.quoted text
  | unsupportedPair chain symbol => (NameError.unsupportedPair chain symbol).message

end DecodeError

structure Decoder (α : Type) where
  /-- What of a value can matter. -/
  need : Json.Need
  run : Json → Except DecodeError α

namespace Decoder

variable {α β : Type}

instance : CoeFun (Decoder α) fun _ => Json → Except DecodeError α where
  coe := run

def whole (run : Json → Except DecodeError α) : Decoder α :=
  ⟨.all, run⟩

def andThen (d : Decoder α) (f : α → Except DecodeError β) : Decoder β :=
  ⟨d.need, fun j => d j >>= f⟩

def map (f : α → β) (d : Decoder α) : Decoder β :=
  ⟨d.need, fun j => (d j).map f⟩

def read? (d : Decoder α) (text : String) : Option α := do
  (d (← Json.read? d.need text)).toOption

def text : Decoder String := whole fun
  | .str s => .ok s
  | other => .error (.wrongType other "a string")

def boolean : Decoder Bool := whole fun
  | .bool b => .ok b
  | other => .error (.wrongType other "a boolean")

def natural (limit : Nat) (expected : String) : Decoder Nat := whole fun
  | .int n =>
    if 0 ≤ n ∧ n < limit then .ok n.toNat else .error (.outOfRange n expected)
  | other => .error (.wrongType other expected)

def uint16 : Decoder UInt16 :=
  (natural UInt16.size "u16").map UInt16.ofNat

def uint32 : Decoder UInt32 :=
  (natural UInt32.size "u32").map UInt32.ofNat

def uint64 : Decoder UInt64 :=
  (natural UInt64.size "u64").map UInt64.ofNat

def int64 : Decoder Int := whole fun
  | .int n =>
    if Int64.minValue.toInt ≤ n ∧ n ≤ Int64.maxValue.toInt then .ok n else .error (.outOfRange n "i64")
  | other => .error (.wrongType other "i64")

def any : Decoder Json :=
  whole .ok

def nullable (d : Decoder α) : Decoder (Option α) where
  need := d.need
  run
    | .null => .ok none
    | other => (d other).map some

def list (d : Decoder α) : Decoder (List α) where
  need := .items d.need
  run
    | .arr items => items.mapM d
    | other => .error (.wrongType other "a sequence")

def variant (all : List α) (name : α → String) (text : String) : Except DecodeError α :=
  match all.find? (name · = text) with
  | some entry => .ok entry
  | none => .error (.unknownVariant text (all.map name))

/-- One of a list of entries, written as its name or as an object with its name as the only key
and null as the value. -/
def oneOf (all : List α) (name : α → String) : Decoder α := whole fun
  | .str text => variant all name text
  | .obj [(key, value)] => do
    let entry ← variant all name key
    match value with
    | .null => return entry
    | other => throw (.wrongType other "unit")
  | .obj _ => .error .notOneKey
  | other => .error (.wrongType other "string or map")

/-- A quantity written as a natural number below `2 ^ 64`, as a decimal or as a hex numeral. -/
def quantity : Decoder Quantity := whole fun
  | .int n =>
    if n < 0 then .error (.negativeQuantity n)
    else if h : n.toNat < UInt64.size then .ok ⟨n.toNat, Nat.lt_trans h (by decide)⟩
    else .error (.wrongType (.int n) "a non-negative integer or a hex string")
  | .str s =>
    match Quantity.ofText s with
    | .ok q => .ok q
    | .error cause => .error (.unreadableQuantity cause s)
  | other => .error (.wrongType other "a non-negative integer or a hex string")

end Decoder

end SwapBroker
