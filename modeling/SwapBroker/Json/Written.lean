import SwapBroker.Json.Number

/-!
# JSON as it is written

A text may write what has no value: a number beyond floating point, half of a surrogate pair, or
containers nested too deep. This matters only where the value is needed, so a text is first read as
it is written, and the value is made of what is needed of it.
-/

namespace SwapBroker.Json

/-- A value as a text writes it. A string holds the numbers of its characters, and an escaped one
beyond 16 bits may be written as two surrogates. -/
inductive Written where
  | null
  | bool (b : Bool)
  | number (n : Numeral)
  | str (codes : List Nat)
  | arr (items : List Written)
  | obj (members : List (List Nat × Written))

inductive Need where
  | all
  | record (fields : List (String × Need))
  | items (each : Need)

namespace Need

def item : Need → Nat → Need
  | all, _ => all
  | record fields, i => (fields[i]?.map (·.2)).getD all
  | items each, _ => each

def member? (name : String) : Need → Option Need
  | record fields => (fields.find? (·.1 = name)).map (·.2)
  | _ => some all

end Need

namespace Written

/-- The characters with the given numbers, put onto `taken`. A surrogate counts only as part of a
pair. -/
def joinPairs? (taken : List Char) : List Nat → Option String
  | [] => some (String.ofList taken.reverse)
  | code :: rest =>
    if code < 0xd800 ∨ 0xdfff < code then joinPairs? (Char.ofNat code :: taken) rest
    else match rest with
      | low :: rest =>
        if code ≤ 0xdbff ∧ 0xdc00 ≤ low ∧ low ≤ 0xdfff then
          let c := Char.ofNat (0x10000 + (code - 0xd800) * 0x400 + (low - 0xdc00))
          joinPairs? (c :: taken) rest
        else none
      | [] => none

mutual
/-- The value of what is written, as far as it is needed: `depth` bounds the nesting of that part,
and members that do not matter are left out. The names of an object all have to be text. -/
def value? : (depth : Nat) → Need → Written → Option Json
  | _, _, .null => some .null
  | _, _, .bool b => some (.bool b)
  | _, _, .number n => n.value?
  | _, _, .str codes => (joinPairs? [] codes).map .str
  | 0, _, .arr _ => none
  | 0, _, .obj _ => none
  | depth + 1, need, .arr items => (itemValues? depth need 0 items).map .arr
  | depth + 1, need, .obj members => (memberValues? depth need members).map .obj
def itemValues? (depth : Nat) (need : Need) : (index : Nat) → List Written → Option (List Json)
  | _, [] => some []
  | index, item :: rest => do
    return (← item.value? depth (need.item index)) :: (← itemValues? depth need (index + 1) rest)
def memberValues? (depth : Nat) (need : Need) : List (List Nat × Written) → Option Members
  | [] => some []
  | (codes, written) :: rest => do
    let name ← joinPairs? [] codes
    match need.member? name with
    | none => memberValues? depth need rest
    | some part => do
      return (name, ← written.value? depth part) :: (← memberValues? depth need rest)
end

end Written

end SwapBroker.Json
