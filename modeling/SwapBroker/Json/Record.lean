import SwapBroker.Json.Decode

/-!
# Records

A record type is written as an object, whose members may come in any order among others that do not
matter, or as an array of its fields in their order. A description of the record is put together
field by field; `Record.decode` reads both forms by it.

The values are examined in the order in which they stand, and the first that its field refuses is
the error. Only then are absent fields looked for, in the order of the record.
-/

namespace SwapBroker

structure Slot where
  name : String
  /-- Whether an array may end before the field. -/
  mayBeAbsent : Bool
  need : Json.Need
  accepts : Json → Except DecodeError Unit

structure Record (α : Type) where
  slots : List Slot
  build : Json.Members → Except DecodeError α

namespace Record

variable {α β : Type}

/-- A field; when it is absent, `fallback` stands in for it if there is one. -/
def field (name : String) (decode : Decoder α) (fallback : Option α) : Record α where
  slots := [⟨name, fallback.isSome, decode.need, fun j => (decode j).map fun _ => ()⟩]
  build members :=
    match Json.lookup? name members, fallback with
    | some value, _ => decode value
    | none, some value => .ok value
    | none, none => .error (.missingField name)

def required (name : String) (decode : Decoder α) : Record α :=
  field name decode none

def optional (name : String) (decode : Decoder α) : Record (Option α) :=
  field name (Decoder.nullable decode) (some none)

def withDefault (name : String) (decode : Decoder α) (value : α) : Record α :=
  field name decode (some value)

def map (f : α → β) (r : Record α) : Record β where
  slots := r.slots
  build members := (r.build members).map f

def apply (f : Record (α → β)) (r : Unit → Record α) : Record β where
  slots := f.slots ++ (r ()).slots
  build members := do
    let g ← f.build members
    return g (← (r ()).build members)

instance : Functor Record where
  map := map

instance : Seq Record where
  seq := apply

/-- Examines the members in their order. One that names no field is skipped, and one that names a
field a second time is refused. -/
def checkMembers (slots : List Slot) : (seen : List String) → Json.Members → Except DecodeError Unit
  | _, [] => .ok ()
  | seen, (name, value) :: rest =>
    match slots.find? (·.name = name) with
    | none => checkMembers slots seen rest
    | some slot =>
      if name ∈ seen then .error (.duplicateField name)
      else do
        slot.accepts value
        checkMembers slots (name :: seen) rest

def nameItems (error : Bool → DecodeError) : List Slot → List Json → Except DecodeError Json.Members
  | [], [] => .ok []
  | [], _ :: _ => .error (error true)
  | slot :: slots, item :: items => do
    slot.accepts item
    return (slot.name, item) :: (← nameItems error slots items)
  | slot :: slots, [] => if slot.mayBeAbsent then nameItems error slots [] else .error (error false)

def decode (name : String) (form : ArrayForm) (r : Record α) : Decoder α where
  need := .record (r.slots.map fun slot => (slot.name, slot.need))
  run
    | .obj members => do
      checkMembers r.slots [] members
      r.build members
    | .arr items => do
      let fields := r.slots.length
      let members ← nameItems
        (fun tooMany =>
          if tooMany then .tooManyItems form items.length fields
          else .tooFewItems items.length name fields)
        r.slots items
      r.build members
    | other => .error (.wrongType other ("struct " ++ name))

end Record

end SwapBroker
