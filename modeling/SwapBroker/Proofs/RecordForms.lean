import SwapBroker.Proofs.RecordReading

/-!
# Records written as arrays

A record is also read from the array of its fields in their order. Such an array stands for the
object that has its items under the names of the fields, `Json.named`, and is read exactly when that
object is. This is a law of every record that is put together of fields under different names.
-/

namespace SwapBroker

open Json Outcome

variable {α β : Type}

namespace Json

/-- The object for which an array of fields stands. An array that is too long stands for none, and
other values stand for themselves. -/
def named (names : List String) : Json → Json
  | .arr items => if items.length ≤ names.length then .obj (names.zip items) else .arr items
  | other => other

@[simp] theorem named_obj (names : List String) (members : Members) :
    named names (.obj members) = .obj members := rfl

theorem named_arr (names : List String) (items : List Json) :
    named names (.arr items) =
      if items.length ≤ names.length then .obj (names.zip items) else .arr items := rfl

theorem exists_members_of_member? {name : String} {j value : Json}
    (h : j.member? name = some value) : ∃ members, j = .obj members := by
  cases j with
  | obj members => exact ⟨members, rfl⟩
  | _ => cases h

theorem names_zip (names : List String) (items : List Json) :
    (names.zip items).map Prod.fst = names.take items.length := by
  induction names generalizing items with
  | nil => simp
  | cons name names ih =>
    cases items with
    | nil => rfl
    | cons item items => exact congrArg (name :: ·) (ih items)

theorem nodup_names_zip {names : List String} (hnames : names.Nodup) (items : List Json) :
    ((names.zip items).map Prod.fst).Nodup :=
  names_zip names items ▸ hnames.sublist (List.take_sublist _ _)

theorem HasDistinctNames.named {names : List String} {j : Json} (hnames : names.Nodup)
    (h : j.HasDistinctNames) : (j.named names).HasDistinctNames := by
  cases j with
  | arr items =>
    rw [hasDistinctNames_arr] at h
    rw [named_arr]
    split
    · refine hasDistinctNames_obj.mpr ⟨nodup_names_zip hnames items, ?_⟩
      rintro ⟨name, value⟩ hm
      exact h value (List.of_mem_zip hm).2
    · exact hasDistinctNames_arr.mpr h
  | _ => exact h

end Json

namespace Record

variable {r : Record α}

def names (r : Record α) : List String :=
  r.slots.map Slot.name

def Complete (r : Record α) : Prop :=
  ∀ members a, r.build members = .ok a →
    ∀ slot ∈ r.slots, lookup? slot.name members = none → slot.mayBeAbsent = true

theorem complete_field (name : String) (d : Decoder α) (fallback : Option α) :
    (field name d fallback).Complete := by
  intro members a h slot hslot habsent
  obtain rfl := List.mem_singleton.mp hslot
  cases fallback with
  | some _ => rfl
  | none =>
    simp only at habsent
    simp only [field, habsent, reduceCtorEq] at h

theorem Complete.map (h : r.Complete) (f : α → β) : (f <$> r).Complete := by
  intro members b hb
  obtain ⟨a, ha, -⟩ := build_map_ok.mp hb
  exact h members a ha

theorem Complete.seq {f : Record (α → β)} (hf : f.Complete) (hr : r.Complete) :
    (f <*> r).Complete := by
  intro members b hb slot hslot
  obtain ⟨g, hg, a, ha, -⟩ := build_seq_ok.mp hb
  rcases List.mem_append.mp hslot with hmem | hmem
  · exact hf members g hg slot hmem
  · exact hr members a ha slot hmem

structure Regular (r : Record α) : Prop where
  lawful : r.Lawful
  complete : r.Complete

theorem regular_field (name : String) (d : Decoder α) (fallback : Option α) :
    (field name d fallback).Regular :=
  ⟨lawful_field name d fallback, complete_field name d fallback⟩

theorem Regular.map (h : r.Regular) (f : α → β) : (f <$> r).Regular :=
  ⟨h.lawful.map f, h.complete.map f⟩

theorem Regular.seq {f : Record (α → β)} (hf : f.Regular) (hr : r.Regular) : (f <*> r).Regular :=
  ⟨hf.lawful.seq hr.lawful, hf.complete.seq hr.complete⟩

/-- The items fill the first fields, and the others may be absent. -/
theorem nameItems_ok {error : Bool → DecodeError} {slots : List Slot} {items : List Json}
    {members : Members} :
    nameItems error slots items = .ok members ↔
      items.length ≤ slots.length ∧ (∀ slot ∈ slots.drop items.length, slot.mayBeAbsent = true) ∧
      (∀ p ∈ slots.zip items, p.1.accepts p.2 = .ok ()) ∧
      (slots.map Slot.name).zip items = members := by
  induction slots generalizing items members with
  | nil => cases items <;> simp [nameItems]
  | cons slot slots ih =>
    cases items with
    | nil =>
      unfold nameItems
      split
      next habsent => rw [ih]; simp [habsent]
      next habsent => simp [habsent]
    | cons item items =>
      simp only [nameItems, bind_ok_iff, exists_check_ok_iff, pure_ok_iff, ih]
      simp only [List.length_cons, Nat.succ_le_succ_iff, List.drop_succ_cons, List.zip_cons_cons,
        List.forall_mem_cons, List.map_cons]
      constructor
      · rintro ⟨haccepts, rest, ⟨hlength, habsent, hrest, rfl⟩, rfl⟩
        exact ⟨hlength, habsent, ⟨haccepts, hrest⟩, rfl⟩
      · rintro ⟨hlength, habsent, ⟨haccepts, hrest⟩, rfl⟩
        exact ⟨haccepts, _, ⟨hlength, habsent, hrest, rfl⟩, rfl⟩

theorem decode_arr_ok {name : String} {form : ArrayForm} {a : α} {items : List Json}
    (hr : r.Regular) (hnames : r.names.Nodup) :
    r.decode name form (.arr items) = .ok a ↔
      items.length ≤ r.names.length ∧ r.build (r.names.zip items) = .ok a := by
  have hdecode : r.decode name form (.arr items) = .ok a ↔
      ∃ members, nameItems (fun tooMany =>
        if tooMany then .tooManyItems form items.length r.slots.length
        else .tooFewItems items.length name r.slots.length) r.slots items = .ok members ∧
        r.build members = .ok a := bind_ok_iff
  have hlength : r.names.length = r.slots.length := List.length_map _
  rw [hdecode, hlength]
  constructor
  · rintro ⟨members, hitems, hbuild⟩
    obtain ⟨hle, -, -, rfl⟩ := nameItems_ok.mp hitems
    exact ⟨hle, hbuild⟩
  · rintro ⟨hle, hbuild⟩
    refine ⟨_, nameItems_ok.mpr ⟨hle, ?_, ?_, rfl⟩, hbuild⟩
    · -- A field beyond the last item has no member, since its name is not one of the names before.
      intro slot hslot
      refine hr.complete _ a hbuild slot (List.mem_of_mem_drop hslot) ?_
      cases hvalue : lookup? slot.name (r.names.zip items) with
      | none => rfl
      | some value =>
        have hbefore : slot.name ∈ r.names.take items.length :=
          names_zip r.names items ▸ List.mem_map_of_mem (mem_of_lookup? hvalue)
        have hafter : slot.name ∈ r.names.drop items.length := by
          rw [names, ← List.map_drop]
          exact List.mem_map_of_mem hslot
        exact absurd hafter (List.disjoint_take_drop hnames (Nat.le_refl _) hbefore)
    · rintro ⟨slot, item⟩ hp
      have hmem : (slot.name, item) ∈ r.names.zip items := by
        rw [names, List.zip_map_left]
        exact List.mem_map_of_mem hp
      exact hr.lawful _ a hbuild slot (List.of_mem_zip hp).1 item
        (lookup?_of_mem (nodup_names_zip hnames items) hmem)

theorem exists_build_of_decode {name : String} {form : ArrayForm} {a : α} {j : Json}
    (hr : r.Regular) (hnames : r.names.Nodup) (h : r.decode name form j = .ok a) :
    ∃ members, j.named r.names = .obj members ∧ r.build members = .ok a := by
  cases j with
  | obj members =>
    obtain ⟨_, -, hbuild⟩ := bind_ok_iff.mp h
    exact ⟨members, rfl, hbuild⟩
  | arr items =>
    obtain ⟨hle, hbuild⟩ := (decode_arr_ok hr hnames).mp h
    exact ⟨_, by rw [named_arr, if_pos hle], hbuild⟩
  | _ => cases h

theorem decode_ok {name : String} {form : ArrayForm} {a : α} {j : Json} (hr : r.Regular)
    (hnames : r.names.Nodup) (hj : j.HasDistinctNames) :
    r.decode name form j = .ok a ↔
      ∃ members, j.named r.names = .obj members ∧ r.build members = .ok a := by
  refine ⟨exists_build_of_decode hr hnames, ?_⟩
  rintro ⟨members, hform, hbuild⟩
  cases j with
  | obj _ =>
    cases hform
    exact (decode_obj_ok hr.lawful (hasDistinctNames_obj.mp hj).1).mpr hbuild
  | arr items =>
    rw [named_arr] at hform
    split at hform
    next hle =>
      cases hform
      exact (decode_arr_ok hr hnames).mpr ⟨hle, hbuild⟩
    next => cases hform
  | _ => cases hform

/-- A record is read from a value when that value spells it, be it as the object for which the
value stands. -/
theorem decode_ok_iff (spelled : Json → Prop) {name : String} {form : ArrayForm} {a : α} {j : Json}
    (hr : r.Regular) (hnames : r.names.Nodup) (hj : j.HasDistinctNames)
    (hbuild : ∀ members, j.named r.names = .obj members →
      (r.build members = .ok a ↔ spelled (.obj members)))
    (hobj : ∀ i, spelled i → ∃ members, i = .obj members) :
    r.decode name form j = .ok a ↔ spelled (j.named r.names) := by
  rw [decode_ok hr hnames hj]
  constructor
  · rintro ⟨members, hform, h⟩
    exact hform ▸ (hbuild members hform).mp h
  · intro h
    obtain ⟨members, hform⟩ := hobj _ h
    exact ⟨members, hform, (hbuild members hform).mpr (hform ▸ h)⟩

end Record

end SwapBroker
