import Mathlib.Data.List.Nodup
import SwapBroker.Proofs.RecordForms

/-!
# Members that do not matter

To an object that is read as a record, members can be added without an effect: those that no field
asks for, and nulls for fields that are left out and may be. A shape says where in a value there are
such records. One addition is a step, `AddsMember`, and a decoder that respects a shape has the same
outcome after it, be it a value or an error.
-/

namespace SwapBroker

open Json Outcome

variable {α β : Type}

inductive Shape where
  | whole
  | items (each : Shape)
  /-- The name of each field, whether null may stand for it, and the shape of its value. -/
  | record (fields : List (String × Bool × Shape))

/-- A member is added somewhere in a value, with no effect on the records in it. -/
inductive AddsMember : Shape → Json → Json → Prop
  | unknown {fields : List (String × Bool × Shape)} {before after : Members} {name : String}
      {value : Json} (hname : name ∉ fields.map Prod.fst) :
      AddsMember (.record fields) (.obj (before ++ after)) (.obj (before ++ (name, value) :: after))
  | null {fields : List (String × Bool × Shape)} {before after : Members} {name : String}
      {shape : Shape} (hfield : (name, true, shape) ∈ fields)
      (habsent : name ∉ (before ++ after).map Prod.fst) :
      AddsMember (.record fields) (.obj (before ++ after)) (.obj (before ++ (name, .null) :: after))
  | inMember {fields : List (String × Bool × Shape)} {before after : Members} {name : String}
      {nullable : Bool} {shape : Shape} {value value' : Json}
      (hfield : (name, nullable, shape) ∈ fields) (hvalue : AddsMember shape value value') :
      AddsMember (.record fields) (.obj (before ++ (name, value) :: after))
        (.obj (before ++ (name, value') :: after))
  | inItem {shape : Shape} {before after : List Json} {item item' : Json}
      (hitem : AddsMember shape item item') :
      AddsMember (.items shape) (.arr (before ++ item :: after)) (.arr (before ++ item' :: after))

-- ---------------------------------------------------------------------------
-- Decoders
-- ---------------------------------------------------------------------------

namespace Decoder

def Respects (shape : Shape) (d : Decoder α) : Prop :=
  ∀ j j', AddsMember shape j j' → d j' = d j

variable {shape : Shape} {d : Decoder α}

theorem respects_whole (d : Decoder α) : Respects .whole d := by
  intro j j' hadds
  cases hadds

theorem Respects.andThen (h : d.Respects shape) (f : α → Except DecodeError β) :
    (d.andThen f).Respects shape :=
  fun j j' hadds => congrArg (· >>= f) (h j j' hadds)

theorem Respects.nullable (h : d.Respects shape) : d.nullable.Respects shape := by
  intro j j' hadds
  have hsame : (d j').map some = (d j).map some := congrArg (Except.map some) (h j j' hadds)
  cases hadds with
  | unknown | null | inMember | inItem => exact hsame

theorem Respects.list (h : d.Respects shape) : (list d).Respects (.items shape) := by
  intro j j' hadds
  cases hadds with
  | inItem hitem =>
    simp only [Decoder.list, List.mapM_append, List.mapM_cons, h _ _ hitem]

end Decoder

-- ---------------------------------------------------------------------------
-- Records
-- ---------------------------------------------------------------------------

/-- What a field finds of its member before and after additions. -/
inductive SameField (nullable : Bool) (shape : Shape) : Option Json → Option Json → Prop
  | same (value : Option Json) : SameField nullable shape value value
  | null (h : nullable = true) : SameField nullable shape none (some .null)
  | adds {value value' : Json} (h : AddsMember shape value value') :
      SameField nullable shape (some value) (some value')

/-- A slot takes the values of a field for good, whatever is added to them. -/
structure Slot.Follows (slot : Slot) (field : String × Bool × Shape) : Prop where
  name : slot.name = field.1
  null : field.2.1 = true → slot.accepts .null = .ok ()
  adds : ∀ value value', AddsMember field.2.2 value value' →
    slot.accepts value' = slot.accepts value

namespace Record

structure Follows (r : Record α) (fields : List (String × Bool × Shape)) : Prop where
  regular : r.Regular
  slots : List.Forall₂ Slot.Follows r.slots fields
  build : ∀ ms ns, (∀ field ∈ fields,
    SameField field.2.1 field.2.2 (lookup? field.1 ms) (lookup? field.1 ns)) →
    r.build ns = r.build ms

variable {fields fields' : List (String × Bool × Shape)} {r : Record α} {shape : Shape}
  {d : Decoder α}

theorem follows_required (name : String) (h : d.Respects shape) :
    (required name d).Follows [(name, false, shape)] where
  regular := regular_field name d none
  slots := .cons ⟨rfl, Bool.noConfusion, fun value value' hadds =>
    congrArg (Except.map _) (h value value' hadds)⟩ .nil
  build ms ns hsame := by
    have hmember := hsame _ (List.mem_singleton.mpr rfl)
    simp only [required, field]
    generalize lookup? name ms = found at hmember
    generalize lookup? name ns = found' at hmember
    cases hmember with
    | same => rfl
    | null hnull => cases hnull
    | adds hadds => exact h _ _ hadds

theorem follows_optional (name : String) (h : d.Respects shape) :
    (optional name d).Follows [(name, true, shape)] where
  regular := regular_field name d.nullable (some none)
  slots := .cons ⟨rfl, fun _ => rfl, fun value value' hadds =>
    congrArg (Except.map _) (h.nullable value value' hadds)⟩ .nil
  build ms ns hsame := by
    have hmember := hsame _ (List.mem_singleton.mpr rfl)
    simp only [optional, field]
    generalize lookup? name ms = found at hmember
    generalize lookup? name ns = found' at hmember
    cases hmember with
    | same => rfl
    | null => rfl
    | adds hadds => exact h.nullable _ _ hadds

theorem Follows.map (h : r.Follows fields) (f : α → β) : (f <$> r).Follows fields where
  regular := h.regular.map f
  slots := h.slots
  build ms ns hsame := congrArg (Except.map f) (h.build ms ns hsame)

theorem Follows.seq {f : Record (α → β)} (hf : f.Follows fields) (hr : r.Follows fields') :
    (f <*> r).Follows (fields ++ fields') where
  regular := hf.regular.seq hr.regular
  slots := List.rel_append hf.slots hr.slots
  build ms ns hsame := by
    show (f.build ns >>= fun g => r.build ns >>= fun a => pure (g a)) =
      (f.build ms >>= fun g => r.build ms >>= fun a => pure (g a))
    rw [hf.build ms ns fun field hfield => hsame field (List.mem_append_left _ hfield),
      hr.build ms ns fun field hfield => hsame field (List.mem_append_right _ hfield)]

-- ---------------------------------------------------------------------------
-- What the fields find
-- ---------------------------------------------------------------------------

theorem sameField_of_addsMember {ms ns : Members} (hnames : (fields.map Prod.fst).Nodup)
    (h : AddsMember (.record fields) (.obj ms) (.obj ns)) {f : String × Bool × Shape}
    (hf : f ∈ fields) : SameField f.2.1 f.2.2 (lookup? f.1 ms) (lookup? f.1 ns) := by
  cases h with
  | @unknown _ before after name value hname =>
    have hne : name ≠ f.1 := fun heq => hname (heq ▸ List.mem_map_of_mem hf)
    rw [lookup?_append, lookup?_append, lookup?_cons, if_neg hne]
    exact .same _
  | @null _ before after name shape hfield habsent =>
    rw [lookup?_append _ before (_ :: _), lookup?_cons]
    split
    next heq =>
      obtain rfl := List.inj_on_of_nodup_map hnames hfield hf heq
      rw [List.map_append, List.mem_append, not_or] at habsent
      rw [lookup?_append, lookup?_eq_none habsent.1, lookup?_eq_none habsent.2]
      exact .null rfl
    next =>
      rw [lookup?_append]
      exact .same _
  | @inMember _ before after name nullable shape value value' hfield hvalue =>
    rw [lookup?_append, lookup?_append, lookup?_cons, lookup?_cons]
    split
    next heq =>
      obtain rfl := List.inj_on_of_nodup_map hnames hfield hf heq
      cases lookup? name before with
      | some _ => exact .same _
      | none => exact .adds hvalue
    next => exact .same _

-- ---------------------------------------------------------------------------
-- Examining
-- ---------------------------------------------------------------------------

variable {slots : List Slot}

theorem find?_slot (h : List.Forall₂ Slot.Follows slots fields)
    (hnames : (fields.map Prod.fst).Nodup) {f : String × Bool × Shape} (hf : f ∈ fields) :
    ∃ slot, slots.find? (·.name = f.1) = some slot ∧ slot.Follows f := by
  induction h with
  | nil => cases hf
  | @cons slot first slots rest hslot _ ih =>
    obtain ⟨hfirst, hrest⟩ := List.nodup_cons.mp hnames
    rcases List.mem_cons.mp hf with rfl | hmem
    · exact ⟨slot, by simp [hslot.name], hslot⟩
    · have hne : slot.name ≠ f.1 := fun heq =>
        hfirst ((hslot.name.symm.trans heq) ▸ List.mem_map_of_mem hmem)
      rw [List.find?_cons_of_neg (by simpa using hne)]
      exact ih hrest hmem

theorem find?_no_slot (h : List.Forall₂ Slot.Follows slots fields) {name : String}
    (hname : name ∉ fields.map Prod.fst) : slots.find? (·.name = name) = none := by
  induction h with
  | nil => rfl
  | @cons slot first slots rest hslot _ ih =>
    rw [List.map_cons, List.mem_cons, not_or] at hname
    rw [List.find?_cons_of_neg (by simpa [hslot.name] using Ne.symm hname.1)]
    exact ih hname.2

theorem checkMembers_seen {seen seen' : List String} {members : Members}
    (h : ∀ name ∈ members.map Prod.fst, name ∈ seen ↔ name ∈ seen') :
    checkMembers slots seen members = checkMembers slots seen' members := by
  induction members generalizing seen seen' with
  | nil => rfl
  | cons m rest ih =>
    obtain ⟨name, value⟩ := m
    obtain ⟨hname, hrest⟩ := List.forall_mem_cons.mp h
    unfold checkMembers
    split
    · exact ih hrest
    next slot hslot =>
      simp only [hname]
      split
      · rfl
      · refine congrArg (slot.accepts value >>= ·) (funext fun _ => ih fun n hn => ?_)
        simp only [List.mem_cons, hrest n hn]

theorem checkMembers_append {seen : List String} {before ms ns : Members}
    (h : ∀ seen', (∀ name ∈ seen', name ∈ seen ∨ name ∈ before.map Prod.fst) →
      checkMembers slots seen' ms = checkMembers slots seen' ns) :
    checkMembers slots seen (before ++ ms) = checkMembers slots seen (before ++ ns) := by
  induction before generalizing seen with
  | nil => exact h seen fun name hname => .inl hname
  | cons m before ih =>
    obtain ⟨name, value⟩ := m
    simp only [List.cons_append, checkMembers]
    split
    · refine ih fun seen' hseen => h seen' fun n hn => ?_
      exact (hseen n hn).imp_right (List.mem_cons_of_mem _)
    next slot hslot =>
      split
      · rfl
      · -- From here on the name has been seen too, and it is one of the names in front.
        refine congrArg (slot.accepts value >>= ·) (funext fun _ => ih fun seen' hseen => ?_)
        refine h seen' fun n hn => ?_
        rcases hseen n hn with hmem | hmem
        · rcases List.mem_cons.mp hmem with rfl | hmem
          · exact .inr List.mem_cons_self
          · exact .inl hmem
        · exact .inr (List.mem_cons_of_mem _ hmem)

theorem checkMembers_of_addsMember (h : List.Forall₂ Slot.Follows slots fields)
    (hnames : (fields.map Prod.fst).Nodup) {ms ns : Members}
    (hadds : AddsMember (.record fields) (.obj ms) (.obj ns)) :
    checkMembers slots [] ms = checkMembers slots [] ns := by
  cases hadds with
  | @unknown _ before after name value hname =>
    refine checkMembers_append fun seen _ => ?_
    simp only [checkMembers, find?_no_slot h hname]
  | @null _ before after name shape hfield habsent =>
    obtain ⟨slot, hslot, hfollows⟩ := find?_slot h hnames hfield
    rw [List.map_append, List.mem_append, not_or] at habsent
    refine checkMembers_append fun seen hseen => ?_
    have hunseen : name ∉ seen := fun hmem =>
      (hseen name hmem).elim List.not_mem_nil habsent.1
    simp only [checkMembers, hslot, if_neg hunseen, hfollows.null rfl]
    -- The name of the added null is not among those that follow it.
    refine checkMembers_seen fun n hn => ?_
    have hne : n ≠ name := fun heq => habsent.2 (heq ▸ hn)
    simp [hne]
  | @inMember _ before after name nullable shape value value' hfield hvalue =>
    obtain ⟨slot, hslot, hfollows⟩ := find?_slot h hnames hfield
    refine checkMembers_append fun seen _ => ?_
    simp only [checkMembers, hslot, hfollows.adds value value' hvalue]

theorem Follows.respects {name : String} {form : ArrayForm} (h : r.Follows fields)
    (hnames : (fields.map Prod.fst).Nodup) : (r.decode name form).Respects (.record fields) := by
  intro j j' hadds
  have hobj {ms ns : Members} (hmembers : AddsMember (.record fields) (.obj ms) (.obj ns)) :
      r.decode name form (.obj ns) = r.decode name form (.obj ms) := by
    show (checkMembers r.slots [] ns >>= fun _ => r.build ns) =
      (checkMembers r.slots [] ms >>= fun _ => r.build ms)
    rw [checkMembers_of_addsMember h.slots hnames hmembers,
      h.build ms ns fun _ hf => sameField_of_addsMember hnames hmembers hf]
  cases hadds with
  | unknown hname => exact hobj (.unknown hname)
  | null hfield habsent => exact hobj (.null hfield habsent)
  | inMember hfield hvalue => exact hobj (.inMember hfield hvalue)

end Record

end SwapBroker
