import Mathlib.Data.List.Forall2
import SwapBroker.Json.Record
import SwapBroker.Proofs.ObjectNames
import SwapBroker.Proofs.Outcomes

/-!
# Reading records

A record is read from every object that holds its fields, whatever other members the object has. The
examination of the members never refuses what the fields accept: this is a law of every record that
is put together of fields, so that it suffices to know from which members a record is built.
-/

namespace SwapBroker

open Json Outcome

variable {α β : Type}

-- ---------------------------------------------------------------------------
-- Values of one type
-- ---------------------------------------------------------------------------

namespace Decoder

theorem text_ok {j : Json} {s : String} : text j = .ok s ↔ j = .str s := by
  cases j <;> simp [text, whole]

theorem boolean_ok {j : Json} {b : Bool} : boolean j = .ok b ↔ j = .bool b := by
  cases j <;> simp [boolean, whole]

theorem natural_ok {limit : Nat} {expected : String} {j : Json} {n : Nat} :
    natural limit expected j = .ok n ↔ j = .int n ∧ n < limit := by
  cases j with
  | int m =>
    simp only [natural, whole]
    split
    next h => simp only [Except.ok.injEq, Json.int.injEq]; omega
    next h => simp only [reduceCtorEq, Json.int.injEq, false_iff]; omega
  | _ => simp [natural, whole]

theorem natural_map_ok {limit : Nat} {expected : String} {of : Nat → α} {toNat : α → Nat}
    (hlt : ∀ a, toNat a < limit) (hof : ∀ a, of (toNat a) = a) (hto : ∀ n < limit, toNat (of n) = n)
    {j : Json} {a : α} : (natural limit expected).map of j = .ok a ↔ j = .int (toNat a) := by
  simp only [map, map_ok_iff, natural_ok]
  constructor
  · rintro ⟨n, ⟨rfl, hn⟩, rfl⟩
    rw [hto n hn]
  · rintro rfl
    exact ⟨toNat a, ⟨rfl, hlt a⟩, hof a⟩

theorem uint16_ok {j : Json} {n : UInt16} : uint16 j = .ok n ↔ j = .int n.toNat :=
  natural_map_ok UInt16.toNat_lt (fun _ => UInt16.ofNat_toNat) fun _ => UInt16.toNat_ofNat_of_lt'

theorem uint32_ok {j : Json} {n : UInt32} : uint32 j = .ok n ↔ j = .int n.toNat :=
  natural_map_ok UInt32.toNat_lt (fun _ => UInt32.ofNat_toNat) fun _ => UInt32.toNat_ofNat_of_lt'

theorem uint64_ok {j : Json} {n : UInt64} : uint64 j = .ok n ↔ j = .int n.toNat :=
  natural_map_ok UInt64.toNat_lt (fun _ => UInt64.ofNat_toNat) fun _ => UInt64.toNat_ofNat_of_lt'

theorem nullable_ok {d : Decoder α} {j : Json} {a : Option α} :
    nullable d j = .ok a ↔ j = .null ∧ a = none ∨ j ≠ .null ∧ ∃ b, d j = .ok b ∧ a = some b := by
  have hother (hj : j ≠ .null) : nullable d j = (d j).map some := by
    cases j <;> first | rfl | exact absurd rfl hj
  by_cases hj : j = .null
  · subst hj
    simp [nullable, eq_comm]
  · rw [hother hj, map_ok_iff]
    simp [hj, eq_comm]

/-- Names that tell entries apart can be read back. -/
theorem variant_ok {all : List α} {name : α → String} (hinj : ∀ a ∈ all, ∀ b ∈ all,
    name a = name b → a = b) {text : String} {entry : α} :
    variant all name text = .ok entry ↔ entry ∈ all ∧ name entry = text := by
  unfold variant
  cases h : all.find? (name · = text) with
  | none =>
    simp only [List.find?_eq_none, decide_eq_true_eq] at h
    simp only [reduceCtorEq, false_iff, not_and]
    exact h entry
  | some found =>
    have hmem := List.mem_of_find?_eq_some h
    have hname : name found = text := by simpa using List.find?_some h
    simp only [Except.ok.injEq]
    constructor
    · rintro rfl
      exact ⟨hmem, hname⟩
    · rintro ⟨hentry, htext⟩
      exact hinj found hmem entry hentry (hname.trans htext.symm)

theorem mapM_ok {f : α → Except DecodeError β} {as : List α} {bs : List β} :
    as.mapM f = .ok bs ↔ List.Forall₂ (fun a b => f a = .ok b) as bs := by
  induction as generalizing bs with
  | nil => simp [pure, Except.pure, eq_comm]
  | cons a as ih =>
    simp only [List.mapM_cons, bind_ok_iff, pure_ok_iff, ih]
    constructor
    · rintro ⟨b, hb, bs, hbs, rfl⟩
      exact .cons hb hbs
    · rintro (_ | ⟨hb, hbs⟩)
      exact ⟨_, hb, _, hbs, rfl⟩

theorem list_ok {d : Decoder α} {j : Json} {as : List α} :
    list d j = .ok as ↔ ∃ items, j = .arr items ∧ List.Forall₂ (fun i a => d i = .ok a) items as := by
  cases j <;> simp [list, mapM_ok]

end Decoder

inductive Quantity.WrittenAs (q : Quantity) : Json → Prop
  | integer (h : q.toNat < UInt64.size) : WrittenAs q (.int q.toNat)
  | numeral (s : String) (h : Quantity.ofText s = .ok q) : WrittenAs q (.str s)

theorem Decoder.quantity_of_writtenAs {q : Quantity} {j : Json} (h : q.WrittenAs j) :
    Decoder.quantity j = .ok q := by
  cases h with
  | integer h =>
    have hpos : ¬ (q.toNat : Int) < 0 := by omega
    have hsize : (q.toNat : Int).toNat < UInt64.size := h
    simp only [quantity, whole, if_neg hpos, dif_pos hsize]
    rfl
  | numeral s h => simp [quantity, whole, h]

theorem Decoder.quantity_ok {q : Quantity} {j : Json} :
    Decoder.quantity j = .ok q ↔ q.WrittenAs j := by
  refine ⟨fun h => ?_, quantity_of_writtenAs⟩
  cases j with
  | int n =>
    simp only [quantity, whole] at h
    split at h
    next => cases h
    next hpos =>
      split at h
      next hsize =>
        cases h
        have hn : ((n.toNat : Nat) : Int) = n := Int.toNat_of_nonneg (Int.not_lt.mp hpos)
        have hwritten := Quantity.WrittenAs.integer
          (q := ⟨n.toNat, Nat.lt_trans hsize (by decide)⟩) hsize
        rwa [hn] at hwritten
      next => cases h
  | str s =>
    simp only [quantity, whole] at h
    split at h
    next hread =>
      cases h
      exact .numeral s hread
    next => cases h
  | _ => cases h

-- ---------------------------------------------------------------------------
-- Building
-- ---------------------------------------------------------------------------

namespace Record

variable {members : Members}

theorem build_map_ok {f : α → β} {r : Record α} {b : β} :
    (f <$> r).build members = .ok b ↔ ∃ a, r.build members = .ok a ∧ f a = b :=
  map_ok_iff

theorem build_seq_ok {f : Record (α → β)} {r : Record α} {b : β} :
    (f <*> r).build members = .ok b ↔
      ∃ g, f.build members = .ok g ∧ ∃ a, r.build members = .ok a ∧ g a = b := by
  show (f.build members >>= fun g => r.build members >>= fun a => pure (g a)) = .ok b ↔ _
  simp only [bind_ok_iff, pure_ok_iff]

theorem build_required_ok {name : String} {d : Decoder α} {a : α} :
    (required name d).build members = .ok a ↔
      ∃ value, lookup? name members = some value ∧ d value = .ok a := by
  cases h : lookup? name members <;> simp [required, field, h]

theorem build_optional_ok {name : String} {d : Decoder α} {a : Option α} :
    (optional name d).build members = .ok a ↔
      lookup? name members = none ∧ a = none ∨
        ∃ value, lookup? name members = some value ∧ Decoder.nullable d value = .ok a := by
  cases h : lookup? name members <;> simp [optional, field, h, eq_comm]

theorem build_map {r : Record α} {a : α} (h : r.build members = .ok a) (f : α → β) :
    (f <$> r).build members = .ok (f a) :=
  build_map_ok.mpr ⟨a, h, rfl⟩

theorem build_seq {f : Record (α → β)} {r : Record α} {g : α → β} {a : α}
    (hf : f.build members = .ok g) (hr : r.build members = .ok a) :
    (f <*> r).build members = .ok (g a) :=
  build_seq_ok.mpr ⟨g, hf, a, hr, rfl⟩

theorem build_required {name : String} {d : Decoder α} {a : α} {value : Json}
    (hvalue : lookup? name members = some value) (hd : d value = .ok a) :
    (required name d).build members = .ok a :=
  build_required_ok.mpr ⟨value, hvalue, hd⟩

theorem build_optional {name : String} {d : Decoder α} {written : Json → α → Prop} {o : Option α}
    (h : Option.Rel written (lookup? name members) o)
    (hread : ∀ value a, written value a → value ≠ .null ∧ d value = .ok a) :
    (optional name d).build members = .ok o := by
  rw [build_optional_ok]
  generalize lookup? name members = found at h
  cases h with
  | none => exact .inl ⟨rfl, rfl⟩
  | some hwritten =>
    obtain ⟨hnull, hd⟩ := hread _ _ hwritten
    exact .inr ⟨_, rfl, Decoder.nullable_ok.mpr (.inr ⟨hnull, _, hd, rfl⟩)⟩

theorem build_optional_map {name : String} {d : Decoder α} {f : α → Json} {o : Option α}
    (h : lookup? name members = o.map f) (hread : ∀ a, f a ≠ .null ∧ d (f a) = .ok a) :
    (optional name d).build members = .ok o := by
  cases o with
  | none => exact build_optional_ok.mpr (.inl ⟨h, rfl⟩)
  | some a =>
    obtain ⟨hnull, hd⟩ := hread a
    exact build_optional_ok.mpr (.inr ⟨f a, h, Decoder.nullable_ok.mpr (.inr ⟨hnull, a, hd, rfl⟩)⟩)

theorem build_optional_some {name : String} {d : Decoder α} {a : α} :
    (optional name d).build members = .ok (some a) ↔
      ∃ value, lookup? name members = some value ∧ value ≠ .null ∧ d value = .ok a := by
  simp [build_optional_ok, Decoder.nullable_ok]

theorem build_optional_none {name : String} {d : Decoder α} :
    (optional name d).build members = .ok none ↔
      lookup? name members = none ∨ lookup? name members = some .null := by
  simp [build_optional_ok, Decoder.nullable_ok]

-- ---------------------------------------------------------------------------
-- Examining
-- ---------------------------------------------------------------------------

def Accepts (slots : List Slot) (members : Members) : Prop :=
  ∀ slot ∈ slots, ∀ value, lookup? slot.name members = some value → slot.accepts value = .ok ()

/-- What a record can be built from, its fields accept. -/
def Lawful (r : Record α) : Prop :=
  ∀ members a, r.build members = .ok a → Accepts r.slots members

theorem lawful_field (name : String) (d : Decoder α) (fallback : Option α) :
    (field name d fallback).Lawful := by
  intro members a h slot hslot value hvalue
  obtain rfl := List.mem_singleton.mp hslot
  have hd : d value = .ok a := by
    simpa only [field, hvalue] using h
  show (d value).map _ = _
  rw [hd]
  rfl

theorem Lawful.map {r : Record α} (h : r.Lawful) (f : α → β) : (f <$> r).Lawful := by
  intro members b hb
  obtain ⟨a, ha, -⟩ := build_map_ok.mp hb
  exact h members a ha

theorem Lawful.seq {f : Record (α → β)} {r : Record α} (hf : f.Lawful) (hr : r.Lawful) :
    (f <*> r).Lawful := by
  intro members b hb slot hslot
  obtain ⟨g, hg, a, ha, -⟩ := build_seq_ok.mp hb
  rcases List.mem_append.mp hslot with hmem | hmem
  · exact hf members g hg slot hmem
  · exact hr members a ha slot hmem

theorem checkMembers_ok {slots : List Slot} {seen : List String} {members : Members}
    (hnames : (members.map Prod.fst).Nodup) (hseen : ∀ name ∈ members.map Prod.fst, name ∉ seen)
    (h : Accepts slots members) : checkMembers slots seen members = .ok () := by
  induction members generalizing seen with
  | nil => rfl
  | cons m rest ih =>
    obtain ⟨name, value⟩ := m
    obtain ⟨hname, hrest⟩ := List.nodup_cons.mp hnames
    have hunseen : name ∉ seen := hseen name List.mem_cons_self
    have haccepts : Accepts slots rest := by
      intro slot hslot v hv
      refine h slot hslot v ?_
      have hne : name ≠ slot.name := by
        rintro rfl
        rw [lookup?_eq_none hname] at hv
        cases hv
      rw [lookup?_cons, if_neg hne, hv]
    unfold checkMembers
    split
    · exact ih hrest (fun n hn => hseen n (List.mem_cons_of_mem _ hn)) haccepts
    next slot hslot =>
      have hsame : slot.name = name := by simpa using List.find?_some hslot
      have hvalue : slot.accepts value = .ok () :=
        h slot (List.mem_of_find?_eq_some hslot) value (by rw [lookup?_cons, if_pos hsame.symm])
      rw [if_neg hunseen]
      refine bind_ok_iff.mpr ⟨(), hvalue, ih hrest (fun n hn => ?_) haccepts⟩
      rintro (_ | ⟨_, hmem⟩)
      · exact hname hn
      · exact hseen n (List.mem_cons_of_mem _ hn) hmem

/-- A lawful record is read from an object when it is built from its members. -/
theorem decode_obj_ok {name : String} {form : ArrayForm} {r : Record α} {a : α} (hr : r.Lawful)
    (hnames : (members.map Prod.fst).Nodup) :
    r.decode name form (.obj members) = .ok a ↔ r.build members = .ok a := by
  have hdecode : r.decode name form (.obj members) = .ok a ↔
      checkMembers r.slots [] members = .ok () ∧ r.build members = .ok a := by
    show (checkMembers r.slots [] members >>= fun _ => r.build members) = .ok a ↔ _
    rw [bind_ok_iff, exists_check_ok_iff]
  rw [hdecode]
  exact ⟨And.right, fun h => ⟨checkMembers_ok hnames (by simp) (hr members a h), h⟩⟩

end Record

end SwapBroker
