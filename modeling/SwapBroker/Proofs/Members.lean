import SwapBroker.Json.Basic

/-!
# Members of objects

An object that is put together of members has each member that was named, and of two with one name
the later one.
-/

namespace SwapBroker.Json

def member? (name : String) : Json → Option Json
  | .obj members => lookup? name members
  | _ => none

@[simp] theorem lookup?_nil (name : String) : lookup? name [] = none := rfl

@[simp] theorem lookup?_cons (name other : String) (value : Json) (rest : Members) :
    lookup? name ((other, value) :: rest) =
      if other = name then some value else lookup? name rest := by
  by_cases h : other = name <;> simp [lookup?, h]

theorem lookup?_append (name : String) (ms ns : Members) :
    lookup? name (ms ++ ns) = (lookup? name ms).or (lookup? name ns) := by
  induction ms with
  | nil => rfl
  | cons m ms ih =>
    obtain ⟨other, value⟩ := m
    by_cases h : other = name
    · simp [h]
    · simp [h, ih]

/-- Looking up needs no order, so a member is found wherever it was placed. -/
theorem lookup?_insertMember (name other : String) (value : Json) (ms : Members) :
    lookup? name (insertMember other value ms) =
      if other = name then some value else lookup? name ms := by
  induction ms with
  | nil => simp [insertMember]
  | cons m ms ih =>
    obtain ⟨first, v⟩ := m
    unfold insertMember
    split
    · simp
    · split
      next h => subst h; by_cases hn : other = name <;> simp [hn]
      next h =>
        rw [lookup?_cons, ih, lookup?_cons]
        by_cases hf : first = name
        · have hn : ¬ other = name := fun ho => h (ho.trans hf.symm)
          simp [hf, hn]
        · simp [hf]

theorem lookup?_sortMembers (name : String) (ms : Members) :
    lookup? name (sortMembers ms) = lookup? name ms.reverse := by
  have general : ∀ placed : Members,
      lookup? name (ms.foldl (fun sorted m => insertMember m.1 m.2 sorted) placed) =
        (lookup? name ms.reverse).or (lookup? name placed) := by
    -- The members placed so far come after those still to be placed.
    induction ms with
    | nil => intro placed; rfl
    | cons m ms ih =>
      intro placed
      obtain ⟨other, value⟩ := m
      rw [List.foldl_cons, ih, lookup?_insertMember, List.reverse_cons, lookup?_append,
        Option.or_assoc, lookup?_cons, lookup?_nil]
      by_cases h : other = name <;> simp [h]
  have hsort : sortMembers ms = ms.foldl (fun sorted m => insertMember m.1 m.2 sorted) [] := rfl
  rw [hsort, general, lookup?_nil, Option.or_none]

theorem member?_ofMembers (name : String) (ms : Members) :
    (ofMembers ms).member? name = lookup? name ms.reverse :=
  lookup?_sortMembers name ms

theorem member?_ofPresent (name : String) (ms : List (String × Option Json)) :
    (ofPresent ms).member? name =
      lookup? name (ms.filterMap fun (name, value) => value.map (name, ·)).reverse :=
  member?_ofMembers name _

/-- Where names are distinct, the member of a name is what was named, be it absent. -/
theorem member?_ofPresent_of_nodup {ms : List (String × Option Json)}
    (hnames : (ms.map Prod.fst).Nodup) {name : String} {value : Option Json}
    (hvalue : (ms.find? (·.1 = name)).bind Prod.snd = value) :
    (ofPresent ms).member? name = value := by
  rw [member?_ofPresent, ← hvalue]
  have habsent {rest : List (String × Option Json)} (h : name ∉ rest.map Prod.fst) :
      lookup? name (rest.filterMap fun (n, value) => value.map (n, ·)).reverse = none := by
    induction rest with
    | nil => rfl
    | cons m rest ih =>
      obtain ⟨other, value⟩ := m
      rw [List.map_cons, List.mem_cons, not_or] at h
      cases value <;> simp [lookup?_append, ih h.2, Ne.symm h.1]
  clear hvalue
  induction ms with
  | nil => rfl
  | cons m rest ih =>
    obtain ⟨other, value⟩ := m
    obtain ⟨hother, hrest⟩ := List.nodup_cons.mp hnames
    by_cases h : other = name
    · subst h
      cases value <;> simp [lookup?_append, habsent hother]
    · cases value <;> simp [lookup?_append, ih hrest, h]

end SwapBroker.Json
