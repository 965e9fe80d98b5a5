import SwapBroker.Proofs.Members

/-!
# Names in objects

A value that was read from a text has each name once in every object of it, since `Json.sorted`
places the members by their names.
-/

namespace SwapBroker.Json

mutual
/-- In every object of the value each name stands once. -/
def HasDistinctNames : Json → Prop
  | .arr items => ItemsHaveDistinctNames items
  | .obj members => (members.map Prod.fst).Nodup ∧ MembersHaveDistinctNames members
  | _ => True
def ItemsHaveDistinctNames : List Json → Prop
  | [] => True
  | item :: rest => item.HasDistinctNames ∧ ItemsHaveDistinctNames rest
def MembersHaveDistinctNames : Members → Prop
  | [] => True
  | (_, value) :: rest => value.HasDistinctNames ∧ MembersHaveDistinctNames rest
end

theorem itemsHaveDistinctNames_iff {items : List Json} :
    ItemsHaveDistinctNames items ↔ ∀ item ∈ items, item.HasDistinctNames := by
  induction items with
  | nil => simp [ItemsHaveDistinctNames]
  | cons item rest ih => simp [ItemsHaveDistinctNames, ih]

theorem membersHaveDistinctNames_iff {members : Members} :
    MembersHaveDistinctNames members ↔ ∀ m ∈ members, m.2.HasDistinctNames := by
  induction members with
  | nil => simp [MembersHaveDistinctNames]
  | cons m rest ih => simp [MembersHaveDistinctNames, ih]

theorem hasDistinctNames_arr {items : List Json} :
    (arr items).HasDistinctNames ↔ ∀ item ∈ items, item.HasDistinctNames := by
  rw [HasDistinctNames, itemsHaveDistinctNames_iff]

theorem hasDistinctNames_obj {members : Members} :
    (obj members).HasDistinctNames ↔
      (members.map Prod.fst).Nodup ∧ ∀ m ∈ members, m.2.HasDistinctNames := by
  rw [HasDistinctNames, membersHaveDistinctNames_iff]

theorem mem_of_lookup? {name : String} {value : Json} {members : Members}
    (h : lookup? name members = some value) : (name, value) ∈ members := by
  induction members with
  | nil => simp at h
  | cons m rest ih =>
    obtain ⟨other, v⟩ := m
    rw [lookup?_cons] at h
    split at h
    next hname =>
      cases h
      rw [hname]
      exact List.mem_cons_self
    next => exact List.mem_cons_of_mem _ (ih h)

theorem lookup?_of_mem {name : String} {value : Json} {members : Members}
    (hnames : (members.map Prod.fst).Nodup) (h : (name, value) ∈ members) :
    lookup? name members = some value := by
  induction members with
  | nil => cases h
  | cons m rest ih =>
    obtain ⟨other, v⟩ := m
    obtain ⟨hother, hrest⟩ := List.nodup_cons.mp hnames
    rw [lookup?_cons]
    rcases List.mem_cons.mp h with heq | hmem
    · cases heq
      exact if_pos rfl
    · have hne : other ≠ name := by
        rintro rfl
        exact hother (List.mem_map.mpr ⟨_, hmem, rfl⟩)
      rw [if_neg hne]
      exact ih hrest hmem

theorem lookup?_eq_none {name : String} {members : Members} (h : name ∉ members.map Prod.fst) :
    lookup? name members = none := by
  cases hvalue : lookup? name members with
  | none => rfl
  | some value => exact absurd (List.mem_map_of_mem (mem_of_lookup? hvalue)) h

theorem lookup?_filter {name : String} {p : String × Json → Bool} {members : Members}
    (hp : ∀ value, p (name, value) = true) :
    lookup? name (members.filter p) = lookup? name members := by
  induction members with
  | nil => rfl
  | cons m rest ih =>
    obtain ⟨other, v⟩ := m
    by_cases hname : other = name
    · subst hname
      simp [hp]
    · rw [List.filter_cons]
      split <;> simp [hname, ih]

-- ---------------------------------------------------------------------------
-- Sorted values
-- ---------------------------------------------------------------------------

def InOrder (members : Members) : Prop :=
  members.Pairwise fun m n => m.1 < n.1

theorem InOrder.nodup {members : Members} (h : InOrder members) :
    (members.map Prod.fst).Nodup :=
  List.pairwise_map.mpr (h.imp fun {m n} hlt (heq : m.1 = n.1) => by
    rw [heq] at hlt
    exact String.lt_irrefl _ hlt)

theorem mem_insertMember {name : String} {value : Json} {members : Members} {m : String × Json}
    (h : m ∈ insertMember name value members) : m = (name, value) ∨ m ∈ members := by
  induction members with
  | nil => exact .inl (List.mem_singleton.mp h)
  | cons first rest ih =>
    obtain ⟨other, v⟩ := first
    unfold insertMember at h
    split at h
    · exact List.mem_cons.mp h
    · split at h
      · exact (List.mem_cons.mp h).imp_right (List.mem_cons_of_mem _)
      · rcases List.mem_cons.mp h with rfl | hm
        · exact .inr List.mem_cons_self
        · exact (ih hm).imp_right (List.mem_cons_of_mem _)

theorem InOrder.insertMember {members : Members} (h : InOrder members) (name : String)
    (value : Json) : InOrder (insertMember name value members) := by
  induction members with
  | nil => exact List.pairwise_singleton _ _
  | cons first rest ih =>
    obtain ⟨other, v⟩ := first
    obtain ⟨hfirst, hrest⟩ := List.pairwise_cons.mp h
    unfold Json.insertMember
    split
    next hlt =>
      refine List.pairwise_cons.mpr ⟨fun m hm => ?_, h⟩
      rcases List.mem_cons.mp hm with rfl | hm
      · exact hlt
      · exact String.lt_trans hlt (hfirst m hm)
    next hlt =>
      split
      next heq => exact heq ▸ List.pairwise_cons.mpr ⟨hfirst, hrest⟩
      next hne =>
        refine List.pairwise_cons.mpr ⟨fun m hm => ?_, ih hrest⟩
        rcases mem_insertMember hm with rfl | hm
        · exact Std.lt_of_le_of_ne (String.not_lt.mp hlt) (Ne.symm hne)
        · exact hfirst m hm

theorem inOrder_sortMembers (members : Members) : InOrder (sortMembers members) := by
  have general : ∀ placed : Members, InOrder placed →
      InOrder (members.foldl (fun sorted m => Json.insertMember m.1 m.2 sorted) placed) := by
    induction members with
    | nil => exact fun _ horder => horder
    | cons m rest ih => exact fun _ horder => ih _ (horder.insertMember m.1 m.2)
  exact general [] .nil

theorem mem_sortMembers {members : Members} {m : String × Json} :
    m ∈ sortMembers members → m ∈ members := by
  have general : ∀ placed : Members,
      m ∈ members.foldl (fun sorted n => Json.insertMember n.1 n.2 sorted) placed →
        m ∈ placed ∨ m ∈ members := by
    induction members with
    | nil => exact fun _ hm => .inl hm
    | cons n rest ih =>
      intro placed hm
      rcases ih _ hm with hplaced | hrest
      · rcases mem_insertMember hplaced with rfl | hplaced
        · exact .inr List.mem_cons_self
        · exact .inl hplaced
      · exact .inr (List.mem_cons_of_mem _ hrest)
  exact fun h => (general [] h).resolve_left List.not_mem_nil

mutual
theorem hasDistinctNames_sorted : (j : Json) → j.sorted.HasDistinctNames
  | .arr items => hasDistinctNames_arr.mpr (hasDistinctNames_sortedItems items)
  | .obj members =>
    have h := hasDistinctNames_sortedMembers members .nil (by simp)
    hasDistinctNames_obj.mpr ⟨h.1.nodup, h.2⟩
  | .null | .bool _ | .int _ | .float _ | .str _ => trivial
theorem hasDistinctNames_sortedItems :
    (items : List Json) → ∀ item ∈ sortedItems items, item.HasDistinctNames
  | [] => by simp [sortedItems]
  | item :: rest =>
    List.forall_mem_cons.mpr ⟨hasDistinctNames_sorted item, hasDistinctNames_sortedItems rest⟩
theorem hasDistinctNames_sortedMembers :
    (members : Members) → ∀ {placed : Members}, InOrder placed →
      (∀ m ∈ placed, m.2.HasDistinctNames) →
      InOrder (sortedMembers placed members) ∧
        ∀ m ∈ sortedMembers placed members, m.2.HasDistinctNames
  | [], _, horder, hplaced => ⟨horder, hplaced⟩
  | (name, value) :: rest, placed, horder, hplaced => by
    refine hasDistinctNames_sortedMembers rest (horder.insertMember name value.sorted) ?_
    intro m hm
    rcases mem_insertMember hm with rfl | hm
    · exact hasDistinctNames_sorted value
    · exact hplaced m hm
end

end SwapBroker.Json
