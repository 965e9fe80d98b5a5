import SwapBroker.Quantity
import SwapBroker.Proofs.Numerals

/-!
# Texts of quantities

A text denotes a number if it consists of decimal digits, or of hex digits after the mark of a hex
numeral. It is read as a quantity exactly if that number has at most 256 bits. Of all the texts of a
quantity one is canonical, and that is the one that is written.
-/

namespace SwapBroker.Quantity

/-- The number that a text denotes. Digits may be zeros in front, and hex digits of either case. -/
inductive Denotes (s : String) : ℕ → Prop
  | decimal (nonempty : s.toList ≠ []) (digits : ∀ c ∈ s.toList, Text.isDecimalDigit c = true) :
    Denotes s (Radix.ofDigits 10 (s.toList.map Text.digitValue))
  | hex {mark : Char} {ds : List Char} (marked : s.toList = '0' :: mark :: ds)
    (mark : mark = 'x' ∨ mark = 'X') (nonempty : ds ≠ [])
    (digits : ∀ c ∈ ds, Text.isHexDigit c = true) :
    Denotes s (Radix.ofDigits 16 (ds.map Text.digitValue))

theorem afterHexMark?_eq_some_iff {cs ds : List Char} :
    afterHexMark? cs = some ds ↔ ∃ mark, cs = '0' :: mark :: ds ∧ (mark = 'x' ∨ mark = 'X') := by
  unfold afterHexMark?
  split
  · simp_all [eq_comm]
  · simp_all [eq_comm]
  next hsmall hcapital =>
    simp only [reduceCtorEq, false_iff]
    rintro ⟨mark, rfl, rfl | rfl⟩
    · exact hsmall ds rfl
    · exact hcapital ds rfl

theorem afterHexMark?_of_digits {cs : List Char}
    (h : ∀ c ∈ cs, Text.isDecimalDigit c = true) : afterHexMark? cs = none := by
  cases hmark : afterHexMark? cs with
  | none => rfl
  | some ds =>
    obtain ⟨mark, rfl, rfl | rfl⟩ := afterHexMark?_eq_some_iff.mp hmark
    · exact absurd (h 'x' (by simp)) (by decide)
    · exact absurd (h 'X' (by simp)) (by decide)

theorem Denotes.unique {s : String} {n m : ℕ} (hn : Denotes s n) (hm : Denotes s m) : n = m := by
  have hmark {mark : Char} {ds : List Char} (hs : s.toList = '0' :: mark :: ds)
      (hx : mark = 'x' ∨ mark = 'X') : ¬ ∀ c ∈ s.toList, Text.isDecimalDigit c = true := by
    intro hd
    have hsome := afterHexMark?_eq_some_iff.mpr ⟨mark, hs, hx⟩
    rw [afterHexMark?_of_digits hd] at hsome
    cases hsome
  cases hn with
  | decimal hne hd =>
    cases hm with
    | decimal => rfl
    | hex hs hx => exact absurd hd (hmark hs hx)
  | hex hs hx =>
    cases hm with
    | decimal hne hd => exact absurd hd (hmark hs hx)
    | hex hs' =>
      rw [hs] at hs'
      cases hs'
      rfl

theorem ofNumeral_ok {base : ℕ} {isDigit : Char → Bool} {bad : Char → ReadError} {ds : List Char}
    {q : Quantity} :
    ofNumeral base isDigit bad ds = .ok q ↔
      ds ≠ [] ∧ (∀ c ∈ ds, isDigit c = true) ∧
        Radix.ofDigits base (ds.map Text.digitValue) = q.toNat := by
  unfold ofNumeral
  by_cases hne : ds = []
  · simp [hne]
  · rw [if_neg hne, and_iff_right hne, ← ofNat?_eq_some_iff]
    cases hbad : ds.find? (!isDigit ·) with
    | some c =>
      have hc : isDigit c = false := by simpa using List.find?_some hbad
      simp only [reduceCtorEq, false_iff]
      rintro ⟨hall, -⟩
      rw [hall c (List.mem_of_find?_eq_some hbad)] at hc
      cases hc
    | none =>
      have hall : ∀ c ∈ ds, isDigit c = true := by simpa using hbad
      rw [and_iff_right hall]
      cases ofNat? (Radix.ofDigits base (ds.map Text.digitValue)) <;> simp

theorem ofText_ok {s : String} {q : Quantity} : ofText s = .ok q ↔ Denotes s q.toNat := by
  constructor
  · intro h
    unfold ofText at h
    split at h
    next ds hmark =>
      obtain ⟨mark, hs, hx⟩ := afterHexMark?_eq_some_iff.mp hmark
      obtain ⟨hne, hd, hvalue⟩ := ofNumeral_ok.mp h
      exact hvalue ▸ .hex hs hx hne hd
    next =>
      obtain ⟨hne, hd, hvalue⟩ := ofNumeral_ok.mp h
      exact hvalue ▸ .decimal hne hd
  · intro h
    generalize hn : q.toNat = n at h
    unfold ofText
    cases h with
    | decimal hne hd =>
      rw [afterHexMark?_of_digits hd]
      exact ofNumeral_ok.mpr ⟨hne, hd, hn.symm⟩
    | hex hs hx hne hd =>
      rw [afterHexMark?_eq_some_iff.mpr ⟨_, hs, hx⟩]
      exact ofNumeral_ok.mpr ⟨hne, hd, hn.symm⟩

-- ---------------------------------------------------------------------------
-- The text that is written
-- ---------------------------------------------------------------------------

theorem toList_toHex (q : Quantity) : q.toHex.toList = '0' :: 'x' :: Text.numeral 16 q.toNat :=
  String.toList_ofList

theorem ofHex_toHex (q : Quantity) : ofHex q.toHex = .ok q := by
  have hmark : afterHexMark? q.toHex.toList = some (Text.numeral 16 q.toNat) := by
    rw [toList_toHex]
    rfl
  unfold ofHex
  rw [hmark]
  refine ofNumeral_ok.mpr ⟨Text.numeral_ne_nil 16 _ (by decide), fun c hc => ?_,
    Text.ofDigits_numeral (by decide) (by decide) q.toNat⟩
  exact Text.isHexDigit_of_mem_numeral hc

/-- Small hex digits after the mark, without a zero in front of others. -/
def Canonical (s : String) : Prop :=
  ∃ ds, s.toList = '0' :: 'x' :: ds ∧ ds ≠ [] ∧ (∀ c ∈ ds, c ∈ "0123456789abcdef".toList) ∧
    (ds.head? = some '0' → ds = ['0'])

theorem canonical_toHex (q : Quantity) : Canonical q.toHex := by
  refine ⟨_, q.toList_toHex, Text.numeral_ne_nil 16 _ (by decide), fun c hc => ?_,
    Text.head?_numeral (by decide) (by decide)⟩
  obtain ⟨d, hd, rfl⟩ := Text.exists_digitChar_of_mem_numeral (by decide) hc
  exact (Text.digitChar_small hd).2

theorem denotes_toHex (q : Quantity) : Denotes q.toHex q.toNat := by
  have hvalue := Text.ofDigits_numeral (by decide : 2 ≤ 16) (by decide) q.toNat
  have hdenotes := Denotes.hex q.toList_toHex (.inl rfl) (Text.numeral_ne_nil 16 _ (by decide))
    fun c hc => Text.isHexDigit_of_mem_numeral hc
  rwa [hvalue] at hdenotes

theorem eq_toHex_of_canonical {s : String} {q : Quantity} (hs : Canonical s)
    (h : Denotes s q.toNat) : s = q.toHex := by
  obtain ⟨ds, hs, hne, hsmall, hzero⟩ := hs
  have hdigit (c : Char) (hc : c ∈ ds) := Text.digitChar_digitValue_of_small (hsmall c hc)
  have hvalue : q.toNat = Radix.ofDigits 16 (ds.map Text.digitValue) :=
    h.unique (.hex hs (.inl rfl) hne fun c hc => (hdigit c hc).1)
  have hnumeral : Text.numeral 16 q.toNat = ds := by
    by_cases hlead : ds.head? = some '0'
    · rw [hvalue, hzero hlead]
      rfl
    · have hfirst : (ds.map Text.digitValue).head? ≠ some 0 := by
        rw [List.head?_map]
        intro hnone
        obtain ⟨c, hc, hd⟩ := Option.map_eq_some_iff.mp hnone
        have hsame : Text.digitChar (Text.digitValue c) = c :=
          (hdigit c (List.mem_of_head? hc)).2.2
        rw [hd] at hsame
        exact hlead (hc.trans (congrArg some hsame.symm))
      have hlt : ∀ d ∈ ds.map Text.digitValue, d < 16 :=
        List.forall_mem_map.mpr fun c hc => (hdigit c hc).2.1
      have hback : ∀ c ∈ ds, (Text.digitChar ∘ Text.digitValue) c = id c := fun c hc =>
        (hdigit c hc).2.2
      rw [hvalue, Text.numeral_ofDigits (by decide) (by simpa using hne) hlt hfirst, List.map_map,
        List.map_congr_left hback, List.map_id]
  rw [← String.ofList_toList (s := s), hs, toHex, hnumeral]

theorem eq_toHex_iff {s : String} {q : Quantity} :
    s = q.toHex ↔ Canonical s ∧ ofText s = .ok q := by
  constructor
  · rintro rfl
    exact ⟨canonical_toHex q, ofText_ok.mpr (denotes_toHex q)⟩
  · rintro ⟨hs, h⟩
    exact eq_toHex_of_canonical hs (ofText_ok.mp h)

end SwapBroker.Quantity
