import SwapBroker.Proofs.QuantityTexts

/-!
# Hex numerals of quantities

What is accepted as a numeral, what its number is, and why any other text is refused. Zeros in front
and the case of letters do not matter to the number, so that the size of a numeral is limited by its
number and not by its length. The text that is written is the shortest of those that are read as the
same quantity.
-/

namespace SwapBroker.Quantity

open Text (isHexDigit isDecimalDigit digitValue digitChar)

variable {base : ℕ} {isDigit : Char → Bool} {bad : Char → ReadError} {s : String} {ds : List Char}
  {q : Quantity} {e : ReadError} {n : ℕ}

-- ---------------------------------------------------------------------------
-- Numerals
-- ---------------------------------------------------------------------------

structure WritesIn (base : ℕ) (isDigit : Char → Bool) (ds : List Char) (n : ℕ) : Prop where
  nonempty : ds ≠ []
  digits : ∀ c ∈ ds, isDigit c = true
  value : Radix.ofDigits base (ds.map digitValue) = n

/-- Why characters are no numeral of a quantity. Only digits can be too large. -/
inductive Refuses (base : ℕ) (isDigit : Char → Bool) (bad : Char → ReadError) :
    List Char → ReadError → Prop
  | empty : Refuses base isDigit bad [] .empty
  | badDigit {before : List Char} {c : Char} (after : List Char)
    (digits : ∀ d ∈ before, isDigit d = true) (noDigit : isDigit c = false) :
    Refuses base isDigit bad (before ++ c :: after) (bad c)
  | tooLarge {ds : List Char} (nonempty : ds ≠ []) (digits : ∀ c ∈ ds, isDigit c = true)
    (large : 2 ^ 256 ≤ Radix.ofDigits base (ds.map digitValue)) :
    Refuses base isDigit bad ds .tooLarge

theorem ofNat?_eq_none_iff : ofNat? n = none ↔ 2 ^ 256 ≤ n := by
  show ofNat? n = none ↔ quantityLimit ≤ n
  unfold ofNat?
  split
  next h => simp [h]
  next h => simpa using h

theorem ofNumeral_ok_iff : ofNumeral base isDigit bad ds = .ok q ↔ WritesIn base isDigit ds q.toNat := by
  rw [ofNumeral_ok]
  exact ⟨fun ⟨hne, hd, hvalue⟩ => ⟨hne, hd, hvalue⟩, fun ⟨hne, hd, hvalue⟩ => ⟨hne, hd, hvalue⟩⟩

theorem refuses_of_ofNumeral (h : ofNumeral base isDigit bad ds = .error e) :
    Refuses base isDigit bad ds e := by
  unfold ofNumeral at h
  split at h
  next hempty =>
    cases h
    exact hempty ▸ .empty
  next hne =>
    cases hbad : ds.find? (!isDigit ·) with
    | some c =>
      -- What is found first cuts the characters: all before it are digits.
      obtain ⟨hc, before, after, rfl, hbefore⟩ := List.find?_eq_some_iff_append.mp hbad
      rw [hbad] at h
      cases h
      exact .badDigit after (by simpa using hbefore) (by simpa using hc)
    | none =>
      rw [hbad] at h
      cases hsize : ofNat? (Radix.ofDigits base (ds.map digitValue)) with
      | some q => simp [hsize] at h
      | none =>
        rw [hsize] at h
        cases h
        exact .tooLarge hne (by simpa using hbad) (ofNat?_eq_none_iff.mp hsize)

theorem ofNumeral_of_refuses (h : Refuses base isDigit bad ds e) :
    ofNumeral base isDigit bad ds = .error e := by
  cases h with
  | empty => rfl
  | badDigit after digits noDigit =>
    next before c =>
      have hfirst : (before ++ c :: after).find? (!isDigit ·) = some c :=
        List.find?_eq_some_iff_append.mpr
          ⟨by simpa using noDigit, before, after, rfl, by simpa using digits⟩
      simp [ofNumeral, hfirst]
  | tooLarge nonempty digits large =>
    have hnone : ds.find? (!isDigit ·) = none := by simpa using digits
    simp [ofNumeral, nonempty, hnone, ofNat?_eq_none_iff.mpr large]

theorem ofNumeral_error_iff :
    ofNumeral base isDigit bad ds = .error e ↔ Refuses base isDigit bad ds e :=
  ⟨refuses_of_ofNumeral, ofNumeral_of_refuses⟩

-- ---------------------------------------------------------------------------
-- Marks
-- ---------------------------------------------------------------------------

def Marks (s : String) (ds : List Char) : Prop :=
  s.toList = '0' :: 'x' :: ds ∨ s.toList = '0' :: 'X' :: ds

theorem afterHexMark?_iff_marks : afterHexMark? s.toList = some ds ↔ Marks s ds := by
  rw [afterHexMark?_eq_some_iff]
  constructor
  · rintro ⟨mark, hs, rfl | rfl⟩
    · exact .inl hs
    · exact .inr hs
  · rintro (hs | hs)
    · exact ⟨'x', hs, .inl rfl⟩
    · exact ⟨'X', hs, .inr rfl⟩

theorem afterHexMark?_eq_none_iff : afterHexMark? s.toList = none ↔ ∀ ds, ¬ Marks s ds := by
  simp [Option.eq_none_iff_forall_ne_some, afterHexMark?_iff_marks]

theorem ofHex_of_marks (h : Marks s ds) :
    ofHex s = ofNumeral 16 isHexDigit .badHexDigit ds := by
  rw [ofHex, afterHexMark?_iff_marks.mpr h]

theorem ofHex_of_unmarked (h : ∀ ds, ¬ Marks s ds) : ofHex s = .error .unmarked := by
  rw [ofHex, afterHexMark?_eq_none_iff.mpr h]

theorem ofText_of_marks (h : Marks s ds) : ofText s = ofHex s := by
  rw [ofText, ofHex, afterHexMark?_iff_marks.mpr h]

theorem ofText_of_unmarked (h : ∀ ds, ¬ Marks s ds) :
    ofText s = ofNumeral 10 isDecimalDigit .badDecimalDigit s.toList := by
  rw [ofText, afterHexMark?_eq_none_iff.mpr h]

theorem ofHex_ok_of_marks (h : Marks s ds) :
    ofHex s = .ok q ↔ WritesIn 16 isHexDigit ds q.toNat := by
  rw [ofHex_of_marks h, ofNumeral_ok_iff]

theorem ofHex_ok_iff : ofHex s = .ok q ↔ ∃ ds, Marks s ds ∧ WritesIn 16 isHexDigit ds q.toNat := by
  constructor
  · intro h
    cases hmark : afterHexMark? s.toList with
    | none => simp [ofHex, hmark] at h
    | some ds =>
      have hs := afterHexMark?_iff_marks.mp hmark
      exact ⟨ds, hs, (ofHex_ok_of_marks hs).mp h⟩
  · rintro ⟨ds, hs, hn⟩
    exact (ofHex_ok_of_marks hs).mpr hn

theorem ofHex_error_iff :
    ofHex s = .error e ↔ (∀ ds, ¬ Marks s ds) ∧ e = .unmarked ∨
      ∃ ds, Marks s ds ∧ Refuses 16 isHexDigit .badHexDigit ds e := by
  cases hmark : afterHexMark? s.toList with
  | none =>
    have hs := afterHexMark?_eq_none_iff.mp hmark
    simp [ofHex_of_unmarked hs, hs, eq_comm]
  | some ds =>
    have hs := afterHexMark?_iff_marks.mp hmark
    have hunique {ds'} (hs' : Marks s ds') : ds = ds' :=
      Option.some.inj (hmark.symm.trans (afterHexMark?_iff_marks.mpr hs'))
    rw [ofHex_of_marks hs, ofNumeral_error_iff]
    constructor
    · intro h
      exact .inr ⟨ds, hs, h⟩
    · rintro (⟨hnone, -⟩ | ⟨ds', hs', h⟩)
      · exact absurd hs (hnone ds)
      · exact hunique hs' ▸ h

theorem exists_quantity_iff {P : ℕ → Prop} :
    (∃ q : Quantity, P q.toNat ∧ q.toNat = n) ↔ n < 2 ^ 256 ∧ P n := by
  constructor
  · rintro ⟨q, h, rfl⟩
    exact ⟨q.lt_limit, h⟩
  · rintro ⟨hn, h⟩
    exact ⟨⟨n, hn⟩, h, rfl⟩

-- ---------------------------------------------------------------------------
-- The shortest text
-- ---------------------------------------------------------------------------

/-- The digits in small letters, without the zeros in front of others. -/
def shortened : List Char → List Char
  | [] => ['0']
  | c :: rest => if c = '0' then shortened rest else (c :: rest).map Char.toLower

theorem numeral_eq_shortened (h : ∀ c ∈ ds, isHexDigit c = true) :
    Text.numeral 16 (Radix.ofDigits 16 (ds.map digitValue)) = shortened ds := by
  induction ds with
  | nil => rfl
  | cons c rest ih =>
    obtain ⟨hc, hrest⟩ := List.forall_mem_cons.mp h
    by_cases hzero : c = '0'
    · -- A zero in front adds nothing to the number.
      have hvalue : digitValue c = 0 := (Text.digitValue_eq_zero_iff hc).mpr hzero
      rw [shortened, if_pos hzero, ← ih hrest, List.map_cons, Radix.ofDigits_cons, hvalue,
        Nat.zero_mul, Nat.zero_add]
    · have hlead : ((c :: rest).map digitValue).head? ≠ some 0 := by
        simpa using mt (Text.digitValue_eq_zero_iff hc).mp hzero
      have hlt : ∀ d ∈ (c :: rest).map digitValue, d < 16 :=
        List.forall_mem_map.mpr fun d hd => (Text.digitChar_digitValue (h d hd)).1
      have hsmall : ∀ d ∈ c :: rest, (digitChar ∘ digitValue) d = d.toLower := fun d hd =>
        (Text.digitChar_digitValue (h d hd)).2
      rw [shortened, if_neg hzero, Text.numeral_ofDigits (by decide) (by simp) hlt hlead, List.map_map,
        List.map_congr_left hsmall]

theorem toHex_of_writesIn (h : WritesIn 16 isHexDigit ds q.toNat) :
    q.toHex.toList = '0' :: 'x' :: shortened ds := by
  rw [toList_toHex, ← h.value, numeral_eq_shortened h.digits]

theorem length_shortened_le (hne : ds ≠ []) : (shortened ds).length ≤ ds.length := by
  induction ds with
  | nil => exact absurd rfl hne
  | cons c rest ih =>
    rw [shortened]
    split
    · cases rest with
      | nil => exact Nat.le_refl 1
      | cons d rest => exact Nat.le_succ_of_le (ih (by simp))
    · rw [List.length_map]

theorem shortened_eq_of_length (h : (shortened ds).length = ds.length) :
    shortened ds = ds.map Char.toLower := by
  cases ds with
  | nil => cases h
  | cons c rest =>
    rw [shortened] at h ⊢
    split at h
    next hzero =>
      cases rest with
      | nil => rw [if_pos hzero, hzero]; rfl
      | cons d rest =>
        have hle : (shortened (d :: rest)).length ≤ (d :: rest).length :=
          length_shortened_le (by simp)
        rw [h] at hle
        exact absurd hle (Nat.not_succ_le_self _)
    next hzero => rw [if_neg hzero]

theorem length_of_marks (h : Marks s ds) : s.length = ds.length + 2 := by
  rw [← String.length_toList]
  rcases h with hs | hs <;> rw [hs] <;> rfl

theorem lower_of_marks (h : Marks s ds) :
    Text.lower s = String.ofList ('0' :: 'x' :: ds.map Char.toLower) := by
  rcases h with hs | hs <;> rw [Text.lower, hs] <;> rfl

/-- No text of a quantity is shorter than the one that is written, and one of its length differs in
the case of letters at most. -/
theorem toHex_shortest (h : ofHex s = .ok q) :
    q.toHex.length ≤ s.length ∧ (q.toHex.length = s.length → q.toHex = Text.lower s) := by
  obtain ⟨ds, hs, hn⟩ := ofHex_ok_iff.mp h
  have hwritten := toHex_of_writesIn hn
  have hlen : q.toHex.length = (shortened ds).length + 2 := length_of_marks (.inl hwritten)
  rw [hlen, length_of_marks hs]
  refine ⟨Nat.add_le_add_right (length_shortened_le hn.nonempty) 2, fun heq => ?_⟩
  have hsame := shortened_eq_of_length (Nat.add_right_cancel heq)
  rw [lower_of_marks hs, ← hsame, ← hwritten, String.ofList_toList]

-- ---------------------------------------------------------------------------
-- Reading and writing
-- ---------------------------------------------------------------------------

theorem exists_ofHex_ok_iff :
    (∃ q, ofHex s = .ok q ∧ q.toNat = n) ↔
      n < 2 ^ 256 ∧ ∃ ds, Marks s ds ∧ WritesIn 16 isHexDigit ds n := by
  simp only [ofHex_ok_iff]
  exact exists_quantity_iff (P := fun n => ∃ ds, Marks s ds ∧ WritesIn 16 isHexDigit ds n)

theorem exists_ofText_ok_iff (h : ∀ ds, ¬ Marks s ds) :
    (∃ q, ofText s = .ok q ∧ q.toNat = n) ↔
      n < 2 ^ 256 ∧ WritesIn 10 isDecimalDigit s.toList n := by
  simp only [ofText_of_unmarked h, ofNumeral_ok_iff]
  exact exists_quantity_iff

/-- Quantities are written in small hex digits without zeros in front, and are read back. Exactly the
marked hex numerals below `2 ^ 256` are read, zeros in front and letters of either case included, and
what is written of the quantity is the shortest of its texts. A text without a mark is read as a
decimal numeral where one may stand. A refusal names the mark, the missing digits, the first character
that is no digit or the size, in this order. -/
theorem numerals_exact :
    (∀ q : Quantity, ∃ ds, q.toHex.toList = '0' :: 'x' :: ds ∧ WritesIn 16 isHexDigit ds q.toNat ∧
      (∀ c ∈ ds, c ∈ "0123456789abcdef".toList) ∧ (ds.head? = some '0' → ds = ['0']) ∧
      ofHex q.toHex = .ok q) ∧
    (∀ s n, (∃ q, ofHex s = .ok q ∧ q.toNat = n) ↔
      n < 2 ^ 256 ∧ ∃ ds, Marks s ds ∧ WritesIn 16 isHexDigit ds n) ∧
    (∀ s q, ofHex s = .ok q →
      (∀ ds, Marks s ds → q.toHex.toList = '0' :: 'x' :: shortened ds) ∧
      q.toHex.length ≤ s.length ∧ (q.toHex.length = s.length → q.toHex = Text.lower s)) ∧
    (∀ s e, ofHex s = .error e ↔ (∀ ds, ¬ Marks s ds) ∧ e = .unmarked ∨
      ∃ ds, Marks s ds ∧ Refuses 16 isHexDigit .badHexDigit ds e) ∧
    (∀ s ds, Marks s ds → ofText s = ofHex s) ∧
    ∀ s, (∀ ds, ¬ Marks s ds) →
      (∀ n, (∃ q, ofText s = .ok q ∧ q.toNat = n) ↔
        n < 2 ^ 256 ∧ WritesIn 10 isDecimalDigit s.toList n) ∧
      ∀ e, ofText s = .error e ↔ Refuses 10 isDecimalDigit .badDecimalDigit s.toList e := by
  refine ⟨fun q => ?_, fun s n => exists_ofHex_ok_iff, fun s q h => ⟨fun ds hs => ?_, toHex_shortest h⟩,
    fun s e => ofHex_error_iff, fun s ds => ofText_of_marks, fun s h => ⟨fun n => ?_, fun e => ?_⟩⟩
  · obtain ⟨ds, hs, -, hsmall, hzero⟩ := canonical_toHex q
    have hback := ofHex_toHex q
    exact ⟨ds, hs, (ofHex_ok_of_marks (.inl hs)).mp hback, hsmall, hzero, hback⟩
  · exact toHex_of_writesIn ((ofHex_ok_of_marks hs).mp h)
  · exact exists_ofText_ok_iff h
  · rw [ofText_of_unmarked h]
    exact ofNumeral_error_iff

theorem numerals_exact_mixedCase :
    ofHex "0X000aBc" = .ok ⟨0xabc, by decide⟩ ∧ ofText "0X000aBc" = .ok ⟨0xabc, by decide⟩ ∧
      toHex ⟨0xabc, by decide⟩ = "0xabc" ∧ ofText "0X12G" = .error (.badHexDigit 'G') ∧
      ofText "12x" = .error (.badDecimalDigit 'x') := by
  obtain ⟨-, hread, hshort, hrefused, hmarked, hplain⟩ := numerals_exact
  have hmark : Marks "0X000aBc" "000aBc".toList := .inr (by decide)
  have hok : ofHex "0X000aBc" = .ok ⟨0xabc, by decide⟩ := by
    obtain ⟨q, hq, hvalue⟩ := (hread "0X000aBc" 0xabc).mpr
      ⟨by decide, _, hmark, by decide, List.all_eq_true.mp (by decide), by decide⟩
    rw [hq]
    exact congrArg Except.ok (ext hvalue)
  have hbad : ofHex "0X12G" = .error (.badHexDigit 'G') :=
    (hrefused _ _).mpr (.inr ⟨['1', '2'] ++ ['G'], .inr (by decide),
      .badDigit [] (List.all_eq_true.mp (by decide)) (by decide)⟩)
  have hwritten := (hshort _ _ hok).1 _ hmark
  obtain ⟨-, hdecimal⟩ := hplain "12x" (afterHexMark?_eq_none_iff.mp (by decide))
  refine ⟨hok, (hmarked _ _ hmark).trans hok, ?_, ?_, ?_⟩
  · rw [← String.toList_inj, hwritten]
    decide
  · rw [hmarked _ ['1', '2', 'G'] (.inr (by decide)), hbad]
  · have hrefuses : Refuses 10 isDecimalDigit .badDecimalDigit (['1', '2'] ++ ['x'])
        (.badDecimalDigit 'x') :=
      .badDigit [] (List.all_eq_true.mp (by decide)) (by decide)
    exact (hdecimal _).mpr hrefuses

end SwapBroker.Quantity
