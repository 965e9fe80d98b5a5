import SwapBroker.Price
import SwapBroker.Proofs.Numerals

/-!
# Texts of decimals

A decimal is read from exactly the texts that spell it: a sign if it is negative, then digits, with a
point before the places. The text that is made of a decimal spells the same mantissa with the same
scale: it is padded with zeros so that there is a digit before the point, and the point stands only
before places. It has a zero at its end only if the mantissa has one.
-/

namespace SwapBroker

namespace DecimalText

/-- The text is a minus sign if the number is negative, and then digits, at least one, before and
after a point. The point may be missing where nothing comes after it. -/
structure Spells (t : DecimalText) (s : String) : Prop where
  form : ∃ unsigned, s.toList = (if t.negative then '-' :: unsigned else unsigned) ∧
    (unsigned = t.whole ++ '.' :: t.places ∨ unsigned = t.whole ∧ t.places = [])
  nonempty : t.whole ++ t.places ≠ []
  digits : ∀ c ∈ t.whole ++ t.places, Text.isDecimalDigit c = true

def cutUnsigned (unsigned : List Char) : List Char × List Char :=
  (Text.cutAt? '.' unsigned).getD (unsigned, [])

theorem cutUnsigned_form {unsigned whole places : List Char}
    (h : cutUnsigned unsigned = (whole, places)) :
    unsigned = whole ++ '.' :: places ∨ unsigned = whole ∧ places = [] := by
  unfold cutUnsigned at h
  cases hcut : Text.cutAt? '.' unsigned with
  | none =>
    rw [hcut] at h
    cases h
    exact .inr ⟨rfl, rfl⟩
  | some parts =>
    rw [hcut] at h
    cases h
    exact .inl (Text.eq_append_of_cutAt? hcut)

theorem cutUnsigned_of_form {unsigned whole places : List Char}
    (hd : ∀ c ∈ whole, Text.isDecimalDigit c = true)
    (h : unsigned = whole ++ '.' :: places ∨ unsigned = whole ∧ places = []) :
    cutUnsigned unsigned = (whole, places) := by
  have hpoint : '.' ∉ whole := fun hmem => absurd (hd '.' hmem) (by decide)
  unfold cutUnsigned
  rcases h with rfl | ⟨rfl, rfl⟩
  · rw [Text.cutAt?_append hpoint]
    rfl
  · rw [Text.cutAt?_eq_none hpoint]
    rfl

/-- Behind the sign only the digits are examined. -/
theorem read?_eq {s : String} {negative : Bool} {unsigned : List Char}
    (hs : s.toList = if negative then '-' :: unsigned else unsigned)
    (hsign : negative = false → ∀ rest, unsigned ≠ '-' :: rest) :
    read? s =
      if (cutUnsigned unsigned).1 ++ (cutUnsigned unsigned).2 ≠ [] ∧
        ((cutUnsigned unsigned).1 ++ (cutUnsigned unsigned).2).all Text.isDecimalDigit then
        some ⟨negative, (cutUnsigned unsigned).1, (cutUnsigned unsigned).2⟩
      else none := by
  unfold read?
  rw [hs]
  cases negative with
  | true => rfl
  | false =>
    split
    next negative' unsigned' heq =>
      split at heq
      next rest hrest => exact absurd hrest (hsign rfl rest)
      next => cases heq; rfl

theorem exists_sign (s : String) : ∃ negative unsigned,
    s.toList = (if negative = true then '-' :: unsigned else unsigned) ∧
      (negative = false → ∀ rest, unsigned ≠ '-' :: rest) := by
  by_cases h : ∃ rest, s.toList = '-' :: rest
  · obtain ⟨rest, hrest⟩ := h
    exact ⟨true, rest, hrest, fun hsign => nomatch hsign⟩
  · exact ⟨false, s.toList, rfl, fun _ rest hrest => h ⟨rest, hrest⟩⟩

theorem read?_eq_some_iff {s : String} {t : DecimalText} : read? s = some t ↔ t.Spells s := by
  constructor
  · intro h
    obtain ⟨negative, unsigned, hs, hsign⟩ := exists_sign s
    rw [read?_eq hs hsign] at h
    split at h
    next hdigits =>
      cases h
      exact ⟨⟨unsigned, hs, cutUnsigned_form rfl⟩, hdigits.1, List.all_eq_true.mp hdigits.2⟩
    next => cases h
  · rintro ⟨⟨unsigned, hs, hform⟩, hne, hd⟩
    have hcut := cutUnsigned_of_form (fun c hc => hd c (List.mem_append_left _ hc)) hform
    have hsign : t.negative = false → ∀ rest, unsigned ≠ '-' :: rest := by
      -- Without a sign the text starts with a digit or the point.
      rintro - rest rfl
      have hmem : '-' ∈ t.whole ++ '.' :: t.places := by
        rcases hform with hform | ⟨hform, -⟩
        · rw [← hform]; exact List.mem_cons_self
        · rw [← hform]; simp
      have hdigit : '-' ∈ t.whole ++ t.places := by simpa using hmem
      exact absurd (hd '-' hdigit) (by decide)
    rw [read?_eq hs hsign, hcut]
    exact if_pos ⟨hne, List.all_eq_true.mpr hd⟩

theorem read?_digits {whole places : List Char} (hw : whole ≠ [])
    (hd : ∀ c ∈ whole ++ places, Text.isDecimalDigit c = true) :
    read? (String.ofList (if places = [] then whole else whole ++ '.' :: places)) =
      some ⟨false, whole, places⟩ := by
  refine read?_eq_some_iff.mpr ⟨⟨_, String.toList_ofList, ?_⟩, by simp [hw], hd⟩
  by_cases hp : places = []
  · exact .inr ⟨if_pos hp, hp⟩
  · exact .inl (if_neg hp)

end DecimalText

namespace Decimal

/-- The digits of a decimal with zeros in front, so that there is one before the places. -/
def padded (d : Decimal) : List Char :=
  let digits := Text.numeral 10 d.mantissa
  List.replicate (d.scale + 1 - digits.length) '0' ++ digits

theorem scale_lt_length_padded (d : Decimal) : d.scale < d.padded.length := by
  have hpos : 0 < (Text.numeral 10 d.mantissa).length :=
    List.length_pos_iff.mpr (Text.numeral_ne_nil 10 d.mantissa (by decide))
  simp only [padded, List.length_append, List.length_replicate]
  omega

theorem isDecimalDigit_of_mem_padded {d : Decimal} {c : Char} (hc : c ∈ d.padded) :
    Text.isDecimalDigit c = true := by
  rcases List.mem_append.mp hc with hzero | hdigit
  · rw [List.eq_of_mem_replicate hzero]; decide
  · exact Text.isDecimalDigit_of_mem_numeral hdigit

theorem ofDigits_padded (d : Decimal) :
    Radix.ofDigits 10 (d.padded.map Text.digitValue) = d.mantissa := by
  have hzero : Text.digitValue '0' = 0 := by decide
  rw [padded, List.map_append, List.map_replicate, hzero, Radix.ofDigits_replicate_zero]
  exact Text.ofDigits_numeral (by decide) (by decide) d.mantissa

theorem read?_text (d : Decimal) :
    ∃ t, DecimalText.read? d.text = some t ∧ t.negative = false ∧ t.magnitude = d := by
  have hlt := d.scale_lt_length_padded
  have hwhole : d.padded.take (d.padded.length - d.scale) ≠ [] := by
    rw [← List.length_pos_iff, List.length_take]
    omega
  refine ⟨⟨false, d.padded.take (d.padded.length - d.scale),
    d.padded.drop (d.padded.length - d.scale)⟩, DecimalText.read?_digits hwhole ?_, rfl, ?_⟩
  · intro c hc
    rw [List.take_append_drop] at hc
    exact isDecimalDigit_of_mem_padded hc
  · rw [DecimalText.magnitude, List.take_append_drop, ofDigits_padded, List.length_drop]
    congr
    omega

end Decimal

end SwapBroker
