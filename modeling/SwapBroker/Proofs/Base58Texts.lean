import SwapBroker.Encoding.Base58
import SwapBroker.Proofs.Numerals
import SwapBroker.Proofs.Outcomes

/-!
# Base58 texts and their bytes

A text whose first digit is not zero and its bytes write one number, in base 58 and in base 256. The
leading digits of both bound that number. The text that is made of bytes is read back as those bytes.
-/

namespace SwapBroker.Base58

theorem lt_of_idxOf?_alphabet {c : Char} {d : Nat} (h : alphabet.idxOf? c = some d) : d < 58 := by
  obtain ⟨hlt, -⟩ := List.idxOf?_eq_some_iff.mp h
  exact hlt

theorem readDigits_ok {place : Nat} {cs : List Char} {ds : List Nat} :
    readDigits place cs = .ok ds ↔ cs.map alphabet.idxOf? = ds.map some := by
  induction cs generalizing place ds with
  | nil => cases ds <;> simp [readDigits]
  | cons c rest ih =>
    unfold readDigits
    cases hd : alphabet.idxOf? c with
    | none => cases ds <;> simp [hd]
    | some d =>
      cases ds with
      | nil => cases readDigits (place + 1) rest <;> simp [Except.map]
      | cons e es =>
        simp only [List.map_cons, hd, List.cons.injEq, Option.some.injEq, ← @ih (place + 1)]
        cases readDigits (place + 1) rest <;> simp [Except.map]

theorem lt_of_map_idxOf? {cs : List Char} {ds : List Nat}
    (h : cs.map alphabet.idxOf? = ds.map some) : ∀ d ∈ ds, d < 58 := by
  intro d hd
  have hmem : some d ∈ cs.map alphabet.idxOf? := h ▸ List.mem_map_of_mem hd
  obtain ⟨c, -, hc⟩ := List.mem_map.mp hmem
  exact lt_of_idxOf?_alphabet hc

theorem decode_ok_iff {s : String} {bytes : Bytes} :
    decode s = .ok bytes ↔
      ∃ ds, s.toList.map alphabet.idxOf? = ds.map some ∧ ofDigits ds = bytes := by
  simp only [decode, Outcome.map_ok_iff, readDigits_ok]

theorem mem_alphabet_of_decode {s : String} {bytes : Bytes} (h : decode s = .ok bytes) :
    ∀ c ∈ s.toList, c ∈ alphabet := by
  obtain ⟨ds, hds, -⟩ := decode_ok_iff.mp h
  intro c hc
  have hmem : alphabet.idxOf? c ∈ ds.map some := hds ▸ List.mem_map_of_mem hc
  obtain ⟨d, -, hd⟩ := List.mem_map.mp hmem
  exact List.isSome_idxOf?.mp (hd ▸ rfl)

theorem exists_digits_of_alphabet {cs : List Char} (h : ∀ c ∈ cs, c ∈ alphabet) :
    ∃ ds : List Nat, cs.map alphabet.idxOf? = ds.map some := by
  induction cs with
  | nil => exact ⟨[], rfl⟩
  | cons c cs ih =>
    obtain ⟨hc, hrest⟩ := List.forall_mem_cons.mp h
    obtain ⟨d, hd⟩ := Option.isSome_iff_exists.mp (List.isSome_idxOf?.mpr hc)
    obtain ⟨ds, hds⟩ := ih hrest
    exact ⟨d :: ds, by rw [List.map_cons, List.map_cons, hd, hds]⟩

theorem exists_decode_ok_iff {s : String} :
    (∃ bytes, decode s = .ok bytes) ↔ ∀ c ∈ s.toList, c ∈ alphabet := by
  constructor
  · rintro ⟨bytes, h⟩
    exact mem_alphabet_of_decode h
  · intro h
    obtain ⟨ds, hds⟩ := exists_digits_of_alphabet h
    exact ⟨_, decode_ok_iff.mpr ⟨ds, hds, rfl⟩⟩

theorem decode_ne_ok_of_zero {s : String} {cs : List Char} {bytes : Bytes}
    (h : s.toList = '0' :: cs) : decode s ≠ .ok bytes := by
  intro hdecode
  have hzero : '0' ∈ alphabet := mem_alphabet_of_decode hdecode _ (h ▸ List.mem_cons_self)
  exact absurd hzero (by decide)

theorem ofDigits_cons_of_ne_zero {d : Nat} (ds : List Nat) (hd : d ≠ 0) :
    ofDigits (d :: ds) =
      (Radix.digits 256 (Radix.ofDigits 58 (d :: ds))).map UInt8.ofNat := by
  simp [ofDigits, hd]

theorem first_byte_bounds {n : Nat} {b : UInt8} {rest : Bytes}
    (hn : n ≠ 0) (h : (Radix.digits 256 n).map UInt8.ofNat = b :: rest) :
    b.toNat ≠ 0 ∧ b.toNat * 256 ^ rest.length ≤ n ∧ n < (b.toNat + 1) * 256 ^ rest.length := by
  obtain ⟨e, es, hes, he⟩ := Radix.exists_digits_eq_cons (by decide : 2 ≤ 256) hn
  have hlt : ∀ x ∈ e :: es, x < 256 := fun x hx => Radix.digits_lt (n := n) (hes ▸ hx)
  obtain ⟨he256, hes256⟩ := List.forall_mem_cons.mp hlt
  rw [hes, List.map_cons, List.cons.injEq] at h
  obtain ⟨rfl, rfl⟩ := h
  have hval : (UInt8.ofNat e).toNat = e := UInt8.toNat_ofNat_of_lt' he256
  have hn' : Radix.ofDigits 256 (e :: es) = n := hes ▸ Radix.ofDigits_digits (by decide) n
  rw [hval, List.length_map, ← hn']
  exact ⟨he, Radix.ofDigits_cons_bounds hes256⟩

theorem exists_number_of_digits {s : String} {c : Char} {cs : List Char} {d : Nat} {bytes : Bytes}
    (hs : s.toList = c :: cs) (hc : alphabet.idxOf? c = some d) (hd : d ≠ 0)
    (h : decode s = .ok bytes) :
    ∃ n, n ≠ 0 ∧ (d * 58 ^ cs.length ≤ n ∧ n < (d + 1) * 58 ^ cs.length) ∧
      (Radix.digits 256 n).map UInt8.ofNat = bytes := by
  obtain ⟨digits, hread, hbytes⟩ := Outcome.map_ok_iff.mp h
  have hmap := readDigits_ok.mp hread
  rw [hs, List.map_cons, hc] at hmap
  obtain ⟨d', ds, rfl, hd', hrest⟩ := List.map_eq_cons_iff.mp hmap.symm
  obtain rfl : d' = d := Option.some.inj hd'
  have hlen : cs.length = ds.length := by simpa using (congrArg List.length hrest).symm
  have hlt : ∀ x ∈ d' :: ds, x < 58 := lt_of_map_idxOf? (readDigits_ok.mp hread)
  obtain ⟨-, hds⟩ := List.forall_mem_cons.mp hlt
  have hbounds := Radix.ofDigits_cons_bounds (d := d') hds
  have hn : Radix.ofDigits 58 (d' :: ds) ≠ 0 := Radix.ofDigits_cons_ne_zero ds (by decide) hd
  rw [ofDigits_cons_of_ne_zero ds hd] at hbytes
  rw [hlen]
  exact ⟨_, hn, hbounds, hbytes⟩

/-- A text and its bytes start alike: the digit that leads the text and the byte that leads the
bytes bound one number. -/
theorem exists_number_of_decode {s : String} {c : Char} {cs : List Char} {d : Nat} {b : UInt8}
    {rest : Bytes} (hs : s.toList = c :: cs) (hc : alphabet.idxOf? c = some d) (hd : d ≠ 0)
    (h : decode s = .ok (b :: rest)) :
    ∃ n, (d * 58 ^ cs.length ≤ n ∧ n < (d + 1) * 58 ^ cs.length) ∧
      (b.toNat ≠ 0 ∧ b.toNat * 256 ^ rest.length ≤ n ∧ n < (b.toNat + 1) * 256 ^ rest.length) := by
  obtain ⟨n, hn, hbounds, hbytes⟩ := exists_number_of_digits hs hc hd h
  exact ⟨n, hbounds, first_byte_bounds hn hbytes⟩

/-- How many bytes a text has is told by the number that it writes. -/
theorem exists_number_of_length {s : String} {c : Char} {cs : List Char} {d : Nat} {bytes : Bytes}
    (hs : s.toList = c :: cs) (hc : alphabet.idxOf? c = some d) (hd : d ≠ 0)
    (h : decode s = .ok bytes) :
    ∃ n, (d * 58 ^ cs.length ≤ n ∧ n < (d + 1) * 58 ^ cs.length) ∧
      ∀ k, bytes.length = k + 1 ↔ 256 ^ k ≤ n ∧ n < 256 ^ (k + 1) := by
  obtain ⟨n, hn, hbounds, rfl⟩ := exists_number_of_digits hs hc hd h
  refine ⟨n, hbounds, fun k => ?_⟩
  rw [List.length_map, Radix.length_digits_iff (by decide) hn]

theorem decodeChecked_ok {s : String} {payload : Bytes} (h : decodeChecked s = .ok payload) :
    ∃ check, decode s = .ok (payload ++ check) ∧ check.length = checksumSize := by
  unfold decodeChecked at h
  split at h
  · cases h
  next bytes hbytes =>
    split at h
    · cases h
    next hlen =>
      dsimp only at h
      split at h
      · cases h
        refine ⟨bytes.drop (bytes.length - checksumSize), ?_, ?_⟩
        · rw [List.take_append_drop, hbytes]
        · rw [List.length_drop]; omega
      · cases h

-- ---------------------------------------------------------------------------
-- The text of bytes
-- ---------------------------------------------------------------------------

theorem idxOf?_digitAt {d : Nat} (hd : d < 58) : alphabet.idxOf? (digitAt d) = some d := by
  have all : ∀ d : Fin 58, alphabet.idxOf? (digitAt d) = some d.val := by decide
  exact all ⟨d, hd⟩

theorem exists_leading {α : Type} [DecidableEq α] (a : α) (l : List α) :
    ∃ n rest, l = List.replicate n a ++ rest ∧ rest.head? ≠ some a := by
  induction l with
  | nil => exact ⟨0, [], rfl, by simp⟩
  | cons b l ih =>
    by_cases hb : b = a
    · obtain ⟨n, rest, hl, hrest⟩ := ih
      exact ⟨n + 1, rest, by rw [hb, hl, List.replicate_succ, List.cons_append], hrest⟩
    · exact ⟨0, b :: l, rfl, by simpa using hb⟩

theorem takeWhile_leading {α : Type} [DecidableEq α] {a : α} {rest : List α} (n : Nat)
    (h : rest.head? ≠ some a) :
    ((List.replicate n a ++ rest).takeWhile (· = a)).length = n := by
  induction n with
  | zero =>
    cases rest with
    | nil => rfl
    | cons b rest =>
      have hb : b ≠ a := by simpa using h
      simp [hb]
  | succ n ih => simpa [List.replicate_succ] using ih

theorem encode_leading {rest : Bytes} (zeros : Nat) (h : rest.head? ≠ some 0) :
    encode (List.replicate zeros 0 ++ rest) =
      String.ofList (List.replicate zeros '1' ++
        (Radix.digits 58 (Radix.ofDigits 256 (rest.map UInt8.toNat))).map digitAt) := by
  have hnumber : Radix.ofDigits 256 ((List.replicate zeros (0 : UInt8) ++ rest).map UInt8.toNat) =
      Radix.ofDigits 256 (rest.map UInt8.toNat) := by
    rw [List.map_append, List.map_replicate, UInt8.toNat_zero, Radix.ofDigits_replicate_zero]
  rw [encode, takeWhile_leading zeros h, hnumber]

theorem ofDigits_leading {ds : List Nat} (zeros : Nat) (h : ds.head? ≠ some 0) :
    ofDigits (List.replicate zeros 0 ++ ds) =
      List.replicate zeros 0 ++ (Radix.digits 256 (Radix.ofDigits 58 ds)).map UInt8.ofNat := by
  rw [ofDigits, takeWhile_leading zeros h, Radix.ofDigits_replicate_zero]

theorem digits_of_bytes {bytes : Bytes} (h : bytes.head? ≠ some 0) :
    (Radix.digits 256 (Radix.ofDigits 256 (bytes.map UInt8.toNat))).map UInt8.ofNat = bytes := by
  have hlt : ∀ d ∈ bytes.map UInt8.toNat, d < 256 := by
    intro d hd
    obtain ⟨b, -, rfl⟩ := List.mem_map.mp hd
    exact b.toNat_lt
  have hlead : (bytes.map UInt8.toNat).head? ≠ some 0 := by
    intro hzero
    rw [List.head?_map, Option.map_eq_some_iff] at hzero
    obtain ⟨b, hb, hb0⟩ := hzero
    exact h (hb.trans (congrArg some (UInt8.toNat_inj.mp hb0)))
  rw [Radix.digits_ofDigits (by decide) hlt hlead]
  simp [Function.comp_def]

theorem decode_encode (bytes : Bytes) : decode (encode bytes) = .ok bytes := by
  obtain ⟨zeros, rest, rfl, hrest⟩ := exists_leading 0 bytes
  have hone : alphabet.idxOf? '1' = some 0 := by decide
  have hdigits {n : Nat} : ((Radix.digits 58 n).map digitAt).map alphabet.idxOf? =
      (Radix.digits 58 n).map some := by
    rw [List.map_map]
    exact List.map_congr_left fun d hd => idxOf?_digitAt (Radix.digits_lt hd)
  rw [encode_leading zeros hrest, decode_ok_iff]
  generalize hn : Radix.ofDigits 256 (rest.map UInt8.toNat) = n
  refine ⟨List.replicate zeros 0 ++ Radix.digits 58 n, ?_, ?_⟩
  · rw [String.toList_ofList, List.map_append, List.map_replicate, hone, hdigits, List.map_append,
      List.map_replicate]
  · rw [ofDigits_leading zeros (Radix.head?_digits_ne_zero (by decide)),
      Radix.ofDigits_digits (by decide), ← hn, digits_of_bytes hrest]

theorem encode_injective : Function.Injective encode := by
  intro bytes bytes' h
  have hread := decode_encode bytes
  rw [h, decode_encode] at hread
  exact (Except.ok.inj hread).symm

theorem digitAt_of_idxOf? {c : Char} {d : Nat} (h : alphabet.idxOf? c = some d) : digitAt d = c := by
  obtain ⟨hlt, hc, -⟩ := List.idxOf?_eq_some_iff.mp h
  rw [digitAt, List.getD_eq_getElem?_getD, List.getElem?_eq_getElem hlt, hc]
  rfl

theorem map_digitAt {cs : List Char} {ds : List Nat} (h : cs.map alphabet.idxOf? = ds.map some) :
    ds.map digitAt = cs := by
  induction cs generalizing ds with
  | nil =>
    rw [List.map_eq_nil_iff.mp h.symm]
    rfl
  | cons c cs ih =>
    obtain ⟨d, ds, rfl, hd, hrest⟩ := List.map_eq_cons_iff.mp h.symm
    rw [List.map_cons, digitAt_of_idxOf? hd.symm, ih hrest.symm]

theorem head?_bytes_ne_zero (n : Nat) : ((Radix.digits 256 n).map UInt8.ofNat).head? ≠ some 0 := by
  intro hzero
  rw [List.head?_map, Option.map_eq_some_iff] at hzero
  obtain ⟨d, hd, hd0⟩ := hzero
  have hlt : d < 256 := Radix.digits_lt (List.mem_of_head? hd)
  have hvalue : (UInt8.ofNat d).toNat = d := UInt8.toNat_ofNat_of_lt' hlt
  rw [hd0] at hvalue
  exact Radix.head?_digits_ne_zero (by decide) (hvalue ▸ hd)

theorem ofDigits_bytes (n : Nat) :
    Radix.ofDigits 256 (((Radix.digits 256 n).map UInt8.ofNat).map UInt8.toNat) = n := by
  have hvalue : ∀ d ∈ Radix.digits 256 n, (UInt8.toNat ∘ UInt8.ofNat) d = id d := fun d hd =>
    UInt8.toNat_ofNat_of_lt' (Radix.digits_lt hd)
  rw [List.map_map, List.map_congr_left hvalue, List.map_id, Radix.ofDigits_digits (by decide)]

/-- A text that is read is the text of its bytes, the digits one in front included. -/
theorem encode_of_decode {s : String} {bytes : Bytes} (h : decode s = .ok bytes) :
    encode bytes = s := by
  obtain ⟨ds, hds, rfl⟩ := decode_ok_iff.mp h
  have hlt : ∀ d ∈ ds, d < 58 := lt_of_map_idxOf? hds
  obtain ⟨zeros, rest, rfl, hrest⟩ := exists_leading 0 ds
  rw [ofDigits_leading zeros hrest, encode_leading zeros (head?_bytes_ne_zero _), ofDigits_bytes,
    Radix.digits_ofDigits (by decide) (fun d hd => hlt d (List.mem_append_right _ hd)) hrest,
    ← String.toList_inj, String.toList_ofList, ← map_digitAt hds, List.map_append,
    List.map_replicate]
  rfl

theorem decode_ok_iff_eq_encode {s : String} {bytes : Bytes} :
    decode s = .ok bytes ↔ s = encode bytes := by
  constructor
  · intro h
    exact (encode_of_decode h).symm
  · rintro rfl
    exact decode_encode bytes

end SwapBroker.Base58
