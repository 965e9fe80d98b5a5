import SwapBroker.Address.Basic
import SwapBroker.Proofs.Ss58Accounts

/-!
# Spellings of Ethereum addresses

The digits of an address are the hex digits of twenty bytes, and the letters among them carry the
checksum in their case. Of the many ways to write the letters of an address three are accepted: all
small, all capital, and each in the case that the digest of the small digits gives it. `check_ok_iff`
says so of the bytes of an address, `refused_iff` says why any other text is refused.
-/

namespace SwapBroker

-- ---------------------------------------------------------------------------
-- Digits and their case
-- ---------------------------------------------------------------------------

namespace Text

variable {c : Char}

theorem toLower_of_not_isUpper (h : isHexDigit c = true) (hc : c.isUpper = false) :
    c.toLower = c := by
  have all : ∀ c ∈ "0123456789abcdefABCDEF".toList, c.isUpper = false → c.toLower = c :=
    List.all_iff_forall_prop.mp (by decide)
  exact all c (mem_hexDigits h) hc

theorem toUpper_of_not_isLower (h : isHexDigit c = true) (hc : c.isLower = false) :
    c.toLower.toUpper = c := by
  have all : ∀ c ∈ "0123456789abcdefABCDEF".toList, c.isLower = false → c.toLower.toUpper = c :=
    List.all_iff_forall_prop.mp (by decide)
  exact all c (mem_hexDigits h) hc

theorem isUpper_of_small (h : c ∈ "0123456789abcdef".toList) : c.isUpper = false := by
  have all : ∀ c ∈ "0123456789abcdef".toList, c.isUpper = false :=
    List.all_iff_forall_prop.mp (by decide)
  exact all c h

theorem toUpper_of_small (h : c ∈ "0123456789abcdef".toList) :
    isHexDigit c.toUpper = true ∧ c.toUpper.isLower = false ∧ c.toUpper.toLower = c := by
  have all : ∀ c ∈ "0123456789abcdef".toList,
      isHexDigit c.toUpper = true ∧ c.toUpper.isLower = false ∧ c.toUpper.toLower = c :=
    List.all_iff_forall_prop.mp (by decide)
  exact all c h

end Text

namespace Bytes

open Text

variable {ds : List Char} {bytes : Bytes}

theorem isHexDigit_of_ofHex? (h : ofHex? ds = some bytes) : ∀ c ∈ ds, isHexDigit c = true := by
  fun_induction ofHex? ds generalizing bytes with
  | case1 => simp
  | case2 => cases h
  | case3 hi lo rest hdigits ih =>
    obtain ⟨bytes, hrest, -⟩ := Option.map_eq_some_iff.mp h
    obtain ⟨hhi, hlo⟩ := Bool.and_eq_true_iff.mp hdigits
    exact List.forall_mem_cons.mpr ⟨hhi, List.forall_mem_cons.mpr ⟨hlo, ih hrest⟩⟩
  | case4 => cases h

theorem length_of_ofHex? (h : ofHex? ds = some bytes) : ds.length = 2 * bytes.length := by
  rw [← length_toHex, toHex_of_ofHex? h, List.length_map]

/-- Digits are read as bytes whatever the case of the letters. -/
theorem ofHex?_eq_some_iff :
    ofHex? ds = some bytes ↔ (∀ c ∈ ds, isHexDigit c = true) ∧ ds.map Char.toLower = toHex bytes := by
  constructor
  · intro h
    exact ⟨isHexDigit_of_ofHex? h, (toHex_of_ofHex? h).symm⟩
  · rintro ⟨hall, hlower⟩
    have hlen : ds.length = 2 * bytes.length := by
      rw [← length_toHex, ← hlower, List.length_map]
    obtain ⟨read, hread, -⟩ := exists_ofHex?_of_digits hlen hall
    have hsame : toHex read = toHex bytes := (toHex_of_ofHex? hread).trans hlower
    rw [hread, ← ofHex?_toHex read, hsame, ofHex?_toHex]

def halfAt (bytes : Bytes) (i : Nat) : Nat :=
  if i % 2 = 0 then (bytes.getD (i / 2) 0).toNat / 16 else (bytes.getD (i / 2) 0).toNat % 16

theorem halfAt_lt (bytes : Bytes) (i : Nat) : halfAt bytes i < 16 := by
  obtain ⟨hhi, hlo⟩ := halves_lt (bytes.getD (i / 2) 0)
  unfold halfAt
  split
  · exact hhi
  · exact hlo

theorem getElem?_toHex {i : Nat} (h : i < 2 * bytes.length) :
    (toHex bytes)[i]? = some (digitChar (halfAt bytes i)) := by
  induction bytes generalizing i with
  | nil => cases h
  | cons b bytes ih =>
    rw [toHex_cons]
    match i with
    | 0 => rfl
    | 1 => rfl
    | i + 2 =>
      have hi : i < 2 * bytes.length := by
        rw [List.length_cons] at h
        omega
      have hhalf : halfAt (b :: bytes) (i + 2) = halfAt bytes i := by
        simp [halfAt]
      rw [List.getElem?_cons_succ, List.getElem?_cons_succ, ih hi, hhalf]

end Bytes

-- ---------------------------------------------------------------------------
-- The case of the checksum
-- ---------------------------------------------------------------------------

namespace Evm

open Text Bytes

variable {address : String} {ds : List Char} {bytes : Bytes}

def caseDigest (bytes : Bytes) : Bytes :=
  Digest.Keccak256.digest ((toHex bytes).map fun c => UInt8.ofNat c.toNat)

/-- Digits of bytes with the letter case of EIP-55: a letter is capital if the first bit of the half
byte in its place of the digest is set. -/
structure ChecksumCased (bytes : Bytes) (ds : List Char) : Prop where
  digits : ofHex? ds = some bytes
  capital : ∀ i c, ds[i]? = some c → c.isUpper = true → 8 ≤ halfAt (caseDigest bytes) i
  small : ∀ i c, ds[i]? = some c → c.isLower = true → halfAt (caseDigest bytes) i < 8

theorem length_caseDigest (bytes : Bytes) : (caseDigest bytes).length = 32 := by
  simp [caseDigest, Digest.Keccak256.digest, List.length_flatMap, List.map_const']

theorem checksumCase_eq (h : ofHex? ds = some bytes) :
    checksumCase ds = List.zipWith (fun c mark => if 8 ≤ digitValue mark then c.toUpper else c)
      (toHex bytes) (toHex (caseDigest bytes)) := by
  rw [checksumCase, ← toHex_of_ofHex? h, List.map_zip_eq_zipWith]
  rfl

theorem getElem?_checksumCase (h : ofHex? ds = some bytes) (hlen : bytes.length ≤ 32) (i : Nat) :
    (checksumCase ds)[i]? =
      (toHex bytes)[i]?.map fun c => if 8 ≤ halfAt (caseDigest bytes) i then c.toUpper else c := by
  rw [checksumCase_eq h, List.getElem?_zipWith]
  cases hc : (toHex bytes)[i]? with
  | none => rfl
  | some c =>
    obtain ⟨hi, -⟩ := List.getElem?_eq_some_iff.mp hc
    rw [length_toHex] at hi
    have hi' : i < 2 * (caseDigest bytes).length := by
      rw [length_caseDigest]
      omega
    simp [getElem?_toHex hi', digitValue_digitChar (halfAt_lt _ i)]

theorem cased_small {c : Char} (p : Prop) [Decidable p] (h : c ∈ "0123456789abcdef".toList) :
    isHexDigit (if p then c.toUpper else c) = true ∧ (if p then c.toUpper else c).toLower = c := by
  obtain ⟨hupper, -, hback⟩ := toUpper_of_small h
  split
  · exact ⟨hupper, hback⟩
  · exact ⟨(digitChar_digitValue_of_small h).1, toLower_of_small h⟩

theorem ofHex?_checksumCase (hlen : bytes.length ≤ 32) :
    ofHex? (checksumCase (toHex bytes)) = some bytes := by
  have hplace := getElem?_checksumCase (ofHex?_toHex bytes) hlen
  refine ofHex?_eq_some_iff.mpr ⟨fun c hc => ?_, List.ext_getElem? fun i => ?_⟩
  · obtain ⟨i, hi⟩ := List.mem_iff_getElem?.mp hc
    rw [hplace, Option.map_eq_some_iff] at hi
    obtain ⟨d, hd, rfl⟩ := hi
    exact (cased_small _ (mem_small_of_mem_toHex (List.mem_of_getElem? hd))).1
  · rw [List.getElem?_map, hplace, Option.map_map]
    cases hd : (toHex bytes)[i]? with
    | none => rfl
    | some d => exact congrArg some (cased_small _ (mem_small_of_mem_toHex (List.mem_of_getElem? hd))).2

theorem checksumCased_iff (hlen : bytes.length ≤ 32) :
    ChecksumCased bytes ds ↔ ds = checksumCase (toHex bytes) := by
  have hplace := getElem?_checksumCase (ofHex?_toHex bytes) hlen
  constructor
  · intro h
    refine List.ext_getElem? fun i => ?_
    rw [hplace, toHex_of_ofHex? h.digits, List.getElem?_map]
    cases hc : ds[i]? with
    | none => rfl
    | some c =>
      -- A digit without case is its own small and its own capital form, so two cases are enough.
      have hdigit := isHexDigit_of_ofHex? h.digits c (List.mem_of_getElem? hc)
      by_cases h8 : 8 ≤ halfAt (caseDigest bytes) i
      · have hlower : c.isLower = false := by
          by_contra hsmall
          exact Nat.not_lt.mpr h8 (h.small i c hc (Bool.of_not_eq_false hsmall))
        simp [h8, toUpper_of_not_isLower hdigit hlower]
      · have hupper : c.isUpper = false := by
          by_contra hcapital
          exact h8 (h.capital i c hc (Bool.of_not_eq_false hcapital))
        simp [h8, toLower_of_not_isUpper hdigit hupper]
  · rintro rfl
    have hcase {i c} (hc : (checksumCase (toHex bytes))[i]? = some c) :
        ∃ d ∈ "0123456789abcdef".toList,
          (if 8 ≤ halfAt (caseDigest bytes) i then d.toUpper else d) = c := by
      rw [hplace, Option.map_eq_some_iff] at hc
      obtain ⟨d, hd, hdc⟩ := hc
      exact ⟨d, mem_small_of_mem_toHex (List.mem_of_getElem? hd), hdc⟩
    refine ⟨ofHex?_checksumCase hlen, fun i c hc hupper => ?_, fun i c hc hlower => ?_⟩
    · obtain ⟨d, hd, rfl⟩ := hcase hc
      by_contra h8
      rw [if_neg h8, isUpper_of_small hd] at hupper
      cases hupper
    · obtain ⟨d, hd, rfl⟩ := hcase hc
      by_contra h8
      rw [if_pos (Nat.not_lt.mp h8), (toUpper_of_small hd).2.1] at hlower
      cases hlower

-- ---------------------------------------------------------------------------
-- The three spellings
-- ---------------------------------------------------------------------------

def spellings (bytes : Bytes) : List (List Char) :=
  [toHex bytes, (toHex bytes).map Char.toUpper, checksumCase (toHex bytes)]

theorem mem_spellings : ds ∈ spellings bytes ↔
    ds = toHex bytes ∨ ds = (toHex bytes).map Char.toUpper ∨ ds = checksumCase (toHex bytes) := by
  simp [spellings]

theorem ofHex?_capital (bytes : Bytes) : ofHex? ((toHex bytes).map Char.toUpper) = some bytes := by
  refine ofHex?_eq_some_iff.mpr ⟨List.forall_mem_map.mpr fun c hc => ?_, ?_⟩
  · exact (toUpper_of_small (mem_small_of_mem_toHex hc)).1
  · have hback : ∀ c ∈ toHex bytes, (Char.toLower ∘ Char.toUpper) c = id c := fun c hc =>
      (toUpper_of_small (mem_small_of_mem_toHex hc)).2.2
    rw [List.map_map, List.map_congr_left hback, List.map_id]

theorem ofHex?_of_mem_spellings (hlen : bytes.length ≤ 32) (h : ds ∈ spellings bytes) :
    ofHex? ds = some bytes := by
  rcases mem_spellings.mp h with rfl | rfl | rfl
  · exact ofHex?_toHex bytes
  · exact ofHex?_capital bytes
  · exact ofHex?_checksumCase hlen

theorem hasBothCases_iff :
    hasBothCases ds = true ↔ (∃ c ∈ ds, c.isUpper = true) ∧ ∃ c ∈ ds, c.isLower = true := by
  simp [hasBothCases]

theorem not_hasBothCases_toHex (bytes : Bytes) : hasBothCases (toHex bytes) = false := by
  by_contra h
  obtain ⟨⟨c, hc, hupper⟩, -⟩ := hasBothCases_iff.mp (Bool.of_not_eq_false h)
  rw [isUpper_of_small (mem_small_of_mem_toHex hc)] at hupper
  cases hupper

theorem not_hasBothCases_capital (bytes : Bytes) :
    hasBothCases ((toHex bytes).map Char.toUpper) = false := by
  by_contra h
  obtain ⟨-, c, hc, hlower⟩ := hasBothCases_iff.mp (Bool.of_not_eq_false h)
  obtain ⟨d, hd, rfl⟩ := List.mem_map.mp hc
  rw [(toUpper_of_small (mem_small_of_mem_toHex hd)).2.1] at hlower
  cases hlower

theorem mem_spellings_of_single_case (h : ofHex? ds = some bytes) (hcase : hasBothCases ds = false) :
    ds ∈ spellings bytes := by
  have hall := isHexDigit_of_ofHex? h
  rcases Bool.and_eq_false_iff.mp hcase with hupper | hlower
  · have hsame : ∀ c ∈ ds, c.toLower = id c := fun c hc =>
      toLower_of_not_isUpper (hall c hc) (by simpa using List.any_eq_false.mp hupper c hc)
    refine mem_spellings.mpr (.inl ?_)
    rw [toHex_of_ofHex? h, List.map_congr_left hsame, List.map_id]
  · have hsame : ∀ c ∈ ds, (Char.toUpper ∘ Char.toLower) c = id c := fun c hc =>
      toUpper_of_not_isLower (hall c hc) (by simpa using List.any_eq_false.mp hlower c hc)
    refine mem_spellings.mpr (.inr (.inl ?_))
    rw [toHex_of_ofHex? h, List.map_map, List.map_congr_left hsame, List.map_id]

theorem mem_spellings_iff (h : ofHex? ds = some bytes) :
    ds ∈ spellings bytes ↔ ¬ (hasBothCases ds = true ∧ ds ≠ checksumCase ds) := by
  -- The checksum is that of the small digits, whatever the case of the given ones.
  have hcase : checksumCase ds = checksumCase (toHex bytes) := by
    rw [checksumCase_eq h, checksumCase_eq (ofHex?_toHex bytes)]
  constructor
  · rintro hmem ⟨hboth, hne⟩
    rcases mem_spellings.mp hmem with rfl | rfl | hchecksum
    · rw [not_hasBothCases_toHex] at hboth
      cases hboth
    · rw [not_hasBothCases_capital] at hboth
      cases hboth
    · exact hne (hchecksum.trans hcase.symm)
  · intro hpassed
    cases hboth : hasBothCases ds with
    | false => exact mem_spellings_of_single_case h hboth
    | true =>
      refine mem_spellings.mpr (.inr (.inr ?_))
      rw [← hcase]
      by_contra hne
      exact hpassed ⟨hboth, hne⟩

-- ---------------------------------------------------------------------------
-- Acceptance
-- ---------------------------------------------------------------------------

def marked (ds : List Char) : String :=
  String.ofList ('0' :: 'x' :: ds)

/-- Why a text is refused. Each reason is given only where none before it applies. -/
inductive Refused : String → AddressError → Prop
  | unmarked {address : String} (h : ∀ ds, address ≠ marked ds) :
    Refused address (.format .unmarked)
  | notHex {ds : List Char} {c : Char} (mem : c ∈ ds) (h : isHexDigit c = false) :
    Refused (marked ds) (.encoding .notHex)
  | length {ds : List Char} (digits : ∀ c ∈ ds, isHexDigit c = true) (h : ds.length ≠ 40) :
    Refused (marked ds) (.length 20 (ds.length / 2))
  | checksum {ds : List Char} {bytes : Bytes} (digits : ofHex? ds = some bytes)
    (size : bytes.length = 20) (h : ds ∉ spellings bytes) : Refused (marked ds) .checksum

theorem toList_marked (ds : List Char) : (marked ds).toList = '0' :: 'x' :: ds :=
  String.toList_ofList

theorem eq_marked_iff : address = marked ds ↔ address.toList = '0' :: 'x' :: ds := by
  rw [← toList_marked, String.toList_inj]

theorem check_marked (ds : List Char) : check (marked ds) =
    if !ds.all isHexDigit then .error (.encoding .notHex)
    else if ds.length ≠ 40 then .error (.length 20 (ds.length / 2))
    else if hasBothCases ds = true ∧ ds ≠ checksumCase ds then .error .checksum
    else .ok () := by
  rw [check, afterMark?_eq_some_iff.mpr (toList_marked ds)]
  rfl

theorem check_of_bytes (h : ofHex? ds = some bytes) (hsize : bytes.length = 20) :
    check (marked ds) = if ds ∈ spellings bytes then .ok () else .error .checksum := by
  have hall : ds.all isHexDigit = true := List.all_eq_true.mpr (isHexDigit_of_ofHex? h)
  have hlen : ds.length = 40 := by
    rw [length_of_ofHex? h, hsize]
  simp only [check_marked, hall, hlen, mem_spellings_iff h, ite_not]
  rfl

theorem check_of_refused {e : AddressError} (h : Refused address e) : check address = .error e := by
  cases h with
  | unmarked h =>
    cases hmark : afterMark? address.toList with
    | none => rw [check, hmark]
    | some ds => exact absurd (eq_marked_iff.mpr (afterMark?_eq_some_iff.mp hmark)) (h ds)
  | @notHex ds c mem h =>
    have hany : ds.all isHexDigit = false := List.all_eq_false.mpr ⟨c, mem, by simp [h]⟩
    rw [check_marked, hany]
    rfl
  | @length ds digits h =>
    have hall : ds.all isHexDigit = true := List.all_eq_true.mpr digits
    rw [check_marked, hall]
    exact if_pos h
  | checksum digits size h => rw [check_of_bytes digits size, if_neg h]

theorem refused_or_spelled (address : String) :
    (∃ e, Refused address e) ∨
      ∃ ds bytes, address = marked ds ∧ bytes.length = 20 ∧ ds ∈ spellings bytes := by
  by_cases hmark : ∃ ds, address = marked ds
  · obtain ⟨ds, rfl⟩ := hmark
    by_cases hall : ∀ c ∈ ds, isHexDigit c = true
    · by_cases hlen : ds.length = 40
      · obtain ⟨bytes, hread, hsize⟩ : ∃ bytes, ofHex? ds = some bytes ∧ bytes.length = 20 :=
          exists_ofHex?_of_digits hlen hall
        by_cases hmem : ds ∈ spellings bytes
        · exact .inr ⟨ds, bytes, rfl, hsize, hmem⟩
        · exact .inl ⟨_, .checksum hread hsize hmem⟩
      · exact .inl ⟨_, .length hall hlen⟩
    · push Not at hall
      obtain ⟨c, hc, hdigit⟩ := hall
      exact .inl ⟨_, .notHex hc (Bool.of_not_eq_true hdigit)⟩
  · exact .inl ⟨_, .unmarked (not_exists.mp hmark)⟩

theorem check_ok_iff : check address = .ok () ↔
    ∃ ds bytes, address = marked ds ∧ bytes.length = 20 ∧ ds ∈ spellings bytes := by
  constructor
  · intro h
    rcases refused_or_spelled address with ⟨e, hrefused⟩ | hspelled
    · rw [check_of_refused hrefused] at h
      cases h
    · exact hspelled
  · rintro ⟨ds, bytes, rfl, hsize, hmem⟩
    rw [check_of_bytes (ofHex?_of_mem_spellings (by omega) hmem) hsize, if_pos hmem]

theorem refused_iff {e : AddressError} : check address = .error e ↔ Refused address e := by
  constructor
  · intro h
    rcases refused_or_spelled address with ⟨e', hrefused⟩ | hspelled
    · rw [check_of_refused hrefused] at h
      cases h
      exact hrefused
    · rw [check_ok_iff.mpr hspelled] at h
      cases h
  · exact check_of_refused

theorem check_spelling_iff (hsize : bytes.length = 20) :
    check address = .ok () ∧ (∃ ds, address = marked ds ∧ ofHex? ds = some bytes) ↔
      ∃ ds ∈ spellings bytes, address = marked ds := by
  constructor
  · rintro ⟨hcheck, ds, rfl, hread⟩
    refine ⟨ds, ?_, rfl⟩
    by_contra hmem
    rw [check_of_bytes hread hsize, if_neg hmem] at hcheck
    cases hcheck
  · rintro ⟨ds, hmem, rfl⟩
    have hread := ofHex?_of_mem_spellings (by omega) hmem
    exact ⟨by rw [check_of_bytes hread hsize, if_pos hmem], ds, rfl, hread⟩

/-- Of the texts with the digits of twenty bytes three are accepted, on every network: small letters
alone, capital letters alone, and the one text whose letters have the case of the checksum. No other
text is accepted, and each is refused for the first of four reasons that applies. -/
theorem accepted_in_three_spellings :
    (∀ (network : Network) (bytes : Bytes), bytes.length = 20 →
      ∃ mixed, (∀ ds, ChecksumCased bytes ds ↔ ds = mixed) ∧
        ∀ address, (AddressFormat.evm.check network address = .ok () ∧
            ∃ ds, address = marked ds ∧ ofHex? ds = some bytes) ↔
          address = marked (toHex bytes) ∨ address = marked ((toHex bytes).map Char.toUpper) ∨
            address = marked mixed) ∧
    (∀ (network : Network) (address : String), AddressFormat.evm.check network address = .ok () →
      ∃ ds, address = marked ds ∧ ds.length = 40 ∧ ∀ c ∈ ds, isHexDigit c = true) ∧
    ∀ (network : Network) (address : String) (e : AddressError),
      AddressFormat.evm.check network address = .error e ↔ Refused address e := by
  refine ⟨fun network bytes hsize => ?_, fun network address h => ?_, fun network address e =>
    refused_iff⟩
  · refine ⟨checksumCase (toHex bytes), fun ds => checksumCased_iff (by omega), fun address => ?_⟩
    refine (check_spelling_iff hsize).trans ?_
    simp [spellings]
  · obtain ⟨ds, bytes, rfl, hsize, hmem⟩ := check_ok_iff.mp h
    have hread := ofHex?_of_mem_spellings (by omega) hmem
    exact ⟨ds, rfl, by rw [length_of_ofHex? hread, hsize], isHexDigit_of_ofHex? hread⟩

def mixedCaseBytes : Bytes :=
  [0x5a, 0xae, 0xb6, 0x05, 0x3f, 0x3e, 0x94, 0xc9, 0xb9, 0xa0, 0x9f, 0x33, 0x66, 0x94, 0x35, 0xe7,
    0xef, 0x1b, 0xea, 0xed]

theorem accepted_in_three_spellings_mixed :
    AddressFormat.evm.check .mainnet "0x5aAeb6053F3E94C9b9A09f33669435E7Ef1BeAed" = .ok () ∧
      AddressFormat.evm.check .mainnet "0x5aAeb6053F3E94C9b9A09f33669435E7Ef1BeAeD" =
        .error .checksum := by
  obtain ⟨hthree, -, hrefused⟩ := accepted_in_three_spellings
  obtain ⟨mixed, hmixed, haccepted⟩ := hthree .mainnet mixedCaseBytes rfl
  have hchecksum : checksumCase (toHex mixedCaseBytes) =
      "5aAeb6053F3E94C9b9A09f33669435E7Ef1BeAed".toList := by decide +kernel
  have hcased : "5aAeb6053F3E94C9b9A09f33669435E7Ef1BeAed".toList = mixed :=
    (hmixed _).mp ((checksumCased_iff (by decide)).mpr hchecksum.symm)
  have hread : ofHex? "5aAeb6053F3E94C9b9A09f33669435E7Ef1BeAeD".toList = some mixedCaseBytes := by
    decide +kernel
  refine ⟨((haccepted _).mpr (.inr (.inr ?_))).1, (hrefused _ _ _).mpr ?_⟩
  · rw [← hcased]
    decide +kernel
  · refine .checksum hread rfl ?_
    rw [mem_spellings, hchecksum]
    decide +kernel

end Evm

end SwapBroker
