import SwapBroker.Address.Ss58
import SwapBroker.Proofs.Base58Texts
import SwapBroker.Proofs.Parts

/-!
# Accounts and their texts

An account id is written in hex, in any letter case, or as an SS58 address. `Ss58.account?` reads
the id of a text, hex first, as the check of an address does. The form in which an account is sent
is made the other way round, SS58 first, and yet has the same id in small hex digits.
-/

namespace SwapBroker

-- ---------------------------------------------------------------------------
-- Bytes in hex
-- ---------------------------------------------------------------------------

namespace Bytes

open Text

theorem toHex_cons (b : UInt8) (bytes : Bytes) :
    toHex (b :: bytes) = digitChar (b.toNat / 16) :: digitChar (b.toNat % 16) :: toHex bytes := rfl

theorem length_toHex (bytes : Bytes) : (toHex bytes).length = 2 * bytes.length := by
  induction bytes with
  | nil => rfl
  | cons b bytes ih =>
    rw [toHex_cons, List.length_cons, List.length_cons, ih, List.length_cons]
    omega

theorem halves_lt (b : UInt8) : b.toNat / 16 < 16 ∧ b.toNat % 16 < 16 := by
  have hb : b.toNat < 256 := b.toNat_lt
  omega

theorem mem_small_of_mem_toHex {bytes : Bytes} {c : Char} (hc : c ∈ toHex bytes) :
    c ∈ "0123456789abcdef".toList := by
  induction bytes with
  | nil => cases hc
  | cons b bytes ih =>
    obtain ⟨hhi, hlo⟩ := halves_lt b
    rw [toHex_cons] at hc
    rcases List.mem_cons.mp hc with rfl | hc
    · exact (digitChar_small hhi).2
    · rcases List.mem_cons.mp hc with rfl | hc
      · exact (digitChar_small hlo).2
      · exact ih hc

theorem ofHex?_toHex (bytes : Bytes) : ofHex? (toHex bytes) = some bytes := by
  induction bytes with
  | nil => rfl
  | cons b bytes ih =>
    obtain ⟨hhi, hlo⟩ := halves_lt b
    have hbyte : b.toNat / 16 * 16 + b.toNat % 16 = b.toNat := Nat.div_add_mod' _ _
    simp only [toHex_cons, ofHex?, (digitChar_small hhi).1, (digitChar_small hlo).1,
      digitValue_digitChar hhi, digitValue_digitChar hlo, hbyte, ih, Bool.and_true, if_true,
      Option.map_some, UInt8.ofNat_toNat]

theorem toHex_of_ofHex? {ds : List Char} {bytes : Bytes} (h : ofHex? ds = some bytes) :
    toHex bytes = ds.map Char.toLower := by
  fun_induction ofHex? ds generalizing bytes with
  | case1 => cases h; rfl
  | case2 => cases h
  | case3 hi lo rest hdigits ih =>
    obtain ⟨bytes, hrest, rfl⟩ := Option.map_eq_some_iff.mp h
    obtain ⟨hhi, hlo⟩ := Bool.and_eq_true_iff.mp hdigits
    obtain ⟨hhi, hhi'⟩ := digitChar_digitValue hhi
    obtain ⟨hlo, hlo'⟩ := digitChar_digitValue hlo
    have hlt : digitValue hi * 16 + digitValue lo < 256 := by omega
    have hbyte : (UInt8.ofNat (digitValue hi * 16 + digitValue lo)).toNat =
        digitValue hi * 16 + digitValue lo := UInt8.toNat_ofNat_of_lt' hlt
    have hdiv : (digitValue hi * 16 + digitValue lo) / 16 = digitValue hi := by omega
    have hmod : (digitValue hi * 16 + digitValue lo) % 16 = digitValue lo := by omega
    rw [toHex_cons, hbyte, hdiv, hmod, hhi', hlo', ih hrest]
    rfl
  | case4 => cases h

theorem exists_ofHex?_of_digits {size : Nat} {ds : List Char} (hlen : ds.length = 2 * size)
    (hall : ∀ c ∈ ds, isHexDigit c = true) :
    ∃ bytes, ofHex? ds = some bytes ∧ bytes.length = size := by
  induction size generalizing ds with
  | zero =>
    obtain rfl : ds = [] := List.length_eq_zero_iff.mp hlen
    exact ⟨[], rfl, rfl⟩
  | succ size ih =>
    match ds, hlen with
    | hi :: lo :: rest, hlen =>
      obtain ⟨hhi, hall⟩ := List.forall_mem_cons.mp hall
      obtain ⟨hlo, hall⟩ := List.forall_mem_cons.mp hall
      simp only [List.length_cons] at hlen
      obtain ⟨bytes, hbytes, hsize⟩ := ih (by omega) hall
      exact ⟨_, by simp [ofHex?, hhi, hlo, hbytes]; rfl, congrArg (· + 1) hsize⟩

end Bytes

-- ---------------------------------------------------------------------------
-- Reading SS58 addresses
-- ---------------------------------------------------------------------------

namespace Ss58

open Outcome

theorem readType_ok {bytes : Bytes} {type size : Nat} (h : readType bytes = .ok (type, size)) :
    (∃ first rest, bytes = first :: rest ∧ size = 1 ∧ type = first.toNat ∧ first.toNat < 64) ∨
    ∃ first second rest, bytes = first :: second :: rest ∧ size = 2 ∧
      type = ((first.toNat &&& 0x3f) <<< 2 ||| second.toNat >>> 6 |||
        (second.toNat &&& 0x3f) <<< 8) ∧
      64 ≤ first.toNat ∧ first.toNat < 128 := by
  cases bytes with
  | nil => cases h
  | cons first rest =>
    simp only [readType, UInt8.lt_iff_toNat_lt] at h
    split at h
    next hsmall =>
      cases h
      exact .inl ⟨first, rest, rfl, rfl, rfl, hsmall⟩
    next hlarge =>
      split at h
      next hlow =>
        cases rest with
        | nil => cases h
        | cons second rest =>
          cases h
          exact .inr ⟨first, second, rest, rfl, rfl, rfl, Nat.le_of_not_lt hlarge, hlow⟩
      next => cases h

theorem ofBytes_ok {bytes : Bytes} {a : Ss58} :
    ofBytes bytes = .ok a ↔
      ∃ size, readType bytes = .ok (a.type, size) ∧
        bytes.length = size + accountSize + checksumSize ∧
        checksum (bytes.take (size + accountSize)) = bytes.drop (size + accountSize) ∧
        a.account = (bytes.take (size + accountSize)).drop size := by
  simp only [ofBytes, bind_ok_iff, Prod.exists, guard_bind_ok_iff, not_not, pure_ok_iff]
  constructor
  · rintro ⟨type, size, htype, hlen, hsum, rfl⟩
    exact ⟨size, htype, hlen, hsum, rfl⟩
  · rintro ⟨size, htype, hlen, hsum, haccount⟩
    exact ⟨a.type, size, htype, hlen, hsum, by rw [← haccount]⟩

theorem decode_ok {address : String} {a : Ss58} :
    decode address = .ok a ↔
      ∃ bytes, Base58.decode address = .ok bytes ∧ ofBytes bytes = .ok a := by
  unfold decode
  cases Base58.decode address <;> simp

theorem length_account_of_decode {address : String} {a : Ss58} (h : decode address = .ok a) :
    a.account.length = accountSize := by
  obtain ⟨bytes, -, hbytes⟩ := decode_ok.mp h
  obtain ⟨size, -, hlen, -, haccount⟩ := ofBytes_ok.mp hbytes
  rw [haccount, List.length_drop, List.length_take]
  omega

theorem decode_ne_ok_of_zero {address : String} {cs : List Char} {a : Ss58}
    (h : address.toList = '0' :: cs) : decode address ≠ .ok a := by
  intro hdecode
  obtain ⟨bytes, hbytes, -⟩ := decode_ok.mp hdecode
  exact Base58.decode_ne_ok_of_zero h hbytes

-- ---------------------------------------------------------------------------
-- Accounts
-- ---------------------------------------------------------------------------

def account? (address : String) : Option Bytes :=
  if isHexAccount address then (Bytes.afterMark? address.toList).bind Bytes.ofHex?
  else (decode address).toOption.map (·.account)

theorem isHexAccount_iff {address : String} :
    isHexAccount address = true ↔ Bytes.IsHexOf address accountSize := by
  unfold isHexAccount
  constructor
  · intro h
    split at h
    next ds hds =>
      simp only [Bool.and_eq_true, decide_eq_true_eq, List.all_eq_true] at h
      exact ⟨ds, Bytes.afterMark?_eq_some_iff.mp hds, h⟩
    next => cases h
  · rintro ⟨ds, hds, hlen, hall⟩
    simp only [Bytes.afterMark?_eq_some_iff.mpr hds, Bool.and_eq_true, decide_eq_true_eq,
      List.all_eq_true]
    exact ⟨hlen, hall⟩

theorem check_of_hex {types : List Nat} {address : String} (h : isHexAccount address = true) :
    check types address = .ok () := by
  rw [check, if_pos h]

theorem check_of_decode {types : List Nat} {address : String} {a : Ss58}
    (hhex : isHexAccount address = false) (h : decode address = .ok a) :
    check types address =
      if a.type ∈ types then .ok () else .error (.wrongNetwork (.ss58 types) (.ss58 [a.type])) := by
  rw [check, hhex, h]
  by_cases ha : a.type ∈ types
  · rw [if_pos ha]
    exact guard_ok_iff.mpr (not_not.mpr ha)
  · rw [if_neg ha]
    exact if_pos ha

theorem check_ok {types : List Nat} {address : String} :
    check types address = .ok () ↔
      isHexAccount address = true ∨
        (isHexAccount address = false ∧ ∃ a, decode address = .ok a ∧ a.type ∈ types) := by
  cases hhex : isHexAccount address with
  | true => simp [check_of_hex hhex]
  | false =>
    cases hd : decode address with
    | error e => simp [check, hhex, hd, bind, Except.bind]
    | ok a => simp [check_of_decode hhex hd]

-- ---------------------------------------------------------------------------
-- The form in which an account is sent
-- ---------------------------------------------------------------------------

structure IsHexFormOf (id : Bytes) (s : String) : Prop where
  size : id.length = 32
  digits : ∃ ds, s.toList = '0' :: 'x' :: ds ∧ ds.length = 64 ∧
    (∀ c ∈ ds, c ∈ "0123456789abcdef".toList) ∧ Bytes.ofHex? ds = some id

theorem isHexFormOf_iff {id : Bytes} {s : String} (hid : id.length = 32) :
    IsHexFormOf id s ↔ s = String.ofList ('0' :: 'x' :: Bytes.toHex id) := by
  constructor
  · rintro ⟨-, ds, hs, -, hsmall, hread⟩
    have hds : ds.map Char.toLower = ds := by
      rw [List.map_congr_left fun c hc => Text.toLower_of_small (hsmall c hc), List.map_id']
    rw [← String.ofList_toList (s := s), hs, Bytes.toHex_of_ofHex? hread, hds]
  · rintro rfl
    refine ⟨hid, Bytes.toHex id, String.toList_ofList, ?_, fun c hc => ?_, Bytes.ofHex?_toHex id⟩
    · rw [Bytes.length_toHex, hid]
    · exact Bytes.mem_small_of_mem_toHex hc

theorem IsHexFormOf.isHexAccount {id : Bytes} {s : String} (h : IsHexFormOf id s) :
    isHexAccount s = true := by
  obtain ⟨-, ds, hs, hlen, hsmall, -⟩ := h
  have digit : ∀ c ∈ "0123456789abcdef".toList, Text.isHexDigit c = true :=
    List.all_eq_true.mp (by decide)
  exact isHexAccount_iff.mpr ⟨ds, hs, hlen, fun c hc => digit c (hsmall c hc)⟩

theorem IsHexFormOf.account?_eq {id : Bytes} {s : String} (h : IsHexFormOf id s) :
    account? s = some id := by
  obtain ⟨ds, hs, -, -, hread⟩ := h.digits
  rw [account?, if_pos h.isHexAccount, Bytes.afterMark?_eq_some_iff.mpr hs]
  exact hread

theorem wireText_of_hex {address : String} (h : isHexAccount address = true) :
    ∃ id, account? address = some id ∧ IsHexFormOf id (wireText address) := by
  obtain ⟨ds, hds, hlen, hall⟩ := isHexAccount_iff.mp h
  obtain ⟨id, hread, hid⟩ := Bytes.exists_ofHex?_of_digits hlen hall
  refine ⟨id, ?_, (isHexFormOf_iff hid).mpr ?_⟩
  · rw [account?, if_pos h, Bytes.afterMark?_eq_some_iff.mpr hds]
    exact hread
  · -- SS58 is tried first, and no base58 text starts with a zero.
    cases hdecode : decode address with
    | ok a => exact absurd hdecode (decode_ne_ok_of_zero hds)
    | error e =>
      rw [wireText, hdecode, Bytes.toHex_of_ofHex? hread]
      show Text.lower address = _
      rw [Text.lower, hds]
      rfl

theorem wireText_of_decode {address : String} {a : Ss58} (hhex : isHexAccount address = false)
    (h : decode address = .ok a) :
    account? address = some a.account ∧ IsHexFormOf a.account (wireText address) := by
  refine ⟨?_, (isHexFormOf_iff (length_account_of_decode h)).mpr ?_⟩
  · rw [account?, hhex, h]
    rfl
  · rw [wireText, h]

/-- Whichever way an accepted text is written, it is sent as the account id that it was checked
for. -/
theorem exists_account_of_check {types : List Nat} {address : String}
    (h : check types address = .ok ()) :
    ∃ id, account? address = some id ∧ IsHexFormOf id (wireText address) := by
  rcases check_ok.mp h with hhex | ⟨hhex, a, hdecode, -⟩
  · exact wireText_of_hex hhex
  · exact ⟨a.account, wireText_of_decode hhex hdecode⟩

theorem IsHexFormOf.wireText_eq {id : Bytes} {s : String} (h : IsHexFormOf id s) :
    wireText s = s := by
  obtain ⟨id', hid', hform⟩ := wireText_of_hex h.isHexAccount
  obtain rfl : id = id' := Option.some.inj (h.account?_eq.symm.trans hid')
  rw [(isHexFormOf_iff h.size).mp hform, ← (isHexFormOf_iff h.size).mp h]

end Ss58

end SwapBroker
