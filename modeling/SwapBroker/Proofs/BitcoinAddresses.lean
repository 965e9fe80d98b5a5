import SwapBroker.Address.Bitcoin
import SwapBroker.Proofs.Base58Texts
import SwapBroker.Proofs.SegwitTexts

/-!
# Bitcoin addresses are told by how they start

The start of an address alone decides whether it is read as segwit or as base58. That loses nothing:
a segwit address starts with its human readable part and a separator, and no base58 address of a
known version starts with a letter that such a part starts with.
-/

namespace SwapBroker

-- ---------------------------------------------------------------------------
-- Starts of texts
-- ---------------------------------------------------------------------------

namespace Text

theorem eq_or_val_of_toLower {c l : Char} (h : c.toLower = l) : c = l ∨ c.val = l.val - 32 := by
  unfold Char.toLower at h
  split at h
  · subst h
    right
    exact (UInt32.add_sub_cancel c.val 32).symm
  · exact .inl h

end Text

namespace Bitcoin

open Text

def segwitLetters : List Char :=
  ['b', 'B', 't', 'T']

theorem mem_segwitLetters_of_toLower {c l : Char} (h : c.toLower = l) (hl : l = 'b' ∨ l = 't') :
    c ∈ segwitLetters := by
  rcases hl with rfl | rfl
  · rcases eq_or_val_of_toLower h with rfl | hc
    · decide
    · rw [show c = 'B' from Char.ext hc]; decide
  · rcases eq_or_val_of_toLower h with rfl | hc
    · decide
    · rw [show c = 'T' from Char.ext hc]; decide

theorem mem_segwitLetters_of_looksSegwit {address : String} (h : looksSegwit address = true) :
    ∃ c cs, address.toList = c :: cs ∧ c ∈ segwitLetters := by
  obtain ⟨start, hstart, hs⟩ := List.any_eq_true.mp h
  obtain ⟨rest, hrest⟩ := startsWith_iff.mp hs
  have hfirst : ∃ l tail, start.toList = l :: tail ∧ (l = 'b' ∨ l = 't') := by
    simp only [segwitStarts, List.mem_cons, List.not_mem_nil, or_false] at hstart
    rcases hstart with rfl | rfl | rfl
    · exact ⟨_, _, rfl, .inl rfl⟩
    · exact ⟨_, _, rfl, .inr rfl⟩
    · exact ⟨_, _, rfl, .inl rfl⟩
  obtain ⟨l, tail, hl, hbt⟩ := hfirst
  rw [lower, String.toList_ofList, hl, List.cons_append] at hrest
  obtain ⟨c, cs, hcs, hc, -⟩ := List.map_eq_cons_iff.mp hrest
  exact ⟨c, cs, hcs, mem_segwitLetters_of_toLower hc hbt⟩

theorem looksSegwit_of_decode? {address : String} {a : Segwit.Address} {network : BitcoinNetwork}
    (h : Segwit.decode? address = some a) (hname : a.name = network.segwitName) :
    looksSegwit address = true := by
  obtain ⟨data, hlower⟩ := Segwit.lower_eq_of_decode? h
  rw [hname] at hlower
  refine List.any_eq_true.mpr ?_
  cases network with
  | mainnet => exact ⟨"bc1", by simp [segwitStarts], startsWith_iff.mpr ⟨data, hlower⟩⟩
  | testnet => exact ⟨"tb1", by simp [segwitStarts], startsWith_iff.mpr ⟨data, hlower⟩⟩
  | regtest => exact ⟨"bcrt1", by simp [segwitStarts], startsWith_iff.mpr ⟨data, hlower⟩⟩

-- ---------------------------------------------------------------------------
-- Leading letters and version bytes
-- ---------------------------------------------------------------------------

def letterDigits : List Nat :=
  [10, 26, 34, 51]

theorem digit_of_segwitLetter {c : Char} (h : c ∈ segwitLetters) :
    ∃ d ∈ letterDigits, Base58.alphabet.idxOf? c = some d ∧ (d = 10 ↔ c = 'B') := by
  simp only [segwitLetters, List.mem_cons, List.not_mem_nil, or_false] at h
  rcases h with rfl | rfl | rfl | rfl
  · exact ⟨34, by decide, by decide, by decide⟩
  · exact ⟨10, by decide, by decide, by decide⟩
  · exact ⟨51, by decide, by decide, by decide⟩
  · exact ⟨26, by decide, by decide, by decide⟩

section

variable {d k n : Nat} (hd : d ∈ letterDigits)
include hd

theorem bounds_of_letterDigit : 10 ≤ d ∧ d ≤ 51 := by
  simp only [letterDigits, List.mem_cons, List.not_mem_nil, or_false] at hd
  omega

theorem ne_zero_of_letterDigit : d ≠ 0 := by
  have hmin := (bounds_of_letterDigit hd).1
  omega

/-- A number that is too small for the least letter has fewer digits behind it. -/
theorem lt_of_number_lt {top : Nat} (hn : d * 58 ^ k ≤ n) (htop : n < 10 * 58 ^ top) :
    k < top := by
  by_contra hk
  have hpow : 58 ^ top ≤ 58 ^ k := Nat.pow_le_pow_right (by decide) (Nat.le_of_not_lt hk)
  have hle : 10 * 58 ^ top ≤ d * 58 ^ k := Nat.mul_le_mul (bounds_of_letterDigit hd).1 hpow
  omega

theorem lt_of_lt_number {bottom : Nat} (hn : n < (d + 1) * 58 ^ k)
    (hbottom : 52 * 58 ^ bottom ≤ n) : bottom < k := by
  by_contra hk
  have hpow : 58 ^ k ≤ 58 ^ bottom := Nat.pow_le_pow_right (by decide) (Nat.le_of_not_lt hk)
  have hsucc : d + 1 ≤ 52 := Nat.succ_le_succ (bounds_of_letterDigit hd).2
  have hle : (d + 1) * 58 ^ k ≤ 52 * 58 ^ bottom := Nat.mul_le_mul hsucc hpow
  omega

/-- With 33 more digits, a digit that is one of these letters leads a number of 25 bytes whose first
byte is far from every version. With fewer digits the first byte is below 5, and with more there
are more than 25 bytes. -/
theorem no_version_of_leading_letter {v : Nat} (hv : v ∈ [5, 0x6f, 0xc4])
    (hn : d * 58 ^ k ≤ n ∧ n < (d + 1) * 58 ^ k) :
    ¬ (v * 256 ^ 24 ≤ n ∧ n < (v + 1) * 256 ^ 24) := by
  rintro ⟨hlow, hhigh⟩
  simp only [List.mem_cons, List.not_mem_nil, or_false] at hv
  have hleast : 52 * 58 ^ 32 ≤ n :=
    calc 52 * 58 ^ 32 ≤ 5 * 256 ^ 24 := by decide
      _ ≤ v * 256 ^ 24 := Nat.mul_le_mul_right _ (by omega)
      _ ≤ n := hlow
  have hmost : n < 10 * 58 ^ 34 :=
    calc n < (v + 1) * 256 ^ 24 := hhigh
      _ ≤ 197 * 256 ^ 24 := Nat.mul_le_mul_right _ (by omega)
      _ ≤ 10 * 58 ^ 34 := by decide
  have hmore : 32 < k := lt_of_lt_number hd hn.2 hleast
  have hless : k < 34 := lt_of_number_lt hd hn.1 hmost
  obtain rfl : k = 33 := by omega
  simp only [letterDigits, List.mem_cons, List.not_mem_nil, or_false] at hd
  rcases hd with rfl | rfl | rfl | rfl <;> rcases hv with rfl | rfl | rfl <;> omega

end

/-- The text of 21 bytes and their checksum, of which the first is a version byte of the network. -/
def IsBase58For (network : BitcoinNetwork) (address : String) : Prop :=
  ∃ version hash, Base58.decodeChecked address = .ok (version :: hash) ∧ hash.length = 20 ∧
    version ∈ network.versions

theorem looksSegwit_eq_false {network : BitcoinNetwork} {address : String}
    (h : IsBase58For network address) : looksSegwit address = false := by
  obtain ⟨version, hash, hdecoded, hhash, hversion⟩ := h
  rw [← Bool.not_eq_true]
  intro hlooks
  obtain ⟨c, cs, hcs, hc⟩ := mem_segwitLetters_of_looksSegwit hlooks
  obtain ⟨check, hbytes, hcheck⟩ := Base58.decodeChecked_ok hdecoded
  rw [List.cons_append] at hbytes
  obtain ⟨d, hd, hidx, -⟩ := digit_of_segwitLetter hc
  have hne := ne_zero_of_letterDigit hd
  obtain ⟨n, hdigits, hzero, hvalue⟩ := Base58.exists_number_of_decode hcs hidx hne hbytes
  have hsize : (hash ++ check).length = 24 := by
    rw [List.length_append, hhash, hcheck]
    rfl
  rw [hsize] at hvalue
  have hv : version.toNat ∈ [5, 0x6f, 0xc4] := by
    cases network <;>
      simp only [BitcoinNetwork.versions, List.mem_cons, List.not_mem_nil, or_false] at hversion <;>
      rcases hversion with rfl | rfl <;> first | decide | exact absurd rfl hzero
  exact no_version_of_leading_letter hd hv hdigits hvalue

-- ---------------------------------------------------------------------------
-- Accepted addresses
-- ---------------------------------------------------------------------------

theorem checkSegwit_ok {expected : BitcoinNetwork} {address : String} :
    checkSegwit expected address = .ok () ↔
      ∃ a, Segwit.decode? address = some a ∧ a.name = expected.segwitName := by
  unfold checkSegwit
  cases Segwit.decode? address <;> simp

theorem checkBase58_ok {expected : BitcoinNetwork} {address : String} :
    checkBase58 expected address = .ok () ↔ IsBase58For expected address := by
  constructor
  · intro h
    unfold checkBase58 at h
    split at h
    · cases h
    · cases h
    · cases h
    next payload hdecoded =>
      by_cases hlen : payload.length = payloadSize
      · rw [if_neg (not_not.mpr hlen)] at h
        dsimp only at h
        split at h
        next hv =>
          obtain ⟨version, hash, rfl⟩ := List.exists_cons_of_length_eq_add_one hlen
          exact ⟨version, hash, hdecoded, Nat.succ.inj hlen, hv⟩
        next => split at h <;> cases h
      · rw [if_pos hlen] at h
        cases h
  · rintro ⟨version, hash, hdecoded, hhash, hv⟩
    simp [checkBase58, hdecoded, payloadSize, hhash, hv]

/-- An address is accepted exactly when one of the two decoders takes the whole of it for the
network, whichever of them its start picks. -/
theorem check_ok_iff_segwit_or_base58 (network : Network) (address : String) :
    check network address = .ok () ↔
      (∃ a, Segwit.decode? address = some a ∧ a.name = network.bitcoin.segwitName) ∨
      IsBase58For network.bitcoin address := by
  unfold check
  cases hlooks : looksSegwit address with
  | true =>
    rw [if_pos rfl, checkSegwit_ok]
    constructor
    · exact .inl
    · rintro (h | h)
      · exact h
      · rw [looksSegwit_eq_false h] at hlooks
        cases hlooks
  | false =>
    rw [if_neg (by decide), checkBase58_ok]
    constructor
    · exact .inr
    · rintro (⟨a, ha, hname⟩ | h)
      · rw [looksSegwit_of_decode? ha hname] at hlooks
        cases hlooks
      · exact h

end Bitcoin

end SwapBroker
