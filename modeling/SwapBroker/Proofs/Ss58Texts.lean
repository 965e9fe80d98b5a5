import SwapBroker.Address.Basic
import SwapBroker.Proofs.Ss58Accounts

/-!
# SS58 texts

The bytes of an SS58 address are an address type in one or two bytes, an account id and the checksum
of both, with nothing before or after. Every type below `2 ^ 14` has a text with every account id. The
text is read back as these two, and it is accepted exactly where the type is.
-/

namespace SwapBroker.Ss58

-- ---------------------------------------------------------------------------
-- Address types
-- ---------------------------------------------------------------------------

/-- Bytes write an address type: one byte below 64, or two of which the first is from 64 to 127. The
first then has bits 2 to 7, and the second has bits 8 to 13 below bits 0 and 1. -/
inductive WritesType : Bytes → Nat → Prop
  | one {b : UInt8} (small : b.toNat < 64) : WritesType [b] b.toNat
  | two {b c : UInt8} (marked : 64 ≤ b.toNat) (unreserved : b.toNat < 128) :
    WritesType [b, c] (b.toNat % 64 * 4 + c.toNat / 64 + c.toNat % 64 * 256)

variable {part rest bytes : Bytes} {type size : Nat}

theorem low_bits (n : Nat) : n &&& 0x3f = n % 64 :=
  Nat.and_two_pow_sub_one_eq_mod n 6

theorem or_shiftLeft {n i : Nat} (k : Nat) (h : n < 2 ^ i) : n ||| k <<< i = n + k * 2 ^ i := by
  rw [Nat.or_comm, ← Nat.shiftLeft_add_eq_or_of_lt h, Nat.shiftLeft_eq, Nat.add_comm]

/-- The bits of two bytes stand side by side in the type. -/
theorem bits_of_two_bytes (b c : UInt8) :
    (b.toNat &&& 0x3f) <<< 2 ||| c.toNat >>> 6 ||| (c.toNat &&& 0x3f) <<< 8 =
      b.toNat % 64 * 4 + c.toNat / 64 + c.toNat % 64 * 256 := by
  have hc : c.toNat < 256 := c.toNat_lt
  have hlow : c.toNat >>> 6 = c.toNat / 64 := Nat.shiftRight_eq_div_pow _ 6
  have hmiddle : c.toNat / 64 ||| (b.toNat % 64) <<< 2 = c.toNat / 64 + b.toNat % 64 * 4 :=
    or_shiftLeft _ (by omega)
  have hhigh : (c.toNat / 64 + b.toNat % 64 * 4) ||| (c.toNat % 64) <<< 8 =
      c.toNat / 64 + b.toNat % 64 * 4 + c.toNat % 64 * 256 := or_shiftLeft _ (by omega)
  rw [low_bits, low_bits, hlow, Nat.or_comm ((b.toNat % 64) <<< 2), hmiddle, hhigh]
  omega

def wideTypeBytes (type : Nat) : Bytes :=
  [UInt8.ofNat (type / 4 % 64 + 64), UInt8.ofNat (type / 256 + type % 4 * 64)]

theorem typeBytes_of_lt (h : type < 64) : typeBytes type = [UInt8.ofNat type] := by
  rw [typeBytes, if_pos h]

theorem typeBytes_of_le (h : 64 ≤ type) (hlt : type < 2 ^ 14) :
    typeBytes type = wideTypeBytes type := by
  have hmiddle : (type &&& 0xfc) >>> 2 = type / 4 % 64 := by
    rw [Nat.shiftRight_and_distrib, Nat.shiftRight_eq_div_pow]
    exact low_bits _
  have hmark : type / 4 % 64 ||| 0x40 = type / 4 % 64 + 64 := or_shiftLeft 1 (i := 6) (by omega)
  have hlow : type &&& 3 = type % 4 := Nat.and_two_pow_sub_one_eq_mod type 2
  have hhigh : type >>> 8 = type / 256 := Nat.shiftRight_eq_div_pow _ 8
  have hsecond : type / 256 ||| (type % 4) <<< 6 = type / 256 + type % 4 * 64 :=
    or_shiftLeft _ (by omega)
  rw [typeBytes, if_neg (by omega), hmiddle, hmark, hlow, hhigh, hsecond, wideTypeBytes]

theorem writesType_wide (h : type < 2 ^ 14) : WritesType (wideTypeBytes type) type := by
  have hfirst : (UInt8.ofNat (type / 4 % 64 + 64)).toNat = type / 4 % 64 + 64 := by
    rw [UInt8.toNat_ofNat', Nat.mod_eq_of_lt (by omega)]
  have hsecond : (UInt8.ofNat (type / 256 + type % 4 * 64)).toNat = type / 256 + type % 4 * 64 := by
    rw [UInt8.toNat_ofNat', Nat.mod_eq_of_lt (by omega)]
  have htwo := WritesType.two (b := UInt8.ofNat (type / 4 % 64 + 64))
    (c := UInt8.ofNat (type / 256 + type % 4 * 64)) (by omega) (by omega)
  have hmiddle : (type / 4 % 64 + 64) % 64 = type / 4 % 64 := by omega
  have hlow : (type / 256 + type % 4 * 64) / 64 = type % 4 := by omega
  have hhigh : (type / 256 + type % 4 * 64) % 64 = type / 256 := by omega
  have hquotient : type / 4 / 64 = type / 256 := Nat.div_div_eq_div_mul type 4 64
  have htype : type / 4 % 64 * 4 + type % 4 + type / 256 * 256 = type := by omega
  rw [hfirst, hsecond, hmiddle, hlow, hhigh, htype] at htwo
  exact htwo

theorem writesType_typeBytes (h : type < 2 ^ 14) : WritesType (typeBytes type) type := by
  by_cases hsmall : type < 64
  · have hvalue : (UInt8.ofNat type).toNat = type := by
      rw [UInt8.toNat_ofNat', Nat.mod_eq_of_lt (by omega)]
    have hone := WritesType.one (b := UInt8.ofNat type) (by omega)
    rw [hvalue] at hone
    rwa [typeBytes_of_lt hsmall]
  · rw [typeBytes_of_le (by omega) h]
    exact writesType_wide h

theorem readType_append (h : WritesType part type) (rest : Bytes) :
    readType (part ++ rest) = .ok (type, part.length) := by
  cases h with
  | one small => simp [readType, UInt8.lt_iff_toNat_lt, small]
  | two marked unreserved =>
    simp [readType, UInt8.lt_iff_toNat_lt, bits_of_two_bytes, unreserved, Nat.not_lt_of_le marked]

theorem exists_part_of_readType (h : readType bytes = .ok (type, size)) :
    ∃ part rest, bytes = part ++ rest ∧ part.length = size ∧ WritesType part type := by
  rcases readType_ok h with ⟨b, rest, rfl, rfl, rfl, small⟩ |
    ⟨b, c, rest, rfl, rfl, rfl, marked, unreserved⟩
  · exact ⟨[b], rest, rfl, rfl, .one small⟩
  · rw [bits_of_two_bytes]
    exact ⟨[b, c], rest, rfl, rfl, .two marked unreserved⟩

-- ---------------------------------------------------------------------------
-- The parts of an address
-- ---------------------------------------------------------------------------

theorem length_digest (message : Bytes) : (Digest.Blake2b.digest message).length = 64 := by
  simp [Digest.Blake2b.digest, List.length_flatMap, List.map_const']

theorem length_checksum (body : Bytes) : (checksum body).length = checksumSize := by
  rw [checksum, List.length_take, length_digest]
  rfl

theorem ofBytes_ok_iff {a : Ss58} :
    ofBytes bytes = .ok a ↔
      ∃ part, WritesType part a.type ∧ a.account.length = accountSize ∧
        bytes = part ++ a.account ++ checksum (part ++ a.account) := by
  rw [ofBytes_ok]
  constructor
  · rintro ⟨size, htype, hlen, hsum, haccount⟩
    obtain ⟨part, rest, rfl, rfl, hpart⟩ := exists_part_of_readType htype
    rw [List.length_append] at hlen
    have htake : (part ++ rest).take (part.length + accountSize) = part ++ rest.take accountSize :=
      List.take_length_add_append _
    have hdrop : (part ++ rest).drop (part.length + accountSize) = rest.drop accountSize :=
      List.drop_length_add_append _
    rw [htake, hdrop] at hsum
    rw [htake, List.drop_left] at haccount
    refine ⟨part, hpart, ?_, ?_⟩
    · rw [haccount, List.length_take]
      omega
    · rw [haccount, hsum, List.append_assoc, List.take_append_drop]
  · rintro ⟨part, hpart, hlen, rfl⟩
    have hbody : (part ++ a.account).length = part.length + accountSize := by
      rw [List.length_append, hlen]
    refine ⟨part.length, ?_, ?_, ?_, ?_⟩
    · rw [List.append_assoc]
      exact readType_append hpart _
    · rw [List.length_append, hbody, length_checksum]
    · rw [← hbody, List.take_left, List.drop_left]
    · rw [← hbody, List.take_left, List.drop_left]

theorem decode_ok_iff {s : String} {a : Ss58} :
    decode s = .ok a ↔
      ∃ part, WritesType part a.type ∧ a.account.length = accountSize ∧
        Base58.decode s = .ok (part ++ a.account ++ checksum (part ++ a.account)) := by
  rw [decode_ok]
  constructor
  · rintro ⟨bytes, hbytes, h⟩
    obtain ⟨part, hpart, hlen, rfl⟩ := ofBytes_ok_iff.mp h
    exact ⟨part, hpart, hlen, hbytes⟩
  · rintro ⟨part, hpart, hlen, hbytes⟩
    exact ⟨_, hbytes, ofBytes_ok_iff.mpr ⟨part, hpart, hlen, rfl⟩⟩

theorem decode_encode {a : Ss58} (htype : a.type < 2 ^ 14) (hlen : a.account.length = accountSize) :
    decode (encode a) = .ok a :=
  decode_ok_iff.mpr ⟨_, writesType_typeBytes htype, hlen, Base58.decode_encode _⟩

-- ---------------------------------------------------------------------------
-- Acceptance
-- ---------------------------------------------------------------------------

theorem isHexAccount_of_decode {s : String} {a : Ss58} (h : decode s = .ok a) :
    isHexAccount s = false := by
  by_contra hhex
  obtain ⟨ds, hds, -⟩ := isHexAccount_iff.mp (Bool.of_not_eq_false hhex)
  exact decode_ne_ok_of_zero hds h

theorem check_of_decode_ok {types : List Nat} {s : String} {a : Ss58} (h : decode s = .ok a) :
    check types s =
      if a.type ∈ types then .ok () else .error (.wrongNetwork (.ss58 types) (.ss58 [a.type])) :=
  check_of_decode (isHexAccount_of_decode h) h

theorem mem_polkadotTypes {network : Network} :
    type ∈ network.polkadotTypes ↔ type = 0 ∨ type = 42 ∧ network ≠ .mainnet := by
  cases network <;> simp [Network.polkadotTypes, Network.isMainnet]

theorem mem_accountTypes : type ∈ Network.accountTypes ↔ type = 2112 :=
  List.mem_singleton

/-- The text of a type and an account id is read back as these. It is accepted on the networks that
have the type, and refused for its network on all others. No text is read but one whose bytes are a
type, an account id and their checksum. -/
theorem read_as_written :
    (∀ (type : Nat) (account : Bytes), type < 2 ^ 14 → account.length = 32 →
      ∀ text, text = Base58.encode
        (typeBytes type ++ account ++ checksum (typeBytes type ++ account)) →
      decode text = .ok ⟨type, account⟩ ∧
      (∀ network : Network, AddressFormat.polkadot.check network text =
        if type = 0 ∨ type = 42 ∧ network ≠ .mainnet then .ok ()
        else .error (.wrongNetwork (.ss58 network.polkadotTypes) (.ss58 [type]))) ∧
      ∀ network : Network, AddressFormat.account.check network text =
        if type = 2112 then .ok ()
        else .error (.wrongNetwork (.ss58 [2112]) (.ss58 [type]))) ∧
    ∀ (text : String) (a : Ss58), decode text = .ok a ↔
      ∃ part, WritesType part a.type ∧ a.account.length = 32 ∧
        Base58.decode text = .ok (part ++ a.account ++ checksum (part ++ a.account)) := by
  refine ⟨fun type account htype hlen text htext => ?_, fun text a => decode_ok_iff⟩
  have hencode : text = encode ⟨type, account⟩ := htext
  have hdecode : decode text = .ok ⟨type, account⟩ := by
    rw [hencode]
    exact decode_encode htype hlen
  refine ⟨hdecode, fun network => ?_, fun network => ?_⟩
  · simp only [AddressFormat.check, check_of_decode_ok hdecode, mem_polkadotTypes]
  · simp only [AddressFormat.check, check_of_decode_ok hdecode, mem_accountTypes]
    rfl

theorem read_as_written_ownAccount :
    ∃ account : Bytes, account.length = 32 ∧
      decode "cFHyJEHEQ1YkT9xuFnxnPWVkihpYEGjBg4WbF6vCPtSPQoE8n" = .ok ⟨2112, account⟩ ∧
      AddressFormat.account.check .mainnet "cFHyJEHEQ1YkT9xuFnxnPWVkihpYEGjBg4WbF6vCPtSPQoE8n" =
        .ok () ∧
      AddressFormat.polkadot.check .backspin "cFHyJEHEQ1YkT9xuFnxnPWVkihpYEGjBg4WbF6vCPtSPQoE8n" =
        .error (.wrongNetwork (.ss58 [0, 42]) (.ss58 [2112])) := by
  obtain ⟨hread, -⟩ := read_as_written
  obtain ⟨hdecode, hpolkadot, haccount⟩ := hread 2112
    [0x04, 0x6f, 0xcb, 0x1a, 0xc0, 0xda, 0xb0, 0x3f, 0x78, 0x82, 0xe7, 0x82, 0x18, 0x2b, 0x02, 0xeb,
      0x52, 0x14, 0xc9, 0x90, 0xc0, 0xc0, 0x65, 0x8f, 0x40, 0x77, 0x7d, 0xd8, 0x24, 0x06, 0x59, 0x29]
    (by decide) rfl "cFHyJEHEQ1YkT9xuFnxnPWVkihpYEGjBg4WbF6vCPtSPQoE8n" (by decide +kernel)
  exact ⟨_, rfl, hdecode, haccount .mainnet, hpolkadot .backspin⟩

end SwapBroker.Ss58
