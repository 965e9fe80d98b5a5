import SwapBroker.Proofs.Ss58Texts

/-!
# Spellings of accounts

An SS58 text is the text of the type and the account id that are read from it, with one freedom: a
type that fits into one byte is also read from two. So an account has one text for each type from 64
on, as the accounts of the protocol itself do, and two for each type below.
-/

namespace SwapBroker.Ss58

variable {type : Nat} {part : Bytes} {s t : String} {a b : Ss58}

-- ---------------------------------------------------------------------------
-- Types in one byte and in two
-- ---------------------------------------------------------------------------

theorem wideTypeBytes_of_two {b c : UInt8} (marked : 64 ≤ b.toNat) (unreserved : b.toNat < 128) :
    wideTypeBytes (b.toNat % 64 * 4 + c.toNat / 64 + c.toNat % 64 * 256) = [b, c] := by
  have hc : c.toNat < 256 := c.toNat_lt
  have hfirst : b.toNat % 64 + 64 = b.toNat := by omega
  have hsecond : c.toNat % 64 + c.toNat / 64 * 64 = c.toNat := by omega
  have hlow : c.toNat / 64 < 4 := by omega
  have hmiddle : b.toNat % 64 < 64 := by omega
  -- With the quotients and remainders as variables the equations are linear.
  generalize b.toNat % 64 = x at *
  generalize c.toNat / 64 = y at *
  generalize c.toNat % 64 = z at *
  have hquotient : (x * 4 + y + z * 256) / 4 = x + z * 64 := by omega
  have hx : (x + z * 64) % 64 = x := by omega
  have hy : (x * 4 + y + z * 256) % 4 = y := by omega
  have hz : (x * 4 + y + z * 256) / 256 = z := by omega
  rw [wideTypeBytes, hquotient, hx, hy, hz, hfirst, hsecond, UInt8.ofNat_toNat, UInt8.ofNat_toNat]

theorem WritesType.lt (h : WritesType part type) : type < 2 ^ 14 := by
  cases h with
  | one small => omega
  | @two b c marked unreserved =>
    have hc : c.toNat < 256 := c.toNat_lt
    omega

/-- A type is written in its own bytes, or in two where one would do. -/
theorem writesType_iff :
    WritesType part type ↔
      type < 2 ^ 14 ∧ (part = typeBytes type ∨ type < 64 ∧ part = wideTypeBytes type) := by
  constructor
  · intro h
    refine ⟨h.lt, ?_⟩
    cases h with
    | @one b small => exact .inl (by rw [typeBytes_of_lt small, UInt8.ofNat_toNat])
    | @two b c marked unreserved =>
      have hwide := wideTypeBytes_of_two (c := c) marked unreserved
      have hlt := (WritesType.two (c := c) marked unreserved).lt
      rcases Nat.lt_or_ge (b.toNat % 64 * 4 + c.toNat / 64 + c.toNat % 64 * 256) 64 with hsmall | hlarge
      · exact .inr ⟨hsmall, hwide.symm⟩
      · exact .inl (by rw [typeBytes_of_le hlarge hlt, hwide])
  · rintro ⟨hlt, rfl | ⟨-, rfl⟩⟩
    · exact writesType_typeBytes hlt
    · exact writesType_wide hlt

-- ---------------------------------------------------------------------------
-- The texts of an account
-- ---------------------------------------------------------------------------

def encodeWide (a : Ss58) : String :=
  let body := wideTypeBytes a.type ++ a.account
  Base58.encode (body ++ checksum body)

theorem decode_ok_iff_spelling :
    decode s = .ok a ↔
      a.type < 2 ^ 14 ∧ a.account.length = accountSize ∧
        (s = encode a ∨ a.type < 64 ∧ s = encodeWide a) := by
  simp only [decode_ok_iff, writesType_iff, Base58.decode_ok_iff_eq_encode]
  constructor
  · rintro ⟨part, ⟨hlt, rfl | ⟨hsmall, rfl⟩⟩, hlen, hs⟩
    · exact ⟨hlt, hlen, .inl hs⟩
    · exact ⟨hlt, hlen, .inr ⟨hsmall, hs⟩⟩
  · rintro ⟨hlt, hlen, hs | ⟨hsmall, hs⟩⟩
    · exact ⟨_, ⟨hlt, .inl rfl⟩, hlen, hs⟩
    · exact ⟨_, ⟨hlt, .inr ⟨hsmall, rfl⟩⟩, hlen, hs⟩

theorem encode_ne_encodeWide (h : a.type < 64) : encode a ≠ encodeWide a := by
  intro heq
  have hbytes : typeBytes a.type ++ a.account ++ checksum (typeBytes a.type ++ a.account) =
      wideTypeBytes a.type ++ a.account ++ checksum (wideTypeBytes a.type ++ a.account) :=
    Base58.encode_injective heq
  have hlen := congrArg List.length hbytes
  simp [typeBytes_of_lt h, wideTypeBytes, length_checksum] at hlen

/-- Two texts that are read as one account are equal, or write its type in one byte and in two. -/
theorem eq_or_widths_of_decode (hs : decode s = .ok a) (ht : decode t = .ok a) :
    s = t ∨ a.type < 64 ∧ (s = encode a ∧ t = encodeWide a ∨ s = encodeWide a ∧ t = encode a) := by
  obtain ⟨-, -, hs⟩ := decode_ok_iff_spelling.mp hs
  obtain ⟨-, -, ht⟩ := decode_ok_iff_spelling.mp ht
  rcases hs with hs | ⟨hsmall, hs⟩ <;> rcases ht with ht | ⟨hsmall', ht⟩
  · exact .inl (hs.trans ht.symm)
  · exact .inr ⟨hsmall', .inl ⟨hs, ht⟩⟩
  · exact .inr ⟨hsmall, .inr ⟨hs, ht⟩⟩
  · exact .inl (hs.trans ht.symm)

/-- The types that accounts of the protocol itself may have take two bytes in any case. -/
theorem type_of_account_check {network : Network} (h : AddressFormat.account.check network s = .ok ())
    (hs : decode s = .ok a) : 64 ≤ a.type := by
  have hcheck : check Network.accountTypes s = .ok () := h
  rw [check_of_decode_ok hs] at hcheck
  split at hcheck
  next hmem =>
    have htype : a.type = 2112 := mem_accountTypes.mp hmem
    omega
  next => cases hcheck

/-- A text is read as a type and an account id exactly if it is their text, with the type in its own
bytes or, where it fits into one, in two. Different texts that are accepted with one type thus have
different account ids, unless they write a type of Polkadot in one byte and in two. -/
theorem spelled_once_in_each_width :
    (∀ (s : String) (a : Ss58), decode s = .ok a ↔
      a.type < 2 ^ 14 ∧ a.account.length = 32 ∧ (s = encode a ∨ a.type < 64 ∧ s = encodeWide a)) ∧
    (∀ a : Ss58, a.type < 64 → encode a ≠ encodeWide a) ∧
    ∀ (network : Network) (format : AddressFormat), format = .polkadot ∨ format = .account →
      ∀ (s t : String) (a b : Ss58), s ≠ t →
        format.check network s = .ok () → format.check network t = .ok () →
        decode s = .ok a → decode t = .ok b → a.type = b.type →
          a.account ≠ b.account ∨ format = .polkadot ∧ a.type < 64 ∧
            (s = encode a ∧ t = encodeWide a ∨ s = encodeWide a ∧ t = encode a) := by
  refine ⟨fun s a => decode_ok_iff_spelling, fun a => encode_ne_encodeWide,
    fun network format hformat s t a b hne hcheck _ hs ht htype => ?_⟩
  by_cases haccount : a.account = b.account
  · have hsame : a = b := by
      cases a
      cases b
      simp_all
    subst hsame
    obtain ⟨hsmall, hwidths⟩ := (eq_or_widths_of_decode hs ht).resolve_left hne
    rcases hformat with rfl | rfl
    · exact .inr ⟨rfl, hsmall, hwidths⟩
    · exact absurd (type_of_account_check hcheck hs) (Nat.not_le.mpr hsmall)
  · exact .inl haccount

def dotAccount : Bytes :=
  [0x1c, 0xf3, 0x26, 0xc5, 0xaa, 0xa5, 0xaf, 0x9f, 0x0e, 0x27, 0x91, 0xe6, 0x63, 0x10, 0xfe, 0x8f,
    0x04, 0x4f, 0xaa, 0xda, 0xf1, 0x25, 0x67, 0xea, 0xa0, 0x97, 0x69, 0x59, 0xd1, 0xf7, 0x73, 0x1f]

def dotText : String :=
  "1exaAg2VJRQbyUBAeXcktChCAqjVP9TUxF3zo23R2T6EGdE"

def wideDotText : String :=
  "VBoiKadXhJ5soXhcafdrmT7Ur85mSi5ZE1WnDyHw3Wec7Deai"

theorem encode_dotAccount : dotText = encode ⟨0, dotAccount⟩ := by
  decide +kernel

theorem encodeWide_dotAccount : wideDotText = encodeWide ⟨0, dotAccount⟩ := by
  decide +kernel

theorem decode_dotText : decode dotText = .ok ⟨0, dotAccount⟩ :=
  decode_ok_iff_spelling.mpr ⟨by decide, rfl, .inl encode_dotAccount⟩

theorem decode_wideDotText : decode wideDotText = .ok ⟨0, dotAccount⟩ :=
  decode_ok_iff_spelling.mpr ⟨by decide, rfl, .inr ⟨by decide, encodeWide_dotAccount⟩⟩

theorem check_of_dotAccount (network : Network) (h : decode s = .ok ⟨0, dotAccount⟩) :
    AddressFormat.polkadot.check network s = .ok () :=
  (check_of_decode_ok h).trans (if_pos (mem_polkadotTypes.mpr (.inl rfl)))

theorem spelled_once_in_each_width_dot :
    decode dotText = .ok ⟨0, dotAccount⟩ ∧ decode wideDotText = .ok ⟨0, dotAccount⟩ ∧
      (dotText = encode ⟨0, dotAccount⟩ ∧ wideDotText = encodeWide ⟨0, dotAccount⟩ ∨
        dotText = encodeWide ⟨0, dotAccount⟩ ∧ wideDotText = encode ⟨0, dotAccount⟩) := by
  obtain ⟨-, -, hunique⟩ := spelled_once_in_each_width
  rcases hunique .mainnet .polkadot (.inl rfl) _ _ _ _ (by decide)
    (check_of_dotAccount _ decode_dotText) (check_of_dotAccount _ decode_wideDotText) decode_dotText
    decode_wideDotText rfl with hdifferent | ⟨-, -, hwidths⟩
  · exact absurd rfl hdifferent
  · exact ⟨decode_dotText, decode_wideDotText, hwidths⟩

/-- Two texts that are accepted as SS58 addresses and read as one type with one account id, of which
one is not the text of these. -/
theorem dot_account_in_two_texts :
    dotText ≠ wideDotText ∧
      AddressFormat.polkadot.check .mainnet dotText = .ok () ∧
      AddressFormat.polkadot.check .mainnet wideDotText = .ok () ∧
      isHexAccount dotText = false ∧ isHexAccount wideDotText = false ∧
      decode dotText = .ok ⟨0, dotAccount⟩ ∧ decode wideDotText = .ok ⟨0, dotAccount⟩ ∧
      wideDotText ≠ encode ⟨0, dotAccount⟩ := by
  refine ⟨by decide, check_of_dotAccount _ decode_dotText, check_of_dotAccount _ decode_wideDotText,
    by decide, by decide, decode_dotText, decode_wideDotText, ?_⟩
  rw [← encode_dotAccount]
  decide

end SwapBroker.Ss58
