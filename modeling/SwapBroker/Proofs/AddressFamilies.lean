import SwapBroker.Proofs.AddressNetworks

/-!
# Addresses of two families

Addresses of different families are told apart by the mark of hex texts, by the number of their
bytes, or by the letter with which they start. One pair of families is not: a segwit address that
has base58 digits only may write as many bytes as a Solana key. `IsSegwitKey` says which addresses
these are, and no other is accepted by two families.
-/

namespace SwapBroker

-- ---------------------------------------------------------------------------
-- Sizes of numbers with such a letter in front
-- ---------------------------------------------------------------------------

namespace Bitcoin

section

variable {d k n : Nat} (hd : d ∈ letterDigits)
include hd

theorem key_number_iff (hn : d * 58 ^ k ≤ n ∧ n < (d + 1) * 58 ^ k) :
    256 ^ 31 ≤ n ∧ n < 256 ^ 32 ↔ k = 42 ∨ (k = 43 ∧ d = 10) := by
  constructor
  · rintro ⟨hlow, hhigh⟩
    have hmore : 41 < k := lt_of_lt_number hd hn.2 (by omega)
    have hless : k < 44 := lt_of_number_lt hd hn.1 (by omega)
    have hk : k = 42 ∨ k = 43 := by omega
    refine hk.imp_right fun hk => ⟨hk, ?_⟩
    subst hk
    simp only [letterDigits, List.mem_cons, List.not_mem_nil, or_false] at hd
    omega
  · obtain ⟨hmin, hmax⟩ := bounds_of_letterDigit hd
    rintro (rfl | ⟨rfl, rfl⟩)
    · omega
    · omega

theorem no_polkadot_number (hn : d * 58 ^ k ≤ n ∧ n < (d + 1) * 58 ^ k) :
    ¬ (42 * 256 ^ 34 ≤ n ∧ n < 43 * 256 ^ 34) ∧ ¬ (64 * 256 ^ 35 ≤ n ∧ n < 75 * 256 ^ 35) := by
  constructor
  · rintro ⟨hlow, hhigh⟩
    have hmore : 46 < k := lt_of_lt_number hd hn.2 (by omega)
    have hless : k < 47 := lt_of_number_lt hd hn.1 (by omega)
    omega
  · rintro ⟨hlow, hhigh⟩
    have hmore : 47 < k := lt_of_lt_number hd hn.2 (by omega)
    have hless : k < 49 := lt_of_number_lt hd hn.1 (by omega)
    obtain rfl : k = 48 := by omega
    simp only [letterDigits, List.mem_cons, List.not_mem_nil, or_false] at hd
    rcases hd with rfl | rfl | rfl | rfl <;> omega

end

end Bitcoin

-- ---------------------------------------------------------------------------
-- What an accepted address looks like
-- ---------------------------------------------------------------------------

variable {network : Network} {address : String}

theorem Evm.marked_of_check (h : Evm.check address = .ok ()) :
    ∃ ds, address.toList = '0' :: 'x' :: ds ∧ ds.length = 40 := by
  unfold Evm.check at h
  split at h
  · cases h
  next ds hds =>
    split at h
    · cases h
    · split at h
      · cases h
      next hlen => exact ⟨ds, Bytes.afterMark?_eq_some_iff.mp hds, not_not.mp hlen⟩

theorem Solana.check_ok :
    Solana.check address = .ok () ↔
      ∃ bytes, Base58.decode address = .ok bytes ∧ bytes.length = 32 := by
  unfold Solana.check
  cases Base58.decode address with
  | error cause => simp
  | ok bytes =>
    have hsize : keySize = 32 := rfl
    by_cases hlen : bytes.length = 32 <;> simp [hlen, hsize]

/-- The bytes are those of an SS58 address for Polkadot. A type below 64 may be written in two
bytes, although one would do. -/
def Ss58.IsPolkadot (bytes : Bytes) : Prop :=
  ∃ first rest, bytes = first :: rest ∧
    ((rest.length = 34 ∧ (first.toNat = 0 ∨ first.toNat = 42)) ∨
      (rest.length = 35 ∧ 64 ≤ first.toNat ∧ first.toNat ≤ 74))

theorem Ss58.isPolkadot_of_ofBytes {bytes : Bytes} {a : Ss58} (h : ofBytes bytes = .ok a)
    (htype : a.type = 0 ∨ a.type = 42) : IsPolkadot bytes := by
  obtain ⟨size, hread, hlen, -, -⟩ := ofBytes_ok.mp h
  have hsizes : accountSize = 32 ∧ checksumSize = 2 := ⟨rfl, rfl⟩
  rcases readType_ok hread with ⟨first, rest, rfl, rfl, hfirst, -⟩ |
    ⟨first, second, rest, rfl, rfl, hvalue, hlow, hhigh⟩
  · rw [List.length_cons] at hlen
    exact ⟨first, rest, rfl, .inl ⟨by omega, by omega⟩⟩
  · refine ⟨first, second :: rest, rfl, .inr ⟨?_, hlow, ?_⟩⟩
    · rw [List.length_cons] at hlen
      omega
    · -- The first byte holds bits 2 to 7 of the type, which is at most 42.
      have hpart : (first.toNat &&& 0x3f) <<< 2 ≤ a.type := by
        rw [hvalue, Nat.or_assoc]
        exact Nat.left_le_or
      have hmod : first.toNat &&& 0x3f = first.toNat % 64 := Nat.and_two_pow_sub_one_eq_mod _ 6
      rw [hmod, Nat.shiftLeft_eq] at hpart
      omega

theorem Ss58.marked_or_polkadot_of_check (h : Ss58.check network.polkadotTypes address = .ok ()) :
    (∃ ds, address.toList = '0' :: 'x' :: ds ∧ ds.length = 64) ∨
      ∃ bytes, Base58.decode address = .ok bytes ∧ IsPolkadot bytes := by
  rcases check_ok.mp h with hhex | ⟨-, a, hdecode, htype⟩
  · obtain ⟨ds, hds, hlen, -⟩ := isHexAccount_iff.mp hhex
    exact .inl ⟨ds, hds, hlen⟩
  · obtain ⟨bytes, hbytes, hof⟩ := decode_ok.mp hdecode
    have htypes : ∀ type ∈ network.polkadotTypes, type = 0 ∨ type = 42 := by
      cases network <;> decide
    exact .inr ⟨bytes, hbytes, isPolkadot_of_ofBytes hof (htypes _ htype)⟩

theorem Bitcoin.length_of_isBase58For {found : BitcoinNetwork} (h : IsBase58For found address) :
    ∃ bytes, Base58.decode address = .ok bytes ∧ bytes.length = 25 := by
  obtain ⟨version, hash, hdecoded, hhash, -⟩ := h
  obtain ⟨check, hbytes, hcheck⟩ := Base58.decodeChecked_ok hdecoded
  refine ⟨_, hbytes, ?_⟩
  rw [List.length_append, List.length_cons, hhash, hcheck]
  rfl

theorem Bitcoin.letter_of_segwit {found : BitcoinNetwork} {a : Segwit.Address}
    (h : Segwit.decode? address = some a) (hname : a.name = found.segwitName) :
    ∃ c cs, address.toList = c :: cs ∧ c ∈ segwitLetters :=
  mem_segwitLetters_of_looksSegwit (looksSegwit_of_decode? h hname)

-- ---------------------------------------------------------------------------
-- Families side by side
-- ---------------------------------------------------------------------------

theorem Bitcoin.check_ne_ok_of_zero {cs : List Char} (h : address.toList = '0' :: cs) :
    Bitcoin.check network address ≠ .ok () := by
  intro hcheck
  rcases segwit_or_base58_of_check hcheck with ⟨a, ha, hname⟩ | hbase
  · obtain ⟨c, cs', hcs, hc⟩ := letter_of_segwit ha hname
    rw [h] at hcs
    cases hcs
    exact absurd hc (by decide)
  · obtain ⟨bytes, hbytes, -⟩ := length_of_isBase58For hbase
    exact Base58.decode_ne_ok_of_zero h hbytes

theorem Solana.check_ne_ok_of_zero {cs : List Char} (h : address.toList = '0' :: cs) :
    Solana.check address ≠ .ok () := by
  intro hcheck
  obtain ⟨bytes, hbytes, -⟩ := check_ok.mp hcheck
  exact Base58.decode_ne_ok_of_zero h hbytes

theorem Ss58.check_ne_ok_of_evm (h : Evm.check address = .ok ()) :
    Ss58.check network.polkadotTypes address ≠ .ok () := by
  intro hcheck
  obtain ⟨ds, hds, hlen⟩ := Evm.marked_of_check h
  rcases marked_or_polkadot_of_check hcheck with ⟨es, hes, hlen'⟩ | ⟨bytes, hbytes, -⟩
  · rw [hds] at hes
    cases hes
    omega
  · exact Base58.decode_ne_ok_of_zero hds hbytes

theorem Ss58.check_ne_ok_of_solana (h : Solana.check address = .ok ()) :
    Ss58.check network.polkadotTypes address ≠ .ok () := by
  intro hcheck
  obtain ⟨bytes, hbytes, hlen⟩ := Solana.check_ok.mp h
  rcases marked_or_polkadot_of_check hcheck with ⟨ds, hds, -⟩ | ⟨bytes', hbytes', hpolkadot⟩
  · exact Base58.decode_ne_ok_of_zero hds hbytes
  · obtain rfl : bytes = bytes' := Except.ok.inj (hbytes.symm.trans hbytes')
    obtain ⟨first, rest, rfl, hcases⟩ := hpolkadot
    rw [List.length_cons] at hlen
    omega

theorem Ss58.not_isPolkadot_of_segwit {found : BitcoinNetwork} {a : Segwit.Address} {bytes : Bytes}
    (h : Segwit.decode? address = some a) (hname : a.name = found.segwitName)
    (hbytes : Base58.decode address = .ok bytes) : ¬ IsPolkadot bytes := by
  rintro ⟨first, rest, rfl, hcases⟩
  obtain ⟨c, cs, hcs, hc⟩ := Bitcoin.letter_of_segwit h hname
  obtain ⟨d, hd, hidx, -⟩ := Bitcoin.digit_of_segwitLetter hc
  have hne := Bitcoin.ne_zero_of_letterDigit hd
  obtain ⟨n, hn, hzero, hlow, hhigh⟩ := Base58.exists_number_of_decode hcs hidx hne hbytes
  obtain ⟨hone, htwo⟩ := Bitcoin.no_polkadot_number hd hn
  rcases hcases with ⟨hlen, hfirst⟩ | ⟨hlen, hmin, hmax⟩
  · rw [hlen, hfirst.resolve_left hzero] at hlow hhigh
    exact hone ⟨hlow, hhigh⟩
  · rw [hlen] at hlow hhigh
    refine htwo ⟨le_trans ?_ hlow, lt_of_lt_of_le hhigh ?_⟩
    · exact Nat.mul_le_mul_right _ hmin
    · exact Nat.mul_le_mul_right _ (Nat.succ_le_succ hmax)

theorem Ss58.check_ne_ok_of_bitcoin (h : Bitcoin.check network address = .ok ()) :
    Ss58.check network.polkadotTypes address ≠ .ok () := by
  intro hcheck
  rcases marked_or_polkadot_of_check hcheck with ⟨ds, hds, -⟩ | ⟨bytes, hbytes, hpolkadot⟩
  · exact Bitcoin.check_ne_ok_of_zero hds h
  · rcases Bitcoin.segwit_or_base58_of_check h with ⟨a, ha, hname⟩ | hbase
    · exact not_isPolkadot_of_segwit ha hname hbytes hpolkadot
    · obtain ⟨bytes', hbytes', hlen⟩ := Bitcoin.length_of_isBase58For hbase
      obtain rfl : bytes = bytes' := Except.ok.inj (hbytes.symm.trans hbytes')
      obtain ⟨first, rest, rfl, hcases⟩ := hpolkadot
      rw [List.length_cons] at hlen
      omega

/-- A segwit address that is the base58 text of 32 bytes too. -/
structure IsSegwitKey (network : BitcoinNetwork) (address : String) : Prop where
  segwit : ∃ a, Segwit.decode? address = some a ∧ a.name = network.segwitName
  base58 : ∀ c ∈ address.toList, c ∈ Base58.alphabet
  size : (network = .regtest ∧ address.toList.length = 43) ∨
    (network ≠ .testnet ∧ address.toList.length = 44 ∧ address.toList.head? = some 'B')

/-- Not every length is that of a segwit address, and the name decides the first letter. -/
theorem Segwit.size_of_decode? {found : BitcoinNetwork} {a : Segwit.Address} {c : Char}
    {cs : List Char} (h : Segwit.decode? address = some a) (hname : a.name = found.segwitName)
    (hcs : address.toList = c :: cs) :
    (cs.length = 42 → found = .regtest) ∧ (c = 'B' → found ≠ .testnet) := by
  obtain ⟨data, k, hlower, hdata, hk⟩ := data_of_decode? h
  rw [Text.lower, String.toList_ofList, hcs, List.map_cons, hname] at hlower
  have hlen := congrArg List.length hlower
  simp only [List.length_cons, List.length_map, List.length_append, hdata] at hlen
  constructor
  · -- A name of two letters leaves 33 digits to the program, of which five bits would be padding.
    intro hsize
    by_contra hne
    have hpart : found.segwitName.toList.length = 2 := by
      cases found with
      | mainnet | testnet => decide
      | regtest => exact absurd rfl hne
    obtain rfl : k = 33 := by omega
    exact absurd hk (by decide)
  · rintro rfl rfl
    have hfirst : 'B'.toLower = 't' := (List.cons.inj hlower).1
    exact absurd hfirst (by decide)

theorem bitcoin_and_solana_iff :
    (Bitcoin.check network address = .ok () ∧ Solana.check address = .ok ()) ↔
      IsSegwitKey network.bitcoin address := by
  constructor
  · rintro ⟨hbitcoin, hsolana⟩
    obtain ⟨bytes, hbytes, hlen⟩ := Solana.check_ok.mp hsolana
    rcases Bitcoin.segwit_or_base58_of_check hbitcoin with ⟨a, ha, hname⟩ | hbase
    · obtain ⟨c, cs, hcs, hc⟩ := Bitcoin.letter_of_segwit ha hname
      obtain ⟨d, hd, hidx, hleast⟩ := Bitcoin.digit_of_segwitLetter hc
      obtain ⟨hregtest, htestnet⟩ := Segwit.size_of_decode? ha hname hcs
      have hne := Bitcoin.ne_zero_of_letterDigit hd
      obtain ⟨n, hn, hsize⟩ := Base58.exists_number_of_length hcs hidx hne hbytes
      have hcount := (Bitcoin.key_number_iff hd hn).mp ((hsize 31).mp hlen)
      refine ⟨⟨a, ha, hname⟩, Base58.mem_alphabet_of_decode hbytes, ?_⟩
      rw [hcs, List.length_cons]
      rcases hcount with hshort | ⟨hlong, hten⟩
      · exact .inl ⟨hregtest hshort, by rw [hshort]⟩
      · obtain rfl := hleast.mp hten
        exact .inr ⟨htestnet rfl, by rw [hlong], rfl⟩
    · obtain ⟨bytes', hbytes', hlen'⟩ := Bitcoin.length_of_isBase58For hbase
      obtain rfl : bytes = bytes' := Except.ok.inj (hbytes.symm.trans hbytes')
      omega
  · rintro ⟨⟨a, ha, hname⟩, hbase58, hlen⟩
    obtain ⟨c, cs, hcs, hc⟩ := Bitcoin.letter_of_segwit ha hname
    obtain ⟨d, hd, hidx, hleast⟩ := Bitcoin.digit_of_segwitLetter hc
    obtain ⟨bytes, hbytes⟩ := Base58.exists_decode_ok_iff.mpr hbase58
    have hne := Bitcoin.ne_zero_of_letterDigit hd
    obtain ⟨n, hn, hsize⟩ := Base58.exists_number_of_length hcs hidx hne hbytes
    have hcount : cs.length = 42 ∨ (cs.length = 43 ∧ d = 10) := by
      rw [hcs, List.length_cons, List.head?_cons] at hlen
      rcases hlen with ⟨-, hshort⟩ | ⟨-, hlong, hB⟩
      · exact .inl (Nat.succ.inj hshort)
      · exact .inr ⟨Nat.succ.inj hlong, hleast.mpr (Option.some.inj hB)⟩
    refine ⟨?_, Solana.check_ok.mpr ⟨bytes, hbytes, ?_⟩⟩
    · rw [Bitcoin.check_of_segwit ha hname, if_pos rfl]
    · exact (hsize 31).mpr ((Bitcoin.key_number_iff hd hn).mpr hcount)

theorem Chain.addressFormat_ne_account (c : Chain) : c.addressFormat ≠ .account := by
  cases c <;> decide

theorem refused_of_evm (h : AddressFormat.evm.check network address = .ok ()) {f : AddressFormat}
    (hf : f ≠ .evm) (haccount : f ≠ .account) : f.check network address ≠ .ok () := by
  obtain ⟨ds, hds, -⟩ := Evm.marked_of_check h
  cases f with
  | evm => exact absurd rfl hf
  | bitcoin => exact Bitcoin.check_ne_ok_of_zero hds
  | solana => exact Solana.check_ne_ok_of_zero hds
  | polkadot => exact Ss58.check_ne_ok_of_evm h
  | account => exact absurd rfl haccount

theorem refused_of_polkadot (h : AddressFormat.polkadot.check network address = .ok ())
    {f : AddressFormat} (hf : f ≠ .polkadot) (haccount : f ≠ .account) :
    f.check network address ≠ .ok () := by
  intro hcheck
  cases f with
  | evm => exact Ss58.check_ne_ok_of_evm hcheck h
  | bitcoin => exact Ss58.check_ne_ok_of_bitcoin hcheck h
  | solana => exact Ss58.check_ne_ok_of_solana hcheck h
  | polkadot => exact hf rfl
  | account => exact haccount rfl

def AreBitcoinAndSolana (f₁ f₂ : AddressFormat) : Prop :=
  (f₁ = .bitcoin ∧ f₂ = .solana) ∨ (f₁ = .solana ∧ f₂ = .bitcoin)

theorem areBitcoinAndSolana_of_accepted {f₁ f₂ : AddressFormat} (hne : f₁ ≠ f₂)
    (haccount₁ : f₁ ≠ .account) (haccount₂ : f₂ ≠ .account)
    (h₁ : f₁.check network address = .ok ()) (h₂ : f₂.check network address = .ok ()) :
    AreBitcoinAndSolana f₁ f₂ := by
  cases f₁ with
  | evm => exact absurd h₂ (refused_of_evm h₁ hne.symm haccount₂)
  | polkadot => exact absurd h₂ (refused_of_polkadot h₁ hne.symm haccount₂)
  | account => exact absurd rfl haccount₁
  | bitcoin =>
    cases f₂ with
    | solana => exact .inl ⟨rfl, rfl⟩
    | evm => exact absurd h₁ (refused_of_evm h₂ hne haccount₁)
    | polkadot => exact absurd h₁ (refused_of_polkadot h₂ hne haccount₁)
    | bitcoin => exact absurd rfl hne
    | account => exact absurd rfl haccount₂
  | solana =>
    cases f₂ with
    | bitcoin => exact .inr ⟨rfl, rfl⟩
    | evm => exact absurd h₁ (refused_of_evm h₂ hne haccount₁)
    | polkadot => exact absurd h₁ (refused_of_polkadot h₂ hne haccount₁)
    | solana => exact absurd rfl hne
    | account => exact absurd rfl haccount₂

/-- No address is one of two families, save for the segwit addresses that are Solana keys. -/
theorem accepted_by_two_families_iff (network : Network) (address : String) (c₁ c₂ : Chain)
    (hne : c₁.addressFormat ≠ c₂.addressFormat) :
    (c₁.checkAddress network address = .ok () ∧ c₂.checkAddress network address = .ok ()) ↔
      AreBitcoinAndSolana c₁.addressFormat c₂.addressFormat ∧
        IsSegwitKey network.bitcoin address := by
  rw [Chain.checkAddress, Chain.checkAddress, ← bitcoin_and_solana_iff]
  constructor
  · rintro ⟨h₁, h₂⟩
    have hpair := areBitcoinAndSolana_of_accepted hne c₁.addressFormat_ne_account
      c₂.addressFormat_ne_account h₁ h₂
    refine ⟨hpair, ?_⟩
    rcases hpair with ⟨hf₁, hf₂⟩ | ⟨hf₁, hf₂⟩
    · rw [hf₁] at h₁
      rw [hf₂] at h₂
      exact ⟨h₁, h₂⟩
    · rw [hf₁] at h₁
      rw [hf₂] at h₂
      exact ⟨h₂, h₁⟩
  · rintro ⟨⟨hf₁, hf₂⟩ | ⟨hf₁, hf₂⟩, hbitcoin, hsolana⟩
    · rw [hf₁, hf₂]
      exact ⟨hbitcoin, hsolana⟩
    · rw [hf₁, hf₂]
      exact ⟨hsolana, hbitcoin⟩

theorem accepted_by_two_families_iff_regtestKeyHash :
    Chain.bitcoin.addressFormat ≠ Chain.solana.addressFormat ∧
      IsSegwitKey .regtest "BCRT1QT7TNM2KCVXDERL7FZ86HENK5TZAM7T8QR54LS6" := by
  have hne : Chain.bitcoin.addressFormat ≠ Chain.solana.addressFormat := by decide
  have hboth := accepted_by_two_families_iff .backspin
    "BCRT1QT7TNM2KCVXDERL7FZ86HENK5TZAM7T8QR54LS6" .bitcoin .solana hne
  exact ⟨hne, (hboth.mp ⟨by decide +kernel, by decide +kernel⟩).2⟩

/-- A segwit address of mainnet, in capital letters, that is a Solana key. -/
theorem mainnet_segwit_is_solana_key :
    Chain.bitcoin.checkAddress .mainnet "BC1PQTZYY6W6RNMT5EKNLZMDFVGQ484QUA26TSKH4HRF" = .ok () ∧
      Chain.solana.checkAddress .mainnet "BC1PQTZYY6W6RNMT5EKNLZMDFVGQ484QUA26TSKH4HRF" = .ok () ∧
      Chain.bitcoin.addressFormat ≠ Chain.solana.addressFormat := by
  decide +kernel

end SwapBroker
