import SwapBroker.Address.Basic
import SwapBroker.Proofs.BitcoinAddresses
import SwapBroker.Proofs.Ss58Accounts

/-!
# Addresses across networks

An address is read without regard to the network, and only what was read is compared with what the
network expects. What one network accepts, another accepts too or refuses for its network alone.
`AcrossNetworks` says so of every chain, and for Bitcoin which networks share an address and how a
refusal names them.
-/

namespace SwapBroker

namespace Bitcoin

variable {network n₁ n₂ : Network} {expected found : BitcoinNetwork} {address : String}

-- ---------------------------------------------------------------------------
-- Segwit addresses
-- ---------------------------------------------------------------------------

theorem segwitName_inj {a b : BitcoinNetwork} : a.segwitName = b.segwitName ↔ a = b := by
  cases a <;> cases b <;> decide

theorem markOfName_segwitName (network : BitcoinNetwork) :
    markOfName network.segwitName = .bitcoin network := by
  cases network <;> decide

theorem check_of_segwit {a : Segwit.Address} (h : Segwit.decode? address = some a)
    (hname : a.name = found.segwitName) (network : Network) :
    check network address =
      if network.bitcoin = found then .ok ()
      else .error (.wrongNetwork (.bitcoin network.bitcoin) (.bitcoin found)) := by
  rw [check, if_pos (looksSegwit_of_decode? h hname), checkSegwit, h]
  dsimp only
  rw [hname, markOfName_segwitName]
  simp only [segwitName_inj, eq_comm (a := found)]

theorem not_isBase58For_of_segwit {a : Segwit.Address} (h : Segwit.decode? address = some a)
    (hname : a.name = found.segwitName) (other : BitcoinNetwork) : ¬ IsBase58For other address := by
  intro hbase
  have hlooks := looksSegwit_of_decode? h hname
  rw [looksSegwit_eq_false hbase] at hlooks
  cases hlooks

-- ---------------------------------------------------------------------------
-- Base58 addresses
-- ---------------------------------------------------------------------------

theorem check_of_version {version : UInt8} {hash : Bytes}
    (h : Base58.decodeChecked address = .ok (version :: hash)) (hhash : hash.length = 20)
    (hversion : version ∈ found.versions) (hfound : networkOfVersion? version = some found)
    (network : Network) :
    check network address =
      if version ∈ network.bitcoin.versions then .ok ()
      else .error (.wrongNetwork (.bitcoin network.bitcoin) (.bitcoin found)) := by
  have hlooks : looksSegwit address = false :=
    looksSegwit_eq_false ⟨version, hash, h, hhash, hversion⟩
  simp [check, hlooks, checkBase58, h, payloadSize, hhash, hfound]

theorem check_of_mainnet_base58 (h : IsBase58For .mainnet address) :
    ¬ IsBase58For .testnet address ∧ ∀ network : Network, check network address =
      if network.bitcoin = .mainnet then .ok ()
      else .error (.wrongNetwork (.bitcoin network.bitcoin) (.bitcoin .mainnet)) := by
  obtain ⟨version, hash, hdecoded, hhash, hversion⟩ := h
  have apart : ∀ v ∈ BitcoinNetwork.mainnet.versions, v ∉ BitcoinNetwork.testnet.versions ∧
      networkOfVersion? v = some .mainnet ∧
      ∀ n, v ∈ BitcoinNetwork.versions n ↔ n = .mainnet := by
    intro v hv
    simp only [BitcoinNetwork.versions, List.mem_cons, List.not_mem_nil, or_false] at hv
    rcases hv with rfl | rfl <;> refine ⟨by decide, by decide, fun n => ?_⟩ <;> cases n <;> decide
  obtain ⟨hnot, hfound, hiff⟩ := apart version hversion
  refine ⟨?_, fun network => ?_⟩
  · rintro ⟨version', hash', hdecoded', -, hversion'⟩
    rw [hdecoded] at hdecoded'
    cases hdecoded'
    exact hnot hversion'
  · rw [check_of_version hdecoded hhash hversion hfound]
    simp only [hiff]

theorem check_of_testnet_base58 (h : IsBase58For .testnet address) (network : Network) :
    check network address =
      if network.bitcoin = .mainnet then
        .error (.wrongNetwork (.bitcoin .mainnet) (.bitcoin .testnet))
      else .ok () := by
  obtain ⟨version, hash, hdecoded, hhash, hversion⟩ := h
  have apart : ∀ v ∈ BitcoinNetwork.testnet.versions, networkOfVersion? v = some .testnet ∧
      ∀ n, v ∈ BitcoinNetwork.versions n ↔ n ≠ .mainnet := by
    intro v hv
    simp only [BitcoinNetwork.versions, List.mem_cons, List.not_mem_nil, or_false] at hv
    rcases hv with rfl | rfl <;> refine ⟨by decide, fun n => ?_⟩ <;> cases n <;> decide
  obtain ⟨hfound, hiff⟩ := apart version hversion
  rw [check_of_version hdecoded hhash hversion hfound]
  cases hn : network.bitcoin <;> simp [hiff]

-- ---------------------------------------------------------------------------
-- Accepted addresses on other networks
-- ---------------------------------------------------------------------------

theorem segwit_or_base58_of_check (h : check network address = .ok ()) :
    (∃ a, Segwit.decode? address = some a ∧ a.name = network.bitcoin.segwitName) ∨
      IsBase58For network.bitcoin address := by
  unfold check at h
  split at h
  · exact .inl (checkSegwit_ok.mp h)
  · exact .inr (checkBase58_ok.mp h)

/-- An accepted address is one of its own network only, or one that the test networks share. -/
theorem check_elsewhere (h : check n₁ address = .ok ()) :
    (¬ IsBase58For .testnet address ∧ ∀ network : Network, check network address =
      if network.bitcoin = n₁.bitcoin then .ok ()
      else .error (.wrongNetwork (.bitcoin network.bitcoin) (.bitcoin n₁.bitcoin))) ∨
    (IsBase58For .testnet address ∧ n₁.bitcoin ≠ .mainnet) := by
  rcases segwit_or_base58_of_check h with ⟨a, ha, hname⟩ | hbase
  · exact .inl ⟨not_isBase58For_of_segwit ha hname _, check_of_segwit ha hname⟩
  · cases hn : n₁.bitcoin with
    | mainnet =>
      rw [hn] at hbase
      exact .inl (check_of_mainnet_base58 hbase)
    | testnet | regtest =>
      rw [hn] at hbase
      exact .inr ⟨hbase, by decide⟩

end Bitcoin

theorem Network.bitcoin_eq_mainnet_iff {network : Network} :
    network.bitcoin = .mainnet ↔ network = .mainnet := by
  cases network <;> decide

namespace Ss58

/-- A type that is not expected is the only other reason to refuse what is accepted for some
types. -/
theorem check_of_accepted {types : List Nat} {address : String} (h : check types address = .ok ())
    (others : List Nat) :
    check others address = .ok () ∨
      ∃ type ∈ types, type ∉ others ∧
        check others address = .error (.wrongNetwork (.ss58 others) (.ss58 [type])) := by
  rcases check_ok.mp h with hhex | ⟨hhex, a, hdecode, htype⟩
  · exact .inl (check_of_hex hhex)
  · rw [check_of_decode hhex hdecode]
    split
    next hother => exact .inl rfl
    next hother => exact .inr ⟨a.type, htype, hother, rfl⟩

end Ss58

/-- What the acceptance of an address on the network `n₁` says about the network `n₂`. -/
structure AcrossNetworks (n₁ n₂ : Network) (address : String) : Prop where
  refused : ∀ chain : Chain, chain.checkAddress n₁ address = .ok () →
    ∀ e, chain.checkAddress n₂ address = .error e →
      ∃ expected found, e = .wrongNetwork expected found
  bitcoinMainnet : n₁ = .mainnet → n₂ ≠ .mainnet → Chain.bitcoin.checkAddress n₁ address = .ok () →
    Chain.bitcoin.checkAddress n₂ address ≠ .ok ()
  bitcoinShared : n₁.bitcoin ≠ n₂.bitcoin → Chain.bitcoin.checkAddress n₁ address = .ok () →
    Chain.bitcoin.checkAddress n₂ address = .ok () → Bitcoin.IsBase58For .testnet address
  bitcoinNamed : Chain.bitcoin.checkAddress n₁ address = .ok () →
    ∀ e, Chain.bitcoin.checkAddress n₂ address = .error e →
      ∃ found, e = .wrongNetwork (.bitcoin n₂.bitcoin) (.bitcoin found) ∧
        (Bitcoin.IsBase58For .testnet address → found = .testnet) ∧
        (¬ Bitcoin.IsBase58For .testnet address → found = n₁.bitcoin)
  polkadot : ∀ chain ∈ [Chain.polkadot, .assethub], chain.checkAddress .mainnet address = .ok () →
    chain.checkAddress n₂ address = .ok ()
  unmarked : ∀ chain ∈ [Chain.ethereum, .arbitrum, .solana],
    chain.checkAddress n₁ address = chain.checkAddress n₂ address

theorem Bitcoin.error_elsewhere {n₁ n₂ : Network} {address : String} {e : AddressError}
    (h : check n₁ address = .ok ()) (he : check n₂ address = .error e) :
    ∃ found, e = .wrongNetwork (.bitcoin n₂.bitcoin) (.bitcoin found) ∧
      (IsBase58For .testnet address → found = .testnet) ∧
      (¬ IsBase58For .testnet address → found = n₁.bitcoin) := by
  rcases check_elsewhere h with ⟨hnot, hcheck⟩ | ⟨hbase, -⟩
  · rw [hcheck n₂] at he
    split at he
    next => cases he
    next => exact ⟨n₁.bitcoin, (Except.error.inj he).symm, fun hb => absurd hb hnot, fun _ => rfl⟩
  · rw [check_of_testnet_base58 hbase] at he
    split at he
    next hmain =>
      rw [hmain]
      exact ⟨.testnet, (Except.error.inj he).symm, fun _ => rfl, fun hn => absurd hbase hn⟩
    next => cases he

theorem Ss58.error_elsewhere {n₁ n₂ : Network} {address : String} {e : AddressError}
    (h : check n₁.polkadotTypes address = .ok ())
    (he : check n₂.polkadotTypes address = .error e) :
    ∃ expected found, e = .wrongNetwork expected found := by
  rcases check_of_accepted h n₂.polkadotTypes with hok | ⟨type, -, -, herror⟩
  · rw [hok] at he
    cases he
  · rw [herror] at he
    exact ⟨_, _, (Except.error.inj he).symm⟩

theorem Chain.checkAddress_bitcoin (network : Network) (address : String) :
    Chain.bitcoin.checkAddress network address = Bitcoin.check network address := rfl

theorem Chain.checkAddress_unmarked {chain : Chain} {address : String} (n₁ n₂ : Network)
    (h : chain ∈ [Chain.ethereum, .arbitrum, .solana]) :
    chain.checkAddress n₁ address = chain.checkAddress n₂ address := by
  simp only [List.mem_cons, List.not_mem_nil, or_false] at h
  rcases h with rfl | rfl | rfl <;> rfl

/-- What one network accepts another accepts too, or refuses for its network alone. -/
theorem acceptance_across_networks (n₁ n₂ : Network) (address : String) :
    AcrossNetworks n₁ n₂ address where
  refused chain h e he := by
    cases chain with
    | ethereum | arbitrum | solana =>
      rw [Chain.checkAddress_unmarked n₂ n₁ (by decide), h] at he
      cases he
    | bitcoin =>
      rw [Chain.checkAddress_bitcoin] at h he
      obtain ⟨found, rfl, -⟩ := Bitcoin.error_elsewhere h he
      exact ⟨_, _, rfl⟩
    | polkadot | assethub => exact Ss58.error_elsewhere h he
  bitcoinMainnet hmain hother h h' := by
    subst hmain
    rw [Chain.checkAddress_bitcoin] at h h'
    rcases Bitcoin.check_elsewhere h with ⟨-, hcheck⟩ | ⟨-, htest⟩
    · have hne : n₂.bitcoin ≠ Network.mainnet.bitcoin := fun hn =>
        hother (Network.bitcoin_eq_mainnet_iff.mp hn)
      have hrefused := (hcheck n₂).symm.trans h'
      rw [if_neg hne] at hrefused
      cases hrefused
    · exact htest rfl
  bitcoinShared hne h h' := by
    rw [Chain.checkAddress_bitcoin] at h h'
    rcases Bitcoin.check_elsewhere h with ⟨-, hcheck⟩ | ⟨hbase, -⟩
    · have hrefused := (hcheck n₂).symm.trans h'
      rw [if_neg hne.symm] at hrefused
      cases hrefused
    · exact hbase
  bitcoinNamed h e he := by
    rw [Chain.checkAddress_bitcoin] at h he
    exact Bitcoin.error_elsewhere h he
  polkadot chain hchain h := by
    have htypes : ∀ type ∈ Network.polkadotTypes .mainnet, type ∈ n₂.polkadotTypes := by
      cases n₂ <;> decide
    have hcheck : Ss58.check (Network.polkadotTypes .mainnet) address = .ok () →
        Ss58.check n₂.polkadotTypes address = .ok () := by
      intro hmain
      rcases Ss58.check_of_accepted hmain n₂.polkadotTypes with hok | ⟨type, htype, hnot, -⟩
      · exact hok
      · exact absurd (htypes type htype) hnot
    simp only [List.mem_cons, List.not_mem_nil, or_false] at hchain
    rcases hchain with rfl | rfl <;> exact hcheck h
  unmarked chain hchain := Chain.checkAddress_unmarked n₁ n₂ hchain

/-- A base58 address of the test networks is valid on both of them, and refused on mainnet as one of
the first. -/
theorem acceptance_across_networks_sharedKeyHash :
    ∃ found, Chain.bitcoin.checkAddress .backspin "mipcBbFg9gMiCh81Kj8tqqdgoZub1ZJRfn" = .ok () ∧
      Chain.bitcoin.checkAddress .mainnet "mipcBbFg9gMiCh81Kj8tqqdgoZub1ZJRfn" =
        .error (.wrongNetwork (.bitcoin .mainnet) (.bitcoin found)) ∧
      (Bitcoin.IsBase58For .testnet "mipcBbFg9gMiCh81Kj8tqqdgoZub1ZJRfn" → found = .testnet) := by
  have hok : Chain.bitcoin.checkAddress .backspin "mipcBbFg9gMiCh81Kj8tqqdgoZub1ZJRfn" = .ok () := by
    decide +kernel
  have hmain : Chain.bitcoin.checkAddress .mainnet "mipcBbFg9gMiCh81Kj8tqqdgoZub1ZJRfn" =
      .error (.wrongNetwork (.bitcoin .mainnet) (.bitcoin .testnet)) := by
    decide +kernel
  have across := acceptance_across_networks .backspin .mainnet "mipcBbFg9gMiCh81Kj8tqqdgoZub1ZJRfn"
  obtain ⟨found, hfound, htest, -⟩ := across.bitcoinNamed hok _ hmain
  exact ⟨found, hok, hmain.trans (congrArg Except.error hfound), htest⟩

end SwapBroker
