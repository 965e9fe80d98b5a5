import SwapBroker.Proofs.VaultSwaps
import SwapBroker.Transport.JsonRpc

/-!
# The forms of replies

A reply, the deposit channel or the vault swap in it and each account of a swap is a record, and so
it may be an object or the array of its fields in their order. What is accepted at each layer is
what has the required members under their names, once every array is taken for the object that it
stands for. So an array is accepted that nobody meant as an object, such as a batch in a batch.
-/

namespace SwapBroker

open Json Outcome Record Decoder

-- ---------------------------------------------------------------------------
-- Results
-- ---------------------------------------------------------------------------

namespace JsonRpc

/-- The one reply that a body is or holds. -/
def IsReplyOf (body reply : Json) : Prop :=
  body = .arr [reply] ∨ body = reply ∧ ∀ items, body ≠ .arr items

structure CarriesResult (reply r : Json) : Prop where
  result : reply.member? "result" = some r
  notNull : r ≠ .null
  noError : reply.member? "error" = none ∨ reply.member? "error" = some .null

variable {body reply r : Json} {members : Members}

theorem single_ok : single body = .ok reply ↔ IsReplyOf body reply := by
  unfold IsReplyOf
  cases body with
  | arr items =>
    match items with
    | [] => simp [single]
    | [first] => simp [single]
    | first :: second :: rest => simp [single]
  | _ => simp [single]

theorem result_ok :
    result body = .ok r ↔
      ∃ reply, IsReplyOf body reply ∧ Reply.decode reply = .ok ⟨some r, none⟩ := by
  simp only [result, bind_ok_iff, mapError_ok_iff, single_ok]
  constructor
  · rintro ⟨reply, hreply, ⟨result, error⟩, hdecode, h⟩
    cases error with
    | some e => cases h
    | none =>
      cases result with
      | none => cases h
      | some value =>
        cases h
        exact ⟨reply, hreply, hdecode⟩
  · rintro ⟨reply, hreply, hdecode⟩
    exact ⟨reply, hreply, _, hdecode, rfl⟩

theorem Reply.record_regular : Reply.record.Regular :=
  ((regular_field _ _ _).map _).seq (regular_field _ _ _)

theorem Reply.build_ok :
    Reply.record.build members = .ok ⟨some r, none⟩ ↔ CarriesResult (.obj members) r := by
  simp only [Reply.record, build_seq_ok, build_map_ok]
  constructor
  · rintro ⟨_, ⟨result, hresult, rfl⟩, error, herror, h⟩
    cases h
    obtain ⟨value, hvalue, hnull, hany⟩ := build_optional_some.mp hresult
    cases hany
    exact ⟨hvalue, hnull, build_optional_none.mp herror⟩
  · rintro ⟨hvalue, hnull, herror⟩
    have hresult := build_optional_some.mpr ⟨r, hvalue, hnull, (rfl : any.run r = .ok r)⟩
    exact ⟨_, ⟨_, hresult, rfl⟩, _, build_optional_none.mpr herror, rfl⟩

theorem Reply.decode_ok (h : reply.HasDistinctNames) :
    Reply.decode reply = .ok ⟨some r, none⟩ ↔
      CarriesResult (reply.named ["result", "error"]) r :=
  Record.decode_ok_iff (CarriesResult · r) Reply.record_regular (by decide) h (fun _ _ => Reply.build_ok)
    fun _ h => exists_members_of_member? h.result

end JsonRpc

-- ---------------------------------------------------------------------------
-- Deposit channels
-- ---------------------------------------------------------------------------

structure OpenedChannel.SpelledIn (c : OpenedChannel) (j : Json) : Prop where
  address : j.member? "address" = some (.str c.address)
  issuedBlock : j.member? "issued_block" = some (.int c.issuedBlock.toNat)
  channelId : j.member? "channel_id" = some (.int c.channelId.toNat)
  expiryBlock : ∃ v, j.member? "source_chain_expiry_block" = some v ∧ c.expiryBlock.WrittenAs v
  openingFee : ∃ v, j.member? "channel_opening_fee" = some v ∧ c.openingFee.WrittenAs v

namespace OpenedChannel

def fields : List String :=
  ["address", "issued_block", "channel_id", "source_chain_expiry_block", "channel_opening_fee"]

theorem record_regular : record.Regular :=
  (((((regular_field _ _ _).map _).seq (regular_field _ _ _)).seq (regular_field _ _ _)).seq
    (regular_field _ _ _)).seq (regular_field _ _ _)

theorem build_ok {c : OpenedChannel} {members : Members} :
    record.build members = .ok c ↔ c.SpelledIn (.obj members) := by
  simp only [record, build_seq_ok, build_map_ok, build_required_ok, text_ok, uint64_ok, quantity_ok]
  constructor
  · rintro ⟨_, ⟨_, ⟨_, ⟨_, ⟨_, ⟨_, haddress, rfl⟩, rfl⟩, _, ⟨_, hblock, rfl⟩, rfl⟩, _,
      ⟨_, hid, rfl⟩, rfl⟩, _, hexpiry, rfl⟩, _, hfee, rfl⟩
    exact ⟨haddress, hblock, hid, hexpiry, hfee⟩
  · rintro ⟨haddress, hblock, hid, hexpiry, hfee⟩
    exact ⟨_, ⟨_, ⟨_, ⟨_, ⟨_, ⟨_, haddress, rfl⟩, rfl⟩, _, ⟨_, hblock, rfl⟩, rfl⟩, _,
      ⟨_, hid, rfl⟩, rfl⟩, _, hexpiry, rfl⟩, _, hfee, rfl⟩

theorem decode_ok {c : OpenedChannel} {j : Json} (h : j.HasDistinctNames) :
    decode j = .ok c ↔ c.SpelledIn (j.named fields) :=
  decode_ok_iff c.SpelledIn record_regular (by decide) h (fun _ _ => build_ok)
    fun _ h => exists_members_of_member? h.address

end OpenedChannel

theorem DepositChannel.ofReply_ok {network : Network} {chain : Chain} {commission boost : UInt16}
    {reply : Json} {c : DepositChannel} :
    ofReply network chain commission boost reply = .ok c ↔
      OpenedChannel.decode reply = .ok c.opened ∧
      chain.checkAddress network c.opened.address = .ok () ∧
      c.srcChain = chain ∧ c.commission = commission ∧ c.maxBoostFee = boost := by
  simp only [ofReply, bind_ok_iff, mapError_ok_iff, exists_check_ok_iff, pure_ok_iff,
    VaultSwap.checkAddress_ok]
  constructor
  · rintro ⟨opened, hdecode, haddress, rfl⟩
    exact ⟨hdecode, haddress, rfl, rfl, rfl⟩
  · rintro ⟨hdecode, haddress, rfl, rfl, rfl⟩
    exact ⟨c.opened, hdecode, haddress, rfl⟩

-- ---------------------------------------------------------------------------
-- Vault swaps
-- ---------------------------------------------------------------------------

section

variable {members : Members}

theorem BitcoinVaultSwap.decode_ok {swap : BitcoinVaultSwap} {name : String} {j : Json}
    (h : j.HasDistinctNames) :
    record.decode name .inUnion j = .ok swap ↔
      swap.SpelledIn .wire (j.named ["nulldata_payload", "deposit_address"]) :=
  decode_ok_iff (swap.SpelledIn .wire) record_regular (by decide) h (fun _ _ => build_ok)
    fun _ h => exists_members_of_member? h.payload

theorem EvmVaultSwap.decode_ok {swap : EvmVaultSwap} {name : String} {j : Json}
    (h : j.HasDistinctNames) :
    record.decode name .inUnion j = .ok swap ↔
      swap.SpelledIn .wire (j.named ["value", "to", "calldata", "source_token_address"]) :=
  decode_ok_iff (swap.SpelledIn .wire) record_regular (by decide) h (fun _ _ => build_ok)
    fun _ h => exists_members_of_member? h.recipient

def SolanaAccount.fields : List String :=
  ["pubkey", "is_signer", "is_writable"]

theorem SolanaAccount.decode_ok {a : SolanaAccount} {j : Json} (h : j.HasDistinctNames) :
    decode j = .ok a ↔ a.SpelledIn .wire (j.named fields) :=
  decode_ok_iff (a.SpelledIn .wire) record_regular (by decide) h (fun _ _ => build_ok)
    fun _ h => exists_members_of_member? h.pubkey

theorem SolanaAccount.decode_all_ok {items : List Json} {accounts : List SolanaAccount}
    (hnames : ∀ item ∈ items, item.HasDistinctNames) :
    List.Forall₂ (fun item a => decode item = .ok a) items accounts ↔
      List.Forall₂ (fun item a => a.SpelledIn .wire (item.named fields)) items accounts := by
  induction items generalizing accounts with
  | nil => simp
  | cons item items ih =>
    obtain ⟨hitem, hrest⟩ := List.forall_mem_cons.mp hnames
    cases accounts with
    | nil => simp
    | cons a accounts => rw [List.forall₂_cons, List.forall₂_cons, decode_ok hitem, ih hrest]

structure SolanaVaultSwap.HeldBy (swap : SolanaVaultSwap) (j : Json) : Prop where
  programId : j.member? "program_id" = some (.str swap.programId)
  data : j.member? "data" = some (.str swap.data)
  accounts : ∃ items, j.member? "accounts" = some (.arr items) ∧
    List.Forall₂ (fun item a => SolanaAccount.SpelledIn .wire a (item.named SolanaAccount.fields))
      items swap.accounts

theorem SolanaVaultSwap.build_ok {swap : SolanaVaultSwap} (h : (obj members).HasDistinctNames) :
    record.build members = .ok swap ↔ swap.HeldBy (.obj members) := by
  have hdistinct {items : List Json} (hitems : lookup? "accounts" members = some (.arr items)) :
      ∀ item ∈ items, item.HasDistinctNames :=
    hasDistinctNames_arr.mp ((hasDistinctNames_obj.mp h).2 _ (mem_of_lookup? hitems))
  simp only [record, build_seq_ok, build_map_ok, build_required_ok, text_ok, list_ok]
  constructor
  · rintro ⟨_, ⟨_, ⟨_, ⟨_, hprogram, rfl⟩, rfl⟩, _, ⟨_, hdata, rfl⟩, rfl⟩, _,
      ⟨_, hitems, items, rfl, hdecoded⟩, rfl⟩
    exact ⟨hprogram, hdata, items, hitems, (SolanaAccount.decode_all_ok (hdistinct hitems)).mp hdecoded⟩
  · rintro ⟨hprogram, hdata, items, hitems, hspelled⟩
    have hdecoded := (SolanaAccount.decode_all_ok (hdistinct hitems)).mpr hspelled
    exact ⟨_, ⟨_, ⟨_, ⟨_, hprogram, rfl⟩, rfl⟩, _, ⟨_, hdata, rfl⟩, rfl⟩, _,
      ⟨_, hitems, items, rfl, hdecoded⟩, rfl⟩

theorem SolanaVaultSwap.decode_ok {swap : SolanaVaultSwap} {name : String} {j : Json}
    (h : j.HasDistinctNames) :
    record.decode name .inUnion j = .ok swap ↔
      swap.HeldBy (j.named ["program_id", "data", "accounts"]) := by
  have hdistinct := HasDistinctNames.named (by decide : record.names.Nodup) h
  exact decode_ok_iff swap.HeldBy record_regular (by decide) h
    (fun _ hform => build_ok (hform ▸ hdistinct)) fun _ h => exists_members_of_member? h.programId

namespace VaultSwap

/-- The order of the fields in an array, after the tag. -/
def dataFields : Chain → List String
  | .bitcoin => ["nulldata_payload", "deposit_address"]
  | .ethereum | .arbitrum => ["value", "to", "calldata", "source_token_address"]
  | .solana => ["program_id", "data", "accounts"]
  | .polkadot | .assethub => []

def DataHeldBy : VaultSwap → Json → Prop
  | .bitcoin swap => swap.SpelledIn .wire
  | .ethereum swap | .arbitrum swap => swap.SpelledIn .wire
  | .solana swap => swap.HeldBy

structure HeldBy (swap : VaultSwap) (j : Json) : Prop where
  chain : j.member? "chain" = some (.str swap.chain.name)
  data : swap.DataHeldBy j

theorem DataHeldBy.exists_members {swap : VaultSwap} {j : Json} (h : swap.DataHeldBy j) :
    ∃ members, j = .obj members := by
  cases swap with
  | bitcoin swap => exact exists_members_of_member? h.payload
  | ethereum swap | arbitrum swap => exact exists_members_of_member? h.recipient
  | solana swap => exact exists_members_of_member? h.programId

theorem DataHeldBy.congr {swap : VaultSwap} {i j : Json}
    (hsame : ∀ field ≠ tagName, i.member? field = j.member? field) (h : swap.DataHeldBy i) :
    swap.DataHeldBy j := by
  have hfield {field : String} (hne : field ≠ tagName) {value : Option Json}
      (hi : i.member? field = value) : j.member? field = value := (hsame field hne).symm.trans hi
  cases swap with
  | bitcoin swap =>
    exact ⟨hfield (by decide) h.payload, hfield (by decide) h.depositAddress, trivial⟩
  | ethereum swap | arbitrum swap =>
    obtain ⟨value, hvalue, hquantity⟩ := h.value
    exact ⟨⟨value, hfield (by decide) hvalue, hquantity⟩, hfield (by decide) h.recipient,
      hfield (by decide) h.calldata, h.sourceToken.congr (hfield (by decide) rfl), trivial⟩
  | solana swap =>
    obtain ⟨items, hitems, haccounts⟩ := h.accounts
    exact ⟨hfield (by decide) h.programId, hfield (by decide) h.data, items,
      hfield (by decide) hitems, haccounts⟩

theorem Tag.decode_ok {j : Json} {tag : Tag} : Tag.decode j = .ok tag ↔ j = .str tag.chain.name := by
  have hinj : ∀ a ∈ Tag.all, ∀ b ∈ Tag.all, a.chain.name = b.chain.name → a = b := by decide
  have hall : tag ∈ Tag.all := by cases tag <;> decide
  cases j with
  | str s =>
    show variant Tag.all (·.chain.name) s = .ok tag ↔ _
    rw [variant_ok hinj, Json.str.injEq, and_iff_right hall, eq_comm]
  | _ => simp [Tag.decode, whole]

theorem chain_tag (swap : VaultSwap) : swap.tag.chain = swap.chain := by
  cases swap <;> rfl

/-- The data of a tag is read as what its record is read as. -/
theorem map_ok_of_tag {δ : Type} {d : Decoder δ} {f : δ → VaultSwap} {tag : Tag} {j : Json}
    {swap : VaultSwap} (htag : ∀ swap : VaultSwap, tag = swap.tag ↔ ∃ s, f s = swap)
    (hread : ∀ s, d j = .ok s ↔ (f s).DataHeldBy (j.named (dataFields tag.chain))) :
    d.map f j = .ok swap ↔ tag = swap.tag ∧ swap.DataHeldBy (j.named (dataFields tag.chain)) := by
  rw [htag]
  show (d j).map f = .ok swap ↔ _
  rw [map_ok_iff]
  constructor
  · rintro ⟨s, hs, rfl⟩
    exact ⟨⟨s, rfl⟩, (hread s).mp hs⟩
  · rintro ⟨⟨s, rfl⟩, hdata⟩
    exact ⟨s, (hread s).mpr hdata, rfl⟩

theorem decodeAs_ok {tag : Tag} {swap : VaultSwap} {j : Json} (h : j.HasDistinctNames) :
    decodeAs tag j = .ok swap ↔
      tag = swap.tag ∧ swap.DataHeldBy (j.named (dataFields tag.chain)) := by
  cases tag with
  | bitcoin =>
    exact map_ok_of_tag (by rintro (_ | _ | _ | _) <;> simp [tag]) fun s =>
      BitcoinVaultSwap.decode_ok h
  | ethereum | arbitrum =>
    exact map_ok_of_tag (by rintro (_ | _ | _ | _) <;> simp [tag]) fun s =>
      EvmVaultSwap.decode_ok h
  | solana =>
    exact map_ok_of_tag (by rintro (_ | _ | _ | _) <;> simp [tag]) fun s =>
      SolanaVaultSwap.decode_ok h

theorem heldBy_arr_cons {swap : VaultSwap} {value : Json} {items : List Json} :
    swap.HeldBy ((arr (value :: items)).named (tagName :: dataFields swap.chain)) ↔
      value = .str swap.chain.name ∧ swap.DataHeldBy ((arr items).named (dataFields swap.chain)) := by
  rw [named_arr, named_arr, List.length_cons, List.length_cons, List.zip_cons_cons]
  by_cases hle : items.length ≤ (dataFields swap.chain).length
  · rw [if_pos hle, if_pos (Nat.succ_le_succ hle)]
    have hsame : ∀ field ≠ tagName,
        (obj ((tagName, value) :: (dataFields swap.chain).zip items)).member? field =
          (obj ((dataFields swap.chain).zip items)).member? field := fun field hne =>
      (lookup?_cons field tagName value _).trans (if_neg hne.symm)
    have htag : (obj ((tagName, value) :: (dataFields swap.chain).zip items)).member? "chain" =
        some value := (lookup?_cons "chain" tagName value _).trans (if_pos rfl)
    constructor
    · intro h
      exact ⟨Option.some.inj (htag.symm.trans h.chain), h.data.congr hsame⟩
    · rintro ⟨rfl, hdata⟩
      exact ⟨htag, hdata.congr fun field hne => (hsame field hne).symm⟩
  · rw [if_neg hle, if_neg (fun h => hle (Nat.le_of_succ_le_succ h))]
    constructor
    · intro h
      cases h.chain
    · rintro ⟨-, h⟩
      obtain ⟨_, hobj⟩ := h.exists_members
      cases hobj

theorem decode_ok {swap : VaultSwap} {reply : Json} (h : reply.HasDistinctNames) :
    decode reply = .ok swap ↔
      swap.HeldBy (reply.named (tagName :: dataFields swap.chain)) := by
  cases reply with
  | obj members =>
    obtain ⟨hdistinct, hvalues⟩ := hasDistinctNames_obj.mp h
    have hrest : (obj (members.filter (·.1 ≠ tagName))).HasDistinctNames :=
      hasDistinctNames_obj.mpr ⟨hdistinct.sublist (List.filter_sublist.map _),
        fun m hm => hvalues m (List.mem_filter.mp hm).1⟩
    have hsame : ∀ field ≠ tagName, (obj (members.filter (·.1 ≠ tagName))).member? field =
        (obj members).member? field := fun field hne =>
      lookup?_filter fun _ => by simpa using hne
    rw [named_obj]
    cases htag : lookup? tagName members with
    | none =>
      simp only [decode, whole, htag, reduceCtorEq, false_iff]
      intro hheld
      cases htag.symm.trans hheld.chain
    | some value =>
      simp only [decode, whole, htag, bind_ok_iff, Tag.decode_ok, decodeAs_ok hrest, named_obj]
      constructor
      · rintro ⟨_, rfl, rfl, hdata⟩
        exact ⟨htag.trans (by rw [chain_tag]), hdata.congr hsame⟩
      · intro hheld
        have hvalue : value = .str swap.tag.chain.name := by
          rw [chain_tag]
          exact Option.some.inj (htag.symm.trans hheld.chain)
        exact ⟨swap.tag, hvalue, rfl, hheld.data.congr fun field hne => (hsame field hne).symm⟩
  | arr items =>
    cases items with
    | nil =>
      simp only [decode, whole, reduceCtorEq, false_iff]
      intro hheld
      cases hheld.chain
    | cons value items =>
      have hrest : (arr items).HasDistinctNames :=
        hasDistinctNames_arr.mpr (List.forall_mem_cons.mp (hasDistinctNames_arr.mp h)).2
      simp only [decode, whole, bind_ok_iff, Tag.decode_ok, decodeAs_ok hrest, heldBy_arr_cons]
      constructor
      · rintro ⟨_, hvalue, rfl, hdata⟩
        exact ⟨chain_tag swap ▸ hvalue, chain_tag swap ▸ hdata⟩
      · rintro ⟨hvalue, hdata⟩
        exact ⟨swap.tag, (chain_tag swap).symm ▸ hvalue, rfl, (chain_tag swap).symm ▸ hdata⟩
  | _ =>
    simp only [decode, whole, reduceCtorEq, false_iff]
    intro hheld
    cases hheld.chain

end VaultSwap

end

-- ---------------------------------------------------------------------------
-- What is accepted
-- ---------------------------------------------------------------------------

/-- What a value is accepted as, at each layer, the object that it is or stands for has as its
members. No other values are accepted; so an object is accepted by the names of its members only, and
an array by the places of its items only. -/
theorem accepted_by_name_or_place (network : Network) (chain : Chain) (j : Json)
    (h : j.HasDistinctNames) :
    (∀ r, JsonRpc.result j = .ok r ↔
      ∃ reply, JsonRpc.IsReplyOf j reply ∧
        JsonRpc.CarriesResult (reply.named ["result", "error"]) r) ∧
    (∀ commission boost c, DepositChannel.ofReply network chain commission boost j = .ok c ↔
      c.opened.SpelledIn (j.named OpenedChannel.fields) ∧
        chain.checkAddress network c.opened.address = .ok () ∧
        c.srcChain = chain ∧ c.commission = commission ∧ c.maxBoostFee = boost) ∧
    ∀ swap, VaultSwap.ofReply network chain j = .ok swap ↔
      swap.HeldBy (j.named ("chain" :: VaultSwap.dataFields chain)) ∧ swap.chain = chain ∧
        swap.Valid network := by
  refine ⟨fun r => ?_, fun commission boost c => ?_, fun swap => ?_⟩
  · rw [JsonRpc.result_ok]
    refine exists_congr fun reply => and_congr_right fun hreply => JsonRpc.Reply.decode_ok ?_
    rcases hreply with rfl | ⟨rfl, -⟩
    · exact hasDistinctNames_arr.mp h reply (List.mem_singleton.mpr rfl)
    · exact h
  · rw [DepositChannel.ofReply_ok, OpenedChannel.decode_ok h]
  · rw [VaultSwap.ofReply_ok, VaultSwap.decode_ok h]
    constructor
    · rintro ⟨hheld, rfl, hvalid⟩
      exact ⟨hheld, rfl, hvalid⟩
    · rintro ⟨hheld, rfl, hvalid⟩
      exact ⟨hheld, rfl, hvalid⟩

def placedSwapReply : Json :=
  .arr [
    .str "Solana",
    .str "3yKDHJgzS2GbZB9qruoadRYtq8597HZifnRju7fHpdRC",
    .str "0x00ff",
    .arr [.arr [.str "oQPnhXAbLbMuKHESaGrbXT17CyvWCpLyERSJA9HCYd7", .bool false, .bool true]]]

def placedSwap : VaultSwap :=
  .solana {
    programId := "3yKDHJgzS2GbZB9qruoadRYtq8597HZifnRju7fHpdRC"
    data := "0x00ff"
    accounts := [⟨"oQPnhXAbLbMuKHESaGrbXT17CyvWCpLyERSJA9HCYd7", false, true⟩] }

theorem accepted_by_name_or_place_placedSwap :
    placedSwapReply.HasDistinctNames ∧
      VaultSwap.ofReply .mainnet .solana placedSwapReply = .ok placedSwap := by
  have hnames : placedSwapReply.HasDistinctNames :=
    ⟨trivial, trivial, trivial, ⟨⟨trivial, trivial, trivial, trivial⟩, trivial⟩, trivial⟩
  have hheld : placedSwap.HeldBy (placedSwapReply.named ("chain" :: VaultSwap.dataFields .solana)) :=
    ⟨rfl, rfl, rfl, _, rfl, .cons ⟨rfl, rfl, rfl, trivial⟩ .nil⟩
  have hvalid : placedSwap.Valid .mainnet := by
    refine ⟨⟨2, "00ff".toList, rfl, rfl, List.all_eq_true.mp rfl⟩, by decide +kernel, ?_⟩
    simp only [List.forall_mem_cons, List.not_mem_nil, false_implies, implies_true, and_true]
    decide +kernel
  obtain ⟨-, -, hswap⟩ := accepted_by_name_or_place .mainnet .solana placedSwapReply hnames
  exact ⟨hnames, (hswap placedSwap).mpr ⟨hheld, rfl, hvalid⟩⟩

/-- A batch in a batch passes for a reply whose result is what the inner batch holds, and the places
of the items of arrays tell what is taken for an address or a block. -/
theorem arrays_accepted_as_replies :
    JsonRpc.result (.arr [.arr [.obj [("result", .str "0x00")]]]) =
        .ok (.obj [("result", .str "0x00")]) ∧
      DepositChannel.ofReply .sisyphos .ethereum 15 30
          (.arr [.str "0x02679b10f7b94fc4f273569cc2e5c49eefa5c0f1", .int 1, .int 2, .int 3, .int 4]) =
        .ok {
          opened := ⟨"0x02679b10f7b94fc4f273569cc2e5c49eefa5c0f1", 1, 2, ⟨3, by decide⟩,
            ⟨4, by decide⟩⟩
          srcChain := .ethereum
          commission := 15
          maxBoostFee := 30 } ∧
      VaultSwap.ofReply .mainnet .ethereum
          (.arr [.str "Ethereum", .int 1, .str "0x02679b10f7b94fc4f273569cc2e5c49eefa5c0f1",
            .str "0x"]) =
        .ok (.ethereum ⟨⟨1, by decide⟩, "0x02679b10f7b94fc4f273569cc2e5c49eefa5c0f1", "0x", none⟩) :=
  ⟨rfl, rfl, rfl⟩

end SwapBroker
