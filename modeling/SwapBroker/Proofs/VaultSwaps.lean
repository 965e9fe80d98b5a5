import SwapBroker.Client
import SwapBroker.Proofs.Parts
import SwapBroker.Proofs.RecordForms
import SwapBroker.Reply.VaultSwap

/-!
# Vault swaps in replies

A vault swap is spelled in two ways: as the broker writes it and as it is printed for the caller. One
relation, `VaultSwap.SpelledIn`, says of a JSON value that it spells a swap in a given way. What the
broker spells for the source chain, with valid addresses, is read as that swap, and nothing that is
read is meant for another chain or names an address that is not valid there.
-/

namespace SwapBroker

open Json Outcome Record Decoder

-- ---------------------------------------------------------------------------
-- Spellings
-- ---------------------------------------------------------------------------

namespace Text

/-- A letter that follows an underscore is made capital, and the underscore goes. -/
def camelChars : List Char → List Char
  | '_' :: c :: rest => c.toUpper :: camelChars rest
  | c :: rest => c :: camelChars rest
  | [] => []

def camelCase (name : String) : String :=
  String.ofList (camelChars name.toList)

end Text

/-- How swaps are spelled: what fields are called, how quantities are written, what stands for an
absent field, and which members an object may have besides. -/
structure Spelling where
  name : String → String
  quantity : Quantity → Json → Prop
  absent : Option Json → Prop
  others : (fields : List String) → Json → Prop

namespace Spelling

def wire : Spelling where
  name := id
  quantity := Quantity.WrittenAs
  absent j := j = none ∨ j = some .null
  others _ _ := True

def printed : Spelling where
  name := Text.camelCase
  quantity q j := j = .str q.toHex
  absent j := j = none
  others fields j := ∀ name, (j.member? name).isSome → name ∈ fields.map Text.camelCase

def member? (sp : Spelling) (field : String) (j : Json) : Option Json :=
  j.member? (sp.name field)

def Optional (sp : Spelling) (field : String) (j : Json) : Option String → Prop
  | some s => sp.member? field j = some (.str s)
  | none => sp.absent (sp.member? field j)

theorem Optional.congr {sp : Spelling} {field : String} {i j : Json} {s : Option String}
    (hsame : sp.member? field i = sp.member? field j) (h : sp.Optional field j s) :
    sp.Optional field i s := by
  cases s with
  | none => exact (congrArg sp.absent hsame).mpr h
  | some s => exact hsame.trans h

end Spelling

structure BitcoinVaultSwap.SpelledIn (sp : Spelling) (swap : BitcoinVaultSwap) (j : Json) :
    Prop where
  payload : sp.member? "nulldata_payload" j = some (.str swap.payload)
  depositAddress : sp.member? "deposit_address" j = some (.str swap.depositAddress)
  others : sp.others ["chain", "nulldata_payload", "deposit_address"] j

structure EvmVaultSwap.SpelledIn (sp : Spelling) (swap : EvmVaultSwap) (j : Json) : Prop where
  value : ∃ v, sp.member? "value" j = some v ∧ sp.quantity swap.value v
  recipient : sp.member? "to" j = some (.str swap.recipient)
  calldata : sp.member? "calldata" j = some (.str swap.calldata)
  sourceToken : sp.Optional "source_token_address" j swap.sourceToken
  others : sp.others ["chain", "value", "to", "calldata", "source_token_address"] j

structure SolanaAccount.SpelledIn (sp : Spelling) (a : SolanaAccount) (j : Json) : Prop where
  pubkey : sp.member? "pubkey" j = some (.str a.pubkey)
  isSigner : sp.member? "is_signer" j = some (.bool a.isSigner)
  isWritable : sp.member? "is_writable" j = some (.bool a.isWritable)
  others : sp.others ["pubkey", "is_signer", "is_writable"] j

structure SolanaVaultSwap.SpelledIn (sp : Spelling) (swap : SolanaVaultSwap) (j : Json) : Prop where
  programId : sp.member? "program_id" j = some (.str swap.programId)
  data : sp.member? "data" j = some (.str swap.data)
  accounts : ∃ items, sp.member? "accounts" j = some (.arr items) ∧
    List.Forall₂ (fun item a => SolanaAccount.SpelledIn sp a item) items swap.accounts
  others : sp.others ["chain", "program_id", "data", "accounts"] j

namespace VaultSwap

def DataSpelledIn (sp : Spelling) : VaultSwap → Json → Prop
  | .bitcoin swap => swap.SpelledIn sp
  | .ethereum swap | .arbitrum swap => swap.SpelledIn sp
  | .solana swap => swap.SpelledIn sp

structure SpelledIn (sp : Spelling) (swap : VaultSwap) (j : Json) : Prop where
  chain : sp.member? "chain" j = some (.str swap.chain.name)
  data : swap.DataSpelledIn sp j

-- ---------------------------------------------------------------------------
-- Valid swaps
-- ---------------------------------------------------------------------------

def IsHex (s : String) : Prop :=
  ∃ size, Bytes.IsHexOf s size

structure ValidEvm (network : Network) (chain : Chain) (swap : EvmVaultSwap) : Prop where
  calldata : IsHex swap.calldata
  recipient : chain.checkAddress network swap.recipient = .ok ()
  sourceToken : ∀ token ∈ swap.sourceToken, chain.checkAddress network token = .ok ()

/-- The payload is hex, and every address is valid on the chain. -/
def Valid (network : Network) : VaultSwap → Prop
  | .bitcoin swap =>
    IsHex swap.payload ∧ Chain.bitcoin.checkAddress network swap.depositAddress = .ok ()
  | .ethereum swap => ValidEvm network .ethereum swap
  | .arbitrum swap => ValidEvm network .arbitrum swap
  | .solana swap =>
    IsHex swap.data ∧ Chain.solana.checkAddress network swap.programId = .ok () ∧
      ∀ a ∈ swap.accounts, Chain.solana.checkAddress network a.pubkey = .ok ()

theorem checkHex_ok {field value : String} : Reply.checkHex field value = .ok () ↔ IsHex value := by
  rw [IsHex, ← Bytes.isHexText_iff]
  cases h : Bytes.isHexText value <;> simp [Reply.checkHex, h]

theorem checkAddress_ok {network : Network} {chain : Chain} {field address : String} :
    Reply.checkAddress network chain field address = .ok () ↔
      chain.checkAddress network address = .ok () :=
  mapError_ok_iff

theorem checkAccounts_ok {network : Network} {accounts : List SolanaAccount} :
    checkAccounts network accounts = .ok () ↔
      ∀ a ∈ accounts, Chain.solana.checkAddress network a.pubkey = .ok () := by
  induction accounts with
  | nil => simp [checkAccounts]
  | cons a rest ih =>
    simp only [checkAccounts, bind_ok_iff, exists_check_ok_iff, checkAddress_ok, ih,
      List.forall_mem_cons]

theorem checkEvm_ok {network : Network} {chain : Chain} {swap : EvmVaultSwap} :
    checkEvm network chain swap = .ok () ↔ ValidEvm network chain swap := by
  have htoken : (match swap.sourceToken with
      | some token => Reply.checkAddress network chain "source_token_address" token
      | none => pure ()) = .ok () ↔
        ∀ token ∈ swap.sourceToken, chain.checkAddress network token = .ok () := by
    cases swap.sourceToken with
    | none => simp [pure, Except.pure]
    | some token => simp [checkAddress_ok]
  simp only [checkEvm, bind_ok_iff, exists_check_ok_iff, checkHex_ok, checkAddress_ok]
  constructor
  · rintro ⟨hdata, hto, htok⟩
    exact ⟨hdata, hto, htoken.mp htok⟩
  · rintro ⟨hdata, hto, htok⟩
    exact ⟨hdata, hto, htoken.mpr htok⟩

theorem check_ok {network : Network} {swap : VaultSwap} :
    check network swap = .ok () ↔ swap.Valid network := by
  cases swap with
  | bitcoin swap =>
    simp only [check, Valid, bind_ok_iff, exists_check_ok_iff, checkHex_ok, checkAddress_ok]
  | ethereum swap => exact checkEvm_ok
  | arbitrum swap => exact checkEvm_ok
  | solana swap =>
    simp only [check, Valid, bind_ok_iff, exists_check_ok_iff, checkHex_ok, checkAddress_ok,
      checkAccounts_ok]

theorem ofReply_ok {network : Network} {chain : Chain} {reply : Json} {swap : VaultSwap} :
    ofReply network chain reply = .ok swap ↔
      decode reply = .ok swap ∧ swap.chain = chain ∧ swap.Valid network := by
  simp only [ofReply, bind_ok_iff, mapError_ok_iff, guard_bind_ok_iff, exists_check_ok_iff,
    check_ok, pure_ok_iff]
  constructor
  · rintro ⟨_, hdecode, hchain, hvalid, rfl⟩
    exact ⟨hdecode, not_not.mp hchain, hvalid⟩
  · rintro ⟨hdecode, hchain, hvalid⟩
    exact ⟨swap, hdecode, not_not.mpr hchain, hvalid, rfl⟩

end VaultSwap

-- ---------------------------------------------------------------------------
-- Reading
-- ---------------------------------------------------------------------------

section

variable {members : Members}

theorem Spelling.optional_wire {field : String} {s : Option String} :
    (optional field text).build members = .ok s ↔ Spelling.wire.Optional field (.obj members) s := by
  cases s with
  | none => exact build_optional_none
  | some s =>
    rw [build_optional_some]
    simp only [text_ok]
    constructor
    · rintro ⟨_, hvalue, -, rfl⟩
      exact hvalue
    · intro hvalue
      exact ⟨_, hvalue, Json.noConfusion, rfl⟩

theorem BitcoinVaultSwap.record_regular : record.Regular :=
  ((regular_field _ _ _).map _).seq (regular_field _ _ _)

theorem BitcoinVaultSwap.build_ok {swap : BitcoinVaultSwap} :
    record.build members = .ok swap ↔ swap.SpelledIn .wire (.obj members) := by
  simp only [record, build_seq_ok, build_map_ok, build_required_ok, text_ok]
  constructor
  · rintro ⟨_, ⟨_, ⟨_, hpayload, rfl⟩, rfl⟩, _, ⟨_, haddress, rfl⟩, rfl⟩
    exact ⟨hpayload, haddress, trivial⟩
  · rintro ⟨hpayload, haddress, -⟩
    exact ⟨_, ⟨_, ⟨_, hpayload, rfl⟩, rfl⟩, _, ⟨_, haddress, rfl⟩, rfl⟩

theorem EvmVaultSwap.record_regular : record.Regular :=
  ((((regular_field _ _ _).map _).seq (regular_field _ _ _)).seq (regular_field _ _ _)).seq
    (regular_field _ _ _)

theorem EvmVaultSwap.build_ok {swap : EvmVaultSwap} :
    record.build members = .ok swap ↔ swap.SpelledIn .wire (.obj members) := by
  simp only [record, build_seq_ok, build_map_ok, build_required_ok, text_ok, quantity_ok,
    Spelling.optional_wire]
  constructor
  · rintro ⟨_, ⟨_, ⟨_, ⟨_, hvalue, rfl⟩, _, ⟨_, hrecipient, rfl⟩, rfl⟩, _, ⟨_, hcalldata, rfl⟩, rfl⟩,
      _, htoken, rfl⟩
    exact ⟨hvalue, hrecipient, hcalldata, htoken, trivial⟩
  · rintro ⟨hvalue, hrecipient, hcalldata, htoken, -⟩
    exact ⟨_, ⟨_, ⟨_, ⟨_, hvalue, rfl⟩, _, ⟨_, hrecipient, rfl⟩, rfl⟩, _, ⟨_, hcalldata, rfl⟩, rfl⟩,
      _, htoken, rfl⟩

theorem SolanaAccount.record_regular : record.Regular :=
  (((regular_field _ _ _).map _).seq (regular_field _ _ _)).seq (regular_field _ _ _)

theorem SolanaAccount.build_ok {a : SolanaAccount} :
    record.build members = .ok a ↔ a.SpelledIn .wire (.obj members) := by
  simp only [record, build_seq_ok, build_map_ok, build_required_ok, text_ok, boolean_ok]
  constructor
  · rintro ⟨_, ⟨_, ⟨_, ⟨_, hpubkey, rfl⟩, rfl⟩, _, ⟨_, hsigner, rfl⟩, rfl⟩, _, ⟨_, hwritable, rfl⟩,
      rfl⟩
    exact ⟨hpubkey, hsigner, hwritable, trivial⟩
  · rintro ⟨hpubkey, hsigner, hwritable, -⟩
    exact ⟨_, ⟨_, ⟨_, ⟨_, hpubkey, rfl⟩, rfl⟩, _, ⟨_, hsigner, rfl⟩, rfl⟩, _, ⟨_, hwritable, rfl⟩,
      rfl⟩

theorem SolanaVaultSwap.record_regular : record.Regular :=
  (((regular_field _ _ _).map _).seq (regular_field _ _ _)).seq (regular_field _ _ _)

theorem SolanaAccount.decode_of_spelledIn {a : SolanaAccount} {j : Json}
    (hnames : j.HasDistinctNames) (h : a.SpelledIn .wire j) : decode j = .ok a := by
  cases j with
  | obj members =>
    exact (decode_obj_ok record_regular.lawful (hasDistinctNames_obj.mp hnames).1).mpr
      (build_ok.mpr h)
  | _ => exact nomatch h.pubkey

theorem SolanaAccount.decode_all_of_spelledIn {items : List Json} {accounts : List SolanaAccount}
    (hnames : ∀ item ∈ items, item.HasDistinctNames)
    (h : List.Forall₂ (fun item a => SolanaAccount.SpelledIn .wire a item) items accounts) :
    List.Forall₂ (fun item a => decode item = .ok a) items accounts := by
  induction h with
  | nil => exact .nil
  | cons ha _ ih =>
    obtain ⟨hitem, hrest⟩ := List.forall_mem_cons.mp hnames
    exact .cons (decode_of_spelledIn hitem ha) (ih hrest)

theorem SolanaVaultSwap.build_of_spelledIn {swap : SolanaVaultSwap}
    (hnames : (obj members).HasDistinctNames) (h : swap.SpelledIn .wire (.obj members)) :
    record.build members = .ok swap := by
  obtain ⟨items, hitems, haccounts⟩ := h.accounts
  have hdistinct : ∀ item ∈ items, item.HasDistinctNames :=
    hasDistinctNames_arr.mp ((hasDistinctNames_obj.mp hnames).2 _ (mem_of_lookup? hitems))
  have hdecoded := SolanaAccount.decode_all_of_spelledIn hdistinct haccounts
  simp only [record, build_seq_ok, build_map_ok, build_required_ok, text_ok, list_ok]
  exact ⟨_, ⟨_, ⟨_, ⟨_, h.programId, rfl⟩, rfl⟩, _, ⟨_, h.data, rfl⟩, rfl⟩, _,
    ⟨_, hitems, items, rfl, hdecoded⟩, rfl⟩

namespace VaultSwap

def tag : VaultSwap → Tag
  | .bitcoin _ => .bitcoin
  | .ethereum _ => .ethereum
  | .arbitrum _ => .arbitrum
  | .solana _ => .solana

theorem Tag.decode_name (swap : VaultSwap) :
    Tag.decode (.str swap.chain.name) = .ok swap.tag := by
  cases swap <;> rfl

theorem decodeAs_of_spelledIn {swap : VaultSwap} (hnames : (obj members).HasDistinctNames)
    (h : swap.DataSpelledIn .wire (.obj members)) :
    decodeAs swap.tag (.obj members) = .ok swap := by
  have hdistinct := (hasDistinctNames_obj.mp hnames).1
  cases swap with
  | bitcoin swap =>
    have hbuild := BitcoinVaultSwap.build_ok.mpr h
    exact map_ok_iff.mpr ⟨swap,
      (decode_obj_ok BitcoinVaultSwap.record_regular.lawful hdistinct).mpr hbuild, rfl⟩
  | ethereum swap | arbitrum swap =>
    have hbuild := EvmVaultSwap.build_ok.mpr h
    exact map_ok_iff.mpr ⟨swap,
      (decode_obj_ok EvmVaultSwap.record_regular.lawful hdistinct).mpr hbuild, rfl⟩
  | solana swap =>
    have hbuild := SolanaVaultSwap.build_of_spelledIn hnames h
    exact map_ok_iff.mpr ⟨swap,
      (decode_obj_ok SolanaVaultSwap.record_regular.lawful hdistinct).mpr hbuild, rfl⟩

theorem DataSpelledIn.without_tag {swap : VaultSwap}
    (h : swap.DataSpelledIn .wire (.obj members)) :
    swap.DataSpelledIn .wire (.obj (members.filter (·.1 ≠ tagName))) := by
  have hsame : ∀ field ≠ tagName,
      Spelling.wire.member? field (.obj (members.filter (·.1 ≠ tagName))) =
        Spelling.wire.member? field (.obj members) :=
    fun field hne => show lookup? field _ = lookup? field _ from
      lookup?_filter fun _ => by simpa using hne
  cases swap with
  | bitcoin swap =>
    exact ⟨(hsame _ (by decide)).trans h.payload, (hsame _ (by decide)).trans h.depositAddress,
      trivial⟩
  | ethereum swap | arbitrum swap =>
    obtain ⟨v, hv, hquantity⟩ := h.value
    exact ⟨⟨v, (hsame _ (by decide)).trans hv, hquantity⟩, (hsame _ (by decide)).trans h.recipient,
      (hsame _ (by decide)).trans h.calldata, h.sourceToken.congr (hsame _ (by decide)), trivial⟩
  | solana swap =>
    obtain ⟨items, hitems, haccounts⟩ := h.accounts
    exact ⟨(hsame _ (by decide)).trans h.programId, (hsame _ (by decide)).trans h.data,
      ⟨items, (hsame _ (by decide)).trans hitems, haccounts⟩, trivial⟩

theorem decode_of_spelledIn {swap : VaultSwap} {reply : Json} (hnames : reply.HasDistinctNames)
    (h : swap.SpelledIn .wire reply) : decode reply = .ok swap := by
  cases reply with
  | obj members =>
    obtain ⟨hdistinct, hvalues⟩ := hasDistinctNames_obj.mp hnames
    have hrest : (obj (members.filter (·.1 ≠ tagName))).HasDistinctNames := by
      refine hasDistinctNames_obj.mpr ⟨?_, fun m hm => hvalues m (List.mem_filter.mp hm).1⟩
      exact hdistinct.sublist (List.filter_sublist.map _)
    have htag : lookup? tagName members = some (.str swap.chain.name) := h.chain
    simp only [decode, whole, htag]
    exact bind_ok_iff.mpr ⟨swap.tag, Tag.decode_name swap, decodeAs_of_spelledIn hrest
      h.data.without_tag⟩
  | _ =>
    have hchain := h.chain
    cases hchain

end VaultSwap

end

-- ---------------------------------------------------------------------------
-- Printing
-- ---------------------------------------------------------------------------

namespace Json

theorem mem_names_of_member?_ofPresent {name : String} {members : List (String × Option Json)}
    (h : ((ofPresent members).member? name).isSome) : name ∈ members.map Prod.fst := by
  obtain ⟨value, hvalue⟩ := Option.isSome_iff_exists.mp h
  rw [member?_ofPresent] at hvalue
  have hmem := List.mem_reverse.mp (mem_of_lookup? hvalue)
  obtain ⟨⟨other, v⟩, hm, hv⟩ := List.mem_filterMap.mp hmem
  obtain ⟨_, -, hpair⟩ := Option.map_eq_some_iff.mp hv
  cases hpair
  exact List.mem_map_of_mem hm

theorem mem_names_of_member?_ofMembers {name : String} {members : Members}
    (h : ((ofMembers members).member? name).isSome) : name ∈ members.map Prod.fst := by
  obtain ⟨value, hvalue⟩ := Option.isSome_iff_exists.mp h
  rw [member?_ofMembers] at hvalue
  exact List.mem_map_of_mem (List.mem_reverse.mp (mem_of_lookup? hvalue))

end Json

theorem SolanaAccount.printed (a : SolanaAccount) :
    a.SpelledIn .printed (VaultSwap.accountToJson a) where
  pubkey := rfl
  isSigner := rfl
  isWritable := rfl
  others := fun _ => mem_names_of_member?_ofMembers

theorem SolanaAccount.printed_all (accounts : List SolanaAccount) :
    List.Forall₂ (fun item a => SolanaAccount.SpelledIn .printed a item)
      (accounts.map VaultSwap.accountToJson) accounts := by
  induction accounts with
  | nil => exact .nil
  | cons a rest ih => exact .cons a.printed ih

namespace VaultSwap

theorem dataPrinted (swap : VaultSwap) : swap.DataSpelledIn .printed swap.toJson := by
  cases swap with
  | bitcoin swap => exact ⟨rfl, rfl, fun _ => mem_names_of_member?_ofPresent⟩
  | ethereum swap | arbitrum swap =>
    refine ⟨⟨_, ?_, rfl⟩, ?_, ?_, ?_, fun _ => mem_names_of_member?_ofPresent⟩
    all_goals
      obtain ⟨value, recipient, calldata, sourceToken⟩ := swap
      cases sourceToken <;> rfl
  | solana swap =>
    exact ⟨rfl, rfl, ⟨_, rfl, SolanaAccount.printed_all swap.accounts⟩,
      fun _ => mem_names_of_member?_ofPresent⟩

theorem chainPrinted (swap : VaultSwap) :
    Spelling.printed.member? "chain" swap.toJson = some (.str swap.chain.name) := by
  cases swap with
  | bitcoin swap => rfl
  | ethereum swap | arbitrum swap =>
    obtain ⟨value, recipient, calldata, sourceToken⟩ := swap
    cases sourceToken <;> rfl
  | solana swap => rfl

/-- What is read is meant for the source chain and valid there, what the broker spells so is read,
and it is printed with the same members under their other names. Nothing but the reply is blamed
when it is not read. -/
theorem ofReply_reads_spelled (network : Network) (chain : Chain) (reply : Json) (swap : VaultSwap) :
    (ofReply network chain reply = .ok swap →
      (swap.chain = chain ∧ chain ≠ .polkadot ∧ chain ≠ .assethub) ∧ swap.Valid network) ∧
    (reply.HasDistinctNames → swap.SpelledIn .wire reply → swap.chain = chain →
      swap.Valid network → ofReply network chain reply = .ok swap) ∧
    swap.SpelledIn .printed swap.toJson ∧
    ∀ account r e, r.src.chain = chain →
      (Client.mk network account).readReply (.parameterEncoding r) (.ok reply) = .error e →
      ∃ fault, e = .malformed fault ∧ ofReply network chain reply = .error fault := by
  refine ⟨fun h => ?_, fun hnames hspelled hchain hvalid => ?_, ⟨chainPrinted swap, dataPrinted swap⟩,
    ?_⟩
  · obtain ⟨-, rfl, hvalid⟩ := ofReply_ok.mp h
    refine ⟨⟨rfl, ?_⟩, hvalid⟩
    cases swap <;> simp [VaultSwap.chain]
  · exact ofReply_ok.mpr ⟨decode_of_spelledIn hnames hspelled, hchain, hvalid⟩
  · rintro account r e rfl h
    obtain ⟨fault, hread, rfl⟩ := mapError_error_iff.mp h
    exact ⟨fault, rfl, map_error_iff.mp hread⟩

def twoAccounts : VaultSwap :=
  .solana {
    programId := "3yKDHJgzS2GbZB9qruoadRYtq8597HZifnRju7fHpdRC"
    data := "0x00ff"
    accounts := [⟨"3yKDHJgzS2GbZB9qruoadRYtq8597HZifnRju7fHpdRC", true, false⟩,
      ⟨"oQPnhXAbLbMuKHESaGrbXT17CyvWCpLyERSJA9HCYd7", false, true⟩] }

def twoAccountsReply : Json :=
  sorted <| .obj [
    ("chain", .str "Solana"),
    ("age", .int 7),
    ("program_id", .str "3yKDHJgzS2GbZB9qruoadRYtq8597HZifnRju7fHpdRC"),
    ("data", .str "0x00ff"),
    ("accounts", .arr [
      .obj [("pubkey", .str "3yKDHJgzS2GbZB9qruoadRYtq8597HZifnRju7fHpdRC"),
        ("is_signer", .bool true), ("is_writable", .bool false)],
      .obj [("pubkey", .str "oQPnhXAbLbMuKHESaGrbXT17CyvWCpLyERSJA9HCYd7"),
        ("is_signer", .bool false), ("is_writable", .bool true), ("age", .null)]])]

theorem ofReply_reads_spelled_twoAccounts :
    twoAccountsReply.HasDistinctNames ∧ twoAccounts.SpelledIn .wire twoAccountsReply ∧
      twoAccounts.Valid .mainnet ∧
      ofReply .mainnet .solana twoAccountsReply = .ok twoAccounts ∧
      twoAccounts.SpelledIn .printed twoAccounts.toJson := by
  have hnames : twoAccountsReply.HasDistinctNames := hasDistinctNames_sorted _
  have hspelled : twoAccounts.SpelledIn .wire twoAccountsReply :=
    ⟨rfl, rfl, rfl, ⟨_, rfl, .cons ⟨rfl, rfl, rfl, trivial⟩ (.cons ⟨rfl, rfl, rfl, trivial⟩ .nil)⟩,
      trivial⟩
  have hvalid : twoAccounts.Valid .mainnet := by
    refine ⟨⟨2, "00ff".toList, rfl, rfl, List.all_eq_true.mp rfl⟩, by decide +kernel, ?_⟩
    simp only [List.forall_mem_cons, List.not_mem_nil, false_implies, implies_true, and_true]
    exact ⟨by decide +kernel, by decide +kernel⟩
  obtain ⟨-, hreads, hprinted, -⟩ :=
    ofReply_reads_spelled .mainnet .solana twoAccountsReply twoAccounts
  exact ⟨hnames, hspelled, hvalid, hreads hnames hspelled rfl hvalid, hprinted⟩

end VaultSwap

end SwapBroker
