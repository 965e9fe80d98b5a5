import SwapBroker.Proofs.MemberAdditions
import SwapBroker.Proofs.QuantityTexts
import SwapBroker.Proofs.ReplyForms

/-!
# Deposit channels out of replies

A deposit channel is read from an object that has an address of the source chain and four numbers.
How a number of the reply is spelled leaves no trace in the channel, which is printed with the one
canonical text of it.
-/

namespace SwapBroker

open Json Outcome Record Decoder

-- ---------------------------------------------------------------------------
-- Numbers
-- ---------------------------------------------------------------------------

def Json.IsUInt64 (value : Json) : Prop :=
  ∃ n : ℕ, n < 2 ^ 64 ∧ value = .int n

def Json.SpellsQuantity (value : Json) : Prop :=
  value.IsUInt64 ∨ ∃ s q, value = .str s ∧ Quantity.ofText s = .ok q

namespace Quantity

theorem writtenAs_iff {q : Quantity} {value : Json} :
    q.WrittenAs value ↔
      q.toNat < 2 ^ 64 ∧ value = .int q.toNat ∨ ∃ s, value = .str s ∧ Denotes s q.toNat := by
  constructor
  · rintro (h | ⟨s, h⟩)
    · exact .inl ⟨h, rfl⟩
    · exact .inr ⟨s, rfl, ofText_ok.mp h⟩
  · rintro (⟨h, rfl⟩ | ⟨s, rfl, h⟩)
    · exact .integer h
    · exact .numeral s (ofText_ok.mpr h)

theorem exists_writtenAs_iff {value : Json} :
    (∃ q : Quantity, q.WrittenAs value) ↔ value.SpellsQuantity := by
  constructor
  · rintro ⟨q, h | ⟨s, h⟩⟩
    · exact .inl ⟨q.toNat, h, rfl⟩
    · exact .inr ⟨s, q, rfl, h⟩
  · rintro (⟨n, hn, rfl⟩ | ⟨s, q, rfl, h⟩)
    · have hlimit : n < quantityLimit := Nat.lt_trans hn (by decide)
      exact ⟨⟨n, hlimit⟩, .integer (q := ⟨n, hlimit⟩) hn⟩
    · exact ⟨q, .numeral s h⟩

theorem WrittenAs.unique {p q : Quantity} {value : Json} (hp : p.WrittenAs value)
    (hq : q.WrittenAs value) : p = q :=
  Except.ok.inj ((quantity_of_writtenAs hp).symm.trans (quantity_of_writtenAs hq))

end Quantity

theorem Json.isUInt64_iff {value : Json} : value.IsUInt64 ↔ ∃ n : UInt64, value = .int n.toNat := by
  constructor
  · rintro ⟨n, hn, rfl⟩
    exact ⟨UInt64.ofNat n, by rw [UInt64.toNat_ofNat_of_lt' hn]⟩
  · rintro ⟨n, rfl⟩
    exact ⟨n.toNat, n.toNat_lt, rfl⟩

-- ---------------------------------------------------------------------------
-- What is read
-- ---------------------------------------------------------------------------

namespace OpenedChannel

def shape : List (String × Bool × Shape) :=
  fields.map fun name => (name, false, .whole)

theorem record_follows : record.Follows shape :=
  (((((follows_required _ (respects_whole _)).map _).seq (follows_required _ (respects_whole _))).seq
    (follows_required _ (respects_whole _))).seq (follows_required _ (respects_whole _))).seq
    (follows_required _ (respects_whole _))

theorem decode_unknown {before after : Members} {name : String} (value : Json)
    (hname : name ∉ fields) :
    decode (.obj (before ++ (name, value) :: after)) = decode (.obj (before ++ after)) := by
  have hunknown : name ∉ shape.map Prod.fst := by simpa [shape] using hname
  exact record_follows.respects (by decide) _ _ (.unknown hunknown)

end OpenedChannel

namespace DepositChannel

variable {network : Network} {chain : Chain} {commission boost : UInt16} {members : Members}

structure Opens (network : Network) (chain : Chain) (reply : Json) : Prop where
  address : ∃ a, reply.member? "address" = some (.str a) ∧ chain.checkAddress network a = .ok ()
  issuedBlock : ∃ value, reply.member? "issued_block" = some value ∧ value.IsUInt64
  channelId : ∃ value, reply.member? "channel_id" = some value ∧ value.IsUInt64
  expiryBlock : ∃ value, reply.member? "source_chain_expiry_block" = some value ∧
    value.SpellsQuantity
  openingFee : ∃ value, reply.member? "channel_opening_fee" = some value ∧ value.SpellsQuantity

theorem ofReply_obj_ok (h : (obj members).HasDistinctNames) {c : DepositChannel} :
    ofReply network chain commission boost (.obj members) = .ok c ↔
      c.opened.SpelledIn (.obj members) ∧ chain.checkAddress network c.opened.address = .ok () ∧
        c.srcChain = chain ∧ c.commission = commission ∧ c.maxBoostFee = boost := by
  rw [ofReply_ok, OpenedChannel.decode_ok h, named_obj]

theorem exists_ofReply_iff (h : (obj members).HasDistinctNames) :
    (∃ c, ofReply network chain commission boost (.obj members) = .ok c) ↔
      Opens network chain (.obj members) := by
  simp only [ofReply_obj_ok h]
  constructor
  · rintro ⟨c, hspelled, haddress, -⟩
    obtain ⟨expiry, hexpiry, hexpiryWritten⟩ := hspelled.expiryBlock
    obtain ⟨fee, hfee, hfeeWritten⟩ := hspelled.openingFee
    exact ⟨⟨_, hspelled.address, haddress⟩,
      ⟨_, hspelled.issuedBlock, isUInt64_iff.mpr ⟨_, rfl⟩⟩,
      ⟨_, hspelled.channelId, isUInt64_iff.mpr ⟨_, rfl⟩⟩,
      ⟨expiry, hexpiry, Quantity.exists_writtenAs_iff.mp ⟨_, hexpiryWritten⟩⟩,
      ⟨fee, hfee, Quantity.exists_writtenAs_iff.mp ⟨_, hfeeWritten⟩⟩⟩
  · intro hopens
    obtain ⟨address, haddress, hvalid⟩ := hopens.address
    obtain ⟨_, hissued, hissuedInt⟩ := hopens.issuedBlock
    obtain ⟨issuedBlock, rfl⟩ := isUInt64_iff.mp hissuedInt
    obtain ⟨_, hid, hidInt⟩ := hopens.channelId
    obtain ⟨channelId, rfl⟩ := isUInt64_iff.mp hidInt
    obtain ⟨expiry, hexpiry, hexpirySpells⟩ := hopens.expiryBlock
    obtain ⟨expiryBlock, hexpiryWritten⟩ := Quantity.exists_writtenAs_iff.mpr hexpirySpells
    obtain ⟨fee, hfee, hfeeSpells⟩ := hopens.openingFee
    obtain ⟨openingFee, hfeeWritten⟩ := Quantity.exists_writtenAs_iff.mpr hfeeSpells
    exact ⟨⟨⟨address, issuedBlock, channelId, expiryBlock, openingFee⟩, chain, commission, boost⟩,
      ⟨haddress, hissued, hid, ⟨expiry, hexpiry, hexpiryWritten⟩, ⟨fee, hfee, hfeeWritten⟩⟩, hvalid,
      rfl, rfl, rfl⟩

theorem ofReply_unknown {before after : Members} {name : String} (value : Json)
    (hname : name ∉ OpenedChannel.fields) :
    ofReply network chain commission boost (.obj (before ++ (name, value) :: after)) =
      ofReply network chain commission boost (.obj (before ++ after)) := by
  simp only [ofReply, OpenedChannel.decode_unknown value hname]

-- ---------------------------------------------------------------------------
-- Spellings
-- ---------------------------------------------------------------------------

def SameQuantity (i j : Json) (name : String) : Prop :=
  ∃ (q : Quantity) (v w : Json), i.member? name = some v ∧ j.member? name = some w ∧
    q.WrittenAs v ∧ q.WrittenAs w

/-- Two replies differ, in the fields of a channel, only in how two quantities are written. -/
structure Respelled (i j : Json) : Prop where
  same : ∀ name ∈ ["address", "issued_block", "channel_id"], i.member? name = j.member? name
  expiryBlock : SameQuantity i j "source_chain_expiry_block"
  openingFee : SameQuantity i j "channel_opening_fee"

theorem SameQuantity.symm {i j : Json} {name : String} (h : SameQuantity i j name) :
    SameQuantity j i name := by
  obtain ⟨q, v, w, hv, hw, hqv, hqw⟩ := h
  exact ⟨q, w, v, hw, hv, hqw, hqv⟩

theorem Respelled.symm {i j : Json} (h : Respelled i j) : Respelled j i :=
  ⟨fun name hname => (h.same name hname).symm, h.expiryBlock.symm, h.openingFee.symm⟩

theorem SameQuantity.written {i j : Json} {name : String} {p : Quantity} (h : SameQuantity i j name)
    (hi : ∃ v, i.member? name = some v ∧ p.WrittenAs v) :
    ∃ w, j.member? name = some w ∧ p.WrittenAs w := by
  obtain ⟨q, v, w, hv, hw, hqv, hqw⟩ := h
  obtain ⟨v', hv', hpv⟩ := hi
  cases hv.symm.trans hv'
  exact ⟨w, hw, hpv.unique hqv ▸ hqw⟩

theorem Respelled.spelledIn {i j : Json} (h : Respelled i j) {c : OpenedChannel}
    (hc : c.SpelledIn i) : c.SpelledIn j where
  address := (h.same _ (by decide)).symm.trans hc.address
  issuedBlock := (h.same _ (by decide)).symm.trans hc.issuedBlock
  channelId := (h.same _ (by decide)).symm.trans hc.channelId
  expiryBlock := h.expiryBlock.written hc.expiryBlock
  openingFee := h.openingFee.written hc.openingFee

theorem Respelled.spelledIn_iff {i j : Json} (h : Respelled i j) {c : OpenedChannel} :
    c.SpelledIn i ↔ c.SpelledIn j :=
  ⟨h.spelledIn, h.symm.spelledIn⟩

/-- The member is the canonical text of the quantity, of which there is no other. -/
def PrintsCanonically (j : Json) (name : String) (q : Quantity) : Prop :=
  ∃ s, j.member? name = some (.str s) ∧
    ∀ t, t = s ↔ Quantity.Canonical t ∧ quantity (.str t) = .ok q

theorem quantity_str_ok {s : String} {q : Quantity} :
    quantity (.str s) = .ok q ↔ Quantity.ofText s = .ok q := by
  rw [quantity_ok]
  constructor
  · rintro (_ | ⟨_, h⟩)
    exact h
  · exact .numeral s

theorem printsCanonically {j : Json} {name : String} {q : Quantity}
    (h : j.member? name = some (.str q.toHex)) : PrintsCanonically j name q :=
  ⟨q.toHex, h, fun t => by rw [quantity_str_ok]; exact Quantity.eq_toHex_iff⟩

-- ---------------------------------------------------------------------------
-- Replies to requests
-- ---------------------------------------------------------------------------

variable {account : Option String} {r : DepositRequest} {reply : Json}

theorem readReply_ok {answer : Reply} :
    (Client.mk network account).readReply (.depositAddress r) (.ok reply) = .ok answer ↔
      ∃ c, ofReply network r.src.chain r.commission (r.maxBoostFee.getD 0) reply = .ok c ∧
        answer = .channel c := by
  show Except.mapError _ (Except.map _ _) = _ ↔ _
  rw [mapError_ok_iff, map_ok_iff]
  exact exists_congr fun c => and_congr_right fun _ => eq_comm

theorem readReply_error {e : CallError} :
    (Client.mk network account).readReply (.depositAddress r) (.ok reply) = .error e ↔
      ∃ fault, ofReply network r.src.chain r.commission (r.maxBoostFee.getD 0) reply = .error fault ∧
        e = .malformed fault := by
  show Except.mapError _ (Except.map _ _) = _ ↔ _
  simp only [mapError_error_iff, map_error_iff]
  exact exists_congr fun fault => and_congr_right fun _ => eq_comm

/-- A reply is read as a channel if it has what opens one. Members of other names and the spelling
of the numbers make no difference, and what is printed of the channel has one spelling. A client
takes a commission and a boost fee from the request, and blames nothing but the reply. -/
theorem ofReply_whatever_spelling (network : Network) (chain : Chain) (commission boost : UInt16)
    (members : Members) (h : (obj members).HasDistinctNames) :
    ((∃ c, ofReply network chain commission boost (.obj members) = .ok c) ↔
      Opens network chain (.obj members)) ∧
    (∀ c, ofReply network chain commission boost (.obj members) = .ok c ↔
      c.opened.SpelledIn (.obj members) ∧ chain.checkAddress network c.opened.address = .ok () ∧
        c.srcChain = chain ∧ c.commission = commission ∧ c.maxBoostFee = boost) ∧
    (∀ before after name value, members = before ++ after → name ∉ OpenedChannel.fields →
      ofReply network chain commission boost (.obj (before ++ (name, value) :: after)) =
        ofReply network chain commission boost (.obj members)) ∧
    (∀ others, (obj others).HasDistinctNames → Respelled (.obj members) (.obj others) →
      ∀ c, ofReply network chain commission boost (.obj members) = .ok c ↔
        ofReply network chain commission boost (.obj others) = .ok c) ∧
    (∀ (q : Quantity) value, q.WrittenAs value ↔
      q.toNat < 2 ^ 64 ∧ value = .int q.toNat ∨ ∃ s, value = .str s ∧ Quantity.Denotes s q.toNat) ∧
    (∀ c : DepositChannel,
      c.id = Text.decimal c.opened.issuedBlock.toNat ++ "-" ++ c.srcChain.name ++ "-" ++
        Text.decimal c.opened.channelId.toNat ∧
      c.toJson.member? "depositChannelId" = some (.str c.id) ∧
      PrintsCanonically c.toJson "sourceChainExpiryBlock" c.opened.expiryBlock ∧
      PrintsCanonically c.toJson "channelOpeningFee" c.opened.openingFee) ∧
    ∀ account r reply,
      (∀ answer, (Client.mk network account).readReply (.depositAddress r) (.ok reply) = .ok answer ↔
        ∃ c, ofReply network r.src.chain r.commission (r.maxBoostFee.getD 0) reply = .ok c ∧
          answer = .channel c) ∧
      ∀ e, (Client.mk network account).readReply (.depositAddress r) (.ok reply) = .error e ↔
        ∃ fault, ofReply network r.src.chain r.commission (r.maxBoostFee.getD 0) reply =
          .error fault ∧ e = .malformed fault := by
  refine ⟨exists_ofReply_iff h, fun c => ofReply_obj_ok h, ?_, fun others hothers hrespelled c => ?_,
    fun q value => Quantity.writtenAs_iff,
    fun c => ⟨rfl, rfl, printsCanonically rfl, printsCanonically rfl⟩,
    fun account r reply => ⟨fun answer => readReply_ok, fun e => readReply_error⟩⟩
  · rintro before after name value rfl hname
    exact ofReply_unknown value hname
  · rw [ofReply_obj_ok h, ofReply_obj_ok hothers, hrespelled.spelledIn_iff]

def plainReply : Members := [
  ("address", .str "0x02679b10f7b94fc4f273569cc2e5c49eefa5c0f1"),
  ("channel_id", .int 7),
  ("channel_opening_fee", .int 255),
  ("issued_block", .int 1000),
  ("source_chain_expiry_block", .int 2000)]

def numeralReply : Members := [
  ("address", .str "0x02679b10f7b94fc4f273569cc2e5c49eefa5c0f1"),
  ("channel_id", .int 7),
  ("channel_opening_fee", .str "0X00fF"),
  ("issued_block", .int 1000),
  ("source_chain_expiry_block", .str "02000")]

theorem ofReply_whatever_spelling_numerals :
    (obj plainReply).HasDistinctNames ∧ (obj numeralReply).HasDistinctNames ∧
      ∃ c, ofReply .mainnet .ethereum 15 0 (.obj plainReply) = .ok c ∧
        ofReply .mainnet .ethereum 15 0 (.obj numeralReply) = .ok c ∧
        c.id = "1000-Ethereum-7" ∧
        c.toJson.member? "channelOpeningFee" = some (.str "0xff") := by
  have hplain : (obj plainReply).HasDistinctNames :=
    ⟨by decide, trivial, trivial, trivial, trivial, trivial, trivial⟩
  have hnumeral : (obj numeralReply).HasDistinctNames :=
    ⟨by decide, trivial, trivial, trivial, trivial, trivial, trivial⟩
  obtain ⟨-, hread, -, hrespell, -, hprinted, -⟩ :=
    ofReply_whatever_spelling .mainnet .ethereum 15 0 plainReply hplain
  let c : DepositChannel := {
    opened := ⟨"0x02679b10f7b94fc4f273569cc2e5c49eefa5c0f1", 1000, 7, ⟨2000, by decide⟩,
      ⟨255, by decide⟩⟩
    srcChain := .ethereum
    commission := 15
    maxBoostFee := 0 }
  have hspelled : c.opened.SpelledIn (.obj plainReply) :=
    ⟨rfl, rfl, rfl, ⟨_, rfl, .integer (by decide)⟩, ⟨_, rfl, .integer (by decide)⟩⟩
  have hok := (hread c).mpr ⟨hspelled, by decide +kernel, rfl, rfl, rfl⟩
  have hrespelled : Respelled (.obj plainReply) (.obj numeralReply) := by
    refine ⟨fun name hname => ?_, ⟨c.opened.expiryBlock, _, _, rfl, rfl, .integer (by decide), ?_⟩,
      ⟨c.opened.openingFee, _, _, rfl, rfl, .integer (by decide), ?_⟩⟩
    · simp only [List.mem_cons, List.not_mem_nil, or_false] at hname
      rcases hname with rfl | rfl | rfl <;> rfl
    · exact .numeral _ rfl
    · exact .numeral _ rfl
  obtain ⟨hid, -, -, s, hs, hcanonical⟩ := hprinted c
  have hfee : "0xff" = s := (hcanonical "0xff").mpr
    ⟨⟨"ff".toList, rfl, by simp, by simp, by simp⟩, rfl⟩
  exact ⟨hplain, hnumeral, c, hok, (hrespell _ hnumeral hrespelled c).mp hok,
    hid.trans (by decide +kernel), hfee ▸ hs⟩

end DepositChannel

end SwapBroker
