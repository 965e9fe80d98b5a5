import Mathlib.Logic.Relation
import SwapBroker.Intent.Json
import SwapBroker.Proofs.MemberAdditions
import SwapBroker.Proofs.RecordForms

/-!
# Intents written and read back

An intent and each record in it is written as an object that has the present fields under their names
and nothing for the absent ones. Whatever holds an intent in this way is read as that intent, and
goes on being read as it when unknown members are added or nulls for the absent fields.
-/

namespace SwapBroker

open Json Record Decoder Outcome

-- ---------------------------------------------------------------------------
-- Values without null
-- ---------------------------------------------------------------------------

namespace Json

mutual
def NullFree : Json → Prop
  | .null => False
  | .arr items => ItemsNullFree items
  | .obj members => MembersNullFree members
  | _ => True
def ItemsNullFree : List Json → Prop
  | [] => True
  | item :: rest => item.NullFree ∧ ItemsNullFree rest
def MembersNullFree : Members → Prop
  | [] => True
  | (_, value) :: rest => value.NullFree ∧ MembersNullFree rest
end

theorem nullFree_arr {items : List Json} (h : ∀ item ∈ items, item.NullFree) :
    (arr items).NullFree := by
  rw [NullFree]
  induction items with
  | nil => trivial
  | cons item rest ih =>
    obtain ⟨hitem, hrest⟩ := List.forall_mem_cons.mp h
    exact ⟨hitem, ih hrest⟩

theorem nullFree_obj {members : Members} (h : ∀ m ∈ members, m.2.NullFree) :
    (obj members).NullFree := by
  rw [NullFree]
  induction members with
  | nil => trivial
  | cons m rest ih =>
    obtain ⟨hm, hrest⟩ := List.forall_mem_cons.mp h
    exact ⟨hm, ih hrest⟩

theorem nullFree_ofMembers {members : Members} (h : ∀ m ∈ members, m.2.NullFree) :
    (ofMembers members).NullFree :=
  nullFree_obj fun m hm => h m (mem_sortMembers hm)

theorem nullFree_ofPresent {members : List (String × Option Json)}
    (h : ∀ m ∈ members, ∀ value ∈ m.2, value.NullFree) : (ofPresent members).NullFree := by
  refine nullFree_ofMembers fun m hm => ?_
  obtain ⟨n, hn, hvalue⟩ := List.mem_filterMap.mp hm
  obtain ⟨value, hsome, rfl⟩ := Option.map_eq_some_iff.mp hvalue
  exact h n hn value hsome

def IsRecord (j : Json) : Prop :=
  ∃ members, j = .obj members ∧ (members.map Prod.fst).Nodup

theorem IsRecord.ne_null {j : Json} (h : j.IsRecord) : j ≠ .null := by
  obtain ⟨members, rfl, -⟩ := h
  exact nofun

theorem isRecord_ofMembers (members : Members) : (ofMembers members).IsRecord :=
  ⟨_, rfl, (inOrder_sortMembers members).nodup⟩

end Json

section

variable {α : Type} {written : Json → α → Prop} {f : α → Json}

theorem rel_of_map {found : Option Json} {o : Option α} (hfound : found = o.map f)
    (h : ∀ a, written (f a) a) : Option.Rel written found o := by
  subst hfound
  cases o with
  | none => exact .none
  | some a => exact .some (h a)

theorem forall₂_map (h : ∀ a, written (f a) a) (as : List α) :
    List.Forall₂ written (as.map f) as := by
  induction as with
  | nil => exact .nil
  | cons a as ih => exact .cons (h a) ih

theorem nullFree_of_mem_map (h : ∀ a, (f a).NullFree) {o : Option α} :
    ∀ v ∈ o.map f, v.NullFree := by
  intro v hv
  obtain ⟨a, -, rfl⟩ := Option.map_eq_some_iff.mp hv
  exact h a

end

-- ---------------------------------------------------------------------------
-- Pairs and assets
-- ---------------------------------------------------------------------------

theorem Chain.decode_name (c : Chain) : Chain.decode (.str c.name) = .ok c := by
  cases c <;> rfl

theorem Symbol.decode_name (s : Symbol) : Symbol.decode (.str s.name) = .ok s := by
  cases s <;> rfl

structure Pair.WrittenIn (p : Pair) (j : Json) : Prop where
  isRecord : j.IsRecord
  chain : j.member? "chain" = some (.str p.chain.name)
  symbol : j.member? "asset" = some (.str p.symbol.name)

namespace Pair

def fields : List (String × Bool × Shape) :=
  [("chain", false, .whole), ("asset", false, .whole)]

theorem follows : record.Follows fields :=
  ((follows_required _ (respects_whole _)).map _).seq (follows_required _ (respects_whole _))

theorem decode_respects : decode.Respects (.record fields) :=
  follows.respects (by decide)

theorem writtenIn_toJson (p : Pair) : p.WrittenIn p.toJson where
  isRecord := isRecord_ofMembers _
  chain := member?_ofMembers _ _
  symbol := member?_ofMembers _ _

theorem nullFree_toJson (p : Pair) : p.toJson.NullFree := by
  refine nullFree_ofMembers ?_
  simp only [List.forall_mem_cons]
  exact ⟨trivial, trivial, nofun⟩

theorem decode_of_writtenIn {p : Pair} {j : Json} (h : p.WrittenIn j) : decode j = .ok p := by
  obtain ⟨⟨members, rfl, hnames⟩, hchain, hsymbol⟩ := h
  obtain ⟨chain, symbol⟩ := p
  refine (decode_obj_ok follows.regular.lawful hnames).mpr ?_
  refine build_seq ?_ (build_required hsymbol symbol.decode_name)
  exact build_map (build_required hchain chain.decode_name) _

end Pair

namespace Asset

theorem decode_ok {a : Asset} {j : Json} : decode j = .ok a ↔ Pair.decode j = .ok a.pair := by
  show (Pair.decode j >>= fun p => _) = _ ↔ _
  rw [bind_ok_iff]
  constructor
  · rintro ⟨p, hp, h⟩
    cases hfound : ofPair? p with
    | none => simp [hfound] at h
    | some found =>
      simp only [hfound, Except.ok.injEq] at h
      have hpair : found.pair = p := by simpa using List.find?_some hfound
      rw [hp, ← hpair, h]
  · intro h
    exact ⟨a.pair, h, by rw [ofPair?_pair]⟩

theorem decode_unsupported {p : Pair} {j : Json} (h : Pair.decode j = .ok p)
    (hp : ∀ a : Asset, a.pair ≠ p) : decode j = .error (.unsupportedPair p.chain p.symbol) := by
  have hnone : ofPair? p = none :=
    List.find?_eq_none.mpr fun a _ => by simpa using hp a
  show (Pair.decode j >>= fun p => _) = _
  simp only [h, bind, Except.bind, hnone]

theorem decode_respects : decode.Respects (.record Pair.fields) :=
  Pair.decode_respects.andThen _

end Asset

-- ---------------------------------------------------------------------------
-- The records of an intent
-- ---------------------------------------------------------------------------

structure CcmParams.WrittenIn (p : CcmParams) (j : Json) : Prop where
  isRecord : j.IsRecord
  gasBudget : j.member? "gasBudget" = some (.str p.gasBudget)
  message : j.member? "message" = some (.str p.message)
  additionalData : j.member? "ccmAdditionalData" = p.additionalData.map .str

namespace CcmParams

def fields : List (String × Bool × Shape) :=
  [("gasBudget", false, .whole), ("message", false, .whole), ("ccmAdditionalData", true, .whole)]

theorem fields_nodup : (fields.map Prod.fst).Nodup := by decide

theorem follows : record.Follows fields :=
  (((follows_required _ (respects_whole _)).map _).seq
    (follows_required _ (respects_whole _))).seq (follows_optional _ (respects_whole _))

theorem decode_respects : decode.Respects (.record fields) :=
  follows.respects fields_nodup

theorem writtenIn_toJson (p : CcmParams) : p.WrittenIn p.toJson := by
  refine ⟨isRecord_ofMembers _, ?_, ?_, ?_⟩
  all_goals
    refine member?_ofPresent_of_nodup ?_ ?_
    · exact fields_nodup
    · rfl

theorem nullFree_toJson (p : CcmParams) : p.toJson.NullFree := by
  refine nullFree_ofPresent ?_
  simp only [List.forall_mem_cons, Option.mem_some_iff, forall_eq']
  refine ⟨trivial, trivial, nullFree_of_mem_map fun _ => ?_, nofun⟩
  trivial

theorem decode_of_writtenIn {p : CcmParams} {j : Json} (h : p.WrittenIn j) : decode j = .ok p := by
  obtain ⟨⟨members, rfl, hnames⟩, hbudget, hmessage, hdata⟩ := h
  obtain ⟨gasBudget, message, additionalData⟩ := p
  refine (decode_obj_ok follows.regular.lawful hnames).mpr ?_
  refine build_seq ?_ (build_optional_map hdata fun _ => ⟨nofun, rfl⟩)
  refine build_seq ?_ (build_required hmessage rfl)
  exact build_map (build_required hbudget rfl) _

end CcmParams

structure DcaParams.WrittenIn (p : DcaParams) (j : Json) : Prop where
  isRecord : j.IsRecord
  numberOfChunks : j.member? "numberOfChunks" = some (.int p.numberOfChunks.toNat)
  chunkInterval : j.member? "chunkIntervalBlocks" = some (.int p.chunkInterval.toNat)

namespace DcaParams

def fields : List (String × Bool × Shape) :=
  [("numberOfChunks", false, .whole), ("chunkIntervalBlocks", false, .whole)]

theorem follows : record.Follows fields :=
  ((follows_required _ (respects_whole _)).map _).seq (follows_required _ (respects_whole _))

theorem decode_respects : decode.Respects (.record fields) :=
  follows.respects (by decide)

theorem writtenIn_toJson (p : DcaParams) : p.WrittenIn p.toJson where
  isRecord := isRecord_ofMembers _
  numberOfChunks := member?_ofMembers _ _
  chunkInterval := member?_ofMembers _ _

theorem nullFree_toJson (p : DcaParams) : p.toJson.NullFree := by
  refine nullFree_ofMembers ?_
  simp only [List.forall_mem_cons]
  exact ⟨trivial, trivial, nofun⟩

theorem decode_of_writtenIn {p : DcaParams} {j : Json} (h : p.WrittenIn j) : decode j = .ok p := by
  obtain ⟨⟨members, rfl, hnames⟩, hchunks, hinterval⟩ := h
  obtain ⟨numberOfChunks, chunkInterval⟩ := p
  refine (decode_obj_ok follows.regular.lawful hnames).mpr ?_
  refine build_seq ?_ (build_required hinterval (uint32_ok.mpr rfl))
  exact build_map (build_required hchunks (uint32_ok.mpr rfl)) _

end DcaParams

structure FillOrKillParams.WrittenIn (p : FillOrKillParams) (j : Json) : Prop where
  isRecord : j.IsRecord
  retryDuration : j.member? "retryDurationBlocks" = some (.int p.retryDuration.toNat)
  refundAddress : j.member? "refundAddress" = some (.str p.refundAddress)
  minPrice : j.member? "minPrice" = some (.str p.minPrice)
  maxOracleSlippage :
    j.member? "maxOraclePriceSlippage" = p.maxOracleSlippage.map fun bps => .int bps.toNat
  refundCcm : Option.Rel (fun v ccm => CcmParams.WrittenIn ccm v) (j.member? "refundCcmMetadata")
    p.refundCcm

namespace FillOrKillParams

def fields : List (String × Bool × Shape) :=
  [("retryDurationBlocks", false, .whole), ("refundAddress", false, .whole),
    ("minPrice", false, .whole), ("maxOraclePriceSlippage", true, .whole),
    ("refundCcmMetadata", true, .record CcmParams.fields)]

theorem fields_nodup : (fields.map Prod.fst).Nodup := by decide

theorem follows : record.Follows fields :=
  (((((follows_required _ (respects_whole _)).map _).seq
    (follows_required _ (respects_whole _))).seq
    (follows_required _ (respects_whole _))).seq
    (follows_optional _ (respects_whole _))).seq
    (follows_optional _ CcmParams.decode_respects)

theorem decode_respects : decode.Respects (.record fields) :=
  follows.respects fields_nodup

theorem writtenIn_toJson (p : FillOrKillParams) : p.WrittenIn p.toJson := by
  refine ⟨isRecord_ofMembers _, ?_, ?_, ?_, ?_, rel_of_map ?_ CcmParams.writtenIn_toJson⟩
  all_goals
    refine member?_ofPresent_of_nodup ?_ ?_
    · exact fields_nodup
    · rfl

theorem nullFree_toJson (p : FillOrKillParams) : p.toJson.NullFree := by
  refine nullFree_ofPresent ?_
  simp only [List.forall_mem_cons, Option.mem_some_iff, forall_eq']
  refine ⟨trivial, trivial, trivial, nullFree_of_mem_map fun _ => ?_,
    nullFree_of_mem_map CcmParams.nullFree_toJson, nofun⟩
  trivial

theorem decode_of_writtenIn {p : FillOrKillParams} {j : Json} (h : p.WrittenIn j) :
    decode j = .ok p := by
  obtain ⟨⟨members, rfl, hnames⟩, hretry, haddress, hprice, hslippage, hccm⟩ := h
  obtain ⟨retryDuration, refundAddress, minPrice, maxOracleSlippage, refundCcm⟩ := p
  refine (decode_obj_ok follows.regular.lawful hnames).mpr ?_
  refine build_seq ?_ (build_optional hccm fun _ _ h => ⟨h.isRecord.ne_null, CcmParams.decode_of_writtenIn h⟩)
  refine build_seq ?_ (build_optional_map hslippage fun _ => ⟨nofun, uint16_ok.mpr rfl⟩)
  refine build_seq ?_ (build_required hprice rfl)
  refine build_seq ?_ (build_required haddress rfl)
  exact build_map (build_required hretry (uint32_ok.mpr rfl)) _

end FillOrKillParams

structure Affiliate.WrittenIn (a : Affiliate) (j : Json) : Prop where
  isRecord : j.IsRecord
  account : j.member? "account" = some (.str a.account)
  commission : j.member? "commissionBps" = some (.int a.commission.toNat)

namespace Affiliate

def fields : List (String × Bool × Shape) :=
  [("account", false, .whole), ("commissionBps", false, .whole)]

theorem follows : record.Follows fields :=
  ((follows_required _ (respects_whole _)).map _).seq (follows_required _ (respects_whole _))

theorem decode_respects : decode.Respects (.record fields) :=
  follows.respects (by decide)

theorem writtenIn_toJson (a : Affiliate) : a.WrittenIn a.toJson where
  isRecord := isRecord_ofMembers _
  account := member?_ofMembers _ _
  commission := member?_ofMembers _ _

theorem nullFree_toJson (a : Affiliate) : a.toJson.NullFree := by
  refine nullFree_ofMembers ?_
  simp only [List.forall_mem_cons]
  exact ⟨trivial, trivial, nofun⟩

theorem decode_of_writtenIn {a : Affiliate} {j : Json} (h : a.WrittenIn j) : decode j = .ok a := by
  obtain ⟨⟨members, rfl, hnames⟩, haccount, hcommission⟩ := h
  obtain ⟨account, commission⟩ := a
  refine (decode_obj_ok follows.regular.lawful hnames).mpr ?_
  refine build_seq ?_ (build_required hcommission (uint16_ok.mpr rfl))
  exact build_map (build_required haccount rfl) _

end Affiliate

structure ExtraParams.WrittenIn (p : ExtraParams) (j : Json) : Prop where
  isRecord : j.IsRecord
  seed : j.member? "seed" = p.seed.map .str

namespace ExtraParams

def fields : List (String × Bool × Shape) :=
  [("seed", true, .whole)]

theorem follows : record.Follows fields :=
  (follows_optional _ (respects_whole _)).map _

theorem decode_respects : decode.Respects (.record fields) :=
  follows.respects (by decide)

theorem writtenIn_toJson (p : ExtraParams) : p.WrittenIn p.toJson := by
  refine ⟨isRecord_ofMembers _, member?_ofPresent_of_nodup ?_ rfl⟩
  exact List.nodup_singleton "seed"

theorem nullFree_toJson (p : ExtraParams) : p.toJson.NullFree := by
  refine nullFree_ofPresent ?_
  simp only [List.forall_mem_cons]
  refine ⟨nullFree_of_mem_map fun _ => ?_, nofun⟩
  trivial

theorem decode_of_writtenIn {p : ExtraParams} {j : Json} (h : p.WrittenIn j) : decode j = .ok p := by
  obtain ⟨⟨members, rfl, hnames⟩, hseed⟩ := h
  obtain ⟨seed⟩ := p
  refine (decode_obj_ok follows.regular.lawful hnames).mpr ?_
  exact build_map (build_optional_map hseed fun _ => ⟨nofun, rfl⟩) _

end ExtraParams

-- ---------------------------------------------------------------------------
-- Intents
-- ---------------------------------------------------------------------------

/-- A JSON object holds the fields of an intent. There is a member for each field that is present,
and none for one that is absent, in the records of the intent as in the intent itself. -/
structure SwapIntent.WrittenIn (i : SwapIntent) (j : Json) : Prop where
  isRecord : j.IsRecord
  src : ∃ v, j.member? "srcAsset" = some v ∧ i.src.pair.WrittenIn v
  dest : ∃ v, j.member? "destAsset" = some v ∧ i.dest.pair.WrittenIn v
  destAddress : j.member? "destAddress" = some (.str i.destAddress)
  srcAddress : j.member? "srcAddress" = i.srcAddress.map .str
  amount : j.member? "amount" = i.amount.map .str
  commission : j.member? "commissionBps" = i.commission.map fun bps => .int bps.toNat
  affiliates : Option.Rel
    (fun v as => ∃ items, v = .arr items ∧
      List.Forall₂ (fun item a => Affiliate.WrittenIn a item) items as)
    (j.member? "affiliates") i.affiliates
  maxBoostFee : j.member? "maxBoostFeeBps" = i.maxBoostFee.map fun bps => .int bps.toNat
  ccm : Option.Rel (fun v p => CcmParams.WrittenIn p v) (j.member? "ccmParams") i.ccm
  dca : Option.Rel (fun v p => DcaParams.WrittenIn p v) (j.member? "dcaParams") i.dca
  fillOrKill : Option.Rel (fun v p => FillOrKillParams.WrittenIn p v) (j.member? "fillOrKillParams")
    i.fillOrKill
  extra : Option.Rel (fun v p => ExtraParams.WrittenIn p v) (j.member? "extraParams") i.extra

namespace SwapIntent

def fields : List (String × Bool × Shape) :=
  [("srcAsset", false, .record Pair.fields), ("destAsset", false, .record Pair.fields),
    ("destAddress", false, .whole), ("srcAddress", true, .whole), ("amount", true, .whole),
    ("commissionBps", true, .whole), ("affiliates", true, .items (.record Affiliate.fields)),
    ("maxBoostFeeBps", true, .whole), ("ccmParams", true, .record CcmParams.fields),
    ("dcaParams", true, .record DcaParams.fields),
    ("fillOrKillParams", true, .record FillOrKillParams.fields),
    ("extraParams", true, .record ExtraParams.fields)]

def shape : Shape :=
  .record fields

theorem fields_nodup : (fields.map Prod.fst).Nodup := by decide

theorem follows : record.Follows fields :=
  ((((((((((((follows_required _ Asset.decode_respects).map _).seq
    (follows_required _ Asset.decode_respects)).seq
    (follows_required _ (respects_whole _))).seq
    (follows_optional _ (respects_whole _))).seq
    (follows_optional _ (respects_whole _))).seq
    (follows_optional _ (respects_whole _))).seq
    (follows_optional _ Affiliate.decode_respects.list)).seq
    (follows_optional _ (respects_whole _))).seq
    (follows_optional _ CcmParams.decode_respects)).seq
    (follows_optional _ DcaParams.decode_respects)).seq
    (follows_optional _ FillOrKillParams.decode_respects)).seq
    (follows_optional _ ExtraParams.decode_respects)

theorem decode_respects : decode.Respects shape :=
  follows.respects fields_nodup

theorem writtenIn_toJson (i : SwapIntent) : i.WrittenIn i.toJson := by
  refine ⟨isRecord_ofMembers _, ⟨_, ?_, i.src.pair.writtenIn_toJson⟩,
    ⟨_, ?_, i.dest.pair.writtenIn_toJson⟩, ?_, ?_, ?_, ?_,
    rel_of_map ?_ fun as => ⟨_, rfl, forall₂_map Affiliate.writtenIn_toJson as⟩, ?_,
    rel_of_map ?_ CcmParams.writtenIn_toJson, rel_of_map ?_ DcaParams.writtenIn_toJson,
    rel_of_map ?_ FillOrKillParams.writtenIn_toJson, rel_of_map ?_ ExtraParams.writtenIn_toJson⟩
  all_goals
    refine member?_ofPresent_of_nodup ?_ ?_
    · exact fields_nodup
    · rfl

theorem nullFree_toJson (i : SwapIntent) : i.toJson.NullFree := by
  refine nullFree_ofPresent ?_
  simp only [List.forall_mem_cons, Option.mem_some_iff, forall_eq']
  refine ⟨i.src.pair.nullFree_toJson, i.dest.pair.nullFree_toJson, trivial,
    nullFree_of_mem_map fun _ => ?_, nullFree_of_mem_map fun _ => ?_,
    nullFree_of_mem_map fun _ => ?_, nullFree_of_mem_map fun as => nullFree_arr ?_,
    nullFree_of_mem_map fun _ => ?_, nullFree_of_mem_map CcmParams.nullFree_toJson,
    nullFree_of_mem_map DcaParams.nullFree_toJson,
    nullFree_of_mem_map FillOrKillParams.nullFree_toJson,
    nullFree_of_mem_map ExtraParams.nullFree_toJson, nofun⟩
  case refine_4 =>
    intro item hitem
    obtain ⟨a, -, rfl⟩ := List.mem_map.mp hitem
    exact a.nullFree_toJson
  all_goals trivial

theorem decode_of_writtenIn {i : SwapIntent} {j : Json} (h : i.WrittenIn j) :
    decode j = .ok i := by
  obtain ⟨⟨members, rfl, hnames⟩, ⟨_, hsrc, hsrcPair⟩, ⟨_, hdest, hdestPair⟩, haddress, hrefund,
    hamount, hcommission, haffiliates, hboost, hccm, hdca, hfok, hextra⟩ := h
  obtain ⟨src, dest, destAddress, srcAddress, amount, commission, affiliates, maxBoostFee, ccm, dca,
    fillOrKill, extra⟩ := i
  have hasset {a : Asset} {v : Json} (hpair : a.pair.WrittenIn v) : Asset.decode v = .ok a :=
    Asset.decode_ok.mpr (Pair.decode_of_writtenIn hpair)
  have hlist (v : Json) (as : List Affiliate) (hwritten : ∃ items, v = .arr items ∧
      List.Forall₂ (fun item a => Affiliate.WrittenIn a item) items as) :
      v ≠ .null ∧ list Affiliate.decode v = .ok as := by
    obtain ⟨items, rfl, hitems⟩ := hwritten
    exact ⟨nofun, list_ok.mpr ⟨items, rfl, hitems.imp fun _ _ => Affiliate.decode_of_writtenIn⟩⟩
  refine (decode_obj_ok follows.regular.lawful hnames).mpr ?_
  -- The fields are built from the last to the first, as the record is put together.
  refine build_seq ?_ (build_optional hextra fun _ _ h =>
    ⟨h.isRecord.ne_null, ExtraParams.decode_of_writtenIn h⟩)
  refine build_seq ?_ (build_optional hfok fun _ _ h =>
    ⟨h.isRecord.ne_null, FillOrKillParams.decode_of_writtenIn h⟩)
  refine build_seq ?_ (build_optional hdca fun _ _ h =>
    ⟨h.isRecord.ne_null, DcaParams.decode_of_writtenIn h⟩)
  refine build_seq ?_ (build_optional hccm fun _ _ h =>
    ⟨h.isRecord.ne_null, CcmParams.decode_of_writtenIn h⟩)
  refine build_seq ?_ (build_optional_map hboost fun _ => ⟨nofun, uint16_ok.mpr rfl⟩)
  refine build_seq ?_ (build_optional haffiliates hlist)
  refine build_seq ?_ (build_optional_map hcommission fun _ => ⟨nofun, uint16_ok.mpr rfl⟩)
  refine build_seq ?_ (build_optional_map hamount fun _ => ⟨nofun, rfl⟩)
  refine build_seq ?_ (build_optional_map hrefund fun _ => ⟨nofun, rfl⟩)
  refine build_seq ?_ (build_required haddress rfl)
  refine build_seq ?_ (build_required hdest (hasset hdestPair))
  exact build_map (build_required hsrc (hasset hsrcPair)) _

theorem pairs_of_decode {i : SwapIntent} {j : Json} (h : decode j = .ok i) :
    (∃ v, (j.named (fields.map Prod.fst)).member? "srcAsset" = some v ∧
      Pair.decode v = .ok i.src.pair) ∧
    ∃ v, (j.named (fields.map Prod.fst)).member? "destAsset" = some v ∧
      Pair.decode v = .ok i.dest.pair := by
  obtain ⟨members, hform, hbuild⟩ := exists_build_of_decode follows.regular fields_nodup h
  simp only [record, build_seq_ok, build_map_ok, build_required_ok] at hbuild
  obtain ⟨_, ⟨_, ⟨_, ⟨_, ⟨_, ⟨_, ⟨_, ⟨_, ⟨_, ⟨_, ⟨_, ⟨_, ⟨v, hsrc, hv⟩, rfl⟩, _, ⟨w, hdest, hw⟩, rfl⟩,
    _, -, rfl⟩, _, -, rfl⟩, _, -, rfl⟩, _, -, rfl⟩, _, -, rfl⟩, _, -, rfl⟩, _, -, rfl⟩, _, -, rfl⟩,
    _, -, rfl⟩, _, -, rfl⟩ := hbuild
  have hnamed : j.named (fields.map Prod.fst) = .obj members := hform
  rw [hnamed]
  exact ⟨⟨v, hsrc, Asset.decode_ok.mp hv⟩, w, hdest, Asset.decode_ok.mp hw⟩

/-- An intent is written without null, with a member for each present field and none for an absent
one, and read back as it was. Nulls for absent fields and unknown members have no effect on what is
read of any value. Nothing is read of a value with a pair that no asset has. -/
theorem read_back (i : SwapIntent) :
    i.WrittenIn i.toJson ∧ i.toJson.NullFree ∧ decode i.toJson = .ok i ∧
    (∀ j j', Relation.ReflTransGen (AddsMember shape) j j' → decode j' = decode j) ∧
    ∀ v p, Pair.decode v = .ok p → (∀ a : Asset, a.pair ≠ p) →
      Asset.decode v = .error (.unsupportedPair p.chain p.symbol) ∧
      ∀ j field, field = "srcAsset" ∨ field = "destAsset" →
        (j.named (fields.map Prod.fst)).member? field = some v → ∃ e, decode j = .error e := by
  refine ⟨i.writtenIn_toJson, i.nullFree_toJson, decode_of_writtenIn i.writtenIn_toJson, ?_, ?_⟩
  · intro j j' hadds
    induction hadds with
    | refl => rfl
    | tail _ hstep ih => rw [decode_respects _ _ hstep, ih]
  · intro v p hv hp
    refine ⟨Asset.decode_unsupported hv hp, fun j field hfield hmember => ?_⟩
    cases h : decode j with
    | error e => exact ⟨e, rfl⟩
    | ok read =>
      obtain ⟨⟨_, hsrc, hsrcPair⟩, _, hdest, hdestPair⟩ := pairs_of_decode h
      rcases hfield with rfl | rfl
      · cases hmember.symm.trans hsrc
        exact absurd (Except.ok.inj (hsrcPair.symm.trans hv)) (hp read.src)
      · cases hmember.symm.trans hdest
        exact absurd (Except.ok.inj (hdestPair.symm.trans hv)) (hp read.dest)

def etherOnBitcoin : Json :=
  .obj [("chain", .str "Bitcoin"), ("asset", .str "ETH")]

def etherForUsdc : SwapIntent where
  src := .eth
  dest := .usdc
  destAddress := "0x02679b10f7b94fc4f273569cc2e5c49eefa5c0f1"
  affiliates := some []
  extra := some {}

/-- A null for the amount and a member that no field has are not seen in front of a whole intent. -/
theorem read_back_etherForUsdc :
    decode etherForUsdc.toJson = .ok etherForUsdc ∧
      (∃ members, etherForUsdc.toJson = .obj members ∧
        decode (.obj (("note", .str "urgent") :: ("amount", .null) :: members)) =
          .ok etherForUsdc) ∧
      Asset.decode etherOnBitcoin = .error (.unsupportedPair .bitcoin .eth) ∧
      ∃ e, decode (.obj [("srcAsset", etherOnBitcoin)]) = .error e := by
  obtain ⟨-, -, hround, hadded, hrefused⟩ := read_back etherForUsdc
  have hmembers : ∃ members, etherForUsdc.toJson = .obj members ∧
      "amount" ∉ members.map Prod.fst := ⟨_, rfl, by decide⟩
  obtain ⟨members, hjson, habsent⟩ := hmembers
  rw [hjson] at hround
  have hnull : AddsMember shape (.obj members) (.obj (("amount", .null) :: members)) :=
    @AddsMember.null fields [] members "amount" .whole (by simp [fields]) habsent
  have hunknown : AddsMember shape (.obj (("amount", .null) :: members))
      (.obj (("note", .str "urgent") :: ("amount", .null) :: members)) :=
    @AddsMember.unknown fields [] (("amount", .null) :: members) "note" (.str "urgent") (by decide)
  obtain ⟨hpair, hintent⟩ := hrefused etherOnBitcoin ⟨.bitcoin, .eth⟩ rfl fun a => by
    cases a <;> decide
  refine ⟨hjson ▸ hround, ⟨members, hjson, ?_⟩, hpair, hintent _ "srcAsset" (.inl rfl) rfl⟩
  rw [hadded _ _ (.tail (.single hnull) hunknown), hround]

end SwapIntent

end SwapBroker
