import SwapBroker.Proofs.Numerals
import SwapBroker.Proofs.ReplyForms

/-!
# Ids of deposit channels

The id of a deposit channel joins two numbers of any length and the name of a chain by hyphens. Neither
numerals nor names of chains have a hyphen, so that the id can be taken apart again, and two channels
share it only if they share all three.
-/

namespace SwapBroker

namespace Text

theorem numeral_inj {base m n : ℕ} (hb : 2 ≤ base) (hle : base ≤ 16)
    (h : numeral base m = numeral base n) : m = n := by
  rw [← ofDigits_numeral hb hle m, ← ofDigits_numeral hb hle n, h]

/-- Texts that are joined by a character which the first part lacks can be taken apart. -/
theorem append_cons_inj {c : Char} {before before' after after' : List Char} (h : c ∉ before)
    (h' : c ∉ before') (heq : before ++ c :: after = before' ++ c :: after') :
    before = before' ∧ after = after' := by
  have hcut : some (before, after) = some (before', after') := by
    rw [← cutAt?_append h, ← cutAt?_append h', heq]
  exact Prod.mk.inj (Option.some.inj hcut)

theorem hyphen_notMem_numeral (n : ℕ) : '-' ∉ numeral 10 n := by
  intro h
  exact absurd (isDecimalDigit_of_mem_numeral h) (by decide)

end Text

namespace Chain

theorem name_inj {a b : Chain} (h : a.name = b.name) : a = b := by
  revert h
  cases a <;> cases b <;> decide

theorem hyphen_notMem_name (c : Chain) : '-' ∉ c.name.toList := by
  cases c <;> decide

end Chain

namespace DepositChannel

theorem toList_id (c : DepositChannel) :
    c.id.toList = Text.numeral 10 c.opened.issuedBlock.toNat ++
      '-' :: (c.srcChain.name.toList ++ '-' :: Text.numeral 10 c.opened.channelId.toNat) := by
  simp [id, Text.decimal]

theorem id_inj {a b : DepositChannel} (h : a.id = b.id) :
    a.opened.issuedBlock = b.opened.issuedBlock ∧ a.srcChain = b.srcChain ∧
      a.opened.channelId = b.opened.channelId := by
  have htext := congrArg String.toList h
  rw [toList_id, toList_id] at htext
  obtain ⟨hblock, hrest⟩ := Text.append_cons_inj (Text.hyphen_notMem_numeral _)
    (Text.hyphen_notMem_numeral _) htext
  obtain ⟨hname, hnumber⟩ := Text.append_cons_inj (Chain.hyphen_notMem_name _)
    (Chain.hyphen_notMem_name _) hrest
  exact ⟨UInt64.toNat_inj.mp (Text.numeral_inj (by decide) (by decide) hblock),
    Chain.name_inj (String.toList_inj.mp hname),
    UInt64.toNat_inj.mp (Text.numeral_inj (by decide) (by decide) hnumber)⟩

variable {network network' : Network} {chain chain' : Chain}
  {commission commission' boost boost' : UInt16} {reply reply' : Json} {a b : DepositChannel}

/-- Two channels that are read, whatever of and for whatever network, have one id exactly if they were
opened in the same block, on the same chain and under the same number. -/
theorem same_id_iff_same_channel (ha : ofReply network chain commission boost reply = .ok a)
    (hb : ofReply network' chain' commission' boost' reply' = .ok b) :
    a.srcChain = chain ∧ b.srcChain = chain' ∧
      (a.id = b.id ↔ a.opened.issuedBlock = b.opened.issuedBlock ∧ a.srcChain = b.srcChain ∧
        a.opened.channelId = b.opened.channelId) := by
  obtain ⟨-, -, hchain, -⟩ := ofReply_ok.mp ha
  obtain ⟨-, -, hchain', -⟩ := ofReply_ok.mp hb
  refine ⟨hchain, hchain', id_inj, ?_⟩
  rintro ⟨hblock, hsrc, hnumber⟩
  rw [id, id, hblock, hsrc, hnumber]

def replyOf (block number : ℤ) : Json :=
  .obj [
    ("address", .str "0x02679b10f7b94fc4f273569cc2e5c49eefa5c0f1"),
    ("channel_id", .int number),
    ("channel_opening_fee", .int 255),
    ("issued_block", .int block),
    ("source_chain_expiry_block", .int 2000)]

def channelOf (block number : UInt64) (commission boost : UInt16) : DepositChannel where
  opened := ⟨"0x02679b10f7b94fc4f273569cc2e5c49eefa5c0f1", block, number, ⟨2000, by decide⟩,
    ⟨255, by decide⟩⟩
  srcChain := .ethereum
  commission := commission
  maxBoostFee := boost

/-- The fees of the request leave the id alone, and block and number are not taken for each other. -/
theorem same_id_iff_same_channel_largestBlock :
    ofReply .mainnet .ethereum 15 0 (replyOf 18446744073709551615 1) =
        .ok (channelOf 18446744073709551615 1 15 0) ∧
      ofReply .sisyphos .ethereum 0 30 (replyOf 18446744073709551615 1) =
        .ok (channelOf 18446744073709551615 1 0 30) ∧
      ofReply .mainnet .ethereum 15 0 (replyOf 1 18446744073709551615) =
        .ok (channelOf 1 18446744073709551615 15 0) ∧
      (channelOf 18446744073709551615 1 15 0).id = (channelOf 18446744073709551615 1 0 30).id ∧
      (channelOf 18446744073709551615 1 15 0).id ≠ (channelOf 1 18446744073709551615 15 0).id := by
  have hlast : ofReply .mainnet .ethereum 15 0 (replyOf 18446744073709551615 1) =
      .ok (channelOf 18446744073709551615 1 15 0) := rfl
  have hagain : ofReply .sisyphos .ethereum 0 30 (replyOf 18446744073709551615 1) =
      .ok (channelOf 18446744073709551615 1 0 30) := rfl
  have hfirst : ofReply .mainnet .ethereum 15 0 (replyOf 1 18446744073709551615) =
      .ok (channelOf 1 18446744073709551615 15 0) := rfl
  obtain ⟨-, -, hsame⟩ := same_id_iff_same_channel hlast hagain
  obtain ⟨-, -, hother⟩ := same_id_iff_same_channel hlast hfirst
  refine ⟨hlast, hagain, hfirst, hsame.mpr ⟨rfl, rfl, rfl⟩, fun h => ?_⟩
  obtain ⟨hblock, -, -⟩ := hother.mp h
  exact absurd hblock (by decide)

end DepositChannel

end SwapBroker
