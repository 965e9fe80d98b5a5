import SwapBroker.Proofs.RequestRouting
import SwapBroker.Proofs.Ss58Accounts

/-!
# Addresses on the wire

An address is sent in a form of its own for accounts of the Polkadot family, and as it is for all
other chains. The sent form is valid again and stands for the account that was given, so what the
checks of an intent say of its addresses holds of those in the parameters of a call.
-/

namespace SwapBroker

open Outcome

-- ---------------------------------------------------------------------------
-- One address
-- ---------------------------------------------------------------------------

namespace Chain

variable {chain : Chain} {network : Network} {address : String}

/-- The texts stand for one account: in the Polkadot family they have one account id, and elsewhere
they are the same. -/
def SameAccount (chain : Chain) (a b : String) : Prop :=
  if chain.addressFormat = .polkadot then
    ∃ id, Ss58.account? a = some id ∧ Ss58.account? b = some id
  else a = b

structure Carries (chain : Chain) (network : Network) (given sent : String) : Prop where
  valid : chain.checkAddress network sent = .ok ()
  same : chain.SameAccount given sent

theorem checkAddress_polkadot (h : chain.addressFormat = .polkadot) (network : Network)
    (address : String) :
    chain.checkAddress network address = Ss58.check network.polkadotTypes address := by
  rw [checkAddress, h]
  rfl

theorem wireAddress_polkadot (h : chain.addressFormat = .polkadot) (address : String) :
    chain.wireAddress address = Ss58.wireText address := by
  rw [wireAddress, h]

theorem wireAddress_verbatim (h : chain.addressFormat ≠ .polkadot) (address : String) :
    chain.wireAddress address = address := by
  unfold wireAddress
  split
  next hf => exact absurd hf h
  next => rfl

theorem carries_wireAddress (h : chain.checkAddress network address = .ok ()) :
    chain.Carries network address (chain.wireAddress address) := by
  by_cases hf : chain.addressFormat = .polkadot
  · rw [checkAddress_polkadot hf] at h
    obtain ⟨id, hid, hform⟩ := Ss58.exists_account_of_check h
    rw [wireAddress_polkadot hf]
    refine ⟨?_, ?_⟩
    · rw [checkAddress_polkadot hf]
      exact Ss58.check_of_hex hform.isHexAccount
    · rw [SameAccount, if_pos hf]
      exact ⟨id, hid, hform.account?_eq⟩
  · rw [wireAddress_verbatim hf]
    refine ⟨h, ?_⟩
    rw [SameAccount, if_neg hf]

end Chain

-- ---------------------------------------------------------------------------
-- Refund addresses in parameters
-- ---------------------------------------------------------------------------

namespace Json

/-- The refund addresses of a parameter: of a refund policy, or of the one in extra parameters. -/
def refundAddresses (j : Json) : List Json :=
  (j.member? "refund_address").toList ++
    ((j.member? "refund_parameters").bind (member? "refund_address")).toList

@[simp] theorem refundAddresses_str (s : String) : (str s).refundAddresses = [] := rfl

@[simp] theorem refundAddresses_int (n : Int) : (int n).refundAddresses = [] := rfl

@[simp] theorem refundAddresses_ofOption {α : Type} (toJson : α → Json) (part : Option α) :
    (ofOption (part.map toJson)).refundAddresses =
      part.toList.flatMap fun a => (toJson a).refundAddresses := by
  cases part with
  | none => rfl
  | some a => simp [ofOption]

end Json

theorem flatMap_nothing {α β : Type} (as : List α) : as.flatMap (fun _ => ([] : List β)) = [] :=
  List.flatMap_eq_nil_iff.mpr fun _ _ => rfl

@[simp] theorem Asset.refundAddresses_toJson (a : Asset) : a.toJson.refundAddresses = [] := by
  simp [Json.refundAddresses, Asset.toJson, Pair.toJson, Json.member?_ofMembers]

@[simp] theorem DcaPart.refundAddresses_toJson (p : DcaPart) : p.toJson.refundAddresses = [] := by
  simp [Json.refundAddresses, DcaPart.toJson, Json.member?_ofMembers]

@[simp] theorem CcmPart.refundAddresses_toJson (p : CcmPart) : p.toJson.refundAddresses = [] := by
  simp [Json.refundAddresses, CcmPart.toJson, Json.member?_ofMembers]

@[simp] theorem RefundPart.refundAddresses_toJson (p : RefundPart) :
    p.toJson.refundAddresses = [.str p.refundAddress] := by
  simp [Json.refundAddresses, RefundPart.toJson, Json.member?_ofMembers]

@[simp] theorem refundAddresses_bpsToJson (bps : Option UInt16) :
    (bpsToJson bps).refundAddresses = [] := by
  cases bps <;> rfl

@[simp] theorem refundAddresses_affiliatesToJson (affiliates : Option (List AffiliatePart)) :
    (affiliatesToJson affiliates).refundAddresses = [] := by
  cases affiliates <;> rfl

def VaultSwapExtra.refund? : VaultSwapExtra → Option RefundPart
  | .bitcoin .. => none
  | .ethereum extra | .arbitrum extra | .solana _ _ extra => some extra.refund

theorem VaultSwapExtra.refundAddresses_toJson (extra : VaultSwapExtra) :
    extra.toJson.refundAddresses = extra.refund?.toList.map fun p => Json.str p.refundAddress := by
  cases extra with
  | bitcoin minOutput retryDuration slippage =>
    simp [Json.refundAddresses, toJson, Json.member?_ofMembers, refund?]
  | ethereum extra | arbitrum extra =>
    simp [Json.refundAddresses, toJson, evmMembers, Json.member?_ofPresent, refund?,
      RefundPart.toJson, Json.member?_ofMembers]
  | solana sender seed extra =>
    cases sender <;> cases seed <;>
      simp [Json.refundAddresses, toJson, evmMembers, Json.member?_ofPresent, refund?,
        RefundPart.toJson, Json.member?_ofMembers]

-- ---------------------------------------------------------------------------
-- Requests
-- ---------------------------------------------------------------------------

structure CarriesAddresses (network : Network) (i : SwapIntent) (policies : List FillOrKillParams)
    (params : List Json) : Prop where
  destination : ∃ sent, params[2]? = some (.str sent) ∧
    i.dest.chain.Carries network i.destAddress sent
  refunds : List.Forall₂
    (fun p j => ∃ sent, j = .str sent ∧ i.src.chain.Carries network p.refundAddress sent)
    policies (params.flatMap Json.refundAddresses)

/-- The refund policies that a request holds. A vault swap from Bitcoin has none, since refunds go
back to where the funds came from. -/
def SwapIntent.sentPolicies (i : SwapIntent) : Method → List FillOrKillParams
  | .depositAddress | .cfParameters => i.fillOrKill.toList
  | .parameterEncoding => if i.src.chain = .bitcoin then [] else i.fillOrKill.toList

namespace SwapIntent

variable {network : Network} {i : SwapIntent}

theorem carries_destination (h : i.check network = .ok ()) :
    i.dest.chain.Carries network i.destAddress (i.dest.chain.wireAddress i.destAddress) := by
  obtain ⟨-, haddresses, -⟩ := check_ok.mp h
  exact Chain.carries_wireAddress (checkAddresses_ok.mp haddresses).1

theorem carries_refund (h : i.check network = .ok ()) {p : FillOrKillParams} {part : RefundPart}
    (hp : i.fillOrKill = some p) (hpart : RefundPart.ofParams i.src i.dest p = .ok part) :
    i.src.chain.Carries network p.refundAddress part.refundAddress := by
  obtain ⟨-, haddresses, -⟩ := check_ok.mp h
  obtain ⟨-, -, hrefund, -⟩ := checkAddresses_ok.mp haddresses
  obtain ⟨-, -, -, -, hsent, -⟩ := RefundPart.ofParams_ok.mp hpart
  rw [hsent]
  exact Chain.carries_wireAddress (hrefund p hp)

theorem carries_policy (h : i.check network = .ok ()) {refund : Option RefundPart}
    (hrefund : encodePresent (RefundPart.ofParams i.src i.dest) i.fillOrKill = .ok refund) :
    List.Forall₂
      (fun p j => ∃ sent, j = .str sent ∧ i.src.chain.Carries network p.refundAddress sent)
      i.fillOrKill.toList (refund.toList.map fun part => Json.str part.refundAddress) := by
  cases hp : i.fillOrKill with
  | none =>
    rw [hp] at hrefund
    cases hrefund
    exact .nil
  | some p =>
    rw [hp] at hrefund
    obtain ⟨part, hpart, rfl⟩ := map_ok_iff.mp hrefund
    exact .cons ⟨_, rfl, carries_refund h hp hpart⟩ .nil

end SwapIntent

variable {network : Network} {i : SwapIntent}

theorem DepositRequest.carriesAddresses {r : DepositRequest}
    (h : DepositRequest.ofIntent network i = .ok r) :
    CarriesAddresses network i i.fillOrKill.toList r.params := by
  obtain ⟨parts, hparts, rfl⟩ := ofIntent_ok.mp h
  obtain ⟨hc, -, -, -, hrefund⟩ := SwapIntent.encodeParts_ok.mp hparts
  have hsent : (parts.toDeposit i).params.flatMap Json.refundAddresses =
      parts.refund.toList.map fun part => Json.str part.refundAddress := by
    simp [params, EncodedParts.toDeposit, List.map_eq_flatMap, flatMap_nothing]
  refine ⟨⟨_, rfl, SwapIntent.carries_destination hc⟩, ?_⟩
  rw [hsent]
  exact SwapIntent.carries_policy hc hrefund

theorem CfParametersRequest.carriesAddresses {r : CfParametersRequest}
    (h : CfParametersRequest.ofIntent network i = .ok r) :
    CarriesAddresses network i i.fillOrKill.toList r.params := by
  obtain ⟨parts, hparts, rfl⟩ := ofIntent_ok.mp h
  obtain ⟨hc, -, -, -, hrefund⟩ := SwapIntent.encodeParts_ok.mp hparts
  have hsent : (parts.toCfParameters i).params.flatMap Json.refundAddresses =
      parts.refund.toList.map fun part => Json.str part.refundAddress := by
    simp [params, EncodedParts.toCfParameters, List.map_eq_flatMap, flatMap_nothing]
  refine ⟨⟨_, rfl, SwapIntent.carries_destination hc⟩, ?_⟩
  rw [hsent]
  exact SwapIntent.carries_policy hc hrefund

theorem VaultSwapRequest.refund?_of_extraOf {amount : Quantity} {p : FillOrKillParams}
    {extra : VaultSwapExtra} (h : extraOf i amount p = .ok extra) :
    (i.src.chain = .bitcoin ∧ extra.refund? = none) ∨
      (i.src.chain ≠ .bitcoin ∧
        ∃ part, RefundPart.ofParams i.src i.dest p = .ok part ∧ extra.refund? = some part) := by
  cases hc : i.src.chain with
  | bitcoin =>
    simp only [extraOf, hc, bitcoinExtra, bind_ok_iff] at h
    obtain ⟨-, -, price, -, h⟩ := h
    split at h
    · cases h
      exact .inl ⟨rfl, rfl⟩
    · cases h
  | ethereum | arbitrum =>
    simp only [extraOf, hc, bind_ok_iff, evmExtra_ok, pure_ok_iff] at h
    obtain ⟨evm, ⟨-, hpart⟩, rfl⟩ := h
    exact .inr ⟨by decide, evm.refund, hpart, rfl⟩
  | solana =>
    simp only [extraOf, hc, bind_ok_iff, exists_check_ok_iff, evmExtra_ok, pure_ok_iff] at h
    obtain ⟨-, evm, ⟨-, hpart⟩, rfl⟩ := h
    exact .inr ⟨by decide, evm.refund, hpart, rfl⟩
  | polkadot | assethub =>
    -- No vault swap starts there.
    simp [extraOf, hc] at h

theorem VaultSwapRequest.carriesAddresses {r : VaultSwapRequest}
    (h : VaultSwapRequest.ofIntent network i = .ok r) :
    CarriesAddresses network i (i.sentPolicies .parameterEncoding) r.params := by
  obtain ⟨-, hc, -, -, -, ⟨amount, p, -, hp, hextra⟩, hreq⟩ := ofIntent_ok.mp h
  have hsent : r.params.flatMap Json.refundAddresses =
      r.extra.refund?.toList.map fun part => Json.str part.refundAddress := by
    rw [hreq]
    simp [params, VaultSwapExtra.refundAddresses_toJson]
  refine ⟨⟨_, by rw [hreq]; rfl, SwapIntent.carries_destination hc⟩, ?_⟩
  rw [hsent, SwapIntent.sentPolicies]
  rcases refund?_of_extraOf hextra with ⟨hbitcoin, hnone⟩ | ⟨hother, part, hpart, hsome⟩
  · rw [if_pos hbitcoin, hnone]
    exact .nil
  · rw [if_neg hother, hsome, hp]
    exact .cons ⟨_, rfl, SwapIntent.carries_refund hc hp hpart⟩ .nil

theorem Request.carriesAddresses {account : Option String} {method : Method} {r : Request}
    (h : Request.ofIntent network account i method = .ok r) :
    ∃ params, r.call.params = method.front account ++ params ∧
      CarriesAddresses network i (i.sentPolicies method) params := by
  obtain ⟨base, hbase, hparams⟩ := exists_params_of_ofIntent h
  refine ⟨base.call.params, hparams, ?_⟩
  cases method with
  | depositAddress =>
    simp only [ofIntent, bind_ok_iff, pure_ok_iff] at hbase
    obtain ⟨d, hd, rfl⟩ := hbase
    exact DepositRequest.carriesAddresses hd
  | parameterEncoding =>
    simp only [ofIntent, bind_ok_iff, pure_ok_iff] at hbase
    obtain ⟨v, hv, rfl⟩ := hbase
    exact VaultSwapRequest.carriesAddresses hv
  | cfParameters =>
    simp only [ofIntent, bind_ok_iff, pure_ok_iff] at hbase
    obtain ⟨c, hcf, rfl⟩ := hbase
    exact CfParametersRequest.carriesAddresses hcf

-- ---------------------------------------------------------------------------
-- Accounts of the Polkadot family
-- ---------------------------------------------------------------------------

/-- What is sent for an accepted address: the hex form of its account id, which is accepted
everywhere, is sent as it is, and tells the account from all others. -/
structure SurvivesSending (chain : Chain) (address : String) : Prop where
  account : ∃ id, Ss58.account? address = some id ∧
    Ss58.IsHexFormOf id (chain.wireAddress address)
  anywhere : ∀ network : Network, chain.checkAddress network (chain.wireAddress address) = .ok ()
  again : chain.wireAddress (chain.wireAddress address) = chain.wireAddress address
  identifies : ∀ (network : Network) (other : String), chain.checkAddress network other = .ok () →
    (chain.wireAddress address = chain.wireAddress other ↔
      Ss58.account? address = Ss58.account? other)

theorem Ss58.IsHexFormOf.inj {id id' : Bytes} {s : String} (h : IsHexFormOf id s)
    (h' : IsHexFormOf id' s) : id = id' :=
  Option.some.inj (h.account?_eq.symm.trans h'.account?_eq)

theorem SurvivesSending.of_check {chain : Chain} {address : String}
    (hf : chain.addressFormat = .polkadot) (h : chain.checkAddress network address = .ok ()) :
    SurvivesSending chain address := by
  have form : ∀ {network : Network} {a : String}, chain.checkAddress network a = .ok () →
      ∃ id, Ss58.account? a = some id ∧ Ss58.IsHexFormOf id (chain.wireAddress a) := by
    intro network a ha
    rw [Chain.checkAddress_polkadot hf] at ha
    rw [Chain.wireAddress_polkadot hf]
    exact Ss58.exists_account_of_check ha
  obtain ⟨id, hid, hform⟩ := form h
  refine ⟨⟨id, hid, hform⟩, fun other => ?_, ?_, fun other b hb => ?_⟩
  · rw [Chain.checkAddress_polkadot hf]
    exact Ss58.check_of_hex hform.isHexAccount
  · rw [Chain.wireAddress_polkadot hf (chain.wireAddress address), hform.wireText_eq]
  · obtain ⟨id', hid', hform'⟩ := form hb
    rw [hid, hid', Option.some.injEq]
    constructor
    · intro hsame
      rw [hsame] at hform
      exact hform.inj hform'
    · rintro rfl
      rw [(Ss58.isHexFormOf_iff hform.size).mp hform, ← (Ss58.isHexFormOf_iff hform.size).mp hform']

/-- An accepted address of the Polkadot family is sent as its account id, and so every request that
can be made carries valid addresses of the accounts that its intent names. -/
theorem accounts_survive_sending (network : Network) :
    (∀ chain ∈ [Chain.polkadot, .assethub], ∀ address,
      chain.checkAddress network address = .ok () → SurvivesSending chain address) ∧
    ∀ account i method r, Request.ofIntent network account i method = .ok r →
      ∃ params, r.call.params = method.front account ++ params ∧
        CarriesAddresses network i (i.sentPolicies method) params := by
  refine ⟨fun chain hchain address h => ?_, fun account i method r h => ?_⟩
  · have hf : chain.addressFormat = .polkadot := by
      simp only [List.mem_cons, List.not_mem_nil, or_false] at hchain
      rcases hchain with rfl | rfl <;> rfl
    exact .of_check hf h
  · exact Request.carriesAddresses h

def hubForDot : SwapIntent where
  src := .hubUsdc
  dest := .dot
  destAddress := "5GrwvaEF5zXb26Fz9rcQpDWS57CtERHpNehXCPcNoHGKutQY"
  fillOrKill := some ⟨500, "0xD43593C715FDD31C61141ABD04A99FD6822C8558854CCDE39A5684E7A56DA27D",
    "0.15", none, none⟩

theorem accounts_survive_sending_hubForDot :
    Chain.polkadot.checkAddress .perseverance hubForDot.destAddress = .ok () ∧
      SurvivesSending .polkadot hubForDot.destAddress ∧
      ∃ r, Request.ofIntent .perseverance none hubForDot .cfParameters = .ok r ∧
        CarriesAddresses .perseverance hubForDot hubForDot.fillOrKill.toList r.call.params := by
  have hcheck : Chain.polkadot.checkAddress .perseverance hubForDot.destAddress = .ok () := by
    decide +kernel
  obtain ⟨r, hr⟩ : ∃ r, Request.ofIntent .perseverance none hubForDot .cfParameters = .ok r :=
    exists_ok_of_isSome (by decide +kernel)
  obtain ⟨hsurvives, hcarries⟩ := accounts_survive_sending .perseverance
  obtain ⟨params, hparams, hcarried⟩ := hcarries none hubForDot .cfParameters r hr
  have hsame : r.call.params = params := hparams
  refine ⟨hcheck, hsurvives .polkadot (by decide) _ hcheck, r, hr, ?_⟩
  rw [hsame]
  exact hcarried

end SwapBroker
