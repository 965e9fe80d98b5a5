import SwapBroker.Proofs.Precedence
import SwapBroker.Proofs.RequestRouting

/-!
# Which address an error blames

An intent supplies its addresses in one order: the destination, the source, the address of refunds and
the accounts of the affiliates. An invalid address is reported of the first that is invalid, with what
it was supplied for and what its format has against it, and nothing but the route is judged before.
-/

namespace SwapBroker

open Outcome

-- ---------------------------------------------------------------------------
-- Supplied addresses
-- ---------------------------------------------------------------------------

structure SuppliedAddress where
  place : AddressPlace
  role : Role
  address : String
deriving DecidableEq, Repr

namespace SuppliedAddress

def check (network : Network) (s : SuppliedAddress) : Except RequestError Unit :=
  checkAddress network s.place s.role s.address

def Valid (network : Network) (s : SuppliedAddress) : Prop :=
  s.place.format.check network s.address = .ok ()

instance (network : Network) (s : SuppliedAddress) : Decidable (s.Valid network) :=
  inferInstanceAs (Decidable (_ = _))

theorem check_ok {network : Network} {s : SuppliedAddress} :
    s.check network = .ok () ↔ s.Valid network :=
  checkAddress_ok

end SuppliedAddress

def InvalidAddress.supplied (e : InvalidAddress) : SuppliedAddress :=
  ⟨e.place, e.role, e.address⟩

/-- The error is about the first address that is not valid, and says what its format has against it. -/
def BlamesFirst (network : Network) (l : List SuppliedAddress) (e : InvalidAddress) : Prop :=
  ∃ before after, l = before ++ e.supplied :: after ∧ (∀ s ∈ before, s.Valid network) ∧
    e.place.format.check network e.address = .error e.reason

theorem SuppliedAddress.check_error_iff {network : Network} {s : SuppliedAddress}
    {e : InvalidAddress} :
    s.check network = .error (.invalidAddress e) ↔
      s = e.supplied ∧ e.place.format.check network e.address = .error e.reason := by
  obtain ⟨place, role, address⟩ := s
  obtain ⟨place', role', address', reason⟩ := e
  simp only [check, checkAddress, mapError_error_iff, AddressPlace.validate,
    InvalidAddress.supplied, mk.injEq]
  constructor
  · rintro ⟨cause, hcause, ⟨⟩⟩
    split at hcause
    next => cases hcause
    next hformat =>
      cases hcause
      exact ⟨⟨rfl, rfl, rfl⟩, hformat⟩
  · rintro ⟨⟨rfl, rfl, rfl⟩, hformat⟩
    exact ⟨_, by rw [hformat], rfl⟩

theorem forM_check_error_iff {network : Network} {l : List SuppliedAddress} {e : InvalidAddress} :
    forM l (SuppliedAddress.check network) = .error (.invalidAddress e) ↔
      BlamesFirst network l e := by
  rw [forM_error_iff]
  simp only [SuppliedAddress.check_ok, SuppliedAddress.check_error_iff, BlamesFirst]
  constructor
  · rintro ⟨before, s, after, hl, hbefore, rfl, hreason⟩
    exact ⟨before, after, hl, hbefore, hreason⟩
  · rintro ⟨before, after, hl, hbefore, hreason⟩
    exact ⟨before, e.supplied, after, hl, hbefore, rfl, hreason⟩

namespace BlamesFirst

variable {network : Network} {l l' : List SuppliedAddress} {e : InvalidAddress}

theorem append (h : BlamesFirst network l e) (l' : List SuppliedAddress) :
    BlamesFirst network (l ++ l') e := by
  obtain ⟨before, after, rfl, hbefore, hreason⟩ := h
  exact ⟨before, after ++ l', by simp, hbefore, hreason⟩

theorem append_valid (hl : ∀ s ∈ l, s.Valid network) (h : BlamesFirst network l' e) :
    BlamesFirst network (l ++ l') e := by
  obtain ⟨before, after, rfl, hbefore, hreason⟩ := h
  refine ⟨l ++ before, after, by simp, fun s hs => ?_, hreason⟩
  exact (List.mem_append.mp hs).elim (hl s) (hbefore s)

theorem exists_of_invalid (h : ∃ s ∈ l, ¬ s.Valid network) : ∃ e, BlamesFirst network l e := by
  induction l with
  | nil => simp at h
  | cons s l ih =>
    by_cases hs : s.Valid network
    · obtain ⟨e, he⟩ := ih (by simpa [hs] using h)
      exact ⟨e, he.append_valid (l := [s]) (by simpa using hs)⟩
    · cases hformat : s.place.format.check network s.address with
      | ok u => exact absurd hformat hs
      | error reason =>
        exact ⟨⟨s.place, s.role, s.address, reason⟩, [], l, rfl, by simp, hformat⟩

end BlamesFirst

-- ---------------------------------------------------------------------------
-- The addresses of an intent
-- ---------------------------------------------------------------------------

namespace SwapIntent

variable {network : Network} {i : SwapIntent} {e : InvalidAddress}

/-- The addresses of an intent, in the order in which they are judged. -/
def suppliedAddresses (i : SwapIntent) : List SuppliedAddress :=
  ⟨.on i.dest.chain, .destination, i.destAddress⟩ ::
    ((i.srcAddress.map fun a => ⟨.on i.src.chain, .source, a⟩).toList ++
      ((i.fillOrKill.map fun f => ⟨.on i.src.chain, .refund, f.refundAddress⟩).toList ++
        (i.affiliates.getD []).map fun a => ⟨.protocol, .affiliate, a.account⟩))

theorem checkPresent_eq_forM {α : Type} (supplied : α → SuppliedAddress) (value : Option α) :
    checkPresent (fun a => (supplied a).check network) value =
      forM (value.map supplied).toList (SuppliedAddress.check network) := by
  cases value with
  | none => rfl
  | some a => exact (bind_pure_unit (m := Except RequestError)).symm

theorem checkAccounts_eq_forM (affiliates : List Affiliate) :
    checkAccounts network affiliates =
      forM (affiliates.map fun a => ⟨.protocol, .affiliate, a.account⟩)
        (SuppliedAddress.check network) := by
  induction affiliates with
  | nil => rfl
  | cons a rest ih => rw [checkAccounts, ih, List.map_cons, List.forM_cons]; rfl

theorem checkAddresses_eq_forM :
    i.checkAddresses network = forM i.suppliedAddresses (SuppliedAddress.check network) := by
  simp only [suppliedAddresses, List.forM_cons, List.forM_append, ← checkPresent_eq_forM,
    ← checkAccounts_eq_forM]
  rfl

theorem checkAddresses_error_iff :
    i.checkAddresses network = .error (.invalidAddress e) ↔
      BlamesFirst network i.suppliedAddresses e := by
  rw [checkAddresses_eq_forM, forM_check_error_iff]

end SwapIntent

-- ---------------------------------------------------------------------------
-- Steps that judge no address
-- ---------------------------------------------------------------------------

def Stage.judgesAddress : Stage → Bool
  | .destination | .source | .refund | .affiliates | .brokerAccount => true
  | _ => false

theorem Role.judgesAddress_stage (role : Role) : role.stage.judgesAddress = true := by
  cases role <;> rfl

/-- No error of an outcome is about an address. -/
def BlamesNone {α : Type} (x : Except RequestError α) : Prop :=
  ∀ e, x ≠ .error (.invalidAddress e)

namespace BlamesNone

variable {α β : Type} {x : Except RequestError α} {s : Stage}

theorem ok (a : α) : BlamesNone (.ok a) :=
  fun _ h => nomatch h

theorem of_failsAt (h : FailsAt x s) (hs : s.judgesAddress = false) : BlamesNone x := by
  refine fun e => h.ne fun (hrole : e.role.stage = s) => ?_
  rw [← hrole, e.role.judgesAddress_stage] at hs
  cases hs

theorem of_decidedBy (cs : List Condition)
    (hcs : (cs.map (·.stage)).all (! ·.judgesAddress) = true) (h : DecidedBy x cs) :
    BlamesNone x := by
  refine fun e => h.ne fun c hc (hrole : c.stage = e.role.stage) => ?_
  have hnone := List.all_eq_true.mp hcs c.stage (List.mem_map_of_mem hc)
  rw [hrole, e.role.judgesAddress_stage] at hnone
  cases hnone

theorem bind {f : α → Except RequestError β} (hx : BlamesNone x)
    (hf : ∀ a, x = .ok a → BlamesNone (f a)) : BlamesNone (x >>= f) := by
  intro e h
  obtain h | ⟨a, ha, h⟩ := bind_error_iff.mp h
  · exact hx e h
  · exact hf a ha e h

/-- Steps that blame no address leave the blame of those before them. -/
theorem bind_error_iff_left {f : α → Except RequestError β} {e : InvalidAddress}
    (hf : ∀ a, x = .ok a → BlamesNone (f a)) :
    x >>= f = .error (.invalidAddress e) ↔ x = .error (.invalidAddress e) := by
  rw [bind_error_iff]
  exact or_iff_left fun ⟨a, ha, h⟩ => hf a ha e h

theorem bind_error_iff_right {f : α → Except RequestError β} {e : InvalidAddress}
    (hx : BlamesNone x) :
    x >>= f = .error (.invalidAddress e) ↔ ∃ a, x = .ok a ∧ f a = .error (.invalidAddress e) := by
  rw [bind_error_iff]
  exact or_iff_right (hx e)

theorem checkFees {field : String} {bps : Option UInt16} :
    BlamesNone (checkPresent (checkBps field) bps) := by
  refine .of_failsAt (.checkPresent fun _ => failsAt_checkBps) ?_
  split <;> rfl

end BlamesNone

-- ---------------------------------------------------------------------------
-- The address that a request blames
-- ---------------------------------------------------------------------------

namespace SwapIntent

variable {network : Network} {i : SwapIntent} {e : InvalidAddress}

theorem check_error_iff :
    i.check network = .error (.invalidAddress e) ↔
      (i.src ≠ i.dest ∧ ¬ MovesDot i.src i.dest) ∧ BlamesFirst network i.suppliedAddresses e := by
  rw [check, BlamesNone.bind_error_iff_right (.of_failsAt failsAt_checkRoute rfl),
    exists_check_ok_iff, checkRoute_ok, BlamesNone.bind_error_iff_left, checkAddresses_error_iff]
  refine fun _ _ => .bind .checkFees fun _ _ => .bind .checkFees fun _ _ => ?_
  exact .of_failsAt (.ite (.error (s := .coupling) rfl) (.ok ())) rfl

theorem suppliedAddresses_valid (h : i.check network = .ok ()) :
    ∀ s ∈ i.suppliedAddresses, s.Valid network := by
  obtain ⟨-, hvalid, -⟩ := check_ok.mp h
  rw [checkAddresses_eq_forM, forM_ok_iff] at hvalid
  exact fun s hs => SuppliedAddress.check_ok.mp (hvalid s hs)

end SwapIntent

/-- An outcome is that of the shared checks of an intent, and the steps behind them blame no
address. -/
def ChecksFirst {α : Type} (network : Network) (i : SwapIntent) (x : Except RequestError α) : Prop :=
  ∃ rest : Unit → Except RequestError α, x = i.check network >>= rest ∧ BlamesNone (rest ())

namespace ChecksFirst

variable {α β : Type} {network : Network} {i : SwapIntent} {x : Except RequestError α}

theorem bind {f : α → Except RequestError β} (hx : ChecksFirst network i x)
    (hf : ∀ a, BlamesNone (f a)) : ChecksFirst network i (x >>= f) := by
  obtain ⟨rest, rfl, hrest⟩ := hx
  exact ⟨fun u => rest u >>= f, bind_assoc .., hrest.bind fun a _ => hf a⟩

theorem error_iff {e : InvalidAddress} (hx : ChecksFirst network i x) :
    x = .error (.invalidAddress e) ↔
      (i.src ≠ i.dest ∧ ¬ MovesDot i.src i.dest) ∧ BlamesFirst network i.suppliedAddresses e := by
  obtain ⟨rest, rfl, hrest⟩ := hx
  rw [BlamesNone.bind_error_iff_left fun _ _ => hrest, SwapIntent.check_error_iff]

theorem suppliedAddresses_valid {a : α} (hx : ChecksFirst network i x) (h : x = .ok a) :
    ∀ s ∈ i.suppliedAddresses, s.Valid network := by
  obtain ⟨rest, rfl, -⟩ := hx
  obtain ⟨_, hcheck, -⟩ := bind_ok_iff.mp h
  exact SwapIntent.suppliedAddresses_valid hcheck

theorem encodeParts : ChecksFirst network i (i.encodeParts network) := by
  refine ⟨_, rfl, .of_decidedBy
    (i.partConditions ++ FillOrKillParams.conditions i.src i.dest i.fillOrKill) rfl ?_⟩
  exact SwapIntent.decidedBy_parts fun _ _ _ =>
    .last RefundPart.decidedBy_encodePresent fun _ => ⟨_, rfl⟩

theorem vaultSwap (hvault : VaultSwapRequest.hasVault i.src.chain = true) :
    ChecksFirst network i (VaultSwapRequest.ofIntent network i) := by
  simp only [VaultSwapRequest.ofIntent, hvault]
  refine ⟨_, rfl, .bind (.of_failsAt VaultSwapRequest.failsAt_amountOf rfl) fun amount ham =>
    .bind (.of_failsAt VaultSwapRequest.failsAt_fillOrKillOf rfl) fun p hp =>
    .of_decidedBy (i.partConditions ++ i.extraConditions) ?_ ?_⟩
  · unfold SwapIntent.extraConditions
    cases i.src.chain <;> rfl
  · obtain ⟨text, htext, hamount⟩ := VaultSwapRequest.amountOf_ok.mp ham
    have hextra := VaultSwapRequest.decidedBy_extraOf hvault htext hamount
      (VaultSwapRequest.fillOrKillOf_ok.mp hp)
    exact SwapIntent.decidedBy_parts fun _ _ _ => .last hextra fun _ => ⟨_, rfl⟩

end ChecksFirst

-- ---------------------------------------------------------------------------
-- The three methods
-- ---------------------------------------------------------------------------

structure SwapIntent.Routed (i : SwapIntent) (method : Method) : Prop where
  vault : method = .parameterEncoding → VaultSwapRequest.hasVault i.src.chain = true
  assets : i.src ≠ i.dest ∧ ¬ MovesDot i.src i.dest

def Method.suppliedAddresses (account : Option String) : Method → List SuppliedAddress
  | .depositAddress => []
  | .parameterEncoding | .cfParameters =>
    (account.map fun a => ⟨.protocol, .brokerAccount, a⟩).toList

namespace Request

variable {network : Network} {account : Option String} {i : SwapIntent} {method : Method}
  {e : InvalidAddress}

theorem checksFirst_ofIntent
    (h : method = .parameterEncoding → VaultSwapRequest.hasVault i.src.chain = true) :
    ChecksFirst network i (ofIntent network none i method) := by
  cases method with
  | depositAddress | cfParameters =>
    simp only [ofIntent, DepositRequest.ofIntent_eq, CfParametersRequest.ofIntent_eq,
      map_eq_pure_bind, bind_assoc, pure_bind]
    exact ChecksFirst.encodeParts.bind fun _ => .ok _
  | parameterEncoding => exact (ChecksFirst.vaultSwap (h rfl)).bind fun _ => .ok _

theorem ofIntent_none_blames_iff :
    ofIntent network none i method = .error (.invalidAddress e) ↔
      i.Routed method ∧ BlamesFirst network i.suppliedAddresses e := by
  by_cases h : method = .parameterEncoding → VaultSwapRequest.hasVault i.src.chain = true
  · rw [(checksFirst_ofIntent h).error_iff]
    exact and_congr_left' ⟨fun hassets => ⟨h, hassets⟩, fun hrouted => hrouted.assets⟩
  · obtain ⟨rfl, hvault⟩ := Classical.not_imp.mp h
    have hrefused : ofIntent network none i .parameterEncoding =
        .error (VaultSwapRequest.noEncoding i.src i.dest) := by
      simp only [ofIntent, VaultSwapRequest.ofIntent, Bool.eq_false_of_not_eq_true hvault]
      rfl
    rw [hrefused]
    refine iff_of_false (by rintro ⟨⟩) ?_
    rintro ⟨hrouted, -⟩
    exact hvault (hrouted.vault rfl)

/-- An account is checked last. -/
theorem ofIntent_eq_bind :
    ofIntent network account i method = do
      let r ← ofIntent network none i method
      forM (method.suppliedAddresses account) (SuppliedAddress.check network)
      return account.elim r (onBehalf · r) := by
  cases method with
  | depositAddress | parameterEncoding | cfParameters =>
    simp only [ofIntent, VaultSwapRequest.withAccount, CfParametersRequest.withAccount,
      Method.suppliedAddresses, ← SwapIntent.checkPresent_eq_forM, bind_assoc, pure_bind]
    cases account <;> rfl

theorem ofIntent_blames_iff :
    ofIntent network account i method = .error (.invalidAddress e) ↔
      (i.Routed method ∧ BlamesFirst network i.suppliedAddresses e) ∨
      (∃ r, ofIntent network none i method = .ok r) ∧
        BlamesFirst network (method.suppliedAddresses account) e := by
  have haccount : ∀ r : Request,
      (do
        forM (method.suppliedAddresses account) (SuppliedAddress.check network)
        return account.elim r (onBehalf · r)) = .error (.invalidAddress e) ↔
      BlamesFirst network (method.suppliedAddresses account) e :=
    fun _ => (BlamesNone.bind_error_iff_left fun _ _ => .ok _).trans forM_check_error_iff
  rw [ofIntent_eq_bind, bind_error_iff, ofIntent_none_blames_iff]
  simp only [haccount, exists_and_right]

theorem suppliedAddresses_valid {r : Request} (h : ofIntent network none i method = .ok r) :
    ∀ s ∈ i.suppliedAddresses, s.Valid network := by
  refine (checksFirst_ofIntent fun hmethod => ?_).suppliedAddresses_valid h
  subst hmethod
  obtain ⟨v, hv, -⟩ := bind_ok_iff.mp h
  exact (VaultSwapRequest.ofIntent_ok.mp hv).1

end Request

/-- An error of an address is about the first invalid one among the addresses of the intent, behind
which an account comes, and its text names the role and the place and ends with the reason. A single
invalid address of the intent is enough for such an error, whatever else is wrong with an intent whose
route is allowed. -/
theorem invalid_address_blames_first (network : Network) (account : Option String) (i : SwapIntent)
    (method : Method) :
    (∀ e, Request.ofIntent network account i method = .error (.invalidAddress e) →
      BlamesFirst network (i.suppliedAddresses ++ method.suppliedAddresses account) e ∧
        ∃ shown, (RequestError.invalidAddress e).message =
          "Invalid " ++ e.role.name ++ " address " ++ shown ++ " for " ++ e.place.name ++ ": " ++
            e.reason.message) ∧
    (i.Routed method → (∃ s ∈ i.suppliedAddresses, ¬ s.Valid network) →
      ∃ e, BlamesFirst network i.suppliedAddresses e ∧
        Request.ofIntent network account i method = .error (.invalidAddress e)) := by
  refine ⟨fun e he => ⟨?_, Text.quoted e.address, rfl⟩, fun hrouted hinvalid => ?_⟩
  · obtain ⟨-, hfirst⟩ | ⟨⟨r, hr⟩, hfirst⟩ := Request.ofIntent_blames_iff.mp he
    · exact hfirst.append _
    · exact hfirst.append_valid (Request.suppliedAddresses_valid hr)
  · obtain ⟨e, hfirst⟩ := BlamesFirst.exists_of_invalid hinvalid
    exact ⟨e, hfirst, Request.ofIntent_blames_iff.mpr (.inl ⟨hrouted, hfirst⟩)⟩

def chunksFromShortAddress : SwapIntent where
  src := .eth
  dest := .arbUsdc
  destAddress := "0x02679b10f7b94fc4f273569cc2e5c49eefa5c0f1"
  srcAddress := some "0x02679b10f7b94fc4f273569cc2e5c49eefa5c0"
  amount := some "1000000000000000000"
  commission := some 10001
  affiliates := some [⟨"0x1cf326c5aaa5af9f0e2791e66310fe8f044faadaf12567eaa0976959d1f773", 10⟩]
  dca := some ⟨100, 5⟩

/-- Neither the affiliate nor the account is blamed, though both are invalid. -/
theorem invalid_address_blames_first_chunksFromShortAddress :
    (∃ s ∈ chunksFromShortAddress.suppliedAddresses, s.role = .affiliate ∧ ¬ s.Valid .mainnet) ∧
      ∃ e, Request.ofIntent .mainnet (some "0x00") chunksFromShortAddress .parameterEncoding =
          .error (.invalidAddress e) ∧ e.role = .source ∧
        BlamesFirst .mainnet (chunksFromShortAddress.suppliedAddresses ++
          Method.parameterEncoding.suppliedAddresses (some "0x00")) e := by
  have haffiliate : ∃ s ∈ chunksFromShortAddress.suppliedAddresses,
      s.role = .affiliate ∧ ¬ s.Valid .mainnet := by decide
  obtain ⟨s, hs, hrole, hinvalid⟩ := haffiliate
  obtain ⟨hfirst, hblamed⟩ :=
    invalid_address_blames_first .mainnet (some "0x00") chunksFromShortAddress .parameterEncoding
  obtain ⟨e, -, he⟩ := hblamed
    ⟨fun _ => rfl, by decide, by simp [MovesDot, chunksFromShortAddress]⟩ ⟨s, hs, hinvalid⟩
  have hsource : Request.ofIntent .mainnet (some "0x00") chunksFromShortAddress .parameterEncoding =
      .error (.invalidAddress ⟨.on .ethereum, .source,
        "0x02679b10f7b94fc4f273569cc2e5c49eefa5c0", _⟩) := rfl
  obtain ⟨hblamedFirst, -⟩ := hfirst e he
  cases hsource.symm.trans he
  exact ⟨⟨s, hs, hrole, hinvalid⟩, _, he, rfl, hblamedFirst⟩

end SwapBroker
