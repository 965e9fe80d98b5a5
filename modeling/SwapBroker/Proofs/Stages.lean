import SwapBroker.Proofs.Positions
import SwapBroker.Request.Basic

/-!
# In which order an intent is judged

An intent is judged in stages: its route, its addresses one after the other, the fees of the broker,
whether a refund policy is there if it is needed, all other numbers, the price, and what the amount
yields at that price. An outcome is decided by conditions, each of one stage.
-/

namespace SwapBroker

open Outcome

-- ---------------------------------------------------------------------------
-- Stages
-- ---------------------------------------------------------------------------

inductive Stage where
  | route
  | destination
  | source
  | refund
  | affiliates
  | fees
  /-- A swap in chunks has a refund policy. -/
  | coupling
  | amount
  /-- A vault swap has a refund policy. -/
  | policy
  /-- All other numbers. -/
  | numbers
  | price
  | output
  | brokerAccount
deriving DecidableEq, Repr

namespace Stage

def place : Stage → Nat
  | .route => 0
  | .destination => 1
  | .source => 2
  | .refund => 3
  | .affiliates => 4
  | .fees => 5
  | .coupling => 6
  | .amount => 7
  | .policy => 8
  | .numbers => 9
  | .price => 10
  | .output => 11
  | .brokerAccount => 12

/-- The place of a stage in the order that has all numbers before the policy. -/
def numbersFirst : Stage → Nat
  | .amount => 6
  | .numbers => 7
  | .coupling => 8
  | .policy => 9
  | s => s.place

/-- The two orders differ only in whether a policy or the numbers are looked at first. -/
theorem place_lt_of_numbersFirst {s t : Stage} (h : s.numbersFirst < t.numbersFirst) :
    s.place < t.place ∨ (s = .amount ∨ s = .numbers) ∧ (t = .coupling ∨ t = .policy) := by
  cases s <;> cases t <;> simp_all [numbersFirst, place]

end Stage

def Role.stage : Role → Stage
  | .destination => .destination
  | .source => .source
  | .refund => .refund
  | .affiliate => .affiliates
  | .brokerAccount => .brokerAccount

def feeFields : List String :=
  ["commissionBps", "maxBoostFeeBps"]

def RequestError.stage : RequestError → Stage
  | .unsupportedRoute .. => .route
  | .invalidAddress e => e.role.stage
  | .invalidParameter field (.bpsTooLarge _) => if field ∈ feeFields then .fees else .numbers
  | .invalidParameter field (.unreadable _) => if field = "amount" then .amount else .numbers
  | .invalidParameter _ .outputTooLarge => .output
  | .invalidParameter _ _ => .numbers
  | .missingField field => if field = "amount" then .amount else .policy
  | .invalidDca .withoutFillOrKill => .coupling
  | .invalidDca .noChunks => .numbers
  | .invalidPrice _ => .price

theorem bpsField_notMem_feeFields (index : Nat) : AffiliatePart.bpsField index ∉ feeFields := by
  have hhead : (AffiliatePart.bpsField index).toList.head? = some 'a' := by
    simp [AffiliatePart.bpsField]
  intro h
  obtain h | h : _ = "commissionBps" ∨ _ = "maxBoostFeeBps" := by simpa [feeFields] using h
  all_goals simp [h] at hhead

-- ---------------------------------------------------------------------------
-- Errors of one stage
-- ---------------------------------------------------------------------------

def FailsAt {α : Type} (x : Except RequestError α) (s : Stage) : Prop :=
  ∀ e, x = .error e → e.stage = s

namespace FailsAt

variable {α β : Type} {x : Except RequestError α} {s : Stage}

theorem ok (a : α) : FailsAt (.ok a) s :=
  fun _ h => nomatch h

theorem error {e : RequestError} (h : e.stage = s) :
    FailsAt (.error e : Except RequestError α) s := by
  rintro _ ⟨⟩
  exact h

theorem ite {p : Prop} [Decidable p] {y : Except RequestError α} (hx : FailsAt x s)
    (hy : FailsAt y s) : FailsAt (if p then x else y) s := by
  split
  · exact hx
  · exact hy

theorem ne {e : RequestError} (hx : FailsAt x s) (hs : e.stage ≠ s) : x ≠ .error e :=
  fun h => hs (hx e h)

theorem bind {f : α → Except RequestError β} (hx : FailsAt x s) (hf : ∀ a, FailsAt (f a) s) :
    FailsAt (x >>= f) s := by
  cases x with
  | ok a => exact hf a
  | error e => exact error (hx e rfl)

theorem map {f : α → β} (hx : FailsAt x s) : FailsAt (x.map f) s :=
  fun e h => hx e (map_error_iff.mp h)

theorem mapError {ε : Type} {y : Except ε α} {f : ε → RequestError} (hf : ∀ e, (f e).stage = s) :
    FailsAt (y.mapError f) s := by
  intro e h
  obtain ⟨cause, -, rfl⟩ := mapError_error_iff.mp h
  exact hf cause

theorem checkPresent {check : α → Except RequestError Unit} {value : Option α}
    (h : ∀ a, FailsAt (check a) s) : FailsAt (checkPresent check value) s := by
  cases value with
  | none => exact ok ()
  | some a => exact h a

theorem encodePresent {encode : α → Except RequestError β} {value : Option α}
    (h : ∀ a, FailsAt (encode a) s) : FailsAt (encodePresent encode value) s := by
  cases value with
  | none => exact ok none
  | some a => exact (h a).map

end FailsAt

theorem failsAt_checkRoute {src dest : Asset} : FailsAt (checkRoute src dest) .route := by
  refine .ite (.error rfl) ?_
  split
  · exact .error rfl
  · exact .error rfl
  · exact .ok ()

theorem failsAt_checkAddress {network : Network} {place : AddressPlace} {role : Role}
    {address : String} : FailsAt (checkAddress network place role address) role.stage := by
  intro e h
  obtain ⟨cause, hcause, rfl⟩ := mapError_error_iff.mp h
  unfold AddressPlace.validate at hcause
  split at hcause
  · cases hcause
  · cases hcause
    rfl

theorem failsAt_checkAccounts {network : Network} {affiliates : List Affiliate} :
    FailsAt (checkAccounts network affiliates) .affiliates := by
  induction affiliates with
  | nil => exact .ok ()
  | cons a rest ih => exact .bind failsAt_checkAddress fun _ => ih

theorem failsAt_checkBps {field : String} {bps : UInt16} :
    FailsAt (checkBps field bps) (if field ∈ feeFields then .fees else .numbers) :=
  .ite (.error rfl) (.ok ())

theorem DcaPart.failsAt_ofParams {p : DcaParams} : FailsAt (ofParams p) .numbers :=
  .ite (.error rfl) (.ok _)

theorem AffiliatePart.failsAt_ofAffiliates {affiliates : List Affiliate} :
    FailsAt (ofAffiliates affiliates) .numbers := by
  have hfrom : ∀ index, FailsAt (ofAffiliatesFrom index affiliates) .numbers := by
    induction affiliates with
    | nil => exact fun _ => .ok []
    | cons a rest ih =>
      intro index
      refine .bind ?_ fun _ => .bind (ih (index + 1)) fun _ => .ok _
      have hbps : FailsAt (checkBps (bpsField index) a.commission) _ := failsAt_checkBps
      rwa [if_neg (bpsField_notMem_feeFields index)] at hbps
  exact .ite (.error rfl) (hfrom 0)

namespace CcmPart

theorem failsAt_checkBytes {field value : String} {limit : Nat} :
    FailsAt (checkBytes field value limit) .numbers :=
  .ite (.error rfl) (.ite (.error rfl) (.ok ()))

theorem failsAt_ofParams {field : String} {p : CcmParams} :
    FailsAt (ofParams field p) .numbers := by
  have hfield : field ++ ".gasBudget" ≠ "amount" := by
    intro h
    have hlen : field.length + 10 = 6 :=
      (String.length_append ..).symm.trans (congrArg String.length h)
    omega
  exact .bind (.mapError fun _ => if_neg hfield) fun _ => .bind failsAt_checkBytes fun _ =>
    .bind (.checkPresent fun _ => failsAt_checkBytes) fun _ => .ok _

end CcmPart

namespace VaultSwapRequest

theorem failsAt_amountOf {i : SwapIntent} : FailsAt (amountOf i) .amount := by
  unfold amountOf
  split
  · exact .error rfl
  · exact .mapError fun _ => rfl

theorem failsAt_fillOrKillOf {i : SwapIntent} : FailsAt (fillOrKillOf i) .policy := by
  unfold fillOrKillOf
  split
  · exact .error rfl
  · exact .ok _

theorem failsAt_checkSeed {seed : String} : FailsAt (checkSeed seed) .numbers :=
  .ite (.ok ()) (.error rfl)

end VaultSwapRequest

-- ---------------------------------------------------------------------------
-- Conditions in their order
-- ---------------------------------------------------------------------------

structure Condition where
  stage : Stage
  holds : Prop

def Condition.Ordered (conditions : List Condition) : Prop :=
  (conditions.map (·.stage.place)).Pairwise (· ≤ ·)

def PassesAt (conditions : List Condition) (s : Stage) : Prop :=
  ∀ c ∈ conditions, c.stage = s → c.holds

/-- An outcome is decided by conditions in their order: they all hold if it is a success, and an
error belongs to the stage of the first that fails. -/
structure DecidedBy {α : Type} (x : Except RequestError α) (conditions : List Condition) :
    Prop where
  ok : ∀ a, x = .ok a → ∀ c ∈ conditions, c.holds
  error : ∀ e, x = .error e → ∃ before c after, conditions = before ++ c :: after ∧
    (∀ b ∈ before, b.holds) ∧ ¬ c.holds ∧ e.stage = c.stage

namespace DecidedBy

variable {α β : Type} {x : Except RequestError α} {cs ds : List Condition} {s : Stage} {p : Prop}

theorem of_ok (a : α) (h : ∀ c ∈ cs, c.holds) : DecidedBy (.ok a) cs where
  ok _ _ := h
  error _ he := nomatch he

theorem check (hok : (∃ a, x = .ok a) ↔ p) (herror : FailsAt x s) : DecidedBy x [⟨s, p⟩] where
  ok a h := by
    rintro c (_ | ⟨_, ⟨⟩⟩)
    exact hok.mp ⟨a, h⟩
  error e h := by
    refine ⟨[], ⟨s, p⟩, [], rfl, by simp, fun hp => ?_, herror e h⟩
    obtain ⟨a, ha⟩ := hok.mpr hp
    rw [h] at ha
    cases ha

theorem test {x : Except RequestError Unit} (hok : x = .ok () ↔ p) (herror : FailsAt x s) :
    DecidedBy x [⟨s, p⟩] :=
  check ⟨fun ⟨_, h⟩ => hok.mp h, fun h => ⟨(), hok.mpr h⟩⟩ herror

theorem bind {f : α → Except RequestError β} (hx : DecidedBy x cs)
    (hf : ∀ a, x = .ok a → DecidedBy (f a) ds) : DecidedBy (x >>= f) (cs ++ ds) := by
  cases h : x with
  | error e =>
    -- The rest is not run, and its conditions come after the one that fails.
    refine ⟨fun a ha => (nomatch ha), fun e' he => ?_⟩
    obtain rfl : e = e' := Except.error.inj he
    obtain ⟨before, c, after, hcs, hbefore, hc, hstage⟩ := hx.error e h
    exact ⟨before, c, after ++ ds, by rw [hcs]; simp, hbefore, hc, hstage⟩
  | ok a =>
    have hcs := hx.ok a h
    obtain ⟨hok, herror⟩ := hf a h
    refine ⟨fun b hb c hc => ?_, fun e he => ?_⟩
    · exact (List.mem_append.mp hc).elim (hcs c) (hok b hb c)
    · obtain ⟨before, c, after, hds, hbefore, hc, hstage⟩ := herror e he
      refine ⟨cs ++ before, c, after, by rw [hds]; simp, fun b hb => ?_, hc, hstage⟩
      exact (List.mem_append.mp hb).elim (hcs b) (hbefore b)

theorem cons {c : Condition} {f : α → Except RequestError β} (hx : DecidedBy x [c])
    (hf : ∀ a, x = .ok a → DecidedBy (f a) ds) : DecidedBy (x >>= f) (c :: ds) :=
  hx.bind hf

theorem last {f : α → Except RequestError β} (hx : DecidedBy x cs)
    (hf : ∀ a, ∃ b, f a = .ok b) : DecidedBy (x >>= f) cs := by
  rw [← List.append_nil cs]
  refine hx.bind fun a _ => ?_
  obtain ⟨b, hb⟩ := hf a
  rw [hb]
  exact of_ok b (by simp)

theorem guard {q : Prop} [Decidable p] {e : RequestError} {f : α → Except RequestError β}
    {rest : Except RequestError β} (hs : e.stage = s) (hpq : ¬ p ↔ q)
    (hrest : q → DecidedBy rest cs) :
    DecidedBy (if p then throw e >>= f else rest) (⟨s, q⟩ :: cs) := by
  by_cases hp : p
  · rw [if_pos hp]
    refine ⟨fun a ha => (nomatch ha), fun e' he => ?_⟩
    obtain rfl : e = e' := Except.error.inj he
    exact ⟨[], _, cs, rfl, by simp, fun hq => hpq.mpr hq hp, hs⟩
  · rw [if_neg hp]
    have hq := hpq.mp hp
    obtain ⟨hok, herror⟩ := hrest hq
    refine ⟨fun a ha => List.forall_mem_cons.mpr ⟨hq, hok a ha⟩, fun e' he => ?_⟩
    obtain ⟨before, c, after, rfl, hbefore, hc, hstage⟩ := herror e' he
    exact ⟨_ :: before, c, after, rfl, List.forall_mem_cons.mpr ⟨hq, hbefore⟩, hc, hstage⟩

theorem ne {e : RequestError} (h : DecidedBy x cs) (hcs : ∀ c ∈ cs, c.stage ≠ e.stage) :
    x ≠ .error e := by
  intro hx
  obtain ⟨before, c, after, rfl, -, -, hstage⟩ := h.error e hx
  exact hcs c (by simp) hstage.symm

theorem exists_ok_iff (h : DecidedBy x cs) : (∃ a, x = .ok a) ↔ ∀ t, PassesAt cs t := by
  constructor
  · rintro ⟨a, ha⟩ t c hmem -
    exact h.ok a ha c hmem
  · intro hpasses
    cases hx : x with
    | ok a => exact ⟨a, rfl⟩
    | error e =>
      obtain ⟨before, c, after, rfl, -, hc, -⟩ := h.error e hx
      exact absurd (hpasses c.stage c (by simp) rfl) hc

/-- Where the conditions are ordered, an error belongs to the first stage that is not passed. -/
theorem error_at_first {e : RequestError} (h : DecidedBy x cs) (hcs : Condition.Ordered cs)
    (he : x = .error e) :
    ¬ PassesAt cs e.stage ∧ ∀ t : Stage, t.place < e.stage.place → PassesAt cs t := by
  obtain ⟨before, c, after, rfl, hbefore, hc, hstage⟩ := h.error e he
  rw [hstage]
  refine ⟨fun hpasses => hc (hpasses c (by simp) rfl), fun t ht d hmem hd => ?_⟩
  obtain hmem | rfl | hmem : d ∈ before ∨ d = c ∨ d ∈ after := by simpa using hmem
  · exact hbefore d hmem
  · rw [hd] at ht
    exact absurd ht (Nat.lt_irrefl _)
  · -- A condition after the failing one is of no earlier stage.
    rw [Condition.Ordered, List.map_append, List.map_cons, List.pairwise_append,
      List.pairwise_cons] at hcs
    have hle := hcs.2.1.1 d.stage.place (List.mem_map_of_mem hmem)
    rw [hd] at hle
    omega

end DecidedBy

end SwapBroker
