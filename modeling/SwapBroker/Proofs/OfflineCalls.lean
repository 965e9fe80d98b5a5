import SwapBroker.CommandLine.Run
import SwapBroker.Proofs.RequestRouting
import SwapBroker.Proofs.Transcript

/-!
# Calls made offline

The command line shows the call of a method without sending it. It is the call that a client of the
same network and account sends, although a client checks the account when it is made, and the
command line only after the intent.
-/

namespace SwapBroker

open Outcome

variable {network : Network} {account : Option String} {method : Method} {i : SwapIntent}

-- ---------------------------------------------------------------------------
-- Requests without an account
-- ---------------------------------------------------------------------------

/-- Why no request of a method is assembled, before there is an account to put in front of it. -/
def SwapIntent.Unassembled (network : Network) (i : SwapIntent) (e : RequestError) : Method → Prop
  | .depositAddress => DepositRequest.ofIntent network i = .error e
  | .parameterEncoding => VaultSwapRequest.ofIntent network i = .error e
  | .cfParameters => CfParametersRequest.ofIntent network i = .error e

theorem Request.ofIntent_none_error_iff {e : RequestError} :
    ofIntent network none i method = .error e ↔ i.Unassembled network e method := by
  cases method <;> exact map_error_iff

-- ---------------------------------------------------------------------------
-- Clients that were made
-- ---------------------------------------------------------------------------

theorem AddressPlace.validate_ok {place : AddressPlace} {role : Role} {address : String} :
    place.validate network role address = .ok () ↔ place.format.check network address = .ok () := by
  rw [validate]
  cases place.format.check network address <;> simp

namespace Client

variable {c : Client}

theorem make_ok :
    make network account = .ok c ↔
      (∀ a ∈ account, AddressFormat.account.check network a = .ok ()) ∧ c = ⟨network, account⟩ := by
  cases account with
  | none => simp [make, eq_comm]
  | some a =>
    simp only [make, bind_ok_iff, exists_check_ok_iff, pure_ok_iff, AddressPlace.validate_ok,
      AddressPlace.format, Option.mem_some_iff, forall_eq']
    rw [eq_comm (b := c)]

/-- The account of a client changes which requests it makes, and never whether it makes one. -/
structure Routes (c : Client) : Prop where
  vaultSwap : ∀ a ∈ c.account, ∀ r : VaultSwapRequest,
    r.withAccount c.network a = .ok { r with account := some a }
  cfParameters : ∀ a ∈ c.account, ∀ r : CfParametersRequest,
    r.withAccount c.network a = .ok { r with account := some a }
  refused_iff : ∀ method i e, c.request method i = .error e ↔ i.Unassembled c.network e method
  deposit : ∀ {m : Type → Type} [Monad m] (transport : Call → m (Except TransportError Json)) i,
    c.run transport .depositAddress i =
      (⟨c.network, none⟩ : Client).run transport .depositAddress i

theorem request_error_iff (h : make network account = .ok c) {e : RequestError} :
    c.request method i = .error e ↔ i.Unassembled network e method := by
  obtain ⟨hvalid, rfl⟩ := make_ok.mp h
  cases account with
  | none => exact Request.ofIntent_none_error_iff
  | some a =>
    rw [request, Request.ofIntent_valid (hvalid a rfl), map_error_iff]
    exact Request.ofIntent_none_error_iff

theorem routes_of_make (h : make network account = .ok c) : c.Routes where
  vaultSwap a ha r := by
    obtain ⟨hvalid, rfl⟩ := make_ok.mp h
    exact VaultSwapRequest.withAccount_ok (hvalid a ha)
  cfParameters a ha r := by
    obtain ⟨hvalid, rfl⟩ := make_ok.mp h
    exact CfParametersRequest.withAccount_ok (hvalid a ha)
  refused_iff method i e := by
    obtain ⟨-, rfl⟩ := make_ok.mp h
    exact request_error_iff h
  deposit transport i := rfl

end Client

-- ---------------------------------------------------------------------------
-- The same calls
-- ---------------------------------------------------------------------------

namespace CommandLine

def GoesWith (method : Method) (account : Option String) : Prop :=
  method = .depositAddress → account = none

theorem encode_of_goesWith (h : GoesWith method account) :
    encode network account method i =
      ((Request.ofIntent network account i method).mapError .request).map Request.call := by
  have hused : ¬ (method = .depositAddress ∧ account.isSome) := by
    rintro ⟨hmethod, hsome⟩
    rw [h hmethod] at hsome
    exact nomatch hsome
  rw [encode, if_neg hused]
  rfl

theorem encode_ok (h : GoesWith method account) {call : Call} :
    encode network account method i = .ok call ↔
      ∃ r, Request.ofIntent network account i method = .ok r ∧ r.call = call := by
  simp only [encode_of_goesWith h, map_ok_iff, mapError_ok_iff]

theorem encode_error (h : GoesWith method account) {e : TaskError} :
    encode network account method i = .error e ↔
      ∃ e', Request.ofIntent network account i method = .error e' ∧ .request e' = e := by
  simp only [encode_of_goesWith h, map_error_iff, mapError_error_iff]

theorem make_of_ofIntent (h : GoesWith method account) {r : Request}
    (hr : Request.ofIntent network account i method = .ok r) :
    Client.make network account = .ok ⟨network, account⟩ := by
  refine Client.make_ok.mpr ⟨fun a ha => ?_, rfl⟩
  rw [Option.mem_def] at ha
  subst ha
  exact Request.valid_of_ofIntent (fun hmethod => nomatch h hmethod) hr

/-- An encoded call is what goes through the transport of a client that can be made, and when there
is none a client refuses the intent for the same reason and sends nothing. -/
structure EncodesSent (network : Network) (account : Option String) (method : Method)
    (i : SwapIntent) (b : Behaviour) (before : List AnsweredCall) : Prop where
  sent_iff : ∀ call, encode network account method i = .ok call ↔
    ∃ c, Client.make network account = .ok c ∧
      ((c.run b.recorded method i).run before).2 = before ++ [⟨call, b before call⟩]
  refused : ∀ e, encode network account method i = .error e →
    ∀ c, Client.make network account = .ok c →
      ∃ e', e = .request e' ∧
        (c.run b.recorded method i).run before = (.error (.request e'), before)

theorem encodesSent (h : GoesWith method account) (network : Network) (i : SwapIntent)
    (b : Behaviour) (before : List AnsweredCall) : EncodesSent network account method i b before where
  sent_iff call := by
    rw [encode_ok h]
    constructor
    · rintro ⟨r, hr, rfl⟩
      have hrequest : Client.request ⟨network, account⟩ method i = .ok r := hr
      exact ⟨_, make_of_ofIntent h hr, congrArg Prod.snd (Client.run_sent hrequest)⟩
    · rintro ⟨c, hc, hsent⟩
      obtain ⟨-, rfl⟩ := Client.make_ok.mp hc
      cases hr : Client.request ⟨network, account⟩ method i with
      | error e =>
        -- Nothing is sent then, and so no call is the last.
        rw [Client.run_refused hr] at hsent
        exact absurd hsent (by simp)
      | ok r =>
        rw [Client.run_sent hr] at hsent
        have hlast := List.append_cancel_left hsent
        exact ⟨r, hr, by simpa using congrArg (List.map AnsweredCall.call) hlast⟩
  refused e he c hc := by
    obtain ⟨-, rfl⟩ := Client.make_ok.mp hc
    obtain ⟨e', hr, rfl⟩ := (encode_error h).mp he
    exact ⟨e', rfl, Client.run_refused hr⟩

/-- The command line and a client build the same calls. Only an account for a method that is always
sent to the broker is refused by the one and without effect in the other. -/
theorem encode_agrees_with_client (network : Network) (account : Option String) :
    (∀ method, GoesWith method account → ∀ i b before,
      EncodesSent network account method i b before) ∧
    (account.isSome → ∀ i,
      encode network account .depositAddress i = .error .accountNotUsed) ∧
    ∀ c, Client.make network account = .ok c →
      c.network = network ∧ c.account = account ∧ c.Routes := by
  refine ⟨fun method h i b before => encodesSent h network i b before, fun h i => ?_,
    fun c hc => ?_⟩
  · rw [encode, if_pos ⟨rfl, h⟩]
    rfl
  · obtain ⟨-, hmade⟩ := Client.make_ok.mp hc
    exact ⟨congrArg _ hmade, congrArg _ hmade, Client.routes_of_make hc⟩

def hexBroker : String := "0x1cf326c5aaa5af9f0e2791e66310fe8f044faadaf12567eaa0976959d1f7731f"

theorem encode_agrees_with_client_etherForUsdc :
    ∃ call, encode .mainnet (some hexBroker) .cfParameters etherForUsdc = .ok call ∧
      call.method = "cf_encode_cf_parameters" ∧
      ∃ c, Client.make .mainnet (some hexBroker) = .ok c ∧
        ((c.run (Behaviour.recorded fun _ _ => .ok (.str "0x0a0b0c")) .cfParameters
          etherForUsdc).run []).2 = [⟨call, .ok (.str "0x0a0b0c")⟩] ∧
        encode .mainnet c.account .depositAddress etherForUsdc = .error .accountNotUsed ∧
        c.Routes := by
  obtain ⟨hsent, hunused, hmade⟩ := encode_agrees_with_client .mainnet (some hexBroker)
  have hcall := (hsent .cfParameters (fun h => nomatch h) etherForUsdc
    (fun _ _ => .ok (.str "0x0a0b0c")) []).sent_iff
  obtain ⟨c, hc, htranscript⟩ := (hcall _).mp rfl
  obtain ⟨-, haccount, hroutes⟩ := hmade c hc
  refine ⟨_, rfl, rfl, c, hc, htranscript, ?_, hroutes⟩
  rw [haccount]
  exact hunused rfl etherForUsdc

end CommandLine

end SwapBroker
