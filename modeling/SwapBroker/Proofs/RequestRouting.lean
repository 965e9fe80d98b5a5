import SwapBroker.Proofs.Positions
import SwapBroker.Request.Basic

/-!
# Requests on behalf of an account

A request for a node is the request for the broker with an account put in front of its parameters.
The account is the only thing that can go wrong then, so with a valid account the same intents are
accepted, and the others refused for the same reason, as without one.
-/

namespace SwapBroker

open Outcome

def Method.front (account : Option String) : Method → List Json
  | .depositAddress => []
  | .parameterEncoding | .cfParameters => (account.map Json.str).toList

namespace Request

variable {network : Network} {account : String} {i : SwapIntent} {method : Method} {r : Request}

/-- The request with an account in front, where it is one that may go to a node. -/
def onBehalf (account : String) : Request → Request
  | .depositAddress r => .depositAddress r
  | .parameterEncoding r => .parameterEncoding { r with account := some account }
  | .cfParameters r => .cfParameters { r with account := some account }

theorem ofIntent_valid (h : AddressFormat.account.check network account = .ok ()) (i : SwapIntent)
    (method : Method) :
    ofIntent network (some account) i method =
      (ofIntent network none i method).map (onBehalf account) := by
  cases method with
  | depositAddress =>
    simp only [ofIntent]
    cases DepositRequest.ofIntent network i <;> rfl
  | parameterEncoding =>
    simp only [ofIntent, VaultSwapRequest.withAccount_ok h]
    cases VaultSwapRequest.ofIntent network i <;> rfl
  | cfParameters =>
    simp only [ofIntent, CfParametersRequest.withAccount_ok h]
    cases CfParametersRequest.ofIntent network i <;> rfl

theorem valid_of_ofIntent (hmethod : method ≠ .depositAddress)
    (h : ofIntent network (some account) i method = .ok r) :
    AddressFormat.account.check network account = .ok () := by
  cases method with
  | depositAddress => exact absurd rfl hmethod
  | parameterEncoding =>
    simp only [ofIntent, VaultSwapRequest.withAccount, bind_ok_iff, exists_check_ok_iff,
      checkAddress_ok] at h
    obtain ⟨-, -, -, ⟨hvalid, -⟩, -⟩ := h
    exact hvalid
  | cfParameters =>
    simp only [ofIntent, CfParametersRequest.withAccount, bind_ok_iff, exists_check_ok_iff,
      checkAddress_ok] at h
    obtain ⟨-, -, -, ⟨hvalid, -⟩, -⟩ := h
    exact hvalid

theorem params_onBehalf (h : ofIntent network none i method = .ok r) (account : String) :
    (r.onBehalf account).call.params = method.front (some account) ++ r.call.params := by
  cases method with
  | depositAddress =>
    simp only [ofIntent, bind_ok_iff, pure_ok_iff] at h
    obtain ⟨d, -, rfl⟩ := h
    rfl
  | parameterEncoding =>
    simp only [ofIntent, bind_ok_iff, pure_ok_iff] at h
    obtain ⟨v, hv, rfl⟩ := h
    obtain ⟨-, -, -, -, -, -, hreq⟩ := VaultSwapRequest.ofIntent_ok.mp hv
    rw [hreq]
    rfl
  | cfParameters =>
    simp only [ofIntent, bind_ok_iff, pure_ok_iff] at h
    obtain ⟨c, hc, rfl⟩ := h
    obtain ⟨parts, -, rfl⟩ := CfParametersRequest.ofIntent_ok.mp hc
    rfl

/-- An account changes nothing behind it. -/
theorem exists_params_of_ofIntent {account : Option String}
    (h : ofIntent network account i method = .ok r) :
    ∃ base, ofIntent network none i method = .ok base ∧
      r.call.params = method.front account ++ base.call.params := by
  cases account with
  | none => exact ⟨r, h, by cases method <;> rfl⟩
  | some account =>
    by_cases hmethod : method = .depositAddress
    · subst hmethod
      exact ⟨r, h, rfl⟩
    · rw [ofIntent_valid (valid_of_ofIntent hmethod h)] at h
      obtain ⟨base, hbase, rfl⟩ := map_ok_iff.mp h
      exact ⟨base, hbase, params_onBehalf hbase account⟩

end Request

end SwapBroker
