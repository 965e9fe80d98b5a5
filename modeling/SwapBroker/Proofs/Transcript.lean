import SwapBroker.Client
import SwapBroker.Proofs.Checks

/-!
# What goes through the transport

A client is run with a transport that records what goes through it. From the outcome of a run a
caller can tell whether a call was sent, and which side failed.
-/

namespace SwapBroker

structure AnsweredCall where
  call : Call
  answer : Except TransportError Json
deriving Repr

/-- What a transport comes back with. It may depend on all that went through it before. -/
abbrev Behaviour := List AnsweredCall → Call → Except TransportError Json

def Behaviour.recorded (b : Behaviour) (call : Call) :
    StateM (List AnsweredCall) (Except TransportError Json) := do
  let before ← get
  set (before ++ [⟨call, b before call⟩])
  return b before call

variable {c : Client} {method : Method} {i : SwapIntent} {r : Request}

-- ---------------------------------------------------------------------------
-- The error of a call tells how it failed
-- ---------------------------------------------------------------------------

namespace CallError

variable {e e' : TransportError} {code : Int} {message : String}

theorem ofTransport_rpc_iff : ofTransport e = .rpc code message ↔ e = .rpc code message := by
  cases e <;> simp [ofTransport]

theorem ofTransport_transport_iff :
    ofTransport e = .transport e' ↔ e = e' ∧ ∀ code message, e ≠ .rpc code message := by
  cases e <;> simp [ofTransport]

theorem ofTransport_ne_request {e' : RequestError} : ofTransport e ≠ .request e' := by
  cases e <;> simp [ofTransport]

theorem ofTransport_ne_malformed {fault : ReplyFault} : ofTransport e ≠ .malformed fault := by
  cases e <;> simp [ofTransport]

end CallError

namespace Client

variable {answer : Except TransportError Json} {reply : Reply}

theorem readReply_error (e : TransportError) :
    c.readReply r (.error e) = .error (.ofTransport e) := rfl

theorem readReply_ok (j : Json) :
    c.readReply r (.ok j) = (r.readReply c.network j).mapError .malformed := rfl

/-- Nothing that comes back makes a client say that the request was refused. -/
theorem readReply_ne_request (e : RequestError) : c.readReply r answer ≠ .error (.request e) := by
  cases answer with
  | error e' =>
    rw [readReply_error]
    intro h
    exact CallError.ofTransport_ne_request (Except.error.inj h)
  | ok j =>
    rw [readReply_ok]
    intro h
    obtain ⟨fault, -, hfault⟩ := Outcome.mapError_error_iff.mp h
    exact nomatch hfault

theorem readReply_rpc_iff {code : Int} {message : String} :
    c.readReply r answer = .error (.rpc code message) ↔ answer = .error (.rpc code message) := by
  cases answer with
  | error e => simp [readReply_error, CallError.ofTransport_rpc_iff]
  | ok j => simp [readReply_ok, Outcome.mapError_error_iff]

theorem readReply_transport_iff {e : TransportError} :
    c.readReply r answer = .error (.transport e) ↔
      answer = .error e ∧ ∀ code message, e ≠ .rpc code message := by
  cases answer with
  | error e' =>
    rw [readReply_error, Except.error.injEq, Except.error.injEq,
      CallError.ofTransport_transport_iff]
    constructor
    · rintro ⟨rfl, h⟩
      exact ⟨rfl, h⟩
    · rintro ⟨rfl, h⟩
      exact ⟨rfl, h⟩
  | ok j => simp [readReply_ok, Outcome.mapError_error_iff]

theorem readReply_malformed_iff {fault : ReplyFault} :
    c.readReply r answer = .error (.malformed fault) ↔
      ∃ j, answer = .ok j ∧ r.readReply c.network j = .error fault := by
  cases answer with
  | error e => simp [readReply_error, CallError.ofTransport_ne_malformed]
  | ok j => simp [readReply_ok, Outcome.mapError_error_iff]

theorem readReply_ok_iff :
    c.readReply r answer = .ok reply ↔
      ∃ j, answer = .ok j ∧ r.readReply c.network j = .ok reply := by
  cases answer with
  | error e => simp [readReply_error]
  | ok j => simp [readReply_ok, Outcome.mapError_ok_iff]

-- ---------------------------------------------------------------------------
-- A run and its record
-- ---------------------------------------------------------------------------

variable {b : Behaviour} {before : List AnsweredCall}

theorem run_refused {e : RequestError} (h : c.request method i = .error e) :
    (c.run b.recorded method i).run before = (.error (.request e), before) := by
  simp only [run, h]
  rfl

theorem run_sent (h : c.request method i = .ok r) :
    (c.run b.recorded method i).run before =
      (c.readReply r (b before r.call), before ++ [⟨r.call, b before r.call⟩]) := by
  simp only [run, h]
  rfl

structure Accounted (c : Client) (method : Method) (i : SwapIntent)
    (outcome : Except CallError Reply) (transcript : List AnsweredCall) : Prop where
  atMostOnce : transcript.length ≤ 1
  sent_iff : ∀ call, transcript.map AnsweredCall.call = [call] ↔
    ∃ r, c.request method i = .ok r ∧ call = r.call
  refused : ∀ e, c.request method i = .error e → outcome = .error (.request e) ∧ transcript = []
  unsent : ∀ e, outcome = .error (.request e) →
    c.request method i = .error e ∧ transcript = []
  rpc_iff : ∀ code message, outcome = .error (.rpc code message) ↔
    ∃ x ∈ transcript, x.answer = .error (.rpc code message)
  transport_iff : ∀ e, outcome = .error (.transport e) ↔
    ∃ x ∈ transcript, x.answer = .error e ∧ ∀ code message, e ≠ .rpc code message
  malformed_iff : ∀ fault, outcome = .error (.malformed fault) ↔
    ∃ x ∈ transcript, ∃ r j, c.request method i = .ok r ∧ x.answer = .ok j ∧
      r.readReply c.network j = .error fault
  answered_iff : ∀ reply, outcome = .ok reply ↔
    ∃ x ∈ transcript, ∃ r j, c.request method i = .ok r ∧ x.answer = .ok j ∧
      r.readReply c.network j = .ok reply

theorem Accounted.of_refused {e : RequestError} (h : c.request method i = .error e) :
    c.Accounted method i (.error (.request e)) [] where
  atMostOnce := Nat.zero_le 1
  sent_iff call := by simp [h]
  refused e' he := by
    rw [h, Except.error.injEq] at he
    exact ⟨congrArg _ (congrArg _ he), rfl⟩
  unsent e' he := by
    cases he
    exact ⟨h, rfl⟩
  rpc_iff := by simp
  transport_iff := by simp
  malformed_iff := by simp
  answered_iff := by simp

theorem Accounted.of_sent (h : c.request method i = .ok r) (answer : Except TransportError Json) :
    c.Accounted method i (c.readReply r answer) [⟨r.call, answer⟩] where
  atMostOnce := Nat.le_refl 1
  sent_iff call := by simp [h, eq_comm]
  refused e he := by simp [h] at he
  unsent e he := absurd he (readReply_ne_request e)
  rpc_iff code message := by simp [readReply_rpc_iff]
  transport_iff e := by simp [readReply_transport_iff]
  malformed_iff fault := by simp [readReply_malformed_iff, h]
  answered_iff reply := by simp [readReply_ok_iff, h]

/-- However a transport behaves, a run sends the call of a request that can be made, once, and
nothing else. Its error is the refusal of the request exactly when nothing is sent, and else tells
what came back. -/
theorem run_accounted (c : Client) (method : Method) (i : SwapIntent) (b : Behaviour)
    (before : List AnsweredCall) :
    ∃ outcome transcript, (c.run b.recorded method i).run before = (outcome, before ++ transcript) ∧
      (∀ x ∈ transcript, x.answer = b before x.call) ∧
      c.Accounted method i outcome transcript := by
  cases h : c.request method i with
  | error e =>
    refine ⟨.error (.request e), [], ?_, ?_, .of_refused h⟩
    · rw [run_refused h, List.append_nil]
    · simp
  | ok r =>
    refine ⟨_, _, run_sent h, ?_, .of_sent h (b before r.call)⟩
    simp

end Client

end SwapBroker
