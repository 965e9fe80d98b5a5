import SwapBroker.Proofs.ReplyForms
import SwapBroker.Proofs.Transcript
import SwapBroker.Transport.Http

/-!
# What an answer over HTTP is taken for

A status and a body decide the outcome of a call that was answered. The error of a node counts
under every status, a result only under a status of success. Nothing else is taken for either of
them, and a caller is told of an error of the node as such only when there was one.
-/

namespace SwapBroker

open Json Outcome Record Decoder

-- ---------------------------------------------------------------------------
-- The errors of nodes
-- ---------------------------------------------------------------------------

theorem Decoder.int64_ok {j : Json} {n : Int} :
    int64 j = .ok n ↔ j = .int n ∧ Int64.minValue.toInt ≤ n ∧ n ≤ Int64.maxValue.toInt := by
  cases j with
  | int m =>
    simp only [int64, whole]
    split
    next h =>
      simp only [Except.ok.injEq, Json.int.injEq, iff_self_and]
      rintro rfl
      exact h
    next h =>
      simp only [reduceCtorEq, Json.int.injEq, false_iff]
      rintro ⟨rfl, hrange⟩
      exact h hrange
  | _ => simp [int64, whole]

namespace JsonRpc

structure NodeError.SpelledIn (e : NodeError) (j : Json) : Prop where
  code : j.member? "code" = some (.int e.code)
  inRange : Int64.minValue.toInt ≤ e.code ∧ e.code ≤ Int64.maxValue.toInt
  message : j.member? "message" = some (.str e.message)

def CarriesError (reply : Json) (e : NodeError) : Prop :=
  ∃ value, reply.member? "error" = some value ∧ e.SpelledIn (value.named ["code", "message"])

variable {body reply r : Json} {members : Members} {e : NodeError}

theorem NodeError.record_regular : NodeError.record.Regular :=
  ((regular_field _ _ _).map _).seq (regular_field _ _ _)

theorem NodeError.build_ok : NodeError.record.build members = .ok e ↔ e.SpelledIn (.obj members) := by
  simp only [NodeError.record, build_seq_ok, build_map_ok, build_required_ok, text_ok, int64_ok]
  constructor
  · rintro ⟨_, ⟨_, ⟨_, hcode, rfl, hrange⟩, rfl⟩, _, ⟨_, hmessage, rfl⟩, rfl⟩
    exact ⟨hcode, hrange, hmessage⟩
  · rintro ⟨hcode, hrange, hmessage⟩
    exact ⟨_, ⟨_, ⟨_, hcode, rfl, hrange⟩, rfl⟩, _, ⟨_, hmessage, rfl⟩, rfl⟩

theorem NodeError.decode_ok {j : Json} (h : j.HasDistinctNames) :
    NodeError.decode j = .ok e ↔ e.SpelledIn (j.named ["code", "message"]) :=
  decode_ok_iff e.SpelledIn record_regular (by decide) h (fun _ _ => build_ok)
    fun _ h => exists_members_of_member? h.code

/-- There is nothing that a result may not be. -/
theorem exists_build_result (members : Members) :
    ∃ result, (optional "result" any).build members = .ok result := by
  cases hvalue : lookup? "result" members with
  | none => exact ⟨none, build_optional_ok.mpr (.inl ⟨hvalue, rfl⟩)⟩
  | some value =>
    by_cases hnull : value = .null
    · exact ⟨none, build_optional_none.mpr (.inr (hnull ▸ hvalue))⟩
    · exact ⟨some value, build_optional_some.mpr ⟨value, hvalue, hnull, rfl⟩⟩

theorem Reply.build_error (h : (obj members).HasDistinctNames) :
    (∃ result, Reply.record.build members = .ok ⟨result, some e⟩) ↔
      CarriesError (.obj members) e := by
  have hdistinct {value : Json} (hvalue : lookup? "error" members = some value) :
      value.HasDistinctNames := (hasDistinctNames_obj.mp h).2 _ (mem_of_lookup? hvalue)
  simp only [Reply.record, build_seq_ok, build_map_ok]
  constructor
  · rintro ⟨_, _, ⟨_, -, rfl⟩, _, herror, hreply⟩
    cases hreply
    obtain ⟨value, hvalue, -, hdecode⟩ := build_optional_some.mp herror
    exact ⟨value, hvalue, (NodeError.decode_ok (hdistinct hvalue)).mp hdecode⟩
  · rintro ⟨value, hvalue, hspelled⟩
    have hnull : value ≠ .null := by
      rintro rfl
      cases hspelled.code
    -- The error counts whatever the result is, but a result has to be read all the same.
    obtain ⟨result, hresult⟩ := exists_build_result members
    have herror := build_optional_some.mpr
      ⟨value, hvalue, hnull, (NodeError.decode_ok (hdistinct hvalue)).mpr hspelled⟩
    exact ⟨result, _, ⟨result, hresult, rfl⟩, some e, herror, rfl⟩

theorem Reply.decode_error (h : reply.HasDistinctNames) :
    (∃ result, Reply.decode reply = .ok ⟨result, some e⟩) ↔
      CarriesError (reply.named ["result", "error"]) e := by
  have hdistinct := HasDistinctNames.named (by decide : Reply.record.names.Nodup) h
  simp only [Reply.decode, Record.decode_ok Reply.record_regular (by decide) h]
  constructor
  · rintro ⟨result, members, hform, hbuild⟩
    have hcarries := (Reply.build_error (hform ▸ hdistinct)).mp ⟨result, hbuild⟩
    exact hform ▸ hcarries
  · rintro ⟨value, hvalue, hspelled⟩
    obtain ⟨members, hform⟩ := exists_members_of_member? hvalue
    have hcarries : CarriesError (.obj members) e := ⟨value, hform ▸ hvalue, hspelled⟩
    obtain ⟨result, hbuild⟩ := (Reply.build_error (hform ▸ hdistinct)).mpr hcarries
    exact ⟨result, members, hform, hbuild⟩

-- ---------------------------------------------------------------------------
-- Bodies
-- ---------------------------------------------------------------------------

theorem isReplyOf_obj (members : Members) : IsReplyOf (.obj members) (.obj members) := by
  simp [IsReplyOf]

theorem IsReplyOf.hasDistinctNames (hreply : IsReplyOf body reply) (h : body.HasDistinctNames) :
    reply.HasDistinctNames := by
  rcases hreply with rfl | ⟨rfl, -⟩
  · exact hasDistinctNames_arr.mp h reply List.mem_cons_self
  · exact h

theorem not_failure_rpc {fault : ReplyFault} {code : Int} {message : String} :
    failure fault ≠ .rpc code message := by
  simp [failure]

theorem cases_of_result_error {cause : TransportError} (h : result body = .error cause) :
    (∃ reply result e, IsReplyOf body reply ∧ Reply.decode reply = .ok ⟨result, some e⟩ ∧
      cause = .rpc e.code e.message) ∨
    ∃ fault, cause = failure fault := by
  simp only [result, bind_error_iff, mapError_error_iff, mapError_ok_iff, single_ok] at h
  rcases h with ⟨fault, -, rfl⟩ | ⟨reply, hreply, ⟨fault, -, rfl⟩ | ⟨⟨result, error⟩, hdecode, h⟩⟩
  · exact .inr ⟨fault, rfl⟩
  · exact .inr ⟨.undecodable fault, rfl⟩
  · cases error with
    | some e =>
      cases h
      exact .inl ⟨reply, result, e, hreply, hdecode, rfl⟩
    | none =>
      cases result with
      | some r => cases h
      | none =>
        cases h
        exact .inr ⟨.neither, rfl⟩

theorem result_rpc {code : Int} {message : String} :
    result body = .error (.rpc code message) ↔
      ∃ reply, IsReplyOf body reply ∧
        ∃ result, Reply.decode reply = .ok ⟨result, some ⟨code, message⟩⟩ := by
  constructor
  · intro h
    obtain ⟨reply, result, e, hreply, hdecode, hcause⟩ | ⟨fault, hcause⟩ := cases_of_result_error h
    · cases hcause
      exact ⟨reply, hreply, result, hdecode⟩
    · exact absurd hcause.symm not_failure_rpc
  · rintro ⟨reply, hreply, result, hdecode⟩
    simp only [JsonRpc.result, bind_error_iff, mapError_ok_iff, single_ok]
    exact .inr ⟨reply, hreply, .inr ⟨_, hdecode, rfl⟩⟩

def Lacks (reply : Json) (name : String) : Prop :=
  reply.member? name = none ∨ reply.member? name = some .null

theorem Reply.decode_neither (h : (obj members).HasDistinctNames) :
    Reply.decode (.obj members) = .ok ⟨none, none⟩ ↔
      Lacks (.obj members) "result" ∧ Lacks (.obj members) "error" := by
  have hdecode : Reply.decode (.obj members) = .ok ⟨none, none⟩ ↔
      Reply.record.build members = .ok ⟨none, none⟩ :=
    Record.decode_obj_ok Reply.record_regular.lawful (hasDistinctNames_obj.mp h).1
  rw [hdecode]
  simp only [Reply.record, build_seq_ok, build_map_ok]
  constructor
  · rintro ⟨_, ⟨_, hresult, rfl⟩, _, herror, hreply⟩
    cases hreply
    exact ⟨build_optional_none.mp hresult, build_optional_none.mp herror⟩
  · rintro ⟨hresult, herror⟩
    exact ⟨_, ⟨none, build_optional_none.mpr hresult, rfl⟩, none, build_optional_none.mpr herror, rfl⟩

structure Classified (body : Json) : Prop where
  result_iff : ∀ r, result body = .ok r ↔
    ∃ reply, IsReplyOf body reply ∧ CarriesResult (reply.named ["result", "error"]) r
  rpc_iff : ∀ code message, result body = .error (.rpc code message) ↔
    ∃ reply, IsReplyOf body reply ∧ CarriesError (reply.named ["result", "error"]) ⟨code, message⟩
  otherwise : ∀ cause, result body = .error cause →
    (∃ code message, cause = .rpc code message) ∨ ∃ reason, cause = .invalidReply reason
  batch : ∀ items, body = .arr items → items.length ≠ 1 →
    result body = .error (failure (.batch items.length))
  neither : ∀ members, body = .obj members → Lacks body "result" → Lacks body "error" →
    result body = .error (failure .neither)

theorem single_batch {items : List Json} (h : items.length ≠ 1) :
    single (.arr items) = .error (.batch items.length) := by
  match items with
  | [] => rfl
  | [_] => exact absurd rfl h
  | _ :: _ :: _ => rfl

theorem classified (h : body.HasDistinctNames) : Classified body where
  result_iff r := by
    rw [result_ok]
    exact exists_congr fun reply => and_congr_right fun hreply =>
      Reply.decode_ok (hreply.hasDistinctNames h)
  rpc_iff code message := by
    rw [result_rpc]
    exact exists_congr fun reply => and_congr_right fun hreply =>
      Reply.decode_error (hreply.hasDistinctNames h)
  otherwise cause hcause := by
    obtain ⟨_, _, e, _, _, rfl⟩ | ⟨fault, rfl⟩ := cases_of_result_error hcause
    · exact .inl ⟨e.code, e.message, rfl⟩
    · exact .inr ⟨fault.message, rfl⟩
  batch items hbody hlength := by
    subst hbody
    simp only [result, bind_error_iff, mapError_error_iff]
    exact .inl ⟨_, single_batch hlength, rfl⟩
  neither members hbody hresult herror := by
    subst hbody
    have hdecode := (Reply.decode_neither h).mpr ⟨hresult, herror⟩
    simp only [result, bind_error_iff, mapError_ok_iff, single_ok]
    exact .inr ⟨_, isReplyOf_obj members, .inr ⟨_, hdecode, rfl⟩⟩

end JsonRpc

-- ---------------------------------------------------------------------------
-- Answers
-- ---------------------------------------------------------------------------

theorem Json.hasDistinctNames_of_readSorted? {text : String} {body : Json}
    (h : readSorted? text = some body) : body.HasDistinctNames := by
  obtain ⟨j, -, rfl⟩ := Option.map_eq_some_iff.mp h
  exact hasDistinctNames_sorted j

namespace HttpTransport

variable {status : ℕ} {text : String}

theorem isSuccess_iff : isSuccess status = true ↔ 200 ≤ status ∧ status < 300 := by
  simp [isSuccess]

def TextCarries (text : String) (r : Json) : Prop :=
  ∃ body, readSorted? text = some body ∧ JsonRpc.result body = .ok r

def TextRefuses (text : String) (code : Int) (message : String) : Prop :=
  ∃ body, readSorted? text = some body ∧ JsonRpc.result body = .error (.rpc code message)

instance TextRefuses.decidable (text : String) (code : Int) (message : String) :
    Decidable (TextRefuses text code message) :=
  match hread : readSorted? text with
  | none => isFalse (by simp [TextRefuses, hread])
  | some body =>
    match hresult : JsonRpc.result body with
    | .ok _ => isFalse (by simp [TextRefuses, hread, hresult])
    | .error cause =>
      decidable_of_iff (cause = .rpc code message) (by simp [TextRefuses, hread, hresult])

inductive Taken (status : ℕ) (text : String) : Except TransportError Json → Prop
  | result {r : Json} (hstatus : isSuccess status) (htext : TextCarries text r) :
    Taken status text (.ok r)
  | refusal {code : Int} {message : String} (htext : TextRefuses text code message) :
    Taken status text (.error (.rpc code message))
  | http (hstatus : ¬ isSuccess status) (hrefuses : ∀ code message, ¬ TextRefuses text code message) :
    Taken status text (.error (.http status text))
  | invalid (reason : String) (hstatus : isSuccess status)
    (hrefuses : ∀ code message, ¬ TextRefuses text code message)
    (hcarries : ∀ r, ¬ TextCarries text r) :
    Taken status text (.error (.invalidReply reason))

theorem textCarries_iff {body r : Json} (hread : readSorted? text = some body) :
    TextCarries text r ↔ JsonRpc.result body = .ok r := by
  simp [TextCarries, hread]

theorem textRefuses_iff {body : Json} {code : Int} {message : String}
    (hread : readSorted? text = some body) :
    TextRefuses text code message ↔ JsonRpc.result body = .error (.rpc code message) := by
  simp [TextRefuses, hread]

theorem taken_outcome (t : HttpTransport) (status : ℕ) (text : String) :
    Taken status text (t.outcome (.answered status text)) := by
  simp only [outcome]
  split
  next hread =>
    have hcarries (r : Json) : ¬ TextCarries text r := by simp [TextCarries, hread]
    have hrefuses (code : Int) (message : String) : ¬ TextRefuses text code message := by
      simp [TextRefuses, hread]
    split
    next hstatus => exact .invalid _ hstatus hrefuses hcarries
    next hstatus => exact .http hstatus hrefuses
  next body hread =>
    split
    next hstatus =>
      cases hresult : JsonRpc.result body with
      | ok r => exact .result hstatus ⟨body, hread, hresult⟩
      | error cause =>
        obtain ⟨_, _, e, -, -, rfl⟩ | ⟨fault, rfl⟩ := JsonRpc.cases_of_result_error hresult
        · exact .refusal ⟨body, hread, hresult⟩
        · refine .invalid _ hstatus (fun code message => ?_) fun r => ?_
          · simp [textRefuses_iff hread, hresult, JsonRpc.not_failure_rpc]
          · simp [textCarries_iff hread, hresult]
    next hstatus =>
      -- A status of failure leaves nothing of a body but the error of a node.
      split
      next code message hresult => exact .refusal ⟨body, hread, hresult⟩
      next hresult =>
        refine .http hstatus fun code message hrefuses => ?_
        exact hresult code message ((textRefuses_iff hread).mp hrefuses)

/-- What the outcome of an answered call says about the answer. -/
structure Explained (status : ℕ) (text : String) (outcome : Except TransportError Json) : Prop where
  ok_iff : ∀ r, outcome = .ok r ↔ (200 ≤ status ∧ status < 300) ∧ TextCarries text r
  rpc_iff : ∀ code message, outcome = .error (.rpc code message) ↔ TextRefuses text code message
  http_iff : ∀ status' text', outcome = .error (.http status' text') ↔
    ¬ (200 ≤ status ∧ status < 300) ∧ (∀ code message, ¬ TextRefuses text code message) ∧
      status' = status ∧ text' = text
  invalid_iff : (∃ reason, outcome = .error (.invalidReply reason)) ↔
    (200 ≤ status ∧ status < 300) ∧ (∀ code message, ¬ TextRefuses text code message) ∧
      ∀ r, ¬ TextCarries text r

theorem TextCarries.unique {r r' : Json} (h : TextCarries text r) (h' : TextCarries text r') :
    r = r' := by
  obtain ⟨body, hread, hresult⟩ := h
  exact Except.ok.inj (hresult.symm.trans ((textCarries_iff hread).mp h'))

theorem TextRefuses.unique {code code' : Int} {message message' : String}
    (h : TextRefuses text code message) (h' : TextRefuses text code' message') :
    code = code' ∧ message = message' := by
  obtain ⟨body, hread, hresult⟩ := h
  simpa using hresult.symm.trans ((textRefuses_iff hread).mp h')

theorem TextRefuses.not_carries {code : Int} {message : String} {r : Json}
    (h : TextRefuses text code message) : ¬ TextCarries text r := by
  obtain ⟨body, hread, hresult⟩ := h
  simp [textCarries_iff hread, hresult]

theorem Taken.explained {outcome : Except TransportError Json} (h : Taken status text outcome) :
    Explained status text outcome where
  ok_iff r := by
    constructor
    · rintro rfl
      obtain ⟨hstatus, htext⟩ := h
      exact ⟨isSuccess_iff.mp hstatus, htext⟩
    · rintro ⟨hsuccess, htext⟩
      cases h with
      | result _ hcarried => rw [htext.unique hcarried]
      | refusal hrefused => exact absurd htext hrefused.not_carries
      | http hstatus _ => exact absurd (isSuccess_iff.mpr hsuccess) hstatus
      | invalid _ _ _ hcarries => exact absurd htext (hcarries r)
  rpc_iff code message := by
    constructor
    · rintro rfl
      obtain ⟨-, htext⟩ | ⟨htext⟩ := h
      exact htext
    · intro htext
      cases h with
      | result _ hcarried => exact absurd hcarried htext.not_carries
      | refusal hrefused =>
        obtain ⟨rfl, rfl⟩ := htext.unique hrefused
        rfl
      | http _ hrefuses | invalid _ _ hrefuses _ => exact absurd htext (hrefuses code message)
  http_iff status' text' := by
    constructor
    · intro houtcome
      cases h with
      | result | refusal | invalid => cases houtcome
      | http hstatus hrefuses =>
        cases houtcome
        exact ⟨fun hsuccess => hstatus (isSuccess_iff.mpr hsuccess), hrefuses, rfl, rfl⟩
    · rintro ⟨hfailure, hrefuses, rfl, rfl⟩
      cases h with
      | result hstatus _ | invalid _ hstatus _ _ => exact absurd (isSuccess_iff.mp hstatus) hfailure
      | refusal hrefused => exact absurd hrefused (hrefuses _ _)
      | http => rfl
  invalid_iff := by
    constructor
    · rintro ⟨reason, rfl⟩
      obtain _ | _ | _ | ⟨_, hstatus, hrefuses, hcarries⟩ := h
      exact ⟨isSuccess_iff.mp hstatus, hrefuses, hcarries⟩
    · rintro ⟨hsuccess, hrefuses, hcarries⟩
      cases h with
      | result _ hcarried => exact absurd hcarried (hcarries _)
      | refusal hrefused => exact absurd hrefused (hrefuses _ _)
      | http hstatus _ => exact absurd (isSuccess_iff.mpr hsuccess) hstatus
      | invalid reason => exact ⟨reason, rfl⟩

/-- Status and text decide what an answered call is taken for, and only the error of a node is
passed on as such. -/
theorem outcome_explained (t : HttpTransport) (status : ℕ) (text : String) :
    Explained status text (t.outcome (.answered status text)) ∧
    (∀ body, readSorted? text = some body → body.HasDistinctNames) ∧
    (∀ body : Json, body.HasDistinctNames → JsonRpc.Classified body) ∧
    (∀ e code message, CallError.ofTransport e = .rpc code message ↔ e = .rpc code message) ∧
    ∀ e, (∀ code message, e ≠ .rpc code message) → CallError.ofTransport e = .transport e :=
  ⟨(taken_outcome t status text).explained, fun _ => hasDistinctNames_of_readSorted?,
    fun _ => JsonRpc.classified, fun _ _ _ => CallError.ofTransport_rpc_iff,
    fun _ h => CallError.ofTransport_transport_iff.mpr ⟨rfl, h⟩⟩

/-- A batch of one, with both an error and a result. -/
def refusedBatch : String :=
  "[\x7b\"result\":\"0x00\",\"error\":\x7b\"code\":-32603,\"message\":\"Internal error\"\x7d\x7d]"

theorem outcome_explained_refusedBatch :
    let reply := obj [
      ("error", obj [("code", .int (-32603)), ("message", .str "Internal error")]),
      ("result", .str "0x00")]
    (HttpTransport.mk "http://localhost:10997" 30000 0).outcome (.answered 500 refusedBatch) =
        .error (.rpc (-32603) "Internal error") ∧
      (arr [reply]).HasDistinctNames ∧
      JsonRpc.result (.arr [reply]) = .error (.rpc (-32603) "Internal error") := by
  intro reply
  obtain ⟨hexplained, -, hclassified, -⟩ :=
    outcome_explained ⟨"http://localhost:10997", 30000, 0⟩ 500 refusedBatch
  have hrefuses : TextRefuses refusedBatch (-32603) "Internal error" := by decide +kernel
  have hdistinct : (arr [reply]).HasDistinctNames :=
    ⟨⟨by decide, ⟨by decide, trivial, trivial, trivial⟩, trivial, trivial⟩, trivial⟩
  have hcarries : JsonRpc.CarriesError reply ⟨-32603, "Internal error"⟩ :=
    ⟨_, rfl, rfl, by decide, rfl⟩
  have hresult := ((hclassified _ hdistinct).rpc_iff _ _).mpr ⟨reply, .inl rfl, hcarries⟩
  exact ⟨(hexplained.rpc_iff _ _).mpr hrefuses, hdistinct, hresult⟩

end HttpTransport

end SwapBroker
