import SwapBroker.Config.Load
import SwapBroker.Proofs.RecordForms

/-!
# What configuration documents say

A document says some values of a configuration and may leave out others. The same relation,
`DocumentReading.States`, tells for the values of each format what is said; a configuration that is
read from a document is what the document says, with the defaults where it says nothing.
-/

namespace SwapBroker

open Json Record Outcome

structure ConfigStatement where
  network : Option Network := none
  logLevel : Option String := none
  url : Option String := none
  timeoutSeconds : Option UInt64 := none
  account : Option String := none
deriving DecidableEq, Repr

structure ConfigStatement.Gives (s : ConfigStatement) (c : BrokerConfig) : Prop where
  network : s.network = some c.broker.network
  logLevel : c.broker.logLevel = s.logLevel.getD "info"
  url : s.url = some c.rpc.url
  timeout : c.rpc.timeoutSeconds = s.timeoutSeconds.getD 30
  account : c.rpc.account = s.account

-- ---------------------------------------------------------------------------
-- Values of documents
-- ---------------------------------------------------------------------------

namespace DocumentReading

variable {δ α : Type} (r : DocumentReading δ)

/-- What a record has under the name of one of its fields. -/
def member? (names : List String) (name : String) (d : δ) : Option δ :=
  (r.fields? names d).bind fun fields => (fields.find? (·.1 = name)).map Prod.snd

structure StatesSettings (d : δ) (s : ConfigStatement) : Prop where
  network : ∃ v, r.member? ["network", "log_level"] "network" d = some v ∧ r.network? v = s.network
  logLevel : Option.Rel (fun v text => r.text? v = some text)
    (r.member? ["network", "log_level"] "log_level" d) s.logLevel

/-- The endpoint says a URL, and a timeout and an account or none. Null is no account. -/
structure StatesRpc (d : δ) (s : ConfigStatement) : Prop where
  url : ∃ v, r.member? ["url", "timeout_seconds", "broker_account"] "url" d = some v ∧
    r.text? v = s.url
  timeout : Option.Rel (fun v seconds => (r.natural? v).bind Text.uint64? = some seconds)
    (r.member? ["url", "timeout_seconds", "broker_account"] "timeout_seconds" d) s.timeoutSeconds
  account : match r.member? ["url", "timeout_seconds", "broker_account"] "broker_account" d with
    | none => s.account = none
    | some v => r.nullable? r.text? v = some s.account

structure States (d : δ) (s : ConfigStatement) : Prop where
  settings : ∃ v, r.member? ["broker", "rpc"] "broker" d = some v ∧ r.StatesSettings v s
  rpc : ∃ v, r.member? ["broker", "rpc"] "rpc" d = some v ∧ r.StatesRpc v s

variable {r} {d : δ} {names : List String} {fields : List (String × δ)}

theorem member?_eq (h : r.fields? names d = some fields) (name : String) :
    r.member? names name d = (fields.find? (·.1 = name)).map Prod.snd := by
  rw [member?, h, Option.bind_some]

theorem field?_some {read : δ → Option α} {name : String} {a : α} :
    field? read name fields = some (some a) ↔
      ∃ v, (fields.find? (·.1 = name)).map Prod.snd = some v ∧ read v = some a := by
  unfold field?
  cases fields.find? (·.1 = name) <;> simp

theorem field?_rel {read : δ → Option α} {name : String} {o : Option α}
    (h : field? read name fields = some o) :
    Option.Rel (fun v a => read v = some a) ((fields.find? (·.1 = name)).map Prod.snd) o := by
  unfold field? at h
  cases hfound : fields.find? (·.1 = name) with
  | none =>
    rw [hfound] at h
    cases h
    exact .none
  | some m =>
    rw [hfound] at h
    obtain ⟨a, ha, rfl⟩ := Option.map_eq_some_iff.mp h
    exact .some ha

theorem settings?_some {b : BrokerSettings} (h : r.settings? d = some b) :
    ∃ logLevel, b.logLevel = logLevel.getD "info" ∧
      ∀ s : ConfigStatement, s.network = some b.network → s.logLevel = logLevel →
        r.StatesSettings d s := by
  simp only [settings?, Option.bind_eq_bind, Option.bind_eq_some_iff, Option.pure_def] at h
  obtain ⟨fields, hfields, _, hnetwork, network, rfl, logLevel, hlevel, hb⟩ := h
  cases hb
  obtain ⟨v, hv, hname⟩ := field?_some.mp hnetwork
  refine ⟨logLevel, rfl, fun s hs hl => ⟨⟨v, ?_, hs ▸ hname⟩, ?_⟩⟩
  · rw [member?_eq hfields, hv]
  · rw [member?_eq hfields, hl]
    exact field?_rel hlevel

theorem rpc?_some {c : RpcConfig} (h : r.rpc? d = some c) :
    ∃ timeout, c.timeoutSeconds = timeout.getD 30 ∧
      ∀ s : ConfigStatement, s.url = some c.url → s.timeoutSeconds = timeout →
        s.account = c.account → r.StatesRpc d s := by
  simp only [rpc?, Option.bind_eq_bind, Option.bind_eq_some_iff, Option.pure_def] at h
  obtain ⟨fields, hfields, _, hurl, url, rfl, timeout, htimeout, account, haccount, hc⟩ := h
  cases hc
  obtain ⟨v, hv, htext⟩ := field?_some.mp hurl
  refine ⟨timeout, rfl, fun s hs ht ha => ⟨⟨v, ?_, hs ▸ htext⟩, ?_, ?_⟩⟩
  · rw [member?_eq hfields, hv]
  · rw [member?_eq hfields, ht]
    exact field?_rel htimeout
  · rw [member?_eq hfields, ha]
    have hrel := field?_rel haccount
    generalize (fields.find? (·.1 = "broker_account")).map Prod.snd = found at hrel ⊢
    cases hrel with
    | none => rfl
    | some hread => exact hread

theorem config?_some {c : BrokerConfig} (h : r.config? d = some c) :
    ∃ s : ConfigStatement, r.States d s ∧ s.Gives c := by
  simp only [config?, Option.bind_eq_bind, Option.bind_eq_some_iff, Option.pure_def] at h
  obtain ⟨fields, hfields, _, hbroker, settings, rfl, _, hrpc, rpc, rfl, hc⟩ := h
  cases hc
  obtain ⟨v, hv, hsettings⟩ := field?_some.mp hbroker
  obtain ⟨w, hw, hendpoint⟩ := field?_some.mp hrpc
  obtain ⟨logLevel, hlevel, hstates⟩ := settings?_some hsettings
  obtain ⟨timeout, htimeout, hstatesRpc⟩ := rpc?_some hendpoint
  refine ⟨⟨some settings.network, logLevel, some rpc.url, timeout, rpc.account⟩, ⟨?_, ?_⟩,
    rfl, hlevel, rfl, htimeout, rfl⟩
  · exact ⟨v, by rw [member?_eq hfields, hv], hstates _ rfl rfl⟩
  · exact ⟨w, by rw [member?_eq hfields, hw], hstatesRpc _ rfl rfl rfl⟩

end DocumentReading

-- ---------------------------------------------------------------------------
-- JSON documents
-- ---------------------------------------------------------------------------

def Json.reading : DocumentReading Json where
  text?
    | .str s => some s
    | _ => none
  natural?
    | .int n => n.toNat?
    | _ => none
  choice?
    | .str name => some name
    | .obj [(name, .null)] => some name
    | _ => none
  present?
    | .null => some none
    | j => some (some j)
  fields? names j :=
    match j.named names with
    | .obj members => some members
    | _ => none

theorem Decoder.find?_of_variant {α : Type} {all : List α} {name : α → String} {text : String} {a : α}
    (h : variant all name text = .ok a) : all.find? (name · = text) = some a := by
  unfold variant at h
  split at h
  next found hfound => rw [hfound, Except.ok.inj h]
  next => cases h

namespace Json

variable {j : Json}

theorem reading_network? {n : Network} (h : Network.decode j = .ok n) :
    reading.network? j = some n := by
  unfold Network.decode Decoder.oneOf at h
  simp only [Decoder.whole] at h
  split at h
  next text => exact Decoder.find?_of_variant h
  next key value =>
    obtain ⟨entry, hentry, h⟩ := bind_ok_iff.mp h
    cases value with
    | null =>
      cases h
      exact Decoder.find?_of_variant hentry
    | _ => cases h
  next => cases h
  next => cases h

theorem reading_text? {text : String} (h : Decoder.text j = .ok text) :
    reading.text? j = some text := by
  obtain rfl := Decoder.text_ok.mp h
  rfl

theorem reading_natural? {n : UInt64} (h : Decoder.uint64 j = .ok n) :
    (reading.natural? j).bind Text.uint64? = some n := by
  obtain rfl := Decoder.uint64_ok.mp h
  show Text.uint64? n.toNat = some n
  rw [Text.uint64?, if_pos n.toNat_lt, UInt64.ofNat_toNat]

theorem reading_nullable? {account : Option String}
    (h : Decoder.nullable Decoder.text j = .ok account) :
    reading.nullable? reading.text? j = some account := by
  rcases Decoder.nullable_ok.mp h with ⟨rfl, rfl⟩ | ⟨_, text, htext, rfl⟩
  · rfl
  · obtain rfl := Decoder.text_ok.mp htext
    rfl

end Json

open DocumentReading

section

variable {α : Type} {d : Decoder α} {read : Json → Option α} {name : String} {value a : α}
  {members : Members}

theorem field?_of_required (hread : ∀ v, d v = .ok a → read v = some a)
    (h : (required name d).build members = .ok a) : field? read name members = some (some a) := by
  obtain ⟨v, hv, hd⟩ := build_required_ok.mp h
  exact field?_some.mpr ⟨v, hv, hread v hd⟩

theorem field?_of_default (hread : ∀ v a, d v = .ok a → read v = some a)
    (h : (withDefault name d value).build members = .ok a) :
    ∃ o, field? read name members = some o ∧ o.getD value = a := by
  simp only [withDefault, field] at h
  cases hfound : members.find? (·.1 = name) with
  | none =>
    rw [lookup?, hfound] at h
    cases h
    exact ⟨none, by rw [field?, hfound], rfl⟩
  | some m =>
    rw [lookup?, hfound] at h
    exact ⟨some a, by simp only [field?, hfound, hread m.2 a h, Option.map_some], rfl⟩

theorem reading_fields? {names : List String} {j : Json} (h : j.named names = .obj members) :
    Json.reading.fields? names j = some members := by
  simp only [Json.reading, h]

end

theorem BrokerSettings.record_regular : record.Regular :=
  ((regular_field _ _ _).map _).seq (regular_field _ _ _)

theorem RpcConfig.record_regular : record.Regular :=
  (((regular_field _ _ _).map _).seq (regular_field _ _ _)).seq (regular_field _ _ _)

theorem BrokerConfig.record_regular : record.Regular :=
  ((regular_field _ _ _).map _).seq (regular_field _ _ _)

theorem BrokerSettings.settings?_of_decode {b : BrokerSettings} {j : Json} (h : decode j = .ok b) :
    Json.reading.settings? j = some b := by
  obtain ⟨members, hform, hbuild⟩ := exists_build_of_decode record_regular (by decide) h
  simp only [record, build_seq_ok, build_map_ok] at hbuild
  obtain ⟨_, ⟨network, hnetwork, rfl⟩, _, hlevel, rfl⟩ := hbuild
  have hfields : Json.reading.fields? ["network", "log_level"] j = some members :=
    reading_fields? hform
  have hreadNetwork := field?_of_required (fun _ => reading_network?) hnetwork
  obtain ⟨o, hreadLevel, rfl⟩ := field?_of_default (fun _ _ => reading_text?) hlevel
  simp only [settings?, Option.bind_eq_bind, hfields, Option.bind_some, hreadNetwork, hreadLevel]
  rfl

theorem RpcConfig.rpc?_of_decode {c : RpcConfig} {j : Json} (h : decode j = .ok c) :
    Json.reading.rpc? j = some c := by
  obtain ⟨members, hform, hbuild⟩ := exists_build_of_decode record_regular (by decide) h
  simp only [record, build_seq_ok, build_map_ok] at hbuild
  obtain ⟨_, ⟨_, ⟨url, hurl, rfl⟩, _, htimeout, rfl⟩, _, haccount, rfl⟩ := hbuild
  have hfields : Json.reading.fields? ["url", "timeout_seconds", "broker_account"] j =
    some members := reading_fields? hform
  have hreadUrl := field?_of_required (fun _ => reading_text?) hurl
  obtain ⟨o, hreadTimeout, rfl⟩ := field?_of_default (fun _ _ => reading_natural?) htimeout
  obtain ⟨p, hreadAccount, rfl⟩ := field?_of_default (fun _ _ => reading_nullable?) haccount
  simp only [rpc?, Option.bind_eq_bind, hfields, Option.bind_some, hreadUrl, hreadTimeout,
    hreadAccount]
  cases p <;> rfl

theorem BrokerConfig.config?_of_decode {c : BrokerConfig} {j : Json} (h : decode j = .ok c) :
    Json.reading.config? j = some c := by
  obtain ⟨members, hform, hbuild⟩ := exists_build_of_decode record_regular (by decide) h
  simp only [record, build_seq_ok, build_map_ok] at hbuild
  obtain ⟨_, ⟨broker, hbroker, rfl⟩, rpc, hrpc, rfl⟩ := hbuild
  have hfields : Json.reading.fields? ["broker", "rpc"] j = some members := reading_fields? hform
  have hreadBroker := field?_of_required (fun _ => BrokerSettings.settings?_of_decode) hbroker
  have hreadRpc := field?_of_required (fun _ => RpcConfig.rpc?_of_decode) hrpc
  simp only [config?, Option.bind_eq_bind, hfields, Option.bind_some, hreadBroker, hreadRpc]
  rfl

-- ---------------------------------------------------------------------------
-- Documents
-- ---------------------------------------------------------------------------

inductive Document where
  | toml (d : Toml)
  | json (d : Json)
  | yaml (d : Yaml)

namespace Document

def read? (text : String) : DocumentFormat → Option Document
  | .toml => (Toml.read? text).map .toml
  | .json => (Json.read? BrokerConfig.decode.need text).map .json
  | .yaml => (Yaml.read? text).map .yaml

def States : Document → ConfigStatement → Prop
  | .toml d => Toml.reading.States d
  | .json d => Json.reading.States d
  | .yaml d => (Yaml.reading d.anchors).States (d.resolved d.anchors)

end Document

/-- A configuration that is read from a text is what the document in the text says. -/
theorem BrokerConfig.exists_statement {format : DocumentFormat} {text : String} {c : BrokerConfig}
    (h : ofDocument? format text = some c) :
    ∃ doc s, Document.read? text format = some doc ∧ doc.States s ∧ s.Gives c := by
  cases format with
  | toml =>
    obtain ⟨d, hread, hconfig⟩ := Option.bind_eq_some_iff.mp h
    obtain ⟨s, hstates, hgives⟩ := config?_some hconfig
    exact ⟨.toml d, s, congrArg (Option.map _) hread, hstates, hgives⟩
  | json =>
    obtain ⟨d, hread, hdecode⟩ := Option.bind_eq_some_iff.mp h
    have hok : decode d = .ok c := by
      cases hd : decode d with
      | error e => simp [hd, Except.toOption] at hdecode
      | ok a => simpa [hd, Except.toOption] using hdecode
    obtain ⟨s, hstates, hgives⟩ := config?_some (config?_of_decode hok)
    exact ⟨.json d, s, congrArg (Option.map _) hread, hstates, hgives⟩
  | yaml =>
    obtain ⟨d, hread, hconfig⟩ := Option.bind_eq_some_iff.mp h
    obtain ⟨s, hstates, hgives⟩ := config?_some hconfig
    exact ⟨.yaml d, s, congrArg (Option.map _) hread, hstates, hgives⟩

end SwapBroker
