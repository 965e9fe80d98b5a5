import SwapBroker.Proofs.ConfigSources

/-!
# Overridden values

Two configurations that agree on what no variable overrides are overridden to the same. But a file is
checked on its own first, with the values that are then overridden: two files with such
configurations are loaded alike when the check has the same outcome for both, and a file that fails it
is refused whatever variables are set.
-/

namespace SwapBroker.BrokerConfig

open Outcome

/-- The configurations differ at most in fields whose variables are set. -/
structure AgreeBesides (env : Environment) (c d : BrokerConfig) : Prop where
  network : env .network = none → c.broker.network = d.broker.network
  logLevel : c.broker.logLevel = d.broker.logLevel
  url : env .rpcUrl = none → c.rpc.url = d.rpc.url
  timeout : env .rpcTimeout = none → c.rpc.timeoutSeconds = d.rpc.timeoutSeconds
  account : env .account = none → c.rpc.account = d.rpc.account

variable {env : Environment} {c d : BrokerConfig} {file file' : TextFile}

theorem override_congr (h : AgreeBesides env c d) : c.override env = d.override env := by
  have hnetwork : c.networkIn env = d.networkIn env := by
    unfold networkIn
    cases hset : env .network with
    | none => rw [h.network hset]
    | some text => rfl
  have htimeout : c.timeoutIn env = d.timeoutIn env := by
    unfold timeoutIn
    cases hset : env .rpcTimeout with
    | none => rw [h.timeout hset]
    | some text => rfl
  have haccount : c.accountIn env = d.accountIn env := by
    unfold accountIn
    cases hset : env .account with
    | none => exact h.account hset
    | some text => rfl
  have hurl : (env .rpcUrl).getD c.rpc.url = (env .rpcUrl).getD d.rpc.url := by
    cases hset : env .rpcUrl with
    | none => exact h.url hset
    | some url => rfl
  rw [override_eq, override_eq, hnetwork, htimeout, haccount, hurl, h.logLevel]

theorem check_congr (hurl : c.rpc.url = d.rpc.url)
    (htimeout : c.rpc.timeoutSeconds = d.rpc.timeoutSeconds)
    (hlevel : c.broker.logLevel = d.broker.logLevel) : c.check = d.check := by
  unfold check
  rw [hurl, htimeout, hlevel]

theorem Parses.load_eq (h : Parses file c) :
    load env (some file) =
      c.check.mapError ConfigError.invalid >>= fun _ => c.override env >>= checked := by
  show (ofFile file >>= fun base => base.override env >>= checked) = _
  rw [h.ofFile_eq]
  cases hcheck : c.check <;> simp only [checked, hcheck] <;> rfl

theorem Parses.load_of_check_error (h : Parses file c) {fault : ConfigFault}
    (hfault : c.check = .error fault) : load env (some file) = .error (.invalid fault) := by
  rw [h.load_eq, hfault]
  rfl

theorem load_congr (hc : Parses file c) (hd : Parses file' d) (h : AgreeBesides env c d)
    (hcheck : c.check = d.check) : load env (some file) = load env (some file') := by
  rw [hc.load_eq, hd.load_eq, hcheck, override_congr h]

/-- Files whose configurations differ only in overridden values are loaded alike if both pass the
check on their own, or fail it alike, as they do when neither address nor timeout is overridden. A
file that fails it is refused for that, whatever is overridden. -/
theorem overridden_values (env : Environment) (file file' : TextFile) (c d : BrokerConfig)
    (hc : Parses file c) (hd : Parses file' d) (h : AgreeBesides env c d) :
    (c.Valid ∧ d.Valid ∨ c.check = d.check ∨ env .rpcUrl = none ∧ env .rpcTimeout = none →
      load env (some file) = load env (some file')) ∧
    (∀ fault, c.check = .error fault → load env (some file) = .error (.invalid fault)) ∧
    ∀ fault, d.check = .error fault → load env (some file') = .error (.invalid fault) := by
  refine ⟨fun hsame => load_congr hc hd h ?_, fun _ => hc.load_of_check_error,
    fun _ => hd.load_of_check_error⟩
  rcases hsame with ⟨hvalid, hvalid'⟩ | hcheck | ⟨hurl, htimeout⟩
  · rw [check_ok.mpr hvalid, check_ok.mpr hvalid']
  · exact hcheck
  · exact check_congr (h.url hurl) (h.timeout htimeout) h.logLevel

def mainnetFile : TextFile where
  path := "b.toml"
  contents := some
    "[broker]\nnetwork = \"mainnet\"\n\n[rpc]\nurl = \"http://localhost:10997\"\n"

def mainnetConfig : BrokerConfig :=
  { localConfig with broker := ⟨.mainnet, "info"⟩ }

def onSisyphos : Environment
  | .network => some "sisyphos"
  | _ => none

theorem overridden_values_onSisyphos :
    load onSisyphos (some localFile) = load onSisyphos (some mainnetFile) := by
  have hmainnet : Parses mainnetFile mainnetConfig :=
    ⟨rfl, ofPath?_broker_toml, by decide +kernel⟩
  have hagree : AgreeBesides onSisyphos localConfig mainnetConfig :=
    ⟨nofun, rfl, fun _ => rfl, fun _ => rfl, fun _ => rfl⟩
  obtain ⟨hsame, -, -⟩ := overridden_values onSisyphos _ _ _ _ localFile_parses hmainnet hagree
  exact hsame (.inr (.inr ⟨rfl, rfl⟩))

def socketFile : TextFile where
  path := "b.toml"
  contents := some
    "[broker]\nnetwork = \"perseverance\"\n\n[rpc]\nurl = \"ws://localhost:10997\"\n"

def socketConfig : BrokerConfig :=
  { localConfig with rpc := ⟨"ws://localhost:10997", 30, none⟩ }

def elsewhere : Environment
  | .rpcUrl => some "http://fix"
  | _ => none

/-- The address in a file matters although it is overridden. -/
theorem overridden_address_is_checked :
    ¬ ∀ (env : Environment) (file file' : TextFile) (c d : BrokerConfig), Parses file c →
      Parses file' d → AgreeBesides env c d → load env (some file) = load env (some file') := by
  have hsocket : Parses socketFile socketConfig :=
    ⟨rfl, ofPath?_broker_toml, by decide +kernel⟩
  have hagree : AgreeBesides elsewhere socketConfig localConfig :=
    ⟨fun _ => rfl, rfl, nofun, fun _ => rfl, fun _ => rfl⟩
  intro h
  have hsame := h elsewhere _ _ _ _ hsocket localFile_parses hagree
  rw [hsocket.load_eq, localFile_parses.load_eq] at hsame
  exact absurd hsame (by decide +kernel)

end SwapBroker.BrokerConfig
