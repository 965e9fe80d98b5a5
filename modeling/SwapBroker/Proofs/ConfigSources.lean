import SwapBroker.Config.Search
import SwapBroker.Proofs.ConfigDocuments

/-!
# Where configurations come from

A configuration that is loaded is valid, and each value in it comes from the environment if the
variable is set, else from the file if that says it, else from the defaults. The file is the one that
is named or the first that is found; without one the environment has to name network and address.
-/

namespace SwapBroker

open Outcome

-- ---------------------------------------------------------------------------
-- Valid configurations
-- ---------------------------------------------------------------------------

structure BrokerConfig.Valid (c : BrokerConfig) : Prop where
  url : "http://".toList <+: c.rpc.url.toList ∨ "https://".toList <+: c.rpc.url.toList
  timeout : 1 ≤ c.rpc.timeoutSeconds.toNat ∧ c.rpc.timeoutSeconds.toNat ≤ 300
  logLevel : ∃ level ∈ ["trace", "debug", "info", "warn", "error"],
    Text.sameIgnoringCase level c.broker.logLevel = true

theorem Schema.isUrl_iff {s : String} :
    isUrl s = true ↔ "http://".toList <+: s.toList ∨ "https://".toList <+: s.toList := by
  have hprefix {start : String} : Text.startsWith start s = true ↔ start.toList <+: s.toList := by
    rw [Text.startsWith_iff]
    exact exists_congr fun _ => eq_comm
  rw [isUrl, Bool.or_eq_true, hprefix, hprefix]

namespace BrokerConfig

variable {env : Environment} {base c : BrokerConfig} {s : ConfigStatement}

theorem check_ok : c.check = .ok () ↔ c.Valid := by
  have hlevels : logLevels.any (Text.sameIgnoringCase · c.broker.logLevel) = true ↔
      ∃ level ∈ logLevels, Text.sameIgnoringCase level c.broker.logLevel = true := List.any_eq_true
  unfold check
  simp only [Bool.not_eq_true', guard_bind_ok_iff, guard_ok_iff, Bool.not_eq_false,
    Schema.isUrl_iff, hlevels]
  constructor
  · rintro ⟨hurl, htimeout, hlevel⟩
    have hmax : maxTimeoutSeconds = 300 := rfl
    exact ⟨hurl, by omega, hlevel⟩
  · rintro ⟨hurl, htimeout, hlevel⟩
    have hmax : maxTimeoutSeconds = 300 := rfl
    exact ⟨hurl, by omega, hlevel⟩

theorem checked_ok {d : BrokerConfig} : c.checked = .ok d ↔ c = d ∧ d.Valid := by
  simp only [checked, bind_ok_iff, mapError_ok_iff, exists_check_ok_iff, pure_ok_iff, check_ok]
  constructor
  · rintro ⟨hvalid, rfl⟩
    exact ⟨rfl, hvalid⟩
  · rintro ⟨rfl, hvalid⟩
    exact ⟨hvalid, rfl⟩

-- ---------------------------------------------------------------------------
-- Overriding
-- ---------------------------------------------------------------------------

/-- Each value is the one of its variable, read if need be, when that is set, and else what is said
or the default. An empty account is none. -/
structure From (env : Environment) (s : ConfigStatement) (c : BrokerConfig) : Prop where
  network : match env .network with
    | some text => Network.ofText text = .ok c.broker.network
    | none => s.network = some c.broker.network
  url : (env .rpcUrl).or s.url = some c.rpc.url
  timeout : match env .rpcTimeout with
    | some text => secondsOf text = .ok c.rpc.timeoutSeconds
    | none => c.rpc.timeoutSeconds = s.timeoutSeconds.getD 30
  account : match env .account with
    | some text => c.rpc.account = if text = "" then none else some text
    | none => c.rpc.account = s.account
  logLevel : c.broker.logLevel = s.logLevel.getD "info"

def networkIn (env : Environment) (c : BrokerConfig) : Except ConfigError Network :=
  match env .network with
  | some text => networkOf text
  | none => pure c.broker.network

def timeoutIn (env : Environment) (c : BrokerConfig) : Except ConfigError UInt64 :=
  match env .rpcTimeout with
  | some text => secondsOf text
  | none => pure c.rpc.timeoutSeconds

def accountIn (env : Environment) (c : BrokerConfig) : Option String :=
  match env .account with
  | some text => if text = "" then none else some text
  | none => c.rpc.account

theorem override_eq (env : Environment) (c : BrokerConfig) :
    c.override env = do
      let network ← c.networkIn env
      let seconds ← c.timeoutIn env
      return ⟨⟨network, c.broker.logLevel⟩,
        ⟨(env .rpcUrl).getD c.rpc.url, seconds, c.accountIn env⟩⟩ := by
  unfold override networkIn timeoutIn accountIn
  -- Without its value the account decides nothing, so the empty text is split off first.
  cases env .account with
  | none => cases env .network <;> cases env .rpcTimeout <;> rfl
  | some text =>
    by_cases htext : text = ""
    · subst htext
      cases env .network <;> cases env .rpcTimeout <;> rfl
    · cases env .network <;> cases env .rpcTimeout <;> simp only [htext] <;> rfl

theorem networkIn_ok (hs : s.Gives base) {network : Network} :
    base.networkIn env = .ok network ↔
      match env .network with
      | some text => Network.ofText text = .ok network
      | none => s.network = some network := by
  unfold networkIn
  cases env .network with
  | none => rw [pure_ok_iff, hs.network, Option.some.injEq]
  | some text => exact mapError_ok_iff

theorem timeoutIn_ok (hs : s.Gives base) {seconds : UInt64} :
    base.timeoutIn env = .ok seconds ↔
      match env .rpcTimeout with
      | some text => secondsOf text = .ok seconds
      | none => seconds = s.timeoutSeconds.getD 30 := by
  unfold timeoutIn
  cases env .rpcTimeout with
  | none => rw [pure_ok_iff, hs.timeout, eq_comm]
  | some text => rfl

theorem accountIn_eq (hs : s.Gives base) {account : Option String} :
    base.accountIn env = account ↔
      match env .account with
      | some text => account = if text = "" then none else some text
      | none => account = s.account := by
  unfold accountIn
  cases env .account with
  | none => rw [hs.account, eq_comm]
  | some text => exact eq_comm

theorem override_ok (hs : s.Gives base) : base.override env = .ok c ↔ c.From env s := by
  have hurl {url : String} : (env .rpcUrl).getD base.rpc.url = url ↔
      (env .rpcUrl).or s.url = some url := by
    cases env .rpcUrl <;> simp [hs.url]
  simp only [override_eq, bind_ok_iff, pure_ok_iff]
  constructor
  · rintro ⟨network, hnetwork, seconds, hseconds, rfl⟩
    exact ⟨(networkIn_ok hs).mp hnetwork, hurl.mp rfl, (timeoutIn_ok hs).mp hseconds,
      (accountIn_eq hs).mp rfl, hs.logLevel⟩
  · intro h
    refine ⟨_, (networkIn_ok hs).mpr h.network, _, (timeoutIn_ok hs).mpr h.timeout, ?_⟩
    rw [hurl.mpr h.url, (accountIn_eq hs).mpr h.account, hs.logLevel, ← h.logLevel]

-- ---------------------------------------------------------------------------
-- Loading
-- ---------------------------------------------------------------------------

inductive Parses (file : TextFile) (c : BrokerConfig) : Prop
  | intro {contents : String} {format : DocumentFormat} (readable : file.contents = some contents)
    (supported : DocumentFormat.ofPath? file.path = some format)
    (parsable : ofDocument? format contents = some c)

theorem Parses.ofFile_eq {file : TextFile} (h : Parses file c) : ofFile file = c.checked := by
  obtain ⟨readable, supported, parsable⟩ := h
  simp only [ofFile, readable, supported, parsable]

theorem ofFile_ok {file : TextFile} : ofFile file = .ok c ↔ Parses file c ∧ c.Valid := by
  constructor
  · intro h
    cases hreadable : file.contents with
    | none =>
      simp only [ofFile, hreadable] at h
      cases h
    | some contents =>
      cases hsupported : DocumentFormat.ofPath? file.path with
      | none =>
        simp only [ofFile, hreadable, hsupported] at h
        cases h
      | some format =>
        cases hparsable : ofDocument? format contents with
        | none =>
          simp only [ofFile, hreadable, hsupported, hparsable] at h
          cases h
        | some d =>
          have hparses : Parses file d := ⟨hreadable, hsupported, hparsable⟩
          rw [hparses.ofFile_eq] at h
          obtain ⟨rfl, hvalid⟩ := checked_ok.mp h
          exact ⟨hparses, hvalid⟩
  · rintro ⟨hparses, hvalid⟩
    rw [hparses.ofFile_eq]
    exact checked_ok.mpr ⟨rfl, hvalid⟩

theorem load_ok {file : Option TextFile} :
    load env file = .ok c ↔
      ∃ base, file.elim (ofEnvironment env) ofFile = .ok base ∧ base.override env = .ok c ∧
        c.Valid := by
  have hload : load env file =
      file.elim (ofEnvironment env) ofFile >>= fun base => base.override env >>= checked := by
    cases file <;> rfl
  simp only [hload, bind_ok_iff, checked_ok]
  constructor
  · rintro ⟨base, hbase, _, hoverride, rfl, hvalid⟩
    exact ⟨base, hbase, hoverride, hvalid⟩
  · rintro ⟨base, hbase, hoverride, hvalid⟩
    exact ⟨base, hbase, c, hoverride, rfl, hvalid⟩

theorem ofEnvironment_notFound (h : env .network = none ∨ env .rpcUrl = none) :
    ofEnvironment env = .error .notFound := by
  unfold ofEnvironment
  rcases h with hnone | hnone
  · rw [hnone]
    rfl
  · rw [hnone]
    cases env .network <;> rfl

theorem ofEnvironment_eq {name url : String} (hname : env .network = some name)
    (hurl : env .rpcUrl = some url) :
    ofEnvironment env = (networkOf name).map fun network => ⟨⟨network, "info"⟩, ⟨url, 30, none⟩⟩ := by
  simp only [ofEnvironment, hname, hurl]
  cases networkOf name <;> rfl

/-- What is said of network and address does not matter when both variables are set. -/
theorem from_of_set {name url : String} (hname : env .network = some name)
    (hurl : env .rpcUrl = some url) (network : Option Network) (said : Option String) :
    c.From env { s with network, url := said } ↔ c.From env s := by
  constructor <;> rintro ⟨hnetwork, haddress, htimeout, haccount, hlevel⟩
  all_goals
    rw [hname] at hnetwork
    rw [hurl] at haddress
    exact ⟨by rw [hname]; exact hnetwork, by rw [hurl]; exact haddress, htimeout, haccount, hlevel⟩

theorem load_environment_ok : load env none = .ok c ↔ c.From env {} ∧ c.Valid := by
  rw [load_ok, Option.elim_none]
  constructor
  · rintro ⟨base, hbase, hoverride, hvalid⟩
    refine ⟨?_, hvalid⟩
    cases hname : env .network with
    | none =>
      rw [ofEnvironment_notFound (.inl hname)] at hbase
      cases hbase
    | some name =>
      cases hurl : env .rpcUrl with
      | none =>
        rw [ofEnvironment_notFound (.inr hurl)] at hbase
        cases hbase
      | some url =>
        rw [ofEnvironment_eq hname hurl] at hbase
        obtain ⟨network, -, rfl⟩ := map_ok_iff.mp hbase
        exact (from_of_set hname hurl (some network) (some url)).mp
          ((override_ok ⟨rfl, rfl, rfl, rfl, rfl⟩).mp hoverride)
  · rintro ⟨h, hvalid⟩
    have hnetwork := h.network
    have haddress := h.url
    cases hname : env .network with
    | none =>
      rw [hname] at hnetwork
      cases hnetwork
    | some name =>
      cases hurl : env .rpcUrl with
      | none =>
        rw [hurl] at haddress
        cases haddress
      | some url =>
        rw [hname] at hnetwork
        refine ⟨⟨⟨c.broker.network, "info"⟩, ⟨url, 30, none⟩⟩, ?_,
          (override_ok ⟨rfl, rfl, rfl, rfl, rfl⟩).mpr
            ((from_of_set hname hurl (some c.broker.network) (some url)).mpr h), hvalid⟩
        rw [ofEnvironment_eq hname hurl, map_ok_iff]
        exact ⟨_, mapError_ok_iff.mpr hnetwork, rfl⟩

theorem load_file_ok {file : TextFile} (h : load env (some file) = .ok c) :
    ∃ contents format doc s, file.contents = some contents ∧
      DocumentFormat.ofPath? file.path = some format ∧ Document.read? contents format = some doc ∧
      doc.States s ∧ c.From env s ∧ c.Valid := by
  obtain ⟨base, hbase, hoverride, hvalid⟩ := load_ok.mp h
  obtain ⟨⟨hreadable, hsupported, hparsable⟩, -⟩ := ofFile_ok.mp hbase
  obtain ⟨doc, s, hread, hstates, hgives⟩ := exists_statement hparsable
  exact ⟨_, _, doc, s, hreadable, hsupported, hread, hstates, (override_ok hgives).mp hoverride,
    hvalid⟩

-- ---------------------------------------------------------------------------
-- Searching
-- ---------------------------------------------------------------------------

end BrokerConfig

def Files.still {m : Type → Type} [Monad m] (read? : String → Option String)
    (isThere : String → Bool) : Files m where
  read? path := pure (read? path)
  isThere path := pure (isThere path)

namespace BrokerConfig

section

variable {m : Type → Type} [Monad m] [LawfulMonad m] {read? : String → Option String}
  {isThere : String → Bool}

theorem firstThere_eq (paths : List String) :
    firstThere (Files.still read? isThere) paths = (pure (paths.find? isThere) : m _) := by
  induction paths with
  | nil => rfl
  | cons path rest ih =>
    have hthere : (Files.still read? isThere : Files m).isThere path = pure (isThere path) := rfl
    rw [firstThere, hthere, pure_bind, List.find?_cons]
    cases isThere path with
    | true => rfl
    | false => simpa using ih

theorem loadPath_eq (env : Environment) (path : Option String) :
    loadPath env (Files.still read? isThere) path =
      (pure (load env (path.map fun path => ⟨path, read? path⟩)) : m _) := by
  cases path with
  | none => rfl
  | some path =>
    have hread : (Files.still read? isThere : Files m).read? path = pure (read? path) := rfl
    rw [loadPath, hread, pure_bind, Option.map_some]

theorem search_eq (env : Environment) :
    search env (Files.still read? isThere) =
      (pure (load env (((env .config).or (usualPaths.find? isThere)).map fun path =>
        ⟨path, read? path⟩)) : m _) := by
  unfold search
  cases env .config with
  | none => rw [firstThere_eq, pure_bind, loadPath_eq, Option.none_or]
  | some path => exact loadPath_eq env (some path)

end

/-- A configuration that is loaded is valid, and each value in it is the one of its variable if that
is set, else the one that the document in the file says, else the default. Without a file, network and
address have to be set. The file is the one that is named, there or not, else the first that is there
of two, else none. -/
theorem load_and_search (env : Environment) :
    (∀ file c, load env (some file) = .ok c →
      ∃ contents format doc s, file.contents = some contents ∧
        DocumentFormat.ofPath? file.path = some format ∧
        Document.read? contents format = some doc ∧ doc.States s ∧ c.From env s ∧ c.Valid) ∧
    (∀ c, load env none = .ok c ↔ c.From env {} ∧ c.Valid) ∧
    (env .network = none ∨ env .rpcUrl = none → load env none = .error .notFound) ∧
    ∀ (m : Type → Type) [Monad m] [LawfulMonad m] (read? : String → Option String)
      (isThere : String → Bool),
      search env (Files.still read? isThere : Files m) =
        pure (load env
          (((env .config).or (["./broker.toml", "./config/broker.toml"].find? isThere)).map
            fun path => ⟨path, read? path⟩)) := by
  refine ⟨fun _ _ => load_file_ok, fun _ => load_environment_ok, fun h => ?_, ?_⟩
  · show (ofEnvironment env >>= fun base => base.override env >>= checked) = _
    rw [ofEnvironment_notFound h]
    rfl
  · intro m _ _ read? isThere
    exact search_eq env

theorem ofPath?_broker_toml : DocumentFormat.ofPath? "b.toml" = some .toml := by
  have hsplit : "b.toml".splitOn "/" = ["b.toml"] := by
    rw [String.splitOn, if_neg (by decide)]
    -- Looks at one character after the other, none of which is the slash.
    repeat rw [String.splitOnAux, if_neg (by decide +kernel), if_neg (by decide +kernel)]
    rw [String.splitOnAux, if_pos (by decide +kernel)]
    decide +kernel
  unfold DocumentFormat.ofPath? extension?
  rw [hsplit]
  decide +kernel

def localFile : TextFile where
  path := "b.toml"
  contents := some
    "[broker]\nnetwork = \"perseverance\"\n\n[rpc]\nurl = \"http://localhost:10997\"\n"

def localConfig : BrokerConfig where
  broker := ⟨.perseverance, "info"⟩
  rpc := ⟨"http://localhost:10997", 30, none⟩

theorem localFile_parses : Parses localFile localConfig :=
  ⟨rfl, ofPath?_broker_toml, by decide +kernel⟩

def hurried : Environment
  | .rpcTimeout => some " +5 "
  | .account => some ""
  | _ => none

def hurriedConfig : BrokerConfig :=
  { localConfig with rpc := ⟨"http://localhost:10997", 5, none⟩ }

theorem load_localFile : load hurried (some localFile) = .ok hurriedConfig := by
  refine load_ok.mpr ⟨_, ofFile_ok.mpr ⟨localFile_parses, check_ok.mp ?_⟩, ?_, check_ok.mp ?_⟩
  all_goals decide +kernel

theorem load_and_search_localFile :
    load hurried (some localFile) = .ok hurriedConfig ∧
      (∃ s, hurriedConfig.From hurried s) ∧ hurriedConfig.Valid ∧
      load hurried none = .error .notFound ∧
      search hurried (Files.still (fun _ => none) fun _ => false : Files Id) =
        .error .notFound := by
  obtain ⟨hfile, -, hnone, hsearch⟩ := load_and_search hurried
  obtain ⟨_, _, _, s, -, -, -, -, hfrom, hvalid⟩ := hfile localFile hurriedConfig load_localFile
  have hmissing := hnone (.inl rfl)
  exact ⟨load_localFile, ⟨s, hfrom⟩, hvalid, hmissing,
    (hsearch Id (fun _ => none) fun _ => false).trans hmissing⟩

end BrokerConfig

end SwapBroker
