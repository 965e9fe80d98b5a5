import SwapBroker.Proofs.ConfigSources
import SwapBroker.Transport.Http

/-!
# The transport of a configuration

The limits of an endpoint are stated twice: by the check of a configuration, over seconds of 64 bits,
and by the schema of the transport, over the integers of a table, which have 63 bits and a sign. Both
accept the same endpoints, so that a transport can be made of each configuration that is loaded.
-/

namespace SwapBroker

open Outcome

-- ---------------------------------------------------------------------------
-- The table of an endpoint
-- ---------------------------------------------------------------------------

namespace RpcConfig

variable (c : RpcConfig)

def tableSeconds : Int :=
  min (c.timeoutSeconds.toNat : Int) Int64.maxValue.toInt

def entries : Toml.Entries :=
  ("url", .string c.url) :: ("timeout_seconds", .integer c.tableSeconds) ::
    (c.account.map fun account => ("broker_account", Toml.string account)).toList

theorem toTable_eq : c.toTable = .table c.entries := rfl

theorem lookup?_url : Toml.lookup? "url" c.entries = some (.string c.url) := rfl

theorem lookup?_timeoutSeconds :
    Toml.lookup? "timeout_seconds" c.entries = some (.integer c.tableSeconds) := rfl

theorem lookup?_account :
    Toml.lookup? "broker_account" c.entries = c.account.map Toml.string := by
  cases h : c.account <;> simp [entries, Toml.lookup?, h]

/-- A timeout that a table cannot hold is out of range, and so is what the table holds instead. -/
theorem inRange_tableSeconds :
    Schema.inRange (some 1) (some 300) c.tableSeconds = true ↔
      1 ≤ c.timeoutSeconds.toNat ∧ c.timeoutSeconds.toNat ≤ 300 := by
  have hmax : Int64.maxValue.toInt = 9223372036854775807 := rfl
  simp only [Schema.inRange, tableSeconds, hmax, Option.all_some, Bool.and_eq_true,
    decide_eq_true_eq]
  omega

theorem tableSeconds_eq (h : c.timeoutSeconds.toNat ≤ 300) :
    c.tableSeconds = .ofNat c.timeoutSeconds.toNat := by
  have hmax : Int64.maxValue.toInt = 9223372036854775807 := rfl
  rw [tableSeconds, hmax, Int.ofNat_eq_natCast]
  omega

end RpcConfig

-- ---------------------------------------------------------------------------
-- The two checks
-- ---------------------------------------------------------------------------

namespace HttpTransport

/-- The schema looks at the address and then at the timeout; an account is always a text. -/
theorem validate_toTable (c : RpcConfig) : schema.validate c.toTable =
    if Schema.isUrl c.url then
      if Schema.inRange (some 1) (some 300) c.tableSeconds then .ok ()
      else .error (.invalidValue "timeout_seconds"
        (.outOfRange c.tableSeconds (some 1) (some 300)))
    else .error (.invalidValue "url" .notUrl) := by
  rw [Schema.validate, c.toTable_eq]
  simp only [schema, Schema.checkType, Schema.checkRequired, Schema.checkOptional,
    Schema.checkField, c.lookup?_url, c.lookup?_timeoutSeconds, c.lookup?_account]
  cases Schema.isUrl c.url with
  | false => rfl
  | true =>
    cases Schema.inRange (some 1) (some 300) c.tableSeconds with
    | false => rfl
    | true => cases c.account <;> rfl

theorem validate_toTable_ok {c : RpcConfig} :
    schema.validate c.toTable = .ok () ↔
      Schema.isUrl c.url = true ∧ 1 ≤ c.timeoutSeconds.toNat ∧ c.timeoutSeconds.toNat ≤ 300 := by
  rw [validate_toTable, ← c.inRange_tableSeconds]
  split
  next hurl => split <;> simp_all
  next hurl => simp_all

theorem ofTable_toTable {c : RpcConfig} (h : schema.validate c.toTable = .ok ()) :
    ofTable c.toTable = .ok { url := c.url, timeout := 1000 * c.timeoutSeconds.toNat } := by
  obtain ⟨-, -, hmax⟩ := validate_toTable_ok.mp h
  have hurl : c.toTable.get? "url" = some (.string c.url) := c.lookup?_url
  have hseconds : c.toTable.get? "timeout_seconds" = some (.integer c.tableSeconds) :=
    c.lookup?_timeoutSeconds
  simp only [ofTable, h, hurl, hseconds, c.tableSeconds_eq hmax, Option.bind_some, Toml.asString?,
    Toml.asInteger?]
  rfl

end HttpTransport

namespace BrokerConfig

theorem check_eq (c : BrokerConfig) : c.check =
    if Schema.isUrl c.rpc.url then
      if 1 ≤ c.rpc.timeoutSeconds.toNat ∧ c.rpc.timeoutSeconds.toNat ≤ 300 then
        if logLevels.any (Text.sameIgnoringCase · c.broker.logLevel) then .ok ()
        else .error .logLevel
      else .error .timeoutRange
    else .error (.url c.rpc.url) := by
  have hrange : c.rpc.timeoutSeconds.toNat < 1 ∨ maxTimeoutSeconds < c.rpc.timeoutSeconds.toNat ↔
      ¬ (1 ≤ c.rpc.timeoutSeconds.toNat ∧ c.rpc.timeoutSeconds.toNat ≤ 300) := by
    rw [maxTimeoutSeconds]
    omega
  simp only [check, hrange]
  cases Schema.isUrl c.rpc.url with
  | false => rfl
  | true =>
    by_cases htimeout : 1 ≤ c.rpc.timeoutSeconds.toNat ∧ c.rpc.timeoutSeconds.toNat ≤ 300
    · simp only [htimeout]
      cases logLevels.any (Text.sameIgnoringCase · c.broker.logLevel) <;> rfl
    · simp only [htimeout]
      rfl

theorem check_passes_endpoint_iff {c : BrokerConfig} :
    c.check = .ok () ∨ c.check = .error .logLevel ↔
      Schema.isUrl c.rpc.url = true ∧ 1 ≤ c.rpc.timeoutSeconds.toNat ∧
        c.rpc.timeoutSeconds.toNat ≤ 300 := by
  rw [check_eq]
  split_ifs <;> simp_all

-- ---------------------------------------------------------------------------
-- Loaded configurations
-- ---------------------------------------------------------------------------

section

variable {m : Type → Type} [Monad m]

def fileAt (files : Files m) : (path : Option String) → m (Option TextFile)
  | none => pure none
  | some path => (fun contents => some ⟨path, contents⟩) <$> files.read? path

theorem loadPath_eq_map [LawfulMonad m] (env : Environment) (files : Files m)
    (path : Option String) : loadPath env files path = load env <$> fileAt files path := by
  cases path with
  | none => exact (map_pure _ _).symm
  | some path => rw [loadPath, fileAt, Functor.map_map, ← bind_pure_comp]

/-- Whatever the files are and do, a configuration that is searched for is loaded from a file or from
the environment alone. -/
theorem exists_search_eq_map [LawfulMonad m] (env : Environment) (files : Files m) :
    ∃ found : m (Option TextFile), search env files = load env <$> found := by
  unfold search
  cases env .config with
  | some path => exact ⟨_, loadPath_eq_map env files (some path)⟩
  | none =>
    refine ⟨firstThere files usualPaths >>= fileAt files, ?_⟩
    rw [map_bind]
    exact congrArg (firstThere files usualPaths >>= ·) (funext (loadPath_eq_map env files))

end

theorem Valid.accepts {c : BrokerConfig} (h : c.Valid) :
    HttpTransport.schema.validate c.rpc.toTable = .ok () :=
  HttpTransport.validate_toTable_ok.mpr (check_passes_endpoint_iff.mp (.inl (check_ok.mpr h)))

/-- The schema of the transport accepts the table of exactly those configurations whose address and
timeout pass the check. Each configuration that is loaded, from a file as it stands or with the
environment, so makes a transport with its address and its timeout, and searching is loading what is
found. -/
theorem loaded_makes_transport :
    (∀ c : BrokerConfig, HttpTransport.schema.validate c.rpc.toTable = .ok () ↔
      c.check = .ok () ∨ c.check = .error .logLevel) ∧
    (∀ c : BrokerConfig,
      (∃ file, ofFile file = .ok c) ∨ (∃ env file, load env file = .ok c) →
        HttpTransport.ofTable c.rpc.toTable =
          .ok { url := c.rpc.url, timeout := 1000 * c.rpc.timeoutSeconds.toNat, nextId := 0 }) ∧
    ∀ (m : Type → Type) [Monad m] [LawfulMonad m] (env : Environment) (files : Files m),
      ∃ found : m (Option TextFile), search env files = load env <$> found := by
  refine ⟨fun c => ?_, fun c hloaded => ?_, fun m _ _ env files => exists_search_eq_map env files⟩
  · rw [check_passes_endpoint_iff, HttpTransport.validate_toTable_ok]
  · have hvalid : c.Valid := by
      obtain ⟨file, h⟩ | ⟨env, file, h⟩ := hloaded
      · exact (ofFile_ok.mp h).2
      · obtain ⟨base, -, -, hvalid⟩ := load_ok.mp h
        exact hvalid
    exact HttpTransport.ofTable_toTable hvalid.accepts

theorem loaded_makes_transport_localFile :
    load hurried (some localFile) = .ok hurriedConfig ∧
      HttpTransport.ofTable hurriedConfig.rpc.toTable =
        .ok { url := "http://localhost:10997", timeout := 5000 } := by
  obtain ⟨-, hmakes, -⟩ := loaded_makes_transport
  exact ⟨load_localFile, hmakes hurriedConfig (.inr ⟨hurried, some localFile, load_localFile⟩)⟩

end BrokerConfig

end SwapBroker
