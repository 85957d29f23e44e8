import PackageSearch.Toml.Document

/-!
The settings that a configuration file can give, and their defaults.
-/

namespace PackageSearch

structure Configuration where
  bind : String
  port : Nat
  /-- Times to live and patience, in seconds. -/
  searchTtl : Nat
  installedTtl : Nat
  probeTimeout : Nat
  searchTimeout : Nat
  resultLimit : Nat
  /-- The number of cached responses from which on old ones are removed. -/
  sweepThreshold : Nat
  maxQueryLength : Nat
  maxOutput : Nat
  descriptionLimit : Nat
  nixCommand : String
  nixEnvCommand : String
  systemProfile : String
  deriving DecidableEq, Repr

namespace Configuration

def standard : Configuration where
  bind := "127.0.0.1"
  port := 5001
  searchTtl := 3600
  installedTtl := 300
  probeTimeout := 10
  searchTimeout := 30
  resultLimit := 50
  sweepThreshold := 100
  maxQueryLength := 100
  maxOutput := 1000000
  descriptionLimit := 200
  nixCommand := "nix"
  nixEnvCommand := "nix-env"
  systemProfile := "/nix/var/nix/profiles/system"

def largestPort : Nat := 65535

/-- A text field of a table, or its default if it is not given; none if what is given is no text. -/
def textField (table : Toml.Table) (name : String) (standard : String) : Option String :=
  match Members.get? name table with
  | none => some standard
  | some (.text value) => some value
  | some _ => none

def naturalField (table : Toml.Table) (name : String) (most standard : Nat) : Option Nat :=
  match Members.get? name table with
  | none => some standard
  | some (.integer value) => if 0 ≤ value && value ≤ most then some value.toNat else none
  | some _ => none

/-- The configuration in a table. Fields that are not given have their defaults, and other names do
not matter. -/
def ofTable (table : Toml.Table) : Option Configuration := do
  let natural (name : String) (standard : Nat) := naturalField table name Toml.largestInteger standard
  let bind ← textField table "bind" standard.bind
  let port ← naturalField table "port" largestPort standard.port
  let searchTtl ← natural "search_ttl_secs" standard.searchTtl
  let installedTtl ← natural "installed_ttl_secs" standard.installedTtl
  let probeTimeout ← natural "probe_timeout_secs" standard.probeTimeout
  let searchTimeout ← natural "search_timeout_secs" standard.searchTimeout
  let resultLimit ← natural "result_limit" standard.resultLimit
  let sweepThreshold ← natural "sweep_threshold" standard.sweepThreshold
  let maxQueryLength ← natural "max_query_len" standard.maxQueryLength
  let maxOutput ← natural "max_output_bytes" standard.maxOutput
  let descriptionLimit ← natural "description_limit" standard.descriptionLimit
  let nixCommand ← textField table "nix_command" standard.nixCommand
  let nixEnvCommand ← textField table "nix_env_command" standard.nixEnvCommand
  let systemProfile ← textField table "system_profile" standard.systemProfile
  pure {
    bind, port, searchTtl, installedTtl, probeTimeout, searchTimeout, resultLimit, sweepThreshold,
    maxQueryLength, maxOutput, descriptionLimit, nixCommand, nixEnvCommand, systemProfile }

def parse (text : List Char) : Option Configuration :=
  (Toml.parse text).bind ofTable

def listenAddress (configuration : Configuration) : String :=
  configuration.bind ++ ":" ++ toString configuration.port

end Configuration

end PackageSearch
