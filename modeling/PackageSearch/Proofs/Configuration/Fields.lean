import PackageSearch.Configuration.Fields
import PackageSearch.Proofs.Members
import Mathlib.Tactic.Choose

/-!
# The fields of a configuration

Every field takes what a table gives for its key, or else its default. There is a configuration only
if whatever the table gives for a field is of its kind and within its bounds.
-/

namespace PackageSearch.Configuration

inductive TextField where
  | bind
  | nixCommand
  | nixEnvCommand
  | systemProfile
  deriving DecidableEq

inductive NaturalField where
  | port
  | searchTtl
  | installedTtl
  | probeTimeout
  | searchTimeout
  | resultLimit
  | sweepThreshold
  | maxQueryLength
  | maxOutput
  | descriptionLimit
  deriving DecidableEq

variable {table : Toml.Table} {configuration : Configuration} {given : Option Toml.Node}

namespace TextField

variable {field : TextField} {value : String}

def key : TextField → String
  | .bind => "bind"
  | .nixCommand => "nix_command"
  | .nixEnvCommand => "nix_env_command"
  | .systemProfile => "system_profile"

def get (configuration : Configuration) : TextField → String
  | .bind => configuration.bind
  | .nixCommand => configuration.nixCommand
  | .nixEnvCommand => configuration.nixEnvCommand
  | .systemProfile => configuration.systemProfile

/-- The field has the value if this is given for it: a text, or nothing and the value is the
default. -/
def Takes (field : TextField) (given : Option Toml.Node) (value : String) : Prop :=
  given = some (.text value) ∨ given = none ∧ value = field.get standard

theorem takes_iff : field.Takes (Members.get? field.key table) value ↔
    textField table field.key (field.get standard) = some value := by
  unfold Takes textField
  cases Members.get? field.key table with
  | none => simp [eq_comm]
  | some node => cases node <;> simp

end TextField

namespace NaturalField

variable {field : NaturalField} {value : Nat}

def key : NaturalField → String
  | .port => "port"
  | .searchTtl => "search_ttl_secs"
  | .installedTtl => "installed_ttl_secs"
  | .probeTimeout => "probe_timeout_secs"
  | .searchTimeout => "search_timeout_secs"
  | .resultLimit => "result_limit"
  | .sweepThreshold => "sweep_threshold"
  | .maxQueryLength => "max_query_len"
  | .maxOutput => "max_output_bytes"
  | .descriptionLimit => "description_limit"

def get (configuration : Configuration) : NaturalField → Nat
  | .port => configuration.port
  | .searchTtl => configuration.searchTtl
  | .installedTtl => configuration.installedTtl
  | .probeTimeout => configuration.probeTimeout
  | .searchTimeout => configuration.searchTimeout
  | .resultLimit => configuration.resultLimit
  | .sweepThreshold => configuration.sweepThreshold
  | .maxQueryLength => configuration.maxQueryLength
  | .maxOutput => configuration.maxOutput
  | .descriptionLimit => configuration.descriptionLimit

/-- The largest value of the field: a port has 16 bits, and no integer of a file more than 63. -/
def most : NaturalField → Nat
  | .port => 0xFFFF
  | _ => 0x7FFFFFFFFFFFFFFF

/-- The field has the value if this is given for it: an integer within its bounds, or nothing and
the value is the default. -/
def Takes (field : NaturalField) (given : Option Toml.Node) (value : Nat) : Prop :=
  given = some (.integer value) ∧ value ≤ field.most ∨ given = none ∧ value = field.get standard

theorem takes_iff : field.Takes (Members.get? field.key table) value ↔
    naturalField table field.key field.most (field.get standard) = some value := by
  unfold Takes naturalField
  cases Members.get? field.key table with
  | none => simp [eq_comm]
  | some node =>
      cases node with
      | integer number =>
          simp only [Option.some.injEq, Toml.Node.integer.injEq, reduceCtorEq, false_and, or_false,
            Option.ite_none_right_eq_some, Bool.and_eq_true, decide_eq_true_eq]
          omega
      | _ => simp

end NaturalField

/-- The fields of the configuration take what the table gives. -/
structure Holds (table : Toml.Table) (configuration : Configuration) : Prop where
  text : ∀ field : TextField, field.Takes (Members.get? field.key table) (field.get configuration)
  natural : ∀ field : NaturalField,
    field.Takes (Members.get? field.key table) (field.get configuration)

theorem ofTable_eq_some_iff : ofTable table = some configuration ↔ Holds table configuration := by
  constructor
  · intro read
    obtain ⟨bind, isBind, read⟩ := Option.bind_eq_some_iff.mp read
    obtain ⟨port, isPort, read⟩ := Option.bind_eq_some_iff.mp read
    obtain ⟨searchTtl, isSearchTtl, read⟩ := Option.bind_eq_some_iff.mp read
    obtain ⟨installedTtl, isInstalledTtl, read⟩ := Option.bind_eq_some_iff.mp read
    obtain ⟨probeTimeout, isProbeTimeout, read⟩ := Option.bind_eq_some_iff.mp read
    obtain ⟨searchTimeout, isSearchTimeout, read⟩ := Option.bind_eq_some_iff.mp read
    obtain ⟨resultLimit, isResultLimit, read⟩ := Option.bind_eq_some_iff.mp read
    obtain ⟨sweepThreshold, isSweepThreshold, read⟩ := Option.bind_eq_some_iff.mp read
    obtain ⟨maxQueryLength, isMaxQueryLength, read⟩ := Option.bind_eq_some_iff.mp read
    obtain ⟨maxOutput, isMaxOutput, read⟩ := Option.bind_eq_some_iff.mp read
    obtain ⟨descriptionLimit, isDescriptionLimit, read⟩ := Option.bind_eq_some_iff.mp read
    obtain ⟨nixCommand, isNixCommand, read⟩ := Option.bind_eq_some_iff.mp read
    obtain ⟨nixEnvCommand, isNixEnvCommand, read⟩ := Option.bind_eq_some_iff.mp read
    obtain ⟨systemProfile, isSystemProfile, read⟩ := Option.bind_eq_some_iff.mp read
    cases read
    refine ⟨fun field => TextField.takes_iff.mpr ?_, fun field => NaturalField.takes_iff.mpr ?_⟩
    · cases field <;> assumption
    · cases field <;> assumption
  · intro holds
    have text := fun field => TextField.takes_iff.mp (holds.text field)
    have natural := fun field => NaturalField.takes_iff.mp (holds.natural field)
    refine Option.bind_eq_some_iff.mpr ⟨_, text .bind, ?_⟩
    refine Option.bind_eq_some_iff.mpr ⟨_, natural .port, ?_⟩
    refine Option.bind_eq_some_iff.mpr ⟨_, natural .searchTtl, ?_⟩
    refine Option.bind_eq_some_iff.mpr ⟨_, natural .installedTtl, ?_⟩
    refine Option.bind_eq_some_iff.mpr ⟨_, natural .probeTimeout, ?_⟩
    refine Option.bind_eq_some_iff.mpr ⟨_, natural .searchTimeout, ?_⟩
    refine Option.bind_eq_some_iff.mpr ⟨_, natural .resultLimit, ?_⟩
    refine Option.bind_eq_some_iff.mpr ⟨_, natural .sweepThreshold, ?_⟩
    refine Option.bind_eq_some_iff.mpr ⟨_, natural .maxQueryLength, ?_⟩
    refine Option.bind_eq_some_iff.mpr ⟨_, natural .maxOutput, ?_⟩
    refine Option.bind_eq_some_iff.mpr ⟨_, natural .descriptionLimit, ?_⟩
    refine Option.bind_eq_some_iff.mpr ⟨_, text .nixCommand, ?_⟩
    refine Option.bind_eq_some_iff.mpr ⟨_, text .nixEnvCommand, ?_⟩
    exact Option.bind_eq_some_iff.mpr ⟨_, text .systemProfile, rfl⟩

/-- What is given under the name is not for a field, or is of its kind and within its bounds. -/
structure Admits (entry : String × Toml.Node) : Prop where
  text : ∀ field : TextField, field.key = entry.1 → ∃ value, entry.2 = .text value
  natural : ∀ field : NaturalField, field.key = entry.1 →
    ∃ value : Nat, value ≤ field.most ∧ entry.2 = .integer value

def ofFields (text : TextField → String) (natural : NaturalField → Nat) : Configuration where
  bind := text .bind
  port := natural .port
  searchTtl := natural .searchTtl
  installedTtl := natural .installedTtl
  probeTimeout := natural .probeTimeout
  searchTimeout := natural .searchTimeout
  resultLimit := natural .resultLimit
  sweepThreshold := natural .sweepThreshold
  maxQueryLength := natural .maxQueryLength
  maxOutput := natural .maxOutput
  descriptionLimit := natural .descriptionLimit
  nixCommand := text .nixCommand
  nixEnvCommand := text .nixEnvCommand
  systemProfile := text .systemProfile

theorem get_ofFields_text (text : TextField → String) (natural : NaturalField → Nat)
    (field : TextField) : field.get (ofFields text natural) = text field := by
  cases field <;> rfl

theorem get_ofFields_natural (text : TextField → String) (natural : NaturalField → Nat)
    (field : NaturalField) : field.get (ofFields text natural) = natural field := by
  cases field <;> rfl

theorem exists_takes_text (distinct : (Members.keys table).Nodup)
    (admits : ∀ entry ∈ table, Admits entry) (field : TextField) :
    ∃ value, field.Takes (Members.get? field.key table) value := by
  cases found : Members.get? field.key table with
  | none => exact ⟨field.get standard, .inr ⟨rfl, rfl⟩⟩
  | some node =>
      have membership := (Members.get?_eq_some_iff distinct).mp found
      obtain ⟨value, rfl⟩ := (admits _ membership).text field rfl
      exact ⟨value, .inl rfl⟩

theorem exists_takes_natural (distinct : (Members.keys table).Nodup)
    (admits : ∀ entry ∈ table, Admits entry) (field : NaturalField) :
    ∃ value, field.Takes (Members.get? field.key table) value := by
  cases found : Members.get? field.key table with
  | none => exact ⟨field.get standard, .inr ⟨rfl, rfl⟩⟩
  | some node =>
      have membership := (Members.get?_eq_some_iff distinct).mp found
      obtain ⟨value, within, rfl⟩ := (admits _ membership).natural field rfl
      exact ⟨value, .inl ⟨rfl, within⟩⟩

/-- There is a configuration if everything given for a field suits it, and only then. -/
theorem exists_holds_iff (distinct : (Members.keys table).Nodup) :
    (∃ configuration, Holds table configuration) ↔ ∀ entry ∈ table, Admits entry := by
  constructor
  · rintro ⟨configuration, holds⟩ ⟨name, node⟩ membership
    have found := (Members.get?_eq_some_iff distinct).mpr membership
    constructor
    · rintro field rfl
      rcases holds.text field with given | ⟨absent, -⟩
      · exact ⟨_, Option.some.inj (found.symm.trans given)⟩
      · rw [found] at absent
        contradiction
    · rintro field rfl
      rcases holds.natural field with ⟨given, within⟩ | ⟨absent, -⟩
      · exact ⟨_, within, Option.some.inj (found.symm.trans given)⟩
      · rw [found] at absent
        contradiction
  · intro admits
    have text := exists_takes_text distinct admits
    have natural := exists_takes_natural distinct admits
    choose text isText using text
    choose natural isNatural using natural
    refine ⟨ofFields text natural, fun field => ?_, fun field => ?_⟩
    · rw [get_ofFields_text]
      exact isText field
    · rw [get_ofFields_natural]
      exact isNatural field

end PackageSearch.Configuration
