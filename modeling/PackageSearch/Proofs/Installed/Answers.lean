import PackageSearch.Installed.NixProbe
import PackageSearch.Proofs.Text.Blank

/-!
# Commands that list installed packages

What such a command is given, and when its answer counts: a profile list if its command succeeds,
the listing of an environment only if it is not blank besides.
-/

namespace PackageSearch

open Host Installed

/-! ### What a command is given -/

namespace Host

/-- The command runs the program with the arguments. In its environment it finds the values, and
otherwise what it inherits. -/
structure Command.Runs (command : Command) (program : String) (arguments : List String)
    (values : List (String × String)) : Prop where
  program : command.program = program
  arguments : command.arguments = arguments
  found : ∀ name inherited, command.found? name inherited = (values.lookup name).or inherited

theorem Command.found?_eq {command : Command} {name : String} {inherited : Option String}
    (plain : ∀ override ∈ command.overrides, '=' ∉ override.1.toList) :
    command.found? name inherited = (command.override? name).or inherited := by
  have notLonger : ∀ other ∈ command.overrides.map Prod.fst,
      ¬other.startsWith (name ++ "=") = true := by
    intro other membership starts
    obtain ⟨override, overridden, rfl⟩ := List.mem_map.mp membership
    apply plain override overridden
    exact (String.startsWith_string_iff.mp starts).subset (by simp)
  have none : (command.overrides.map Prod.fst).filter (·.startsWith (name ++ "=")) = [] :=
    List.filter_eq_nil_iff.mpr notLonger
  simp [Command.found?, none]

/-! ### Answers -/

/-- The command has started and exited with success. -/
structure Succeeds (answer : Except Fault Completion) (completion : Completion) : Prop where
  started : answer = .ok completion
  code : completion.code = some 0

/-- The command has succeeded, and its output is not all white space. -/
structure Lists (answer : Except Fault Completion) (completion : Completion) : Prop
    extends Succeeds answer completion where
  notBlank : ¬∀ character ∈ completion.output, Text.isBlank character = true

end Host

namespace Installed

variable {machine : Machine} {names : NameSet}

theorem runProbe_eq_ok_iff {command : Command} {output : List Char} :
    runProbe machine command = .ok output ↔
      ∃ completion, Succeeds (run machine command) completion ∧ completion.output = output := by
  unfold runProbe
  cases answer : run machine command with
  | error fault =>
      refine ⟨fun result => ?_, fun ⟨_, succeeds, _⟩ => ?_⟩
      · cases result
      · cases succeeds.started
  | ok completion =>
      by_cases succeeded : completion.succeeded = true
      · simp only [succeeded, ↓reduceIte, Except.ok.injEq]
        constructor
        · exact fun same => ⟨completion, ⟨rfl, beq_iff_eq.mp succeeded⟩, same⟩
        · rintro ⟨other, succeeds, rfl⟩
          rw [Except.ok.inj succeeds.started]
      · simp only [succeeded]
        refine ⟨fun result => ?_, fun ⟨other, succeeds, _⟩ => ?_⟩
        · cases result
        · obtain rfl := Except.ok.inj succeeds.started
          exact absurd (beq_iff_eq.mpr succeeds.code) succeeded

theorem detect_eq_ok_iff {probe : NixProbe} :
    probe.detect machine = .ok names ↔
      ∃ completion, Succeeds (run machine probe.command) completion ∧
        probe.interpret completion.output = .ok names := by
  unfold NixProbe.detect
  cases result : runProbe machine probe.command with
  | error error =>
      refine ⟨fun found => ?_, fun ⟨completion, succeeds, _⟩ => ?_⟩
      · cases found
      · rw [runProbe_eq_ok_iff.mpr ⟨completion, succeeds, rfl⟩] at result
        cases result
  | ok output =>
      obtain ⟨completion, succeeds, rfl⟩ := runProbe_eq_ok_iff.mp result
      refine ⟨fun found => ⟨completion, succeeds, found⟩, fun ⟨other, succeedsToo, found⟩ => ?_⟩
      obtain rfl := Except.ok.inj (succeeds.started.symm.trans succeedsToo.started)
      exact found

theorem detect_profileList_eq_ok_iff {program : String} :
    (NixProbe.profileList program).detect machine = .ok names ↔
      ∃ completion, Succeeds (run machine (NixProbe.profileList program).command) completion ∧
        profileNames (String.ofList completion.output) = names := by
  simp only [detect_eq_ok_iff, NixProbe.interpret, Except.ok.injEq]

/-- The output of a command that lists an environment is believed unless it is blank. -/
theorem detect_environment_eq_ok_iff {probe : NixProbe}
    (isEnvironment : ∀ program, probe ≠ .profileList program) :
    probe.detect machine = .ok names ↔
      ∃ completion, Lists (run machine probe.command) completion ∧
        queryNames (String.ofList completion.output) = names := by
  have believed {output : List Char} : probe.interpret output = .ok names ↔
      (¬∀ character ∈ output, Text.isBlank character = true) ∧
        queryNames (String.ofList output) = names := by
    rw [← Text.isEmpty_trim_iff]
    cases probe with
    | profileList program => exact absurd rfl (isEnvironment program)
    | userEnvironment | profileEnvironment =>
        by_cases blank : (Text.trim output).isEmpty = true
        · simp [NixProbe.interpret, blank]
        · simp [NixProbe.interpret, blank]
  rw [detect_eq_ok_iff]
  constructor
  · rintro ⟨completion, succeeds, found⟩
    obtain ⟨notBlank, rfl⟩ := believed.mp found
    exact ⟨completion, ⟨succeeds, notBlank⟩, rfl⟩
  · rintro ⟨completion, lists, rfl⟩
    exact ⟨completion, lists.toSucceeds, believed.mpr ⟨lists.notBlank, rfl⟩⟩

end Installed

end PackageSearch
