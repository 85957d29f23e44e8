import PackageSearch.Proofs.Installed.Answers
import PackageSearch.Proofs.Server.Refresh
import PackageSearch.Server.NixWorld

/-!
# Falling back

A refresh asks one command after the other for the installed packages. As long as every command ends
in time the first answer that counts is what is found.
-/

namespace PackageSearch

open Host Installed

namespace Installed

/-- From the answers of the three commands, how many of them are run and what is found. -/
inductive FallsBack (list own system : Except Fault Completion) : Nat → NameSet → Prop where
  | profileList {completion : Completion} :
      Succeeds list completion →
        FallsBack list own system 1 (profileNames (String.ofList completion.output))
  | userEnvironment {completion : Completion} :
      (∀ other, ¬Succeeds list other) → Lists own completion →
        FallsBack list own system 2 (queryNames (String.ofList completion.output))
  | systemEnvironment {completion : Completion} :
      (∀ other, ¬Succeeds list other) → (∀ other, ¬Lists own other) →
        Lists system completion →
          FallsBack list own system 3 (queryNames (String.ofList completion.output))
  | nothing :
      (∀ other, ¬Succeeds list other) → (∀ other, ¬Lists own other) →
        (∀ other, ¬Lists system other) → FallsBack list own system 3 NameSet.empty

end Installed

namespace Server

variable {settings : Settings} {world : World} {origin start next last : State} {task : TaskId}
  {configuration : Configuration} {machines : Nat → Machine} {delays : Command → Nat → Nat}
  {names : NameSet} {patience called took : Nat}

/-! ### Probes that run commands -/

/-- A probe that asks the command of a machine. Whenever it is called the command may take another
time, and the machine may be another one. -/
def Probe.ofMachines (machines : Nat → Machine) (delays : Command → Nat → Nat) (probe : NixProbe) :
    Probe where
  name := probe.name
  reply earlier := {
    delay := delays probe.command earlier
    result := probe.detect (machines earlier)
    commands := started (machines earlier) probe.command }

def nixProbes (configuration : Configuration) : List NixProbe :=
  defaultProbes configuration.nixCommand configuration.nixEnvCommand configuration.systemProfile

/-- A server that asks the commands of its machine has such probes. -/
theorem probes_ofMachine (machine : Machine) (environment : EnvironmentInfo) :
    (World.ofMachine machine environment configuration).probes =
      (nixProbes configuration).map (.ofMachines (fun _ => machine) fun _ _ => 0) :=
  rfl

/-- What the command of the probe at a place answers when it is next run. -/
def State.commandAnswer (start : State) (machines : Nat → Machine) (place : Nat)
    (probe : NixProbe) : Except Fault Completion :=
  run (machines (start.probed.count place)) probe.command

/-- What trying the probe at a place leaves in the journal: the probe, and its command unless that
fails to start. -/
def State.attempt (start : State) (machines : Nat → Machine) (call : Nat × NixProbe) : List Event :=
  .probeTried call.2.name ::
    (started (machines (start.probed.count call.1)) call.2.command).map .commandStarted

/-- How a detection that starts in the state falls back. -/
def State.FallsBack (start : State) (configuration : Configuration) (machines : Nat → Machine) :
    Nat → NameSet → Prop :=
  Installed.FallsBack
    (start.commandAnswer machines 0 (.profileList configuration.nixCommand))
    (start.commandAnswer machines 1 (.userEnvironment configuration.nixEnvCommand))
    (start.commandAnswer machines 2
      (.profileEnvironment configuration.nixEnvCommand configuration.systemProfile))

theorem brings_reply_iff {probe : NixProbe} {place : Nat}
    (timely : ∀ earlier, delays probe.command earlier ≤ patience) :
    (start.reply (place, .ofMachines machines delays probe)).Brings patience names ↔
      probe.detect (machines (start.probed.count place)) = .ok names :=
  ⟨fun brings => brings.result, fun result => ⟨timely _, result⟩⟩

theorem isUseless_of_unbelieved {reply : Reply ProbeError NameSet} {Believed : Completion → Prop}
    {read : Completion → NameSet}
    (brings_iff : ∀ names, reply.Brings patience names ↔
      ∃ completion, Believed completion ∧ read completion = names)
    (unbelieved : ∀ completion, ¬Believed completion) : reply.IsUseless patience := by
  intro names brings
  obtain ⟨completion, believed, -⟩ := (brings_iff names).mp brings
  exact unbelieved completion believed

/-- The replies are looked at one after the other, as the cases of the specification have it. -/
theorem FirstTimely.fallsBack {list own system : Except Fault Completion}
    {reply replyOwn replySystem : Reply ProbeError NameSet}
    (listed : ∀ names, reply.Brings patience names ↔
      ∃ completion, Succeeds list completion ∧
        profileNames (String.ofList completion.output) = names)
    (ownListed : ∀ names, replyOwn.Brings patience names ↔
      ∃ completion, Lists own completion ∧ queryNames (String.ofList completion.output) = names)
    (systemListed : ∀ names, replySystem.Brings patience names ↔
      ∃ completion, Lists system completion ∧ queryNames (String.ofList completion.output) = names)
    (first : FirstTimely patience [reply, replyOwn, replySystem] called names took) :
    Installed.FallsBack list own system called names := by
  by_cases listSucceeds : ∃ completion, Succeeds list completion
  · obtain ⟨completion, succeeds⟩ := listSucceeds
    obtain ⟨rfl, isFound, -⟩ := first.eq_of_brings ((listed _).mpr ⟨completion, succeeds, rfl⟩)
    rw [isFound]
    exact .profileList succeeds
  have noList : ∀ other, ¬Succeeds list other := not_exists.mp listSucceeds
  obtain ⟨calledLater, tookLater, second, rfl, -⟩ :=
    first.exists_of_isUseless (isUseless_of_unbelieved listed noList)
  by_cases ownLists : ∃ completion, Lists own completion
  · obtain ⟨completion, lists⟩ := ownLists
    obtain ⟨rfl, isFound, -⟩ := second.eq_of_brings ((ownListed _).mpr ⟨completion, lists, rfl⟩)
    rw [isFound]
    exact .userEnvironment noList lists
  have noOwn : ∀ other, ¬Lists own other := not_exists.mp ownLists
  obtain ⟨calledLast, tookLast, third, rfl, -⟩ :=
    second.exists_of_isUseless (isUseless_of_unbelieved ownListed noOwn)
  by_cases systemLists : ∃ completion, Lists system completion
  · obtain ⟨completion, lists⟩ := systemLists
    obtain ⟨rfl, isFound, -⟩ := third.eq_of_brings ((systemListed _).mpr ⟨completion, lists, rfl⟩)
    rw [isFound]
    exact .systemEnvironment noList noOwn lists
  have noSystem : ∀ other, ¬Lists system other := not_exists.mp systemLists
  obtain ⟨calledNone, tookNone, none, rfl, -⟩ :=
    third.exists_of_isUseless (isUseless_of_unbelieved systemListed noSystem)
  obtain ⟨rfl, rfl, -⟩ := none.unique (.nothing (by simp))
  exact .nothing noList noOwn noSystem

theorem State.fallsBack
    (probes : world.probes = (nixProbes configuration).map (.ofMachines machines delays))
    (timely : ∀ probe ∈ nixProbes configuration,
      ∀ earlier, delays probe.command earlier ≤ patience)
    (first : FirstTimely patience (start.replies world) called names took) :
    start.FallsBack configuration machines called names := by
  have replies : start.replies world =
      [start.reply (0, .ofMachines machines delays (.profileList configuration.nixCommand)),
        start.reply (1, .ofMachines machines delays (.userEnvironment configuration.nixEnvCommand)),
        start.reply (2, .ofMachines machines delays
          (.profileEnvironment configuration.nixEnvCommand configuration.systemProfile))] := by
    simp only [State.replies, World.calls, probes]
    rfl
  rw [replies] at first
  refine first.fallsBack (fun names => ?_) (fun names => ?_) (fun names => ?_)
  · rw [brings_reply_iff (timely _ (by simp [nixProbes, defaultProbes]))]
    exact detect_profileList_eq_ok_iff
  · rw [brings_reply_iff (timely _ (by simp [nixProbes, defaultProbes]))]
    exact detect_environment_eq_ok_iff (by simp)
  · rw [brings_reply_iff (timely _ (by simp [nixProbes, defaultProbes]))]
    exact detect_environment_eq_ok_iff (by simp)

/-- The calls of a detection are attempts to run the commands. -/
theorem flatMap_callEvents
    (probes : world.probes = (nixProbes configuration).map (.ofMachines machines delays)) :
    (world.calls.take called).flatMap start.callEvents =
      (((List.range 3).zip (nixProbes configuration)).take called).flatMap
        (start.attempt machines) := by
  have calls : world.calls = ((List.range 3).zip (nixProbes configuration)).map
      (Prod.map id (.ofMachines machines delays)) := by
    rw [World.calls, probes]
    rfl
  rw [calls, ← List.map_take, List.flatMap_map]
  rfl

/-- The commands that a refresh may run. -/
structure RunsCommands (configuration : Configuration) : Prop where
  profileList : (NixProbe.profileList configuration.nixCommand).command.Runs
    configuration.nixCommand ["profile", "list"] [("NO_COLOR", "1"), ("TERM", "dumb")]
  userEnvironment : (NixProbe.userEnvironment configuration.nixEnvCommand).command.Runs
    configuration.nixEnvCommand ["-q"] []
  systemEnvironment :
    (NixProbe.profileEnvironment configuration.nixEnvCommand
        configuration.systemProfile).command.Runs
      configuration.nixEnvCommand ["-q", "--profile", configuration.systemProfile] []

theorem runsCommands (configuration : Configuration) : RunsCommands configuration where
  profileList := ⟨rfl, rfl, fun _ _ => Command.found?_eq (by simp [NixProbe.command])⟩
  userEnvironment := ⟨rfl, rfl, fun _ _ => Command.found?_eq (by simp [NixProbe.command])⟩
  systemEnvironment := ⟨rfl, rfl, fun _ _ => Command.found?_eq (by simp [NixProbe.command])⟩

theorem Begins.filter_isCall_eq {answer : Answer} {time : Nat}
    (reachable : Reachable settings world origin)
    (begins : Begins settings world origin .refresh task next)
    (leads : Leads settings world next last)
    (answered : last.answer? task = some (answer, time)) :
    (eventsOf last.journal task).filter Event.isCall = callsIn last.journal task := by
  have first := begins.head?_eventsOf_of_refresh reachable leads answered
  obtain ⟨events, isFirst⟩ := List.head?_eq_some_iff.mp first
  rw [callsIn, isFirst]
  rfl

/-- If every command ends in time, a refresh runs the command for the profile list and, as long as
no answer counts, the one for the environment of the user and the one for that of the system. It
returns the names in the first answer that counts, or none, captured when it ends. -/
theorem refresh_falls_back (reachable : Reachable settings world origin)
    (probes : world.probes = (nixProbes configuration).map (.ofMachines machines delays))
    (timely : ∀ probe ∈ nixProbes configuration,
      ∀ earlier, delays probe.command earlier ≤ settings.probeTimeout)
    (begins : Begins settings world origin .refresh task next) :
    (∀ last answer time, Leads settings world next last →
      last.answer? task = some (answer, time) →
        ∃ start after called names, Go settings world origin .refresh task start after ∧
          StartsToDetect task start after ∧ Leads settings world after last ∧
          start.FallsBack configuration machines called names ∧
          answer = .snapshot ⟨names, some time⟩ ∧
          (eventsOf last.journal task).filter Event.isCall =
            (((List.range 3).zip (nixProbes configuration)).take called).flatMap
              (start.attempt machines)) ∧
    (∀ last, Leads settings world next last →
      ∃ done answer time, Leads settings world last done ∧
        done.answer? task = some (answer, time)) ∧
    RunsCommands configuration := by
  refine ⟨?_, fun last leads => begins.exists_answer reachable leads, runsCommands configuration⟩
  intro last answer time leads answered
  obtain ⟨start, after, snapshot, go, starts, ledOn, rfl, detected⟩ :=
    begins.detected_of_refresh reachable leads answered
  obtain ⟨called, names, took, first⟩ :=
    FirstTimely.exists_of settings.probeTimeout (start.replies world)
  obtain ⟨rfl, hasFound⟩ := go.finds reachable starts first ledOn detected
  refine ⟨start, after, called, names, go, starts, ledOn, start.fallsBack probes timely first,
    rfl, ?_⟩
  rw [begins.filter_isCall_eq reachable leads answered, hasFound.hasCalled.calls]
  exact flatMap_callEvents probes

/-! ### Only the system profile is left -/

namespace OnlySystem

def blank : Completion :=
  { stdout := [0x20, 0x0A], stderr := [], code := some 0 }

def listing : Completion :=
  { stdout := Text.encode "vim-9.1\n".toList, stderr := [], code := some 0 }

/-- There is no command for profiles, and the environment of the user is blank. -/
def machine : Machine := fun command =>
  match command.arguments with
  | ["profile", "list"] => .error (.numbered 2)
  | ["-q"] => .ok blank
  | _ => .ok listing

def standard : Settings :=
  .ofConfiguration .standard 0

def around : World :=
  .ofMachine machine
    { user := none, home := none, nixPath := "", euid := 0, kernel := "", nixVersion := "" }
    .standard

def begun : State :=
  State.initial.spawn standard around .refresh

theorem eq_of_fallsBack {called : Nat} {names : NameSet}
    (fallsBack : start.FallsBack .standard (fun _ => machine) called names) :
    called = 3 ∧ names = NameSet.empty.insert "vim" := by
  have noList : start.commandAnswer (fun _ => machine) 0 (.profileList "nix") =
      .error (.numbered 2) := rfl
  have own : start.commandAnswer (fun _ => machine) 1 (.userEnvironment "nix-env") =
      .ok blank := rfl
  have system : start.commandAnswer (fun _ => machine) 2
      (.profileEnvironment "nix-env" "/nix/var/nix/profiles/system") = .ok listing := rfl
  have isBlank : ∀ character ∈ blank.output, Text.isBlank character = true :=
    Text.isEmpty_trim_iff.mp rfl
  have notBlank : ¬∀ character ∈ listing.output, Text.isBlank character = true :=
    mt Text.isEmpty_trim_iff.mpr (by decide)
  cases fallsBack with
  | profileList succeeds => cases noList.symm.trans succeeds.started
  | userEnvironment _ lists =>
      obtain rfl := Except.ok.inj (own.symm.trans lists.started)
      exact absurd isBlank lists.notBlank
  | systemEnvironment _ _ lists =>
      obtain rfl := Except.ok.inj (system.symm.trans lists.started)
      exact ⟨rfl, by decide⟩
  | nothing _ _ unlisted => exact absurd ⟨⟨system, rfl⟩, notBlank⟩ (unlisted listing)

theorem refresh_finds_system_packages :
    Begins standard around .initial .refresh 0 begun ∧
      ∃ done time, Leads standard around begun done ∧
        done.answer? 0 = some (.snapshot ⟨NameSet.empty.insert "vim", some time⟩, time) ∧
        (eventsOf done.journal 0).filter Event.isCall =
          [.probeTried "nix profile list", .probeTried "nix-env -q",
            .commandStarted { program := "nix-env", arguments := ["-q"] },
            .probeTried "nix-env -q --profile /nix/var/nix/profiles/system",
            .commandStarted {
              program := "nix-env"
              arguments := ["-q", "--profile", "/nix/var/nix/profiles/system"] }] := by
  have begins : Begins standard around .initial .refresh 0 begun := .arriving
  obtain ⟨falls, answers, -⟩ :=
    @refresh_falls_back standard around .initial begun 0 .standard (fun _ => machine)
      (fun _ _ => 0) .initial (probes_ofMachine machine _) (fun _ _ _ => Nat.zero_le _) begins
  obtain ⟨done, answer, time, leads, answered⟩ := answers begun .refl
  obtain ⟨start, -, called, names, -, -, -, fallsBack, rfl, calls⟩ :=
    falls done answer time leads answered
  obtain ⟨rfl, rfl⟩ := eq_of_fallsBack fallsBack
  exact ⟨begins, done, time, leads, answered, calls⟩

end OnlySystem

end Server

end PackageSearch
