import PackageSearch.Installed.Error
import PackageSearch.Installed.Output
import PackageSearch.Host.Command
import PackageSearch.Text.Excerpt

/-!
The commands that list installed packages.
-/

namespace PackageSearch.Installed

open Host

/-- Runs a detection command; its output counts only if it succeeds. -/
def runProbe (machine : Machine) (command : Command) : Except ProbeError (List Char) :=
  match run machine command with
  | .error fault => .error (.notStarted command.label fault)
  | .ok completion =>
      if completion.succeeded then .ok completion.output
      else .error (.exited command.label completion.code
        (String.ofList (Text.excerpt completion.complaint 100)))

inductive NixProbe where
  | profileList (program : String)
  | userEnvironment (program : String)
  /-- The packages of the environment at a profile path, for when the user's own cannot be read. -/
  | profileEnvironment (program profile : String)
  deriving DecidableEq, Repr

namespace NixProbe

def name : NixProbe → String
  | .profileList _ => "nix profile list"
  | .userEnvironment _ => "nix-env -q"
  | .profileEnvironment _ profile => "nix-env -q --profile " ++ profile

/-- The command that a probe runs. A profile list is asked for without colours. -/
def command : NixProbe → Command
  | .profileList program =>
      { program, arguments := ["profile", "list"],
        overrides := [("TERM", "dumb"), ("NO_COLOR", "1")] }
  | .userEnvironment program => { program, arguments := ["-q"] }
  | .profileEnvironment program profile =>
      { program, arguments := ["-q", "--profile", profile] }

/-- The names in a successful answer. An environment that lists nothing cannot be told from one
that does not exist, so its empty answer is a failure. -/
def interpret (probe : NixProbe) (output : List Char) : Except ProbeError NameSet :=
  match probe with
  | .profileList _ => .ok (profileNames (String.ofList output))
  | .userEnvironment _ | .profileEnvironment .. =>
      if (Text.trim output).isEmpty then .error (.noOutput probe.name)
      else .ok (queryNames (String.ofList output))

def detect (machine : Machine) (probe : NixProbe) : Except ProbeError NameSet :=
  match runProbe machine probe.command with
  | .error error => .error error
  | .ok output => probe.interpret output

end NixProbe

/-- The probes in the order in which they are tried. -/
def defaultProbes (nixCommand nixEnvCommand systemProfile : String) : List NixProbe :=
  [.profileList nixCommand, .userEnvironment nixEnvCommand,
    .profileEnvironment nixEnvCommand systemProfile]

end PackageSearch.Installed
