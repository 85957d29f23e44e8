import PackageSearch.Json.Value
import PackageSearch.Host.Command
import PackageSearch.Text.Blank

/-!
The environment that the server runs in, as reported to find out why detecting installed packages
fails.
-/

namespace PackageSearch.Host

/-- Environment variables; a value that is not text counts as unset. -/
abbrev Variables := String → Option String

structure EnvironmentInfo where
  user : Option String
  home : Option String
  nixPath : String
  /-- The effective user, whose profile may not be readable by another one. -/
  euid : Nat
  kernel : String
  nixVersion : String
  deriving DecidableEq, Repr

/-- The trimmed output of a command that succeeds and writes something. -/
def answerOf (machine : Machine) (command : Command) : String :=
  match run machine command with
  | .error _ => "unknown"
  | .ok completion =>
      let answer := Text.trim completion.output
      if completion.succeeded && !answer.isEmpty then String.ofList answer else "unknown"

namespace EnvironmentInfo

def kernelCommand : Command :=
  { program := "uname", arguments := ["-r"] }

def versionCommand (nixCommand : String) : Command :=
  { program := nixCommand, arguments := ["--version"] }

def detect (machine : Machine) (setting? : Variables) (euid : Nat) (nixCommand : String) :
    EnvironmentInfo where
  user := setting? "USER"
  home := setting? "HOME"
  nixPath := (setting? "NIX_PATH").getD "not set"
  euid
  kernel := answerOf machine kernelCommand
  nixVersion := answerOf machine (versionCommand nixCommand)

def commands (machine : Machine) (nixCommand : String) : List Command :=
  started machine kernelCommand ++ started machine (versionCommand nixCommand)

def optionalText : Option String → Json
  | none => .null
  | some text => .string text

def toJson (environment : EnvironmentInfo) : Json :=
  .object [
    ("user", optionalText environment.user),
    ("home", optionalText environment.home),
    ("nixPath", .string environment.nixPath),
    ("euid", .number (.integer environment.euid)),
    ("kernel", .string environment.kernel),
    ("nixVersion", .string environment.nixVersion)]

end EnvironmentInfo

end PackageSearch.Host
