import PackageSearch.Host.Fault
import PackageSearch.Text.Utf8

/-!
External commands. What a command does is up to the machine it runs on, which is therefore a
parameter: it says for every command whether it starts and, if so, what it writes and how it ends.
-/

namespace PackageSearch.Host

structure Command where
  program : String
  arguments : List String
  /-- Environment variables set for this command on top of the inherited ones. -/
  overrides : List (String × String) := []
  deriving DecidableEq, Repr

namespace Command

def label (command : Command) : String :=
  command.program ++ " " ++ " ".intercalate command.arguments

def override? (command : Command) (name : String) : Option String :=
  command.overrides.reverse.lookup name

/-- The value that the command finds for a variable when it inherits the given one. The command gets
every variable as a text `name=value`, in the order of the names, and finds the first text that
begins with the name it looks for and an equals sign; so a variable whose own name holds an equals
sign may be found by the part before it. -/
def found? (command : Command) (name : String) (inherited : Option String) : Option String :=
  let start := name ++ "="
  let longer := (command.overrides.map Prod.fst).filter fun other => other.startsWith start
  let least := longer.foldl (fun least? other =>
    match least? with
    | none => some other
    | some least => if other < least then some other else some least) (none : Option String)
  let behind := least.bind fun other => (command.override? other).map fun value =>
    String.ofList ((other ++ "=" ++ value).toList.drop start.length)
  ((command.override? name).or inherited).or behind

def holdsNul (command : Command) : Bool :=
  (command.program :: command.arguments ++
    command.overrides.flatMap fun (name, value) => [name, value]).any
      fun text => text.toList.contains '\x00'

end Command

structure Completion where
  stdout : List UInt8
  stderr : List UInt8
  /-- The exit code, or none if a signal ended the command. -/
  code : Option Int
  deriving DecidableEq, Repr

namespace Completion

def succeeded (completion : Completion) : Bool :=
  completion.code == some 0

def output (completion : Completion) : List Char :=
  Text.decodeLossy completion.stdout

def complaint (completion : Completion) : List Char :=
  Text.decodeLossy completion.stderr

end Completion

abbrev Machine := Command → Except Fault Completion

def run (machine : Machine) (command : Command) : Except Fault Completion :=
  if command.holdsNul then .error .nulByte else machine command

/-- The commands that a run has started: the command itself unless it failed to start. -/
def started (machine : Machine) (command : Command) : List Command :=
  match run machine command with
  | .ok _ => [command]
  | .error _ => []

end PackageSearch.Host
