import PackageSearch.Configuration.Fields
import PackageSearch.Host.Environment
import PackageSearch.Host.Files

/-!
The configuration of a server that starts: defaults, then the file, then environment variables.
-/

namespace PackageSearch.Configuration

open Host

inductive PortProblem where
  | empty
  | invalidDigit
  | tooLarge
  deriving DecidableEq, Repr

def PortProblem.message : PortProblem → String
  | .empty => "cannot parse integer from empty string"
  | .invalidDigit => "invalid digit found in string"
  | .tooLarge => "number too large to fit in target type"

def portAfter (value : Nat) : List Char → Except PortProblem Nat
  | [] => .ok value
  | character :: rest =>
      if character.isDigit then
        let next := value * 10 + (character.toNat - 48)
        if largestPort < next then .error .tooLarge else portAfter next rest
      else .error .invalidDigit

/-- Reads a port: decimal digits, perhaps after a plus sign. -/
def readPort (text : List Char) : Except PortProblem Nat :=
  match text with
  | [] => .error .empty
  | ['+'] => .error .invalidDigit
  | '+' :: digits => portAfter 0 digits
  | digits => portAfter 0 digits

inductive LoadError where
  | unreadable (path : String) (fault : Fault)
  | malformed (path : String)
  | badPort (value : String) (problem : PortProblem)
  deriving DecidableEq, Repr

namespace LoadError

def message : LoadError → String
  | .unreadable path _ => "读取配置文件失败: " ++ path
  | .malformed path => "解析配置文件失败: " ++ path
  | .badPort value _ => "LIAN_NIX_PORT 不是合法端口: " ++ value

/-- What lies behind an error, if it can be told. -/
def cause? : LoadError → Option String
  | .unreadable _ fault => some fault.message
  | .malformed _ => none
  | .badPort _ problem => some problem.message

end LoadError

def path (setting? : Variables) : String :=
  match setting? "LIAN_NIX_CONFIG" with
  | some path => path
  | none => joinPath ((setting? "HOME").getD ".") ".config/lian-nix/config.toml"

/-- The configuration of a file; one that is not there gives the defaults. -/
def ofFile (files : Files) (path : String) : Except LoadError Configuration :=
  match files path with
  | none => .ok standard
  | some (.error fault) => .error (.unreadable path fault)
  | some (.ok bytes) =>
      match Text.decode? bytes with
      | none => .error (.unreadable path .invalidUtf8)
      | some text =>
          match parse text with
          | none => .error (.malformed path)
          | some configuration => .ok configuration

def override (setting? : Variables) (configuration : Configuration) :
    Except LoadError Configuration :=
  let bound (configuration : Configuration) : Configuration :=
    { configuration with bind := (setting? "LIAN_NIX_BIND").getD configuration.bind }
  match setting? "LIAN_NIX_PORT" with
  | none => .ok (bound configuration)
  | some value =>
      match readPort value.toList with
      | .error problem => .error (.badPort value problem)
      | .ok port => .ok (bound { configuration with port })

def load (setting? : Variables) (files : Files) : Except LoadError Configuration :=
  match ofFile files (path setting?) with
  | .error error => .error error
  | .ok configuration => override setting? configuration

end PackageSearch.Configuration
