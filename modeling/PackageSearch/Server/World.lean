import PackageSearch.Host.Environment
import PackageSearch.Installed.Error
import PackageSearch.Installed.NameSet
import PackageSearch.Journal.Line
import PackageSearch.Package.Listing
import PackageSearch.Search.Error

/-!
What the server asks of the world around it: the package query, the probes for installed packages
and the report on the environment. Each call may take time, and the same call may be answered
differently when it is made again.
-/

namespace PackageSearch.Server

structure Reply (Failure Value : Type) where
  delay : Nat
  result : Except Failure Value
  commands : List Host.Command := []
  /-- The lines that the call logs when it ends. -/
  notes : List LogLine := []

namespace Reply

variable {Failure Value : Type}

/-- The time that a caller with the given patience waits. -/
def wait (reply : Reply Failure Value) (patience : Nat) : Nat :=
  min reply.delay patience

/-- The answer that such a caller gets, if it comes in time. -/
def outcome (reply : Reply Failure Value) (patience : Nat) : Option (Except Failure Value) :=
  if reply.delay ≤ patience then some reply.result else none

def notesWithin (reply : Reply Failure Value) (patience : Nat) : List LogLine :=
  if reply.delay ≤ patience then reply.notes else []

end Reply

structure Probe where
  name : String
  /-- The answer to each call, calls being counted from zero. -/
  reply : Nat → Reply ProbeError NameSet

structure World where
  /-- The answer to each call of the package query with a text, calls with the same text being
  counted from zero. -/
  search : String → Nat → Reply SearchError Listing
  /-- The probes in the order in which they are tried. -/
  probes : List Probe
  environment : Host.EnvironmentInfo
  /-- The commands that reporting the environment starts. -/
  environmentCommands : List Host.Command := []

end PackageSearch.Server
