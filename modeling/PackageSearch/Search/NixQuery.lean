import PackageSearch.Journal.Line
import PackageSearch.Package.Listing
import PackageSearch.Search.Error
import PackageSearch.Host.Command
import PackageSearch.Text.Excerpt

/-!
The package query: the command that lists the available packages whose names contain a text.
-/

namespace PackageSearch

open Host

structure NixQuery where
  program : String
  /-- The bytes that an output may have; a longer one is refused whatever it holds. -/
  maxOutput : Nat
  deriving DecidableEq, Repr

namespace NixQuery

def command (service : NixQuery) (query : String) : Command :=
  { program := service.program, arguments := ["-qa", ".*" ++ query ++ ".*", "--json"] }

/-- As many bytes of an output are read as it may have, and one more, which tells whether it is
longer. They are counted with 64 bits. -/
def readLimit (service : NixQuery) : UInt64 :=
  UInt64.ofNat service.maxOutput + 1

def received (service : NixQuery) (output : List UInt8) : List UInt8 :=
  output.take service.readLimit.toNat

def interpret (service : NixQuery) (completion : Completion) : Except SearchError Listing :=
  let received := service.received completion.stdout
  if service.maxOutput < received.length then
    .error (.queryFailure ("output exceeded " ++ toString service.maxOutput ++
      " bytes. Try a more specific query."))
  else if completion.succeeded then
    let output := Text.decodeLossy received
    match Listing.parse output with
    | .error problem => .error (.parse (problem.message output))
    | .ok listing => .ok listing
  else
    .error (.queryFailure (String.ofList (Text.excerpt completion.complaint 200)))

def search (service : NixQuery) (machine : Machine) (query : String) :
    Except SearchError Listing :=
  match run machine (service.command query) with
  | .error fault => .error (.ofFault fault)
  | .ok completion => service.interpret completion

def notes (service : NixQuery) (machine : Machine) (query : String) : List LogLine :=
  match run machine (service.command query) with
  | .error _ => []
  | .ok completion =>
      let received := service.received completion.stdout
      if service.maxOutput < received.length then
        [.warn ("nix-env 输出超过 " ++ toString service.maxOutput ++ " 字节，已终止")]
      else [.debug ("nix-env 输出 " ++ toString received.length ++ " 字节")]

end NixQuery

end PackageSearch
