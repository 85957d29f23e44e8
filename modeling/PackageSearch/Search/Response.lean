import PackageSearch.Json.Value

/-!
The answer to a search.
-/

namespace PackageSearch

structure PackageRecord where
  name : String
  version : String
  description : String
  installed : Bool
  /-- Tells packages that are not installed from those of which nothing is known. -/
  installedKnown : Bool
  deriving DecidableEq, Repr

def PackageRecord.toJson (record : PackageRecord) : Json :=
  .object [
    ("name", .string record.name),
    ("version", .string record.version),
    ("description", .string record.description),
    ("installed", .boolean record.installed),
    ("installedDataAvailable", .boolean record.installedKnown)]

structure SearchResponse where
  results : List PackageRecord
  error : Option String
  /-- The number of packages found, of which only the first may be among the results. -/
  total : Option Nat
  cached : Bool
  installedKnown : Option Bool
  deriving DecidableEq, Repr

namespace SearchResponse

def empty : SearchResponse where
  results := []
  error := none
  total := none
  cached := false
  installedKnown := none

def failure (message : String) : SearchResponse :=
  { empty with error := some message }

def success (results : List PackageRecord) (total : Nat) (installedKnown : Bool) :
    SearchResponse where
  results
  error := none
  total := some total
  cached := false
  installedKnown := some installedKnown

/-- The response as it is given again from the cache. -/
def asCached (response : SearchResponse) : SearchResponse :=
  { response with cached := true }

def toJson (response : SearchResponse) : Json :=
  .object (
    [("results", .array (response.results.map PackageRecord.toJson)),
      ("error", match response.error with
        | none => .null
        | some message => .string message)] ++
    (match response.total with
      | none => []
      | some total => [("total", .number (.integer total))]) ++
    [("cached", .boolean response.cached)] ++
    (match response.installedKnown with
      | none => []
      | some known => [("installedCheckAvailable", .boolean known)]))

end SearchResponse

end PackageSearch
