import PackageSearch.Installed.Snapshot
import PackageSearch.Package.Listing
import PackageSearch.Package.Metadata
import PackageSearch.Search.Error
import PackageSearch.Search.Response
import PackageSearch.Text.Blank

/-!
The response to a search, put together from a listing and the installed packages.
-/

namespace PackageSearch

/-- The words of a text joined by single spaces, cut to `limit` characters. -/
def cleanDescription (text : List Char) (limit : Nat) : List Char :=
  ([' '].intercalate (Text.words text)).take limit

structure AssemblyLimits where
  results : Nat
  description : Nat
  deriving DecidableEq, Repr

def missingVersion : String := "unknown"

def missingDescription : String := "No description"

/-- The description of a record: never empty. -/
def describe (limit : Nat) (description : Option String) : String :=
  match description with
  | none => missingDescription
  | some text =>
      let cleaned := cleanDescription text.toList limit
      if cleaned.isEmpty then missingDescription else String.ofList cleaned

def recordOf (limits : AssemblyLimits) (snapshot : Snapshot) (entry : String × Json) :
    Except SearchError PackageRecord :=
  match Metadata.decode entry.2 with
  | .error problem => .error (.parse (entry.1 ++ ": " ++ problem.message))
  | .ok metadata => .ok {
      name := entry.1
      version := metadata.version.getD missingVersion
      description := describe limits.description metadata.description
      installed := snapshot.holds entry.1
      installedKnown := snapshot.isAvailable }

/-- The records of entries in their order, or the error of the first that has none. -/
def recordsOf (limits : AssemblyLimits) (snapshot : Snapshot) :
    List (String × Json) → Except SearchError (List PackageRecord)
  | [] => .ok []
  | entry :: rest =>
      match recordOf limits snapshot entry with
      | .error error => .error error
      | .ok record =>
          match recordsOf limits snapshot rest with
          | .error error => .error error
          | .ok records => .ok (record :: records)

def assemble (limits : AssemblyLimits) (listing : Listing) (snapshot : Snapshot) :
    Except SearchError SearchResponse :=
  match recordsOf limits snapshot (listing.entries.take limits.results) with
  | .error error => .error error
  | .ok records => .ok (.success records listing.size snapshot.isAvailable)

end PackageSearch
