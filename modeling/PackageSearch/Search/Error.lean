import PackageSearch.Host.Fault

/-!
Why a search fails.
-/

namespace PackageSearch

inductive SearchError where
  /-- The package query did not answer within the given seconds. -/
  | queryTimeout (seconds : Nat)
  /-- The package query ended without success. -/
  | queryFailure (complaint : String)
  /-- The answer of the package query cannot be read. -/
  | parse (detail : String)
  | probeUnavailable
  | invalidQuery (reason : String)
  | unexpected (detail : String)
  deriving DecidableEq, Repr

namespace SearchError

def ofFault (fault : Host.Fault) : SearchError :=
  .unexpected fault.message

def message : SearchError → String
  | .queryTimeout seconds =>
      "Search timed out after " ++ toString seconds ++ "s. Try a more specific query."
  | .queryFailure complaint => "Search failed: " ++ complaint
  | .parse detail => "Invalid response from nix-env: " ++ detail
  | .probeUnavailable => "Could not determine installed packages"
  | .invalidQuery reason => "Invalid query: " ++ reason
  | .unexpected detail => "Server error: " ++ detail

end SearchError

end PackageSearch
