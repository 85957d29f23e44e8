import PackageSearch.Configuration.Fields
import PackageSearch.Search.Assembly
import PackageSearch.Search.Cache

/-!
The settings that the server works with. Times are in milliseconds.
-/

namespace PackageSearch.Server

structure Settings where
  cache : CachePolicy
  installedTtl : Nat
  probeTimeout : Nat
  searchTimeout : Nat
  limits : AssemblyLimits
  maxQueryLength : Nat
  port : Nat
  /-- The wall clock time, counted from the start of 1970, at which the server's clock shows zero. -/
  epoch : Nat
  deriving DecidableEq, Repr

/-- The settings that a configuration gives to a server started at the given wall clock time. -/
def Settings.ofConfiguration (configuration : Configuration) (epoch : Nat) : Settings where
  cache := {
    ttl := configuration.searchTtl * 1000
    threshold := configuration.sweepThreshold }
  installedTtl := configuration.installedTtl * 1000
  probeTimeout := configuration.probeTimeout * 1000
  searchTimeout := configuration.searchTimeout * 1000
  limits := {
    results := configuration.resultLimit
    description := configuration.descriptionLimit }
  maxQueryLength := configuration.maxQueryLength
  port := configuration.port
  epoch

end PackageSearch.Server
