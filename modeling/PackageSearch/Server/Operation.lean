import PackageSearch.Clock.Calendar
import PackageSearch.Host.Environment
import PackageSearch.Http.Request
import PackageSearch.Http.Response
import PackageSearch.Installed.Snapshot
import PackageSearch.Search.Cache

/-!
The operations of the server, the requests that ask for them, and their answers.
-/

namespace PackageSearch.Server

inductive Refusal where
  /-- The answer to a question about allowed methods; it has no body. -/
  | noContent
  | badRequest
  | notFound
  | methodNotAllowed
  deriving DecidableEq, Repr

inductive Operation where
  | search (text : String)
  | clear
  | debug
  | health
  | stats
  | refuse (refusal : Refusal)
  /-- The installed packages, detected anew if the snapshot is stale. -/
  | current
  /-- Detects the installed packages anew in any case. -/
  | refresh
  /-- The stored snapshot as it is. -/
  | snapshot
  /-- Forgets the stored snapshot and any detection under way. -/
  | reset
  deriving DecidableEq, Repr

structure DebugReport where
  /-- The first installed names in increasing order. -/
  sample : List String
  installed : Nat
  cacheEntries : Nat
  /-- The wall clock time at which the installed packages were detected. -/
  capturedAt : Option Nat
  environment : Host.EnvironmentInfo
  deriving DecidableEq

structure HealthReport where
  available : Bool
  installed : Nat
  cacheSize : Nat
  port : Nat
  deriving DecidableEq, Repr

structure StatsReport where
  /-- The ages of all cached responses. -/
  ages : List Nat
  searchTtl : Nat
  packages : Nat
  snapshotAge : Option Nat
  installedTtl : Nat
  deriving DecidableEq, Repr

inductive Answer where
  | search (response : SearchResponse)
  | cleared (removed : Nat)
  | debug (report : DebugReport)
  | health (report : HealthReport)
  | stats (report : StatsReport)
  | refused (refusal : Refusal)
  | snapshot (snapshot : Snapshot)
  deriving DecidableEq

def serviceName : String := "lian-nix"

def endpoints : List String :=
  ["/search?q=query", "/health", "/cache/stats", "/cache/clear", "/debug"]

namespace Operation

def ofPath (request : Http.Request) : Operation :=
  if request.path = "/search" then .search ((request.parameter? "q").getD "")
  else if request.path = "/health" then .health
  else if request.path = "/cache/stats" then .stats
  else if request.path = "/cache/clear" then .clear
  else if request.path = "/debug" then .debug
  else .refuse .notFound

def ofRequest (request : Http.Request) : Operation :=
  if request.method = "GET" then ofPath request
  else if request.method = "OPTIONS" then .refuse .noContent
  else .refuse .methodNotAllowed

def ofHead (head : Option (List Char)) : Operation :=
  match head.bind Http.Request.parse? with
  | some request => ofRequest request
  | none => .refuse .badRequest

end Operation

def natural (value : Nat) : Json :=
  .number (.integer value)

def optionalNatural : Option Nat → Json
  | none => .null
  | some value => natural value

def Refusal.toResponse : Refusal → Http.Response
  | .noContent => .noContent
  | .badRequest => .failure 400 "Bad request"
  | .notFound => .ofJson 404 (.object [
      ("error", .string "Not found"),
      ("availableEndpoints", .array (endpoints.map Json.string))])
  | .methodNotAllowed => .failure 405 "Method not allowed"

def DebugReport.toJson (report : DebugReport) : Json :=
  .object [
    ("installedPackages", .array (report.sample.map Json.string)),
    ("totalInstalled", natural report.installed),
    ("cacheEntries", natural report.cacheEntries),
    ("capturedAt", match report.capturedAt with
      | none => .null
      | some time => .string (String.ofList (Clock.rfc3339 time))),
    ("env", report.environment.toJson)]

def HealthReport.toJson (report : HealthReport) : Json :=
  .object [
    ("status", .string "ok"),
    ("service", .string serviceName),
    ("features", .object [
      ("search", .boolean true),
      ("installedStatus", .boolean report.available),
      ("installedCount", natural report.installed),
      ("caching", .boolean true),
      ("cacheSize", natural report.cacheSize)]),
    ("cacheSize", natural report.cacheSize),
    ("port", natural report.port)]

/-- The nearest whole number, and of two that are equally near the greater one. -/
def nearestWhole (value : Float) : Nat :=
  let whole := value.toUInt64.toNat
  if 0.5 ≤ value - Float.ofNat whole then whole + 1 else whole

def StatsReport.averageAge? (arrangement : Arrangement) (report : StatsReport) : Option Nat :=
  (arrangement.averageAge? report.ages).map nearestWhole

def StatsReport.toJson (arrangement : Arrangement) (report : StatsReport) : Json :=
  .object [
    ("searchCache", .object [
      ("entries", natural report.ages.length),
      ("avgAge", optionalNatural (report.averageAge? arrangement)),
      ("ttl", natural report.searchTtl)]),
    ("installedCache", .object [
      ("packages", natural report.packages),
      ("age", optionalNatural report.snapshotAge),
      ("ttl", natural report.installedTtl)])]

/-- The response that carries an answer, if the map of cached responses has the given order; a
snapshot is not given over a connection. -/
def Answer.toResponse? (arrangement : Arrangement) : Answer → Option Http.Response
  | .search response => some (.ofJson 200 response.toJson)
  | .cleared removed => some (.ofJson 200 (.object [
      ("cleared", .boolean true), ("entriesRemoved", natural removed)]))
  | .debug report => some (.ofJson 200 report.toJson)
  | .health report => some (.ofJson 200 report.toJson)
  | .stats report => some (.ofJson 200 (report.toJson arrangement))
  | .refused refusal => some refusal.toResponse
  | .snapshot _ => none

end PackageSearch.Server
