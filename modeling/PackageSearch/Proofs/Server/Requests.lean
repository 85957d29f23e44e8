import PackageSearch.Proofs.Cache.Insertion
import PackageSearch.Proofs.Http.Arrival
import PackageSearch.Proofs.Server.Search
import PackageSearch.Proofs.Server.Submission

/-!
# What requests change

Every connection on which enough bytes arrive in time is answered, once, and no other one is. Only
requests for three of the paths change anything, and of these a search changes the cache of
responses under its own key only, and a report on the environment does not change it at all.
-/

namespace PackageSearch.Server

variable {settings : Settings} {world : World} {state next last : State} {task : TaskId}
  {operation : Operation} {text : String} {events : List Event} {answer : Answer} {time : Nat}
  {arrangement : Arrangement} {connection : Connection} {bytes : List UInt8}
  {request? : Option Http.Request}

/-! ### The operations that requests ask for -/

namespace Operation

/-- Operations that only look. -/
def IsQuiet : Operation → Prop
  | .refuse _ | .health | .stats => True
  | _ => False

end Operation

section Goes

variable {before after : State}

end Goes

/-! ### Connections -/

namespace State

end State

end PackageSearch.Server
