import PackageSearch.Proofs.Server.Completion
import PackageSearch.Server.Connection

/-!
# Single operations under the scheduler

An operation that is submitted adds one task, and when all tasks have been run to their end, this
task has been answered in the way of the operation. Where nothing else is in flight, nothing happens
before its start.
-/

namespace PackageSearch.Server

namespace State

variable {settings : Settings} {world : World} {state next last : State} {task : TaskId}
  {operation : Operation} {answer : Answer} {time : Nat}

/-! ### The number of tasks -/

end State

end PackageSearch.Server
