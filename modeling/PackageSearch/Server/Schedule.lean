import PackageSearch.Server.Run

/-!
One way of running operations to their end: every task goes on as soon as it can, tasks that can go
on at the same time do so in the order of their tickets, and time passes only while none of them
can. So those whose time has come go on in the order in which they began to wait, and after them
those that were let into the gate meanwhile. The report on the environment is made beside the tasks:
one that waits for it goes on only when no other can.
-/

namespace PackageSearch.Server

namespace State

def numbered (state : State) : List (TaskId × Task) :=
  (List.range state.tasks.length).zip state.tasks

def lowestTicket? (tasks : List (TaskId × Task)) : Option TaskId :=
  (tasks.foldl (fun best (task, waiting) =>
    match best with
    | none => some (task, waiting.ticket)
    | some (chosen, ticket) =>
        if waiting.ticket < ticket then some (task, waiting.ticket) else some (chosen, ticket))
    (none : Option (TaskId × Nat))).map Prod.fst

def isInspecting (task : Task) : Bool :=
  match task.stage with
  | .inspecting => true
  | _ => false

/-- The task that goes on next: of those that can, the one with the lowest ticket, reports on the
environment coming last. -/
def nextReady? (state : State) : Option TaskId :=
  let ready := state.numbered.filter fun (task, waiting) => state.allows task waiting.stage
  let (reports, others) := ready.partition fun (_, task) => isInspecting task
  (lowestTicket? others).or (lowestTicket? reports)

/-- The earliest time at which a waiting task goes on by itself. -/
def nextWake? (state : State) : Option Nat :=
  (state.tasks.filterMap fun task => task.stage.wake?).min?

def runAll (settings : Settings) (world : World) : (fuel : Nat) → State → State
  | 0, state => state
  | fuel + 1, state =>
      match state.nextReady? with
      | some task => runAll settings world fuel (state.resume settings world task)
      | none =>
          match state.nextWake? with
          | some wake => runAll settings world fuel { state with now := max state.now wake }
          | none => state

def hasEnded (task : Task) : Bool :=
  match task.stage with
  | .finished _ _ => true
  | _ => false

/-- Enough rounds for all tasks of a state to end: each waits for its start, the package query or the
report on the environment, the gate and every probe at most once, and time may pass before each of
these goes on. -/
def rounds (world : World) (state : State) : Nat :=
  2 * (state.tasks.countP fun task => !hasEnded task) * (world.probes.length + 4)

/-- Adds an operation that starts after the given delay. -/
def submit (settings : Settings) (world : World) (state : State) (delay : Nat)
    (operation : Operation) : State :=
  if delay = 0 then state.spawn settings world operation
  else state.schedule operation (state.now + delay)

/-- Runs operations that start after their delays until all of them have ended. -/
def runGroup (settings : Settings) (world : World) (state : State)
    (operations : List (Nat × Operation)) : State :=
  let submitted := operations.foldl (fun state (delay, operation) =>
    state.submit settings world delay operation) state
  submitted.runAll settings world (submitted.rounds world)

/-- The answers of the tasks from the given one on that have ended, with the times at which they
did. -/
def answersFrom (state : State) (first : TaskId) : List (Answer × Nat) :=
  (state.tasks.drop first).filterMap fun task =>
    match task.stage with
    | .finished answer time => some (answer, time)
    | _ => none

end State

end PackageSearch.Server
