import PackageSearch.Server.State

/-!
How tasks run. Every function here takes a task as far as it gets without waiting and says how far
that is.
-/

namespace PackageSearch.Server

/-- The state after a task has run, and how far the task has come. -/
abbrev Progress := State × Stage

variable (settings : Settings) (world : World)

def finish (state : State) (answer : Answer) : Progress :=
  (state, .finished answer state.now)

def failSearch (state : State) (task : TaskId) (query : String) (error : SearchError) : Progress :=
  finish (state.note task (.searchFailed query error)) (.search (.failure error.message))

def deliver (state : State) (task : TaskId) (snapshot : Snapshot) : Purpose → Progress
  | .report => finish state (.snapshot snapshot)
  | .debug => finish state (.debug (state.debug settings world snapshot))
  | .assemble query listing =>
      match assemble settings.limits listing snapshot with
      | .error error => failSearch state task query error
      | .ok response => finish (state.store settings task query response) (.search response)

/-- Ends a detection. The task leaves the gate with what was detected, also when that is not
kept. -/
def conclude (state : State) (task : TaskId) (detection : Detection) (names : NameSet)
    (purpose : Purpose) : Progress :=
  let snapshot : Snapshot := { names, capturedAt := some state.now }
  let ended := (state.note task (.detected snapshot)).keep task detection snapshot
  deliver settings world ended.leaveGate task snapshot purpose

/-- What a probe has said once it is no longer waited for. -/
def probeResult (name : String) (outcome : Option (Except ProbeError NameSet)) :
    Except ProbeError NameSet :=
  match outcome with
  | some result => result
  | none => .error (.timedOut name (settings.probeTimeout / 1000))

/-- Tries the given probes in order until one succeeds or has to be waited for. -/
def tryProbes (state : State) (task : TaskId) (detection : Detection) (purpose : Purpose) :
    List (Nat × Probe) → Progress
  | [] => conclude settings world (state.note task .noProbeSucceeded) task detection NameSet.empty
      purpose
  | (place, probe) :: remaining =>
      let reply := probe.reply (state.probed.count place)
      let called := state.noteProbe task place probe.name reply.commands
      let wait := reply.wait settings.probeTimeout
      let outcome := reply.outcome settings.probeTimeout
      if wait = 0 then
        match probeResult settings probe.name outcome with
        | .ok names =>
            conclude settings world (called.note task (.probeSucceeded probe.name names.size)) task
              detection names purpose
        | .error error =>
            tryProbes (called.note task (.probeFailed probe.name error)) task detection purpose
              remaining
      else
        (called, .probing detection probe.name (state.now + wait) outcome remaining purpose)

def resumeDetection (state : State) (task : TaskId) (detection : Detection) (name : String)
    (outcome : Option (Except ProbeError NameSet)) (remaining : List (Nat × Probe))
    (purpose : Purpose) : Progress :=
  match probeResult settings name outcome with
  | .ok names =>
      conclude settings world (state.note task (.probeSucceeded name names.size)) task detection
        names purpose
  | .error error =>
      tryProbes settings world (state.note task (.probeFailed name error)) task detection purpose
        remaining

def startDetection (state : State) (task : TaskId) (purpose : Purpose) : Progress :=
  tryProbes settings world (state.note task .refreshing) task
    { startedAt := state.now, generation := state.generation } purpose
    ((List.range world.probes.length).zip world.probes)

/-- Enters the gate. A task that wanted a snapshot looks again, because another task may have
brought one while it waited; it judges by the time at which it asked. -/
def enterGate (state : State) (task : TaskId) (demand : Demand) (purpose : Purpose) : Progress :=
  match demand with
  | .refresh => startDetection settings world state task purpose
  | .current askedAt =>
      if state.snapshot.isStale settings.installedTtl askedAt then
        startDetection settings world state task purpose
      else deliver settings world state.leaveGate task state.snapshot purpose

/-- Lines up at the gate, and enters if nobody is there. -/
def comeToGate (state : State) (task : TaskId) (demand : Demand) (purpose : Purpose) : Progress :=
  let lined := { state with gate := state.gate ++ [task] }
  if state.gate.isEmpty then enterGate settings world lined task demand purpose
  else (lined, .queued demand purpose)

def askCurrent (state : State) (task : TaskId) (purpose : Purpose) : Progress :=
  if state.snapshot.isStale settings.installedTtl state.now then
    comeToGate settings world state task (.current state.now) purpose
  else deliver settings world state task state.snapshot purpose

def resumeSearch (state : State) (task : TaskId) (query : String)
    (outcome : Option (Except SearchError Listing)) (notes : List LogLine) : Progress :=
  let noted := state.noteAll task (notes.map .queryNote)
  match outcome with
  | none => failSearch noted task query (.queryTimeout (settings.searchTimeout / 1000))
  | some (.error error) => failSearch noted task query error
  | some (.ok listing) => askCurrent settings world noted task (.assemble query listing)

def sendQuery (state : State) (task : TaskId) (query : String) : Progress :=
  let reply := world.search query (state.asked.count query)
  let sent := state.noteQuery task query reply.commands
  let wait := reply.wait settings.searchTimeout
  let outcome := reply.outcome settings.searchTimeout
  let notes := reply.notesWithin settings.searchTimeout
  if wait = 0 then resumeSearch settings world sent task query outcome notes
  else (sent, .searching query (state.now + wait) outcome notes)

def trimmedQuery (text : String) : String :=
  String.ofList (Text.trim text.toList)

/-- Searches for a text: blank texts find nothing, long ones are refused, and what is in the cache
is not asked for again. -/
def search (state : State) (task : TaskId) (text : String) : Progress :=
  let query := trimmedQuery text
  if query.isEmpty then finish state (.search .empty)
  else if settings.maxQueryLength < query.length then
    failSearch state task query (.invalidQuery
      ("query longer than " ++ toString settings.maxQueryLength ++ " characters"))
  else
    let key := Fingerprint.ofQuery query
    match state.cache.lookup? settings.cache.ttl state.now key with
    | some entry =>
        finish (state.note task (.cacheHit query key)) (.search entry.payload.asCached)
    | none => sendQuery settings world state task query

def begin (state : State) (task : TaskId) : Operation → Progress
  | .search text => search settings world state task text
  | .clear => finish (state.clear task) (.cleared state.cache.size)
  | .debug => (state.noteAll task (world.environmentCommands.map .commandStarted), .inspecting)
  | .health => finish state (.health (state.health settings))
  | .stats => finish state (.stats (state.stats settings))
  | .refuse refusal => finish state (.refused refusal)
  | .current => askCurrent settings world state task .report
  | .refresh => comeToGate settings world state task .refresh .report
  | .snapshot => finish state (.snapshot state.snapshot)
  | .reset => finish (state.resetSnapshot task) (.snapshot Snapshot.empty)

/-- Takes a task on from the stage it waits at. -/
def proceed (state : State) (task : TaskId) : Stage → Progress
  | .scheduled operation _ => begin settings world state task operation
  | .searching query _ outcome notes =>
      resumeSearch settings world state task query outcome notes
  | .inspecting => askCurrent settings world state task .debug
  | .queued demand purpose => enterGate settings world state task demand purpose
  | .probing detection name _ outcome remaining purpose =>
      resumeDetection settings world state task detection name outcome remaining purpose
  | .finished answer time => (state, .finished answer time)

namespace State

/-- Whether a task that waits at a stage can go on: its time has come, it is first at the gate, or it
waits for nothing but the report on the environment. -/
def allows (state : State) (task : TaskId) : Stage → Bool
  | .finished _ _ => false
  | .inspecting => true
  | .queued _ _ => state.gate.head? == some task
  | .scheduled _ start => start ≤ state.now
  | .searching _ wake _ _ => wake ≤ state.now
  | .probing _ _ wake _ _ _ => wake ≤ state.now

def isReady (state : State) (task : TaskId) : Bool :=
  match state.tasks[task]? with
  | none => false
  | some { stage, .. } => state.allows task stage

def settle (progress : Progress) (task : TaskId) : State :=
  { progress.1 with
    tasks := progress.1.tasks.set task { stage := progress.2, ticket := progress.1.nextTicket }
    nextTicket := progress.1.nextTicket + 1 }

/-- Adds a task that begins an operation at once. -/
def spawn (state : State) (operation : Operation) : State :=
  let task := state.tasks.length
  let added := { state with
    tasks := state.tasks ++ [{ stage := .scheduled operation state.now, ticket := state.nextTicket }] }
  settle (begin settings world added task operation) task

def schedule (state : State) (operation : Operation) (start : Nat) : State :=
  { state with
    tasks := state.tasks ++ [{ stage := .scheduled operation start, ticket := state.nextTicket }]
    nextTicket := state.nextTicket + 1 }

def resume (state : State) (task : TaskId) : State :=
  match state.tasks[task]? with
  | none => state
  | some { stage, .. } => settle (proceed settings world state task stage) task

end State

end PackageSearch.Server
