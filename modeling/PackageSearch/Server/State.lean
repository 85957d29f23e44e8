import PackageSearch.Journal.Event
import PackageSearch.Server.Operation
import PackageSearch.Server.Settings
import PackageSearch.Server.World

/-!
The state of the server: its two caches, and the tasks that carry out operations.

A task runs by itself until it has to wait: for its start, for the package query, for the report on
the environment, for its turn to detect installed packages, or for a probe. Only one task at a time
detects; the others queue at the gate in the order in which they came.
-/

namespace PackageSearch.Server

abbrev TaskId := Nat

/-- What a task does with the installed packages once it has them. -/
inductive Purpose where
  /-- Hands them to whoever asked. -/
  | report
  | debug
  /-- Answers a search whose listing has come. -/
  | assemble (query : String) (listing : Listing)

inductive Demand where
  /-- A snapshot that was not stale at the given time. -/
  | current (askedAt : Nat)
  | refresh
  deriving DecidableEq, Repr

structure Detection where
  startedAt : Nat
  /-- The generation of the snapshot when the detection started. -/
  generation : Nat
  deriving DecidableEq, Repr

/-- How far a task has come. -/
inductive Stage where
  | scheduled (operation : Operation) (start : Nat)
  /-- Waiting for the package query until the given time, when `outcome` is there; none means that
  the query is given up then. -/
  | searching (query : String) (wake : Nat) (outcome : Option (Except SearchError Listing))
      (notes : List LogLine)
  /-- Waiting for the report on the environment, which takes no time. -/
  | inspecting
  | queued (demand : Demand) (purpose : Purpose)
  /-- Inside the gate, waiting for the named probe until the given time; `remaining` are the probes
  to try after it, with their places in the order. -/
  | probing (detection : Detection) (name : String) (wake : Nat)
      (outcome : Option (Except ProbeError NameSet)) (remaining : List (Nat × Probe))
      (purpose : Purpose)
  | finished (answer : Answer) (time : Nat)

/-- The time at which a task goes on by itself. -/
def Stage.wake? : Stage → Option Nat
  | .scheduled _ start => some start
  | .searching _ wake _ _ => some wake
  | .inspecting => none
  | .queued _ _ => none
  | .probing _ _ wake _ _ _ => some wake
  | .finished _ _ => none

structure Task where
  stage : Stage
  /-- Tasks that wait are numbered in the order in which they began to wait. A task that is let
  into the gate is numbered anew, behind all that wait. -/
  ticket : Nat

/-- An event with its time and the task that caused it. -/
structure JournalEntry where
  time : Nat
  task : TaskId
  event : Event
  deriving DecidableEq

structure State where
  now : Nat
  cache : Cache
  snapshot : Snapshot
  /-- How often the snapshot has been reset. -/
  generation : Nat
  /-- The task inside the gate, followed by those that wait for it. -/
  gate : List TaskId
  tasks : List Task
  nextTicket : Nat
  /-- The queries sent to the package query, the first one first. -/
  asked : List String
  /-- The places of the probes called, the first call first. -/
  probed : List Nat
  journal : List JournalEntry

namespace State

def initial : State where
  now := 0
  cache := Cache.empty
  snapshot := Snapshot.empty
  generation := 0
  gate := []
  tasks := []
  nextTicket := 0
  asked := []
  probed := []
  journal := []

def note (state : State) (task : TaskId) (event : Event) : State :=
  { state with journal := state.journal ++ [⟨state.now, task, event⟩] }

def noteAll (state : State) (task : TaskId) (events : List Event) : State :=
  { state with journal := state.journal ++ events.map (⟨state.now, task, ·⟩) }

/-- Counts a query that is sent, and notes it with the commands that answering it starts. -/
def noteQuery (state : State) (task : TaskId) (query : String) (commands : List Host.Command) :
    State :=
  ({ state with asked := state.asked ++ [query] }.note task (.searching query)).noteAll task
    (commands.map .commandStarted)

/-- Counts a call of the probe at the given place, and notes it with the commands that it starts. -/
def noteProbe (state : State) (task : TaskId) (place : Nat) (name : String)
    (commands : List Host.Command) : State :=
  ({ state with probed := state.probed ++ [place] }.note task (.probeTried name)).noteAll task
    (commands.map .commandStarted)

/-- Forgets the snapshot, and the result of any detection under way. -/
def resetSnapshot (state : State) (task : TaskId) : State :=
  { state with snapshot := Snapshot.empty, generation := state.generation + 1 }.note task
    .snapshotReset

def clear (state : State) (task : TaskId) : State :=
  ({ state with cache := Cache.empty }.resetSnapshot task).note task
    (.cacheCleared state.cache.size)

def renumber (state : State) (task : TaskId) : State :=
  { state with
    tasks := state.tasks.modify task fun waiting => { waiting with ticket := state.nextTicket }
    nextTicket := state.nextTicket + 1 }

/-- Lets the task inside the gate leave it, and the one behind it in. -/
def leaveGate (state : State) : State :=
  match state.gate with
  | _ :: next :: waiting => { state with gate := next :: waiting }.renumber next
  | _ => { state with gate := [] }

/-- Keeps the result of a detection, unless a reset has come in between. -/
def keep (state : State) (task : TaskId) (detection : Detection) (snapshot : Snapshot) : State :=
  if state.generation = detection.generation then { state with snapshot }
  else state.note task .refreshDiscarded

/-- What is noted about a sweep. -/
def sweepEvents (removed : Nat) : List Event :=
  if removed = 0 then [] else [.entriesSwept removed]

def store (settings : Settings) (state : State) (task : TaskId) (query : String)
    (response : SearchResponse) : State :=
  let (cache, removed) :=
    state.cache.put settings.cache state.now (Fingerprint.ofQuery query) response
  ({ state with cache }.noteAll task (sweepEvents removed)).note task
    (.responseStored query response)

def health (settings : Settings) (state : State) : HealthReport where
  available := state.snapshot.isAvailable
  installed := state.snapshot.names.size
  cacheSize := state.cache.size
  port := settings.port

def stats (settings : Settings) (state : State) : StatsReport where
  ages := state.cache.ages state.now
  searchTtl := settings.cache.ttl / 1000
  packages := state.snapshot.names.size
  snapshotAge := (state.snapshot.age? state.now).map (· / 1000)
  installedTtl := settings.installedTtl / 1000

def sampleSize : Nat := 20

/-- The report on a snapshot. Its capture time is the present less its age. -/
def debug (settings : Settings) (world : World) (state : State) (snapshot : Snapshot) :
    DebugReport where
  sample := snapshot.names.names.take sampleSize
  installed := snapshot.names.size
  cacheEntries := state.cache.size
  capturedAt := (snapshot.age? state.now).map (settings.epoch + state.now - ·)
  environment := world.environment

end State

end PackageSearch.Server
