import Mathlib.Logic.Relation
import PackageSearch.Server.Step

/-!
# Moves of a task

A task that goes on passes through several functions before it waits again. `Move` has one rule for
each thing that one of these functions can do, with the events it leaves in the journal. Every run
of a task from one wait to the next is a sequence of moves, so that a fact about runs needs to be
proved for single moves only.
-/

namespace PackageSearch.Server

open Relation

/-- Where a task stands: it waits, or it is about to do something. -/
inductive Point where
  | resting (stage : Stage)
  | beginning (operation : Operation)
  | sending (query : String)
  | received (query : String) (outcome : Option (Except SearchError Listing))
      (notes : List LogLine)
  | asking (purpose : Purpose)
  | arriving (demand : Demand) (purpose : Purpose)
  | entering (demand : Demand) (purpose : Purpose)
  | trying (detection : Detection) (purpose : Purpose) (remaining : List (Nat × Probe))
  | hearing (detection : Detection) (name : String)
      (outcome : Option (Except ProbeError NameSet)) (remaining : List (Nat × Probe))
      (purpose : Purpose)
  | concluding (detection : Detection) (names : NameSet) (purpose : Purpose)
  | delivering (snapshot : Snapshot) (purpose : Purpose)
  | failing (query : String) (error : SearchError)
  | answering (answer : Answer)

/-- The task does not wait. -/
def Point.IsActive : Point → Prop
  | .resting _ => False
  | _ => True

/-- What a task does first when it goes on from a stage. -/
def Stage.point : Stage → Point
  | .scheduled operation _ => .beginning operation
  | .searching query _ outcome notes => .received query outcome notes
  | .inspecting => .asking .debug
  | .queued demand purpose => .entering demand purpose
  | .probing detection name _ outcome remaining purpose =>
      .hearing detection name outcome remaining purpose
  | .finished answer time => .resting (.finished answer time)

/-- The texts that are searched for: neither blank nor too long. -/
structure ValidQuery (settings : Settings) (text : String) : Prop where
  nonempty : trimmedQuery text ≠ ""
  bounded : (trimmedQuery text).length ≤ settings.maxQueryLength

variable (settings : Settings) (world : World) (task : TaskId)

def overlongQuery : SearchError :=
  .invalidQuery ("query longer than " ++ toString settings.maxQueryLength ++ " characters")

/-- The reply to a query that is sent now. -/
def State.queryReply (state : State) (query : String) : Reply SearchError Listing :=
  world.search query (state.asked.count query)

/-- The reply of a probe that is called now. -/
def State.probeReply (state : State) (place : Nat) (probe : Probe) : Reply ProbeError NameSet :=
  probe.reply (state.probed.count place)

/-- All probes, each with its place. -/
def World.calls (world : World) : List (Nat × Probe) :=
  (List.range world.probes.length).zip world.probes

/-- A detection that starts now. -/
def State.detection (state : State) : Detection :=
  { startedAt := state.now, generation := state.generation }

/-- A task at the end of the line before the gate. -/
def State.lined (state : State) : State :=
  { state with gate := state.gate ++ [task] }

/-- The result of a detection that ends now. -/
def State.captured (state : State) (names : NameSet) : Snapshot :=
  { names, capturedAt := some state.now }

/-- One thing that a task does, and the events it leaves. -/
inductive Move : State × Point → List Event → State × Point → Prop where
  | goOn {state : State} {stage : Stage} :
      state.allows task stage = true →
        Move (state, .resting stage) [] (state, stage.point)
  | searchBlank {state : State} {text : String} :
      trimmedQuery text = "" →
        Move (state, .beginning (.search text)) [] (state, .answering (.search .empty))
  | searchOverlong {state : State} {text : String} :
      trimmedQuery text ≠ "" → settings.maxQueryLength < (trimmedQuery text).length →
        Move (state, .beginning (.search text)) []
          (state, .failing (trimmedQuery text) (overlongQuery settings))
  | searchHit {state : State} {text : String} {entry : CacheEntry} :
      ValidQuery settings text →
      state.cache.lookup? settings.cache.ttl state.now (.ofQuery (trimmedQuery text)) =
        some entry →
        Move (state, .beginning (.search text))
          [.cacheHit (trimmedQuery text) (.ofQuery (trimmedQuery text))]
          (state.note task (.cacheHit (trimmedQuery text) (.ofQuery (trimmedQuery text))),
            .answering (.search entry.payload.asCached))
  | searchMiss {state : State} {text : String} :
      ValidQuery settings text →
      state.cache.lookup? settings.cache.ttl state.now (.ofQuery (trimmedQuery text)) = none →
        Move (state, .beginning (.search text)) [] (state, .sending (trimmedQuery text))
  | clear {state : State} :
      Move (state, .beginning .clear) [.snapshotReset, .cacheCleared state.cache.size]
        (state.clear task, .answering (.cleared state.cache.size))
  | debug {state : State} :
      Move (state, .beginning .debug) (world.environmentCommands.map .commandStarted)
        (state.noteAll task (world.environmentCommands.map .commandStarted), .resting .inspecting)
  | health {state : State} :
      Move (state, .beginning .health) [] (state, .answering (.health (state.health settings)))
  | stats {state : State} :
      Move (state, .beginning .stats) [] (state, .answering (.stats (state.stats settings)))
  | refuse {state : State} {refusal : Refusal} :
      Move (state, .beginning (.refuse refusal)) [] (state, .answering (.refused refusal))
  | current {state : State} :
      Move (state, .beginning .current) [] (state, .asking .report)
  | refresh {state : State} :
      Move (state, .beginning .refresh) [] (state, .arriving .refresh .report)
  | snapshot {state : State} :
      Move (state, .beginning .snapshot) [] (state, .answering (.snapshot state.snapshot))
  | reset {state : State} :
      Move (state, .beginning .reset) [.snapshotReset]
        (state.resetSnapshot task, .answering (.snapshot Snapshot.empty))
  | queryAnswered {state : State} {query : String} :
      (state.queryReply world query).wait settings.searchTimeout = 0 →
        Move (state, .sending query)
          (.searching query :: (state.queryReply world query).commands.map .commandStarted)
          (state.noteQuery task query (state.queryReply world query).commands,
            .received query ((state.queryReply world query).outcome settings.searchTimeout)
              ((state.queryReply world query).notesWithin settings.searchTimeout))
  | queryWaits {state : State} {query : String} :
      (state.queryReply world query).wait settings.searchTimeout ≠ 0 →
        Move (state, .sending query)
          (.searching query :: (state.queryReply world query).commands.map .commandStarted)
          (state.noteQuery task query (state.queryReply world query).commands,
            .resting (.searching query
              (state.now + (state.queryReply world query).wait settings.searchTimeout)
              ((state.queryReply world query).outcome settings.searchTimeout)
              ((state.queryReply world query).notesWithin settings.searchTimeout)))
  | queryLate {state : State} {query : String} {notes : List LogLine} :
      Move (state, .received query none notes) (notes.map .queryNote)
        (state.noteAll task (notes.map .queryNote),
          .failing query (.queryTimeout (settings.searchTimeout / 1000)))
  | queryFailed {state : State} {query : String} {error : SearchError} {notes : List LogLine} :
      Move (state, .received query (some (.error error)) notes) (notes.map .queryNote)
        (state.noteAll task (notes.map .queryNote), .failing query error)
  | queryListed {state : State} {query : String} {listing : Listing} {notes : List LogLine} :
      Move (state, .received query (some (.ok listing)) notes) (notes.map .queryNote)
        (state.noteAll task (notes.map .queryNote), .asking (.assemble query listing))
  | stale {state : State} {purpose : Purpose} :
      state.snapshot.isStale settings.installedTtl state.now = true →
        Move (state, .asking purpose) [] (state, .arriving (.current state.now) purpose)
  | fresh {state : State} {purpose : Purpose} :
      state.snapshot.isStale settings.installedTtl state.now = false →
        Move (state, .asking purpose) [] (state, .delivering state.snapshot purpose)
  | gateFree {state : State} {demand : Demand} {purpose : Purpose} :
      state.gate.isEmpty = true →
        Move (state, .arriving demand purpose) [] (state.lined task, .entering demand purpose)
  | gateTaken {state : State} {demand : Demand} {purpose : Purpose} :
      state.gate.isEmpty = false →
        Move (state, .arriving demand purpose) []
          (state.lined task, .resting (.queued demand purpose))
  | refreshDemanded {state : State} {purpose : Purpose} :
      Move (state, .entering .refresh purpose) [.refreshing]
        (state.note task .refreshing, .trying state.detection purpose
          ((List.range world.probes.length).zip world.probes))
  | stillStale {state : State} {askedAt : Nat} {purpose : Purpose} :
      state.snapshot.isStale settings.installedTtl askedAt = true →
        Move (state, .entering (.current askedAt) purpose) [.refreshing]
          (state.note task .refreshing, .trying state.detection purpose
            ((List.range world.probes.length).zip world.probes))
  | broughtMeanwhile {state : State} {askedAt : Nat} {purpose : Purpose} :
      state.snapshot.isStale settings.installedTtl askedAt = false →
        Move (state, .entering (.current askedAt) purpose) []
          (state.leaveGate, .delivering state.snapshot purpose)
  | noProbeLeft {state : State} {detection : Detection} {purpose : Purpose} :
      Move (state, .trying detection purpose []) [.noProbeSucceeded]
        (state.note task .noProbeSucceeded, .concluding detection NameSet.empty purpose)
  | probeAnswered {state : State} {detection : Detection} {purpose : Purpose} {place : Nat}
      {probe : Probe} {remaining : List (Nat × Probe)} :
      (state.probeReply place probe).wait settings.probeTimeout = 0 →
        Move (state, .trying detection purpose ((place, probe) :: remaining))
          (.probeTried probe.name :: (state.probeReply place probe).commands.map .commandStarted)
          (state.noteProbe task place probe.name (state.probeReply place probe).commands,
            .hearing detection probe.name
              ((state.probeReply place probe).outcome settings.probeTimeout) remaining purpose)
  | probeWaits {state : State} {detection : Detection} {purpose : Purpose} {place : Nat}
      {probe : Probe} {remaining : List (Nat × Probe)} :
      (state.probeReply place probe).wait settings.probeTimeout ≠ 0 →
        Move (state, .trying detection purpose ((place, probe) :: remaining))
          (.probeTried probe.name :: (state.probeReply place probe).commands.map .commandStarted)
          (state.noteProbe task place probe.name (state.probeReply place probe).commands,
            .resting (.probing detection probe.name
              (state.now + (state.probeReply place probe).wait settings.probeTimeout)
              ((state.probeReply place probe).outcome settings.probeTimeout) remaining purpose))
  | probeSucceeded {state : State} {detection : Detection} {name : String}
      {outcome : Option (Except ProbeError NameSet)} {names : NameSet}
      {remaining : List (Nat × Probe)} {purpose : Purpose} :
      probeResult settings name outcome = .ok names →
        Move (state, .hearing detection name outcome remaining purpose)
          [.probeSucceeded name names.size]
          (state.note task (.probeSucceeded name names.size),
            .concluding detection names purpose)
  | probeFailed {state : State} {detection : Detection} {name : String}
      {outcome : Option (Except ProbeError NameSet)} {error : ProbeError}
      {remaining : List (Nat × Probe)} {purpose : Purpose} :
      probeResult settings name outcome = .error error →
        Move (state, .hearing detection name outcome remaining purpose)
          [.probeFailed name error]
          (state.note task (.probeFailed name error), .trying detection purpose remaining)
  | kept {state : State} {detection : Detection} {names : NameSet} {purpose : Purpose} :
      state.generation = detection.generation →
        Move (state, .concluding detection names purpose) [.detected (state.captured names)]
          (State.leaveGate { state.note task (.detected (state.captured names)) with
              snapshot := state.captured names },
            .delivering (state.captured names) purpose)
  | discarded {state : State} {detection : Detection} {names : NameSet} {purpose : Purpose} :
      state.generation ≠ detection.generation →
        Move (state, .concluding detection names purpose)
          [.detected (state.captured names), .refreshDiscarded]
          (State.leaveGate ((state.note task (.detected (state.captured names))).note task
              .refreshDiscarded),
            .delivering (state.captured names) purpose)
  | reported {state : State} {snapshot : Snapshot} :
      Move (state, .delivering snapshot .report) [] (state, .answering (.snapshot snapshot))
  | debugged {state : State} {snapshot : Snapshot} :
      Move (state, .delivering snapshot .debug) []
        (state, .answering (.debug (state.debug settings world snapshot)))
  | unassembled {state : State} {snapshot : Snapshot} {query : String} {listing : Listing}
      {error : SearchError} :
      assemble settings.limits listing snapshot = .error error →
        Move (state, .delivering snapshot (.assemble query listing)) []
          (state, .failing query error)
  | assembled {state : State} {snapshot : Snapshot} {query : String} {listing : Listing}
      {response : SearchResponse} :
      assemble settings.limits listing snapshot = .ok response →
        Move (state, .delivering snapshot (.assemble query listing))
          (State.sweepEvents
              (state.cache.put settings.cache state.now (.ofQuery query) response).2 ++
            [.responseStored query response])
          (state.store settings task query response, .answering (.search response))
  | fail {state : State} {query : String} {error : SearchError} :
      Move (state, .failing query error) [.searchFailed query error]
        (state.note task (.searchFailed query error),
          .answering (.search (.failure error.message)))
  | answer {state : State} {answer : Answer} :
      Move (state, .answering answer) [] (state, .resting (.finished answer state.now))

/-- Any number of moves up to the next wait, whatever events they leave. -/
abbrev Moves : State × Point → State × Point → Prop :=
  ReflTransGen fun before after =>
    before.2.IsActive ∧ ∃ events, Move settings world task before events after

/-- A task that has come to rest. -/
def atRest (progress : Progress) : State × Point :=
  (progress.1, .resting progress.2)

variable {settings : Settings} {world : World} {task : TaskId}

theorem Move.then {before middle after : State × Point} {events : List Event}
    (move : Move settings world task before events middle)
    (moves : Moves settings world task middle after)
    (active : before.2.IsActive) : Moves settings world task before after :=
  .head ⟨active, events, move⟩ moves

theorem moves_finish (state : State) (answer : Answer) :
    Moves settings world task (state, .answering answer) (atRest (finish state answer)) :=
  Move.answer.then .refl trivial

theorem moves_failSearch (state : State) (query : String) (error : SearchError) :
    Moves settings world task (state, .failing query error)
      (atRest (failSearch state task query error)) :=
  Move.fail.then (moves_finish _ _) trivial

theorem moves_deliver (state : State) (snapshot : Snapshot) (purpose : Purpose) :
    Moves settings world task (state, .delivering snapshot purpose)
      (atRest (deliver settings world state task snapshot purpose)) := by
  cases purpose with
  | report => exact Move.reported.then (moves_finish _ _) trivial
  | debug => exact Move.debugged.then (moves_finish _ _) trivial
  | assemble query listing =>
      unfold deliver
      dsimp only
      split
      · rename_i error failed
        exact (Move.unassembled failed).then (moves_failSearch _ _ _) trivial
      · rename_i response assembled
        exact (Move.assembled assembled).then (moves_finish _ _) trivial

theorem moves_conclude (state : State) (detection : Detection) (names : NameSet)
    (purpose : Purpose) :
    Moves settings world task (state, .concluding detection names purpose)
      (atRest (conclude settings world state task detection names purpose)) := by
  unfold conclude State.keep
  dsimp only
  by_cases current : state.generation = detection.generation
  · rw [if_pos (by exact current)]
    exact (Move.kept current).then (moves_deliver _ _ _) trivial
  · rw [if_neg (by exact current)]
    exact (Move.discarded current).then (moves_deliver _ _ _) trivial

/-- The induction is on the probes that have not been tried. -/
theorem moves_tryProbes (state : State) (detection : Detection) (purpose : Purpose)
    (remaining : List (Nat × Probe)) :
    Moves settings world task (state, .trying detection purpose remaining)
      (atRest (tryProbes settings world state task detection purpose remaining)) := by
  induction remaining generalizing state with
  | nil => exact Move.noProbeLeft.then (moves_conclude _ _ _ _) trivial
  | cons first remaining inductionHypothesis =>
      rcases first with ⟨place, probe⟩
      unfold tryProbes
      dsimp only
      split
      · rename_i atOnce
        refine (Move.probeAnswered atOnce).then ?_ trivial
        split
        · rename_i names succeeded
          exact (Move.probeSucceeded succeeded).then (moves_conclude _ _ _ _) trivial
        · rename_i error failed
          exact (Move.probeFailed failed).then (inductionHypothesis _) trivial
      · rename_i waits
        exact (Move.probeWaits waits).then .refl trivial

theorem moves_resumeDetection (state : State) (detection : Detection) (name : String)
    (outcome : Option (Except ProbeError NameSet)) (remaining : List (Nat × Probe))
    (purpose : Purpose) :
    Moves settings world task (state, .hearing detection name outcome remaining purpose)
      (atRest (resumeDetection settings world state task detection name outcome remaining
        purpose)) := by
  unfold resumeDetection
  split
  · rename_i names succeeded
    exact (Move.probeSucceeded succeeded).then (moves_conclude _ _ _ _) trivial
  · rename_i error failed
    exact (Move.probeFailed failed).then (moves_tryProbes _ _ _ _) trivial

theorem moves_enterGate (state : State) (demand : Demand) (purpose : Purpose) :
    Moves settings world task (state, .entering demand purpose)
      (atRest (enterGate settings world state task demand purpose)) := by
  cases demand with
  | refresh => exact Move.refreshDemanded.then (moves_tryProbes _ _ _ _) trivial
  | current askedAt =>
      unfold enterGate
      dsimp only
      split
      · rename_i stale
        exact (Move.stillStale stale).then (moves_tryProbes _ _ _ _) trivial
      · rename_i fresh
        have notStale := Bool.eq_false_iff.mpr fresh
        exact (Move.broughtMeanwhile notStale).then (moves_deliver _ _ _) trivial

theorem moves_comeToGate (state : State) (demand : Demand) (purpose : Purpose) :
    Moves settings world task (state, .arriving demand purpose)
      (atRest (comeToGate settings world state task demand purpose)) := by
  unfold comeToGate
  dsimp only
  split
  · rename_i free
    exact (Move.gateFree free).then (moves_enterGate _ _ _) trivial
  · rename_i taken
    exact (Move.gateTaken (Bool.eq_false_iff.mpr taken)).then .refl trivial

theorem moves_askCurrent (state : State) (purpose : Purpose) :
    Moves settings world task (state, .asking purpose)
      (atRest (askCurrent settings world state task purpose)) := by
  unfold askCurrent
  split
  · rename_i stale
    exact (Move.stale stale).then (moves_comeToGate _ _ _) trivial
  · rename_i fresh
    exact (Move.fresh (Bool.eq_false_iff.mpr fresh)).then (moves_deliver _ _ _) trivial

theorem moves_resumeSearch (state : State) (query : String)
    (outcome : Option (Except SearchError Listing)) (notes : List LogLine) :
    Moves settings world task (state, .received query outcome notes)
      (atRest (resumeSearch settings world state task query outcome notes)) := by
  rcases outcome with _ | (error | listing)
  · exact Move.queryLate.then (moves_failSearch _ _ _) trivial
  · exact Move.queryFailed.then (moves_failSearch _ _ _) trivial
  · exact Move.queryListed.then (moves_askCurrent _ _) trivial

theorem moves_sendQuery (state : State) (query : String) :
    Moves settings world task (state, .sending query)
      (atRest (sendQuery settings world state task query)) := by
  unfold sendQuery
  dsimp only
  split
  · rename_i atOnce
    exact (Move.queryAnswered atOnce).then (moves_resumeSearch _ _ _ _) trivial
  · rename_i waits
    exact (Move.queryWaits waits).then .refl trivial

theorem moves_search (state : State) (text : String) :
    Moves settings world task (state, .beginning (.search text))
      (atRest (search settings world state task text)) := by
  unfold search
  dsimp only
  split
  · rename_i blank
    exact (Move.searchBlank (String.isEmpty_iff.mp blank)).then (moves_finish _ _) trivial
  · rename_i notBlank
    have nonempty : trimmedQuery text ≠ "" := fun blank => notBlank (String.isEmpty_iff.mpr blank)
    split
    · rename_i overlong
      exact (Move.searchOverlong nonempty overlong).then (moves_failSearch _ _ _) trivial
    · rename_i bounded
      have valid : ValidQuery settings text := ⟨nonempty, Nat.le_of_not_lt bounded⟩
      split
      · rename_i entry found
        exact (Move.searchHit valid found).then (moves_finish _ _) trivial
      · rename_i absent
        exact (Move.searchMiss valid absent).then (moves_sendQuery _ _) trivial

theorem moves_begin (state : State) (operation : Operation) :
    Moves settings world task (state, .beginning operation)
      (atRest (begin settings world state task operation)) := by
  cases operation with
  | search text => exact moves_search state text
  | clear => exact Move.clear.then (moves_finish _ _) trivial
  | debug => exact Move.debug.then .refl trivial
  | health => exact Move.health.then (moves_finish _ _) trivial
  | stats => exact Move.stats.then (moves_finish _ _) trivial
  | refuse refusal => exact Move.refuse.then (moves_finish _ _) trivial
  | current => exact Move.current.then (moves_askCurrent _ _) trivial
  | refresh => exact Move.refresh.then (moves_comeToGate _ _ _) trivial
  | snapshot => exact Move.snapshot.then (moves_finish _ _) trivial
  | reset => exact Move.reset.then (moves_finish _ _) trivial

theorem moves_proceed (state : State) (stage : Stage) :
    Moves settings world task (state, stage.point)
      (atRest (proceed settings world state task stage)) := by
  cases stage with
  | scheduled operation start => exact moves_begin state operation
  | searching query wake outcome notes => exact moves_resumeSearch state query outcome notes
  | inspecting => exact moves_askCurrent state .debug
  | queued demand purpose => exact moves_enterGate state demand purpose
  | probing detection name wake outcome remaining purpose =>
      exact moves_resumeDetection state detection name outcome remaining purpose
  | finished answer time => exact .refl

end PackageSearch.Server
