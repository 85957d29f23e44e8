import PackageSearch.Proofs.Server.Completion
import PackageSearch.Proofs.Server.Patience
import PackageSearch.Proofs.Server.SingleFlight

/-!
# What a detection finds

A detection calls the probes in their order and waits for each of them only so long. It ends with
the first one that succeeds in time, and calls no further one. While it is under way nobody else
calls a probe, so how the probes reply, and how long all of it takes, is settled when it starts.
-/

namespace PackageSearch

/-- The event is the call of a probe, or the start of a command. -/
def Event.isCall : Event → Bool
  | .probeTried _ | .commandStarted _ => true
  | _ => false

namespace Server

variable {settings : Settings} {world : World} {regime : Regime} {start state next last : State}
  {task other : TaskId} {before after : State × Point} {events : List Event}
  {journal : List JournalEntry} {calls remaining : List (Nat × Probe)} {names : NameSet}
  {called took time : Nat}

/-! ### Calls -/

/-- How a probe replies if it is called in a detection that starts now. -/
def State.reply (start : State) (call : Nat × Probe) : Reply ProbeError NameSet :=
  start.probeReply call.1 call.2

def State.replies (start : State) (world : World) : List (Reply ProbeError NameSet) :=
  world.calls.map start.reply

/-- What the call of a probe leaves in the journal: the probe, and the commands that it starts. -/
def State.callEvents (start : State) (call : Nat × Probe) : List Event :=
  .probeTried call.2.name :: (start.reply call).commands.map .commandStarted

/-- The calls that a task has made since it started to detect. -/
def callsIn (journal : List JournalEntry) (task : TaskId) : List Event :=
  ((eventsOf journal task).dropWhile (· ≠ .refreshing)).filter Event.isCall

theorem dropWhile_append_of_mem {first : List Event} (started : .refreshing ∈ first)
    (more : List Event) :
    (first ++ more).dropWhile (· ≠ .refreshing) =
      first.dropWhile (· ≠ .refreshing) ++ more := by
  rw [List.dropWhile_append, if_neg]
  intro isEmpty
  rw [List.isEmpty_iff, List.dropWhile_eq_nil_iff] at isEmpty
  simpa using isEmpty _ started

theorem callsIn_append_self (started : .refreshing ∈ eventsOf journal task) :
    callsIn (journal ++ entriesOf time task events) task =
      callsIn journal task ++ events.filter Event.isCall := by
  rw [callsIn, eventsOf_append_self, dropWhile_append_of_mem started, List.filter_append, callsIn]

theorem callsIn_append_other (different : other ≠ task) :
    callsIn (journal ++ entriesOf time task events) other = callsIn journal other := by
  rw [callsIn, eventsOf_append_other different, callsIn]

theorem callsIn_of_start (unstarted : .refreshing ∉ eventsOf journal task) :
    callsIn (journal ++ entriesOf time task [.refreshing]) task = [] := by
  have earlier : ∀ event ∈ eventsOf journal task, (event ≠ .refreshing : Bool) = true := by
    intro event membership
    simpa using fun same : event = .refreshing => unstarted (same ▸ membership)
  rw [callsIn, eventsOf_append_self, List.dropWhile_append_of_pos earlier]
  rfl

/-- Since it started to detect the task has made the calls, and no others. -/
structure HasCalled (start : State) (journal : List JournalEntry) (task : TaskId)
    (calls : List (Nat × Probe)) : Prop where
  started : .refreshing ∈ eventsOf journal task
  calls : callsIn journal task = calls.flatMap start.callEvents

namespace HasCalled

theorem move {more : List (Nat × Probe)} (hasCalled : HasCalled start before.1.journal task calls)
    (move : Move settings world task before events after)
    (left : events.filter Event.isCall = more.flatMap start.callEvents) :
    HasCalled start after.1.journal task (calls ++ more) := by
  constructor
  · rw [move.eventsOf_eq]
    exact List.mem_append_left _ hasCalled.started
  · rw [move.journal_eq, callsIn_append_self hasCalled.started, hasCalled.calls, left,
      List.flatMap_append]

theorem silent (hasCalled : HasCalled start before.1.journal task calls)
    (move : Move settings world task before events after)
    (silent : events.filter Event.isCall = []) : HasCalled start after.1.journal task calls := by
  have same : HasCalled start after.1.journal task (calls ++ []) := hasCalled.move move silent
  rwa [List.append_nil] at same

theorem undisturbed (hasCalled : HasCalled start before.1.journal other calls)
    (move : Move settings world task before events after) (different : other ≠ task) :
    HasCalled start after.1.journal other calls := by
  constructor
  · rw [move.eventsOf_other different]
    exact hasCalled.started
  · rw [move.journal_eq, callsIn_append_other different]
    exact hasCalled.calls

end HasCalled

/-! ### Places -/

theorem length_calls (world : World) : world.calls.length = world.probes.length := by
  simpa using congrArg List.length (places_calls world)

/-- The first calls are those at the first places. -/
theorem places_of_split (split : world.calls = calls ++ remaining) :
    calls.map Prod.fst = List.range calls.length := by
  have places : calls.map Prod.fst ++ remaining.map Prod.fst = List.range world.probes.length := by
    rw [← List.map_append, ← split]
    exact places_calls world
  have short : calls.length ≤ world.probes.length := by
    rw [← length_calls, split, List.length_append]
    exact Nat.le_add_right _ _
  have front := congrArg (List.take calls.length) places
  rwa [List.take_left' (List.length_map _), List.take_range, Nat.min_eq_left short] at front

theorem not_mem_places_of_split {call : Nat × Probe}
    (split : world.calls = calls ++ call :: remaining) : call.1 ∉ calls.map Prod.fst := by
  have distinct : (world.calls.map Prod.fst).Nodup := by
    rw [places_calls]
    exact List.nodup_range
  rw [split, List.map_append] at distinct
  exact fun membership => (List.nodup_append.mp distinct).2.2 _ membership _ (by simp) rfl

/-! ### Punctual runs -/

/-- Whoever waits for a probe goes on no later than its time comes. -/
def Regime.IsPunctual (regime : Regime) : Prop :=
  ∀ state detection name wake outcome remaining purpose,
    regime.resumes state (.probing detection name wake outcome remaining purpose) →
      state.now ≤ wake

/-- Everything may happen, but whoever waits for a probe goes on as soon as its time has come. -/
def punctual : Regime where
  admits _ := True
  passes _ := True
  resumes state
    | .probing _ _ wake _ _ _ => state.now ≤ wake
    | _ => True
  resumes_withTasks {_ _ _ stage} onTime := by cases stage <;> exact onTime

theorem isPunctual_punctual : punctual.IsPunctual :=
  fun _ _ _ _ _ _ _ onTime => onTime

/-! ### Detections under way -/

/-- A detection of the task that started in one state has come to another one. The calls are those
that anybody has made in between, and they take up to the given time if everybody is punctual. -/
structure IsAlong (settings : Settings) (world : World) (regime : Regime) (start state : State)
    (task : TaskId) (calls remaining : List (Nat × Probe)) (time : Nat) : Prop where
  split : world.calls = calls ++ remaining
  hasCalled : HasCalled start state.journal task calls
  probed : state.probed = start.probed ++ calls.map Prod.fst
  clock : regime.IsPunctual →
    time = start.now + spent settings.probeTimeout (calls.map start.reply)

/-- A detection of the task that started in one state has found the names by the given time, or
nothing, as the replies have it. -/
structure HasFound (settings : Settings) (world : World) (regime : Regime) (start state : State)
    (task : TaskId) (called : Nat) (names : NameSet) (took time : Nat) : Prop where
  first : FirstTimely settings.probeTimeout (start.replies world) called names took
  hasCalled : HasCalled start state.journal task (world.calls.take called)
  probed : start.probed ++ List.range called <+: state.probed
  clock : regime.IsPunctual → time = start.now + took

/-- The only snapshot that the task has detected is the one that its detection has found. -/
def HasEnded (settings : Settings) (world : World) (regime : Regime) (start state : State)
    (task : TaskId) : Prop :=
  ∃ called names took time, HasFound settings world regime start state task called names took time ∧
    ⟨time, task, .detected ⟨names, some time⟩⟩ ∈ state.journal ∧
    HasOnlyDetected state.journal task ⟨names, some time⟩ time

/-- None of the calls has brought names in time. -/
def AreUseless (settings : Settings) (start : State) (calls : List (Nat × Probe)) : Prop :=
  ∀ call ∈ calls, (start.reply call).IsUseless settings.probeTimeout

/-- How far a task at a point has come with the detection that it started. -/
def Point.Detects (settings : Settings) (world : World) (regime : Regime) (start state : State)
    (task : TaskId) : Point → Prop
  | .trying _ _ remaining => ∃ calls, AreUseless settings start calls ∧
      IsAlong settings world regime start state task calls remaining state.now
  | .resting (.probing _ _ wake outcome remaining _) => ∃ calls call,
      AreUseless settings start calls ∧
        outcome = (start.reply call).outcome settings.probeTimeout ∧
        IsAlong settings world regime start state task (calls ++ [call]) remaining wake
  | .hearing _ _ outcome remaining _ => ∃ calls call, AreUseless settings start calls ∧
      outcome = (start.reply call).outcome settings.probeTimeout ∧
      IsAlong settings world regime start state task (calls ++ [call]) remaining state.now
  | .concluding _ names _ => ∃ called took,
      HasFound settings world regime start state task called names took state.now
  | .delivering _ _ | .failing _ _ | .answering _ | .resting (.finished _ _) =>
      HasEnded settings world regime start state task
  | _ => False

/-! ### One move of the detecting task -/

theorem probeResult_eq_ok_iff {name : String} {reply : Reply ProbeError NameSet} :
    probeResult settings name (reply.outcome settings.probeTimeout) = .ok names ↔
      reply.Brings settings.probeTimeout names := by
  unfold probeResult Reply.outcome
  by_cases timely : reply.delay ≤ settings.probeTimeout
  · rw [if_pos timely]
    exact ⟨fun result => ⟨timely, result⟩, fun brings => brings.result⟩
  · rw [if_neg timely]
    refine ⟨fun result => ?_, fun brings => absurd brings.timely timely⟩
    cases result

theorem isUseless_of_probeResult {name : String} {reply : Reply ProbeError NameSet}
    {error : ProbeError}
    (failed : probeResult settings name (reply.outcome settings.probeTimeout) = .error error) :
    reply.IsUseless settings.probeTimeout := by
  intro names brings
  rw [probeResult_eq_ok_iff.mpr brings] at failed
  cases failed

namespace IsAlong

theorem of_same (along : IsAlong settings world regime start state task calls remaining time)
    (hasCalled : HasCalled start next.journal task calls) (probed : next.probed = state.probed) :
    IsAlong settings world regime start next task calls remaining time :=
  ⟨along.split, hasCalled, probed.trans along.probed, along.clock⟩

/-- The next probe has not been called since the start. -/
theorem probeReply_eq {place : Nat} {probe : Probe}
    (along : IsAlong settings world regime start state task calls ((place, probe) :: remaining)
      time) : state.probeReply place probe = start.reply (place, probe) := by
  have uncalled : place ∉ calls.map Prod.fst := not_mem_places_of_split along.split
  rw [State.reply, State.probeReply, State.probeReply, along.probed, List.count_append,
    List.count_eq_zero.mpr uncalled, Nat.add_zero]

theorem call {call : Nat × Probe} {moment : Nat}
    (along : IsAlong settings world regime start state task calls (call :: remaining) time)
    (hasCalled : HasCalled start next.journal task (calls ++ [call]))
    (probed : next.probed = state.probed ++ [call.1])
    (waited : moment = time + (start.reply call).wait settings.probeTimeout) :
    IsAlong settings world regime start next task (calls ++ [call]) remaining moment where
  split := by rw [along.split, List.append_assoc, List.singleton_append]
  hasCalled := hasCalled
  probed := by rw [probed, along.probed, List.map_append, List.append_assoc, List.map_singleton]
  clock isPunctual := by
    rw [waited, along.clock isPunctual, Nat.add_assoc, List.map_append]
    simp [spent, Reply.wait]

theorem replies_eq (along : IsAlong settings world regime start state task calls remaining time) :
    start.replies world = calls.map start.reply ++ remaining.map start.reply := by
  rw [State.replies, along.split, List.map_append]

theorem take_eq (along : IsAlong settings world regime start state task calls remaining time) :
    world.calls.take calls.length = calls := by
  rw [along.split, List.take_left]

/-- What the calls that have been made come to, if no further one is made. -/
theorem hasFound (along : IsAlong settings world regime start state task calls remaining time)
    (first : FirstTimely settings.probeTimeout (start.replies world) calls.length names took)
    (spends : took = spent settings.probeTimeout (calls.map start.reply)) :
    HasFound settings world regime start state task calls.length names took time where
  first := first
  hasCalled := along.take_eq.symm ▸ along.hasCalled
  probed := by
    have places := places_of_split along.split
    exact ⟨[], by rw [along.probed, places, List.append_nil]⟩
  clock isPunctual := spends ▸ along.clock isPunctual

/-- The last call has brought names in time. -/
theorem found {call : Nat × Probe}
    (along : IsAlong settings world regime start state task (calls ++ [call]) remaining time)
    (useless : AreUseless settings start calls)
    (brings : (start.reply call).Brings settings.probeTimeout names) :
    ∃ called took, HasFound settings world regime start state task called names took time := by
  have split : start.replies world =
      calls.map start.reply ++ start.reply call :: remaining.map start.reply := by
    rw [along.replies_eq, List.map_append, List.append_assoc]
    rfl
  have failed : ∀ reply ∈ calls.map start.reply, reply.IsUseless settings.probeTimeout :=
    List.forall_mem_map.mpr useless
  have first := FirstTimely.found split failed brings
  have counted : (calls ++ [call]).length = calls.length + 1 := by simp
  rw [List.length_map, ← counted] at first
  refine ⟨_, _, along.hasFound first ?_⟩
  simp [spent, Nat.min_eq_left brings.timely]

/-- No call has brought names in time, and there is no probe left. -/
theorem foundNothing (along : IsAlong settings world regime start state task calls [] time)
    (useless : AreUseless settings start calls) :
    ∃ called took,
      HasFound settings world regime start state task called NameSet.empty took time := by
  have all : start.replies world = calls.map start.reply := by
    rw [along.replies_eq, List.map_nil, List.append_nil]
  have failed : ∀ reply ∈ start.replies world, reply.IsUseless settings.probeTimeout := by
    rw [all]
    exact List.forall_mem_map.mpr useless
  have first := FirstTimely.nothing failed
  rw [all, List.length_map, ← all] at first
  exact ⟨_, _, along.hasFound first (by rw [all])⟩

end IsAlong

theorem HasFound.of_same {found : State}
    (hasFound : HasFound settings world regime start state task called names took time)
    (hasCalled : HasCalled start found.journal task (world.calls.take called))
    (probed : state.probed <+: found.probed) :
    HasFound settings world regime start found task called names took time :=
  ⟨hasFound.first, hasCalled, hasFound.probed.trans probed, hasFound.clock⟩

/-- No move takes a call back. -/
theorem Move.probed_prefix (move : Move settings world task before events after) :
    before.1.probed <+: after.1.probed := by
  rcases move.probed_cases with same | ⟨-, -, place, -, -, -, called⟩
  · exact same.symm ▸ List.prefix_refl _
  · exact called.symm ▸ List.prefix_append _ _

theorem HasOnlyDetected.append_self {snapshot : Snapshot} {moment : Nat}
    (only : HasOnlyDetected journal task snapshot time)
    (unended : ∀ found, .detected found ∉ events) :
    HasOnlyDetected (journal ++ entriesOf moment task events) task snapshot time := by
  intro ended found membership
  rcases mem_append_entriesOf.mp membership with old | ⟨-, -, left⟩
  · exact only ended found old
  · exact absurd left (unended found)

/-- A task that has ended its detection neither calls a probe nor detects again. -/
theorem HasEnded.move (hasEnded : HasEnded settings world regime start before.1 task)
    (move : Move settings world task before events after)
    (silent : events.filter Event.isCall = []) (unended : ∀ found, .detected found ∉ events) :
    HasEnded settings world regime start after.1 task := by
  obtain ⟨called, names, took, time, hasFound, detected, only⟩ := hasEnded
  refine ⟨called, names, took, time,
    hasFound.of_same (hasFound.hasCalled.silent move silent) move.probed_prefix, ?_, ?_⟩
  · rw [move.journal_eq]
    exact List.mem_append_left _ detected
  · rw [move.journal_eq]
    exact only.append_self unended

theorem HasEnded.undisturbed (hasEnded : HasEnded settings world regime start before.1 other)
    (move : Move settings world task before events after) (different : other ≠ task) :
    HasEnded settings world regime start after.1 other := by
  obtain ⟨called, names, took, time, hasFound, detected, only⟩ := hasEnded
  refine ⟨called, names, took, time,
    hasFound.of_same (hasFound.hasCalled.undisturbed move different) move.probed_prefix, ?_, ?_⟩
  · rw [move.journal_eq]
    exact List.mem_append_left _ detected
  · rw [move.journal_eq]
    exact only.append_other different

/-- The detection ends with the move. -/
theorem HasFound.hasEnded
    (hasFound : HasFound settings world regime start before.1 task called names took before.1.now)
    (move : Move settings world task before events after)
    (unended : ∀ found, .detected found ∉ eventsOf before.1.journal task)
    (silent : events.filter Event.isCall = [])
    (ends : ∃ more, events = .detected (before.1.captured names) :: more ∧
      ∀ found, .detected found ∉ more) :
    HasEnded settings world regime start after.1 task := by
  obtain ⟨more, rfl, none⟩ := ends
  refine ⟨called, names, took, before.1.now,
    hasFound.of_same (hasFound.hasCalled.silent move silent) move.probed_prefix, ?_, ?_⟩
  · rw [move.journal_eq]
    exact mem_append_entriesOf.mpr (.inr ⟨rfl, rfl, List.mem_cons_self⟩)
  · rw [move.journal_eq]
    exact .of_detected unended none

theorem Move.detects (move : Move settings world task before events after)
    (permitted : regime.Permits before)
    (stands : Stands before.1.journal before.1.generation task before.2)
    (detects : before.2.Detects settings world regime start before.1 task) :
    after.2.Detects settings world regime start after.1 task := by
  have whole := move
  cases move with
  | @goOn state stage allowed =>
      cases stage with
      | probing detection name wake outcome remaining purpose =>
          obtain ⟨calls, call, useless, isOutcome, along⟩ := detects
          refine ⟨calls, call, useless, isOutcome, along.split, along.hasCalled, along.probed, ?_⟩
          intro isPunctual
          have due : wake ≤ state.now := by simpa [State.allows] using allowed
          have onTime := isPunctual _ _ _ _ _ _ _ permitted
          exact (Nat.le_antisymm onTime due).trans (along.clock isPunctual)
      | finished => simp [State.allows] at allowed
      | _ => exact detects.elim
  | noProbeLeft =>
      obtain ⟨calls, useless, along⟩ := detects
      exact (along.of_same (along.hasCalled.silent whole rfl) rfl).foundNothing useless
  | @probeAnswered state detection purpose place probe remaining atOnce =>
      obtain ⟨calls, useless, along⟩ := detects
      have sameReply := along.probeReply_eq
      rw [sameReply] at atOnce whole ⊢
      refine ⟨calls, (place, probe), useless, rfl, along.call ?_ rfl ?_⟩
      · exact along.hasCalled.move whole (by simp [State.callEvents, Event.isCall])
      · rw [atOnce, Nat.add_zero]
        rfl
  | @probeWaits state detection purpose place probe remaining waits =>
      obtain ⟨calls, useless, along⟩ := detects
      have sameReply := along.probeReply_eq
      rw [sameReply] at whole ⊢
      refine ⟨calls, (place, probe), useless, rfl, along.call ?_ rfl rfl⟩
      exact along.hasCalled.move whole (by simp [State.callEvents, Event.isCall])
  | probeSucceeded succeeded =>
      obtain ⟨calls, call, useless, rfl, along⟩ := detects
      have brings := probeResult_eq_ok_iff.mp succeeded
      exact (along.of_same (along.hasCalled.silent whole rfl) rfl).found useless brings
  | probeFailed failed =>
      obtain ⟨calls, call, useless, rfl, along⟩ := detects
      have both : AreUseless settings start (calls ++ [call]) := by
        intro other membership
        rcases List.mem_append.mp membership with earlier | isLast
        · exact useless other earlier
        · rw [List.mem_singleton.mp isLast]
          exact isUseless_of_probeResult failed
      exact ⟨_, both, along.of_same (along.hasCalled.silent whole rfl) rfl⟩
  | kept =>
      obtain ⟨called, took, hasFound⟩ := detects
      exact hasFound.hasEnded whole stands.2.unended rfl ⟨[], rfl, by simp⟩
  | discarded =>
      obtain ⟨called, took, hasFound⟩ := detects
      exact hasFound.hasEnded whole stands.2.unended rfl ⟨[.refreshDiscarded], rfl, by simp⟩
  | reported | debugged | unassembled | fail | answer =>
      exact detects.move whole rfl (by simp)
  | assembled =>
      refine detects.move whole ?_ (by simp)
      simp [List.filter_append, Event.isCall]
  | _ => exact detects.elim

/-! ### All moves -/

/-- While a detection is under way only its task calls probes. -/
theorem Move.probed_eq_of_inside (move : Move settings world task before events after)
    (place : before.2.HasPlace before.1.gate task) (inside : before.1.gate.head? = some other)
    (different : other ≠ task) : after.1.probed = before.1.probed := by
  rcases move.probed_cases with same | ⟨_, _, _, _, _, isTrying, -⟩
  · exact same
  · rw [isTrying] at place
    exact absurd (Option.some.inj (inside.symm.trans place)) different

theorem Point.Detects.undisturbed {stage : Stage}
    (detects : (Point.resting stage).Detects settings world regime start before.1 other)
    (move : Move settings world task before events after) (different : other ≠ task)
    (moving : before.2.HasPlace before.1.gate task)
    (place : (Point.resting stage).HasPlace before.1.gate other) :
    (Point.resting stage).Detects settings world regime start after.1 other := by
  cases stage with
  | probing detection name wake outcome remaining purpose =>
      obtain ⟨calls, call, useless, isOutcome, along⟩ := detects
      have hasCalled := along.hasCalled.undisturbed move different
      have probed := move.probed_eq_of_inside moving place different
      exact ⟨calls, call, useless, isOutcome, along.of_same hasCalled probed⟩
  | finished answer ended => exact HasEnded.undisturbed detects move different
  | _ => exact detects.elim

/-- How far a detection has come can be seen from the calls and the journal and, unless the task
waits, from the clock. -/
theorem Point.Detects.of_same {point : Point}
    (detects : point.Detects settings world regime start state task)
    (now : point.IsActive → next.now = state.now) (journal : next.journal = state.journal)
    (probed : next.probed = state.probed) :
    point.Detects settings world regime start next task := by
  have ended (hasEnded : HasEnded settings world regime start state task) :
      HasEnded settings world regime start next task := by
    obtain ⟨called, names, took, time, hasFound, rest⟩ := hasEnded
    refine ⟨called, names, took, time, ?_, journal.symm ▸ rest⟩
    exact hasFound.of_same (journal.symm ▸ hasFound.hasCalled) (probed ▸ List.prefix_refl _)
  cases point with
  | resting stage =>
      cases stage with
      | probing =>
          obtain ⟨calls, call, useless, isOutcome, along⟩ := detects
          exact ⟨calls, call, useless, isOutcome,
            along.of_same (journal.symm ▸ along.hasCalled) probed⟩
      | finished => exact ended detects
      | _ => exact detects.elim
  | trying =>
      obtain ⟨calls, useless, along⟩ := detects
      refine ⟨calls, useless, ?_⟩
      rw [now trivial]
      exact along.of_same (journal.symm ▸ along.hasCalled) probed
  | hearing =>
      obtain ⟨calls, call, useless, isOutcome, along⟩ := detects
      refine ⟨calls, call, useless, isOutcome, ?_⟩
      rw [now trivial]
      exact along.of_same (journal.symm ▸ along.hasCalled) probed
  | concluding =>
      obtain ⟨called, took, hasFound⟩ := detects
      refine ⟨called, took, ?_⟩
      rw [now trivial]
      exact hasFound.of_same (journal.symm ▸ hasFound.hasCalled) (probed ▸ List.prefix_refl _)
  | delivering | failing | answering => exact ended detects
  | _ => exact detects.elim

/-- No task is ever removed. -/
theorem State.lt_length_withTasks (task : TaskId) {state : State} {tasks : List Task}
    {nextTicket : Nat} (grown : state.tasks.length ≤ tasks.length)
    (present : task < state.tasks.length) :
    task < (state.withTasks tasks nextTicket).tasks.length :=
  Nat.lt_of_lt_of_le present grown

/-- Whatever the other tasks do, the detection of the task that started in the state goes as the
replies have it. -/
def probing (settings : Settings) (world : World) (regime : Regime) (start : State)
    (task : TaskId) : Layer ((gated settings world).under regime) where
  common state := task < state.tasks.length
  standing state other point :=
    other = task → point.Detects settings world regime start state other
  common_withTasks := @State.lt_length_withTasks task
  standing_withTasks detects same := (detects same).of_same (fun _ => rfl) rfl rfl
  common_pass _ _ _ present := present
  standing_pass _ _ _ _ detects same := (detects same).of_same False.elim rfl rfl
  announced _ _ present same := absurd same.symm (Nat.ne_of_lt present)
  move move _ permitted _ standing present detects := by
    refine ⟨?_, fun same => move.detects permitted standing.1.1 (detects same)⟩
    rw [move.length_tasks_eq]
    exact present
  undisturbed move different _ moving standing _ _ detects same :=
    (detects same).undisturbed move different moving.2 standing.2

end Server

end PackageSearch
