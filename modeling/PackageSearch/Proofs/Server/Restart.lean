import PackageSearch.Proofs.Server.Sequel

/-!
# Clearing is as good as restarting

Once nothing is in flight, a clear leaves nothing behind that a fresh server would not have:
whatever the server does from then on is what a server does that is started at that moment, in any
run and also under the scheduler. Only the average age that the two servers tell may differ, because
each of them adds up the ages in the order of its own map.
-/

namespace PackageSearch.Server

open Relation

variable {settings : Settings} {world : World} {state past next : State} {task : TaskId}

/-! ### The scheduler after a restart -/

namespace State

/-- A task of the fresh server with its number, as one of the older server. -/
def followingEntry (world : World) (past : State) (numbered : TaskId × Task) : TaskId × Task :=
  (past.tasks.length + numbered.1, numbered.2.following world past)

theorem numbered_followedBy :
    (past.followedBy world next).numbered =
      past.numbered ++ next.numbered.map (followingEntry world past) := by
  unfold numbered
  rw [length_tasks_followedBy, List.range_add, followedBy,
    List.zip_append (List.length_range), List.zip_map]
  rfl

theorem IsIdle.readyTasks_eq_nil (idle : past.IsIdle) (later : State) :
    past.numbered.filter (fun candidate => later.allows candidate.1 candidate.2.stage) = [] := by
  refine List.filter_eq_nil_iff.mpr fun candidate membership => ?_
  have waits := stage?_of_getElem? (getElem?_of_mem_zip_range membership)
  obtain ⟨answer, time, isFinished⟩ := idle.exists_answer waits
  simp [isFinished, allows]

theorem readyTasks_followedBy (idle : past.IsIdle) :
    (past.followedBy world next).readyTasks =
      next.readyTasks.map (followingEntry world past) := by
  unfold readyTasks
  rw [numbered_followedBy, List.filter_append, idle.readyTasks_eq_nil, List.nil_append,
    List.filter_map]
  congr 2
  funext candidate
  exact allows_followedBy candidate.2.stage

theorem foldl_lower_map (tasks : List (TaskId × Task)) (best : Option (TaskId × Nat)) :
    (tasks.map (followingEntry world past)).foldl lower
        (best.map fun chosen => (past.tasks.length + chosen.1, past.nextTicket + chosen.2)) =
      (tasks.foldl lower best).map fun chosen =>
        (past.tasks.length + chosen.1, past.nextTicket + chosen.2) := by
  induction tasks generalizing best with
  | nil => rfl
  | cons first rest inductionHypothesis =>
      rw [List.map_cons, List.foldl_cons, List.foldl_cons, ← inductionHypothesis]
      congr 1
      cases best with
      | none => rfl
      | some chosen =>
          simp only [lower, followingEntry, Task.following, Option.map_some,
            Nat.add_lt_add_iff_left]
          split <;> rfl

theorem lowestTicket?_map (tasks : List (TaskId × Task)) :
    lowestTicket? (tasks.map (followingEntry world past)) =
      (lowestTicket? tasks).map (past.tasks.length + ·) := by
  rw [lowestTicket?_eq_foldl, lowestTicket?_eq_foldl, Option.map_map]
  refine (congrArg (Option.map Prod.fst) (foldl_lower_map tasks none)).trans ?_
  rw [Option.map_map]
  rfl

theorem nextReady?_followedBy (idle : past.IsIdle) :
    (past.followedBy world next).nextReady? =
      next.nextReady?.map (past.tasks.length + ·) := by
  have sameKind (numbered : TaskId × Task) :
      isInspecting (followingEntry world past numbered).2 = isInspecting numbered.2 := by
    rcases numbered with ⟨task, stage, ticket⟩
    cases stage <;> rfl
  simp only [nextReady?_eq, readyTasks_followedBy idle, List.filter_map, Function.comp_def,
    sameKind, lowestTicket?_map, Option.map_or]

theorem nextWake?_followedBy (idle : past.IsIdle) :
    (past.followedBy world next).nextWake? = next.nextWake? := by
  have sameWake (waiting : Task) :
      (waiting.following world past).stage.wake? = waiting.stage.wake? := by
    rcases waiting with ⟨stage, ticket⟩
    cases stage <;> rfl
  unfold nextWake?
  simp only [followedBy, List.filterMap_append, idle.wakes_eq_nil, List.nil_append,
    List.filterMap_map, Function.comp_def, sameWake]

theorem rounds_followedBy (idle : past.IsIdle) :
    (past.followedBy world next).rounds world = next.rounds (world.since past) := by
  have sameEnd (waiting : Task) : hasEnded (waiting.following world past) = hasEnded waiting := by
    rcases waiting with ⟨stage, ticket⟩
    cases stage <;> rfl
  have sameCount : (world.since past).probes.length = world.probes.length := by
    simp [World.since]
  unfold rounds
  simp only [followedBy, List.countP_append, idle.countP_eq_zero, Nat.zero_add, List.countP_map,
    Function.comp_def, sameEnd, sameCount]

theorem runAll_followedBy (idle : past.IsIdle) (fuel : Nat)
    (known : (knowing settings (world.since past)).Holds next) :
    (past.followedBy world next).runAll settings world fuel =
      past.followedBy world (next.runAll settings (world.since past) fuel) := by
  induction fuel generalizing next with
  | zero => rfl
  | succ fuel inductionHypothesis =>
      unfold runAll
      rw [nextReady?_followedBy idle, nextWake?_followedBy idle]
      cases picked : next.nextReady? with
      | some task =>
          rw [Option.map_some]
          dsimp only
          rw [resume_followedBy fun _ waits => known.standing waits]
          exact inductionHypothesis
            (known.leads (.single (.resume (isReady_of_nextReady? picked))))
      | none =>
          rw [Option.map_none]
          dsimp only
          cases next.nextWake? with
          | none => rfl
          | some wake =>
              exact inductionHypothesis
                (known.leads (.single (.pass (Nat.le_max_left next.now wake))))

theorem submit_followedBy (delay : Nat) (operation : Operation) :
    (past.followedBy world next).submit settings world delay operation =
      past.followedBy world (next.submit settings (world.since past) delay operation) := by
  unfold submit
  split
  · exact spawn_followedBy operation
  · exact schedule_followedBy operation _

theorem submitAll_followedBy (operations : List (Nat × Operation)) :
    (past.followedBy world next).submitAll settings world operations =
      past.followedBy world (next.submitAll settings (world.since past) operations) := by
  induction operations generalizing next with
  | nil => rfl
  | cons first rest inductionHypothesis =>
      unfold submitAll
      rw [List.foldl_cons, List.foldl_cons]
      dsimp only
      rw [submit_followedBy]
      exact inductionHypothesis

theorem runGroup_followedBy (idle : past.IsIdle)
    (known : (knowing settings (world.since past)).Holds next)
    (operations : List (Nat × Operation)) :
    (past.followedBy world next).runGroup settings world operations =
      past.followedBy world (next.runGroup settings (world.since past) operations) := by
  rw [runGroup_eq, runGroup_eq, submitAll_followedBy, rounds_followedBy idle]
  exact runAll_followedBy idle _ (known.leads (leads_submitAll operations next))

end State

/-! ### Scripts -/

/-- What is asked of a server from outside: operations that start after their delays and run side by
side until all have ended, or nothing for some time. -/
inductive Turn where
  | group (operations : List (Nat × Operation))
  | wait (time : Nat)

namespace State

def turn (settings : Settings) (world : World) (state : State) : Turn → State
  | .group operations => state.runGroup settings world operations
  | .wait time => { state with now := state.now + time }

/-- One turn after the other. -/
def play (settings : Settings) (world : World) (state : State) (turns : List Turn) : State :=
  turns.foldl (turn settings world) state

theorem leads_turn (state : State) (next : Turn) :
    Leads settings world state (state.turn settings world next) := by
  cases next with
  | group operations => exact leads_runGroup operations state
  | wait time => exact .single (.pass (Nat.le_add_right _ _))

theorem play_followedBy (idle : past.IsIdle)
    (known : (knowing settings (world.since past)).Holds next) (turns : List Turn) :
    (past.followedBy world next).play settings world turns =
      past.followedBy world (next.play settings (world.since past) turns) := by
  induction turns generalizing next with
  | nil => rfl
  | cons first rest inductionHypothesis =>
      have turned : (past.followedBy world next).turn settings world first =
          past.followedBy world (next.turn settings (world.since past) first) := by
        cases first with
        | group operations => exact runGroup_followedBy idle known operations
        | wait time => rfl
      unfold play
      rw [List.foldl_cons, List.foldl_cons, turned]
      exact inductionHypothesis (known.leads (leads_turn next first))

end State

/-! ### Responses -/

/-- The response to the operation of a task, with the time at which it is there, if the map of
cached responses has the given order then. -/
def State.response? (arrangement : Arrangement) (state : State) (task : TaskId) :
    Option (Http.Response × Nat) :=
  (state.answer? task).bind fun (answer, time) =>
    (answer.toResponse? arrangement).map fun response => (response, time)

theorem State.response?_of_stats {report : StatsReport} {time : Nat}
    (answered : state.answer? task = some (.stats report, time)) (arrangement : Arrangement) :
    state.response? arrangement task =
      some (.ofJson 200 (report.toJson arrangement), time) := by
  rw [State.response?, answered]
  rfl

/-- The responses are the same, or both report on the same ages of at least two entries, each of
them in some order. -/
inductive AgreeUpToOrder :
    Option (Http.Response × Nat) → Option (Http.Response × Nat) → Prop where
  | same (response? : Option (Http.Response × Nat)) : AgreeUpToOrder response? response?
  | reordered (report : StatsReport) (arrangement elsewhere : Arrangement) (time : Nat) :
      2 ≤ report.ages.length →
        AgreeUpToOrder (some (.ofJson 200 (report.toJson arrangement), time))
          (some (.ofJson 200 (report.toJson elsewhere), time))

theorem Arrangement.arrange_of_length_lt (arrangement : Arrangement) {ages : List Nat}
    (few : ages.length < 2) : arrangement.arrange ages = ages := by
  have perm := arrangement.rearranges ages
  match ages with
  | [] => exact perm.eq_nil
  | [age] => exact List.perm_singleton.mp perm

theorem AgreeUpToOrder.of_report (report : StatsReport) (arrangement elsewhere : Arrangement)
    (time : Nat) :
    AgreeUpToOrder (some (.ofJson 200 (report.toJson arrangement), time))
      (some (.ofJson 200 (report.toJson elsewhere), time)) := by
  by_cases several : 2 ≤ report.ages.length
  · exact .reordered report arrangement elsewhere time several
  · have few : report.ages.length < 2 := Nat.lt_of_not_le several
    have sameJson : report.toJson arrangement = report.toJson elsewhere := by
      simp only [StatsReport.toJson, StatsReport.averageAge?, Arrangement.averageAge?,
        Arrangement.arrange_of_length_lt _ few]
    rw [sameJson]
    exact .same _

theorem agreeUpToOrder_of_answer? {first second : State} {other : TaskId}
    (answered : first.answer? task = second.answer? other) (arrangement elsewhere : Arrangement) :
    AgreeUpToOrder (first.response? arrangement task) (second.response? elsewhere other) := by
  cases isGiven : second.answer? other with
  | none =>
      rw [State.response?, State.response?, answered, isGiven]
      exact .same none
  | some given =>
      rcases given with ⟨answer, time⟩
      cases answer with
      | stats report =>
          rw [State.response?_of_stats (answered.trans isGiven),
            State.response?_of_stats isGiven]
          exact .of_report report arrangement elsewhere time
      | _ =>
          rw [State.response?, State.response?, answered, isGiven]
          simp only [Option.bind_some, Answer.toResponse?]
          exact .same _

/-! ### Clears -/

/-- What can be seen of an older server that has gone on since some time, and of a fresh one: the
time, all answers and responses with their times, the calls of the package query and of the probes,
and what has happened, with its times. -/
structure Mirrors (past last renewed : State) : Prop where
  now : last.now = renewed.now
  answers : ∀ task, last.answer? (past.tasks.length + task) = renewed.answer? task
  /-- Each server has a map of its own. -/
  responses : ∀ arrangement elsewhere task,
    AgreeUpToOrder (last.response? arrangement (past.tasks.length + task))
      (renewed.response? elsewhere task)
  asked : last.asked = past.asked ++ renewed.asked
  probed : last.probed = past.probed ++ renewed.probed
  journal : last.journal = past.journal ++ renewed.journal.map (JournalEntry.following past)

theorem answer?_followedBy (past : State) (world : World) (renewed : State) (task : TaskId) :
    (past.followedBy world renewed).answer? (past.tasks.length + task) = renewed.answer? task := by
  unfold State.answer?
  rw [State.stage?_followedBy]
  cases renewed.stage? task with
  | none => rfl
  | some stage => cases stage <;> rfl

theorem mirrors_followedBy (past : State) (world : World) (renewed : State) :
    Mirrors past (past.followedBy world renewed) renewed where
  now := rfl
  answers := answer?_followedBy past world renewed
  responses arrangement elsewhere task :=
    agreeUpToOrder_of_answer? (answer?_followedBy past world renewed task) arrangement elsewhere
  asked := rfl
  probed := rfl
  journal := rfl

/-- A server that is started at the given time. -/
def State.startedAt (now : Nat) : State :=
  { State.initial with now }

theorem Reachable.startedAt (now : Nat) : Reachable settings world (State.startedAt now) :=
  .step .initial (.pass (Nat.zero_le now))

theorem State.spawn_clear_tasks (state : State) :
    (state.spawn settings world .clear).tasks = state.tasks ++ [{
      stage := .finished (.cleared state.cache.size) state.now
      ticket := state.nextTicket }] := by
  simp [State.spawn, begin, finish, State.settle, State.clear, State.resetSnapshot, State.note]

theorem State.answer?_spawn_clear (state : State) :
    (state.spawn settings world .clear).answer? state.tasks.length =
      some (.cleared state.cache.size, state.now) := by
  refine State.answer?_eq_some_iff.mpr ?_
  rw [State.stage?, State.spawn_clear_tasks, List.getElem?_concat_length]
  rfl

theorem State.IsIdle.spawn_clear (idle : state.IsIdle) :
    (state.spawn settings world .clear).IsIdle := by
  intro waiting membership
  rw [State.spawn_clear_tasks] at membership
  rcases List.mem_append.mp membership with old | new
  · exact idle waiting old
  · rw [List.mem_singleton.mp new]
    rfl

/-- With nothing in flight, a clear leaves a server that is as good as fresh. -/
theorem State.IsIdle.clear_eq_followedBy (idle : state.IsIdle)
    (holds : (gated settings world).Holds state) :
    state.spawn settings world .clear =
      (state.spawn settings world .clear).followedBy world (.startedAt state.now) := by
  have noGate : state.gate = [] := idle.gate_eq_nil holds
  simp [State.spawn, begin, finish, State.settle, State.clear, State.resetSnapshot, State.note,
    State.followedBy, State.startedAt, State.initial, noGate]

/-- With nothing in flight, what is asked of a server after a clear goes as on a server that is
started at this moment. -/
theorem State.IsIdle.play_clear (idle : state.IsIdle) (holds : (gated settings world).Holds state)
    (turns : List Turn) :
    (state.spawn settings world .clear).play settings world turns =
      (state.spawn settings world .clear).followedBy world
        ((State.startedAt state.now).play settings
          (world.since (state.spawn settings world .clear)) turns) := by
  rw [← State.play_followedBy idle.spawn_clear (Reachable.startedAt state.now).knowing,
    ← idle.clear_eq_followedBy holds]

/-- With nothing in flight, a clear tells how many entries were in the cache, and from then on the
server goes through the runs of a server that is started at this moment in the world as it is then.
The same is true of the scheduled runs, whatever is asked. Both servers give the same responses, but
for the average age that is told of two cached responses or more: it is that of the same ages, added
up in the order of the one map or the other. -/
theorem clear_as_good_as_restart (reachable : Reachable settings world state)
    (idle : state.IsIdle) :
    let cleared := state.spawn settings world .clear
    let fresh := State.startedAt state.now
    cleared.answer? state.tasks.length =
        some (.cleared state.cache.entries.length, state.now) ∧
      (∀ last, Leads settings world cleared last ↔
        ∃ renewed, Leads settings (world.since cleared) fresh renewed ∧
          last = cleared.followedBy world renewed) ∧
      (∀ turns, cleared.play settings world turns =
        cleared.followedBy world (fresh.play settings (world.since cleared) turns)) ∧
      ∀ renewed, Mirrors cleared (cleared.followedBy world renewed) renewed := by
  intro cleared fresh
  have holds := reachable.gated
  have isFresh : cleared = cleared.followedBy world fresh := idle.clear_eq_followedBy holds
  have idleAfter : cleared.IsIdle := idle.spawn_clear
  have known : (knowing settings (world.since cleared)).Holds fresh :=
    (Reachable.startedAt state.now).knowing
  refine ⟨state.answer?_spawn_clear, ?_, ?_, mirrors_followedBy cleared world⟩
  · intro last
    rw [← leads_followedBy_iff idleAfter known, ← isFresh]
  · exact idle.play_clear holds

/-- The server that has answered a search, after a clear. -/
def searchedCleared : State :=
  searched.spawn smallSettings (smallWorld 0 0) .clear

theorem searchedCleared_as_good_as_restarted :
    searched.IsIdle ∧ searchedCleared.answer? 1 = some (.cleared 1, 0) ∧
      ∀ turns, Mirrors searchedCleared
        (searchedCleared.play smallSettings (smallWorld 0 0) turns)
        (State.play smallSettings ((smallWorld 0 0).since searchedCleared) (.startedAt 0)
          turns) := by
  have reachable : Reachable smallSettings (smallWorld 0 0) searched := .step .initial (.arrive _)
  have idle : searched.IsIdle := by decide
  obtain ⟨answered, -, plays, mirrors⟩ := clear_as_good_as_restart reachable idle
  refine ⟨idle, answered, fun turns => ?_⟩
  rw [searchedCleared, plays turns]
  exact mirrors _

/-- After a clear with nothing in flight, all responses are those of a server that is started at
this moment, in whatever order the maps of the two servers have their entries. -/
def RespondsAsRestarted : Prop :=
  ∀ (settings : Settings) (world : World) (state : State), Reachable settings world state →
    state.IsIdle → ∀ (turns : List Turn) (arrangement elsewhere : Arrangement) (task : TaskId),
      let cleared := state.spawn settings world .clear
      (cleared.play settings world turns).response? arrangement (cleared.tasks.length + task) =
        ((State.startedAt state.now).play settings (world.since cleared) turns).response? elsewhere
          task

/-- Three searches, and a question about the cache when the responses are 1498, 1 and 1 milliseconds
old. -/
def threeSearches : List Turn :=
  [.group [(0, .search "a")], .wait 1497, .group [(0, .search "b"), (0, .search "c")], .wait 1,
    .group [(0, .stats)]]

def newestFirst : Arrangement where
  arrange := List.reverse
  rearranges := List.reverse_perm

/-- The sum of the ages in seconds is less than 1.5 if the greatest one is added first. -/
theorem not_respondsAsRestarted : ¬RespondsAsRestarted := by
  intro responds
  let cleared := State.initial.spawn smallSettings (smallWorld 0 0) .clear
  let renewed := (State.startedAt 0).play smallSettings ((smallWorld 0 0).since cleared)
    threeSearches
  let report : StatsReport :=
    { ages := [1498, 1, 1], searchTtl := 0, packages := 0, snapshotAge := some 0,
      installedTtl := 0 }
  have idle : State.initial.IsIdle := by decide
  have reported : renewed.answer? 3 = some (.stats report, 1498) := by decide +kernel
  have storedOrder : report.averageAge? .asStored = some 0 := by decide +kernel
  have reverseOrder : report.averageAge? newestFirst = some 1 := by decide +kernel
  have different : report.toJson .asStored ≠ report.toJson newestFirst := by
    simp [StatsReport.toJson, storedOrder, reverseOrder, optionalNatural, natural]
  have answered : (cleared.play smallSettings (smallWorld 0 0) threeSearches).answer? (1 + 3) =
      some (.stats report, 1498) := by
    rw [idle.play_clear Reachable.initial.gated]
    exact (answer?_followedBy cleared (smallWorld 0 0) renewed 3).trans reported
  have agree := responds smallSettings (smallWorld 0 0) .initial .initial idle threeSearches
    .asStored newestFirst 3
  have same := (State.response?_of_stats answered _).symm.trans
    (agree.trans (State.response?_of_stats reported _))
  rw [Option.some.injEq, Prod.mk.injEq, Http.Response.ofJson, Http.Response.mk.injEq] at same
  exact different (Option.some.inj same.1.2)

end PackageSearch.Server
