import PackageSearch.Proofs.Server.Detection

/-!
# What a refresh finds

Whoever gets into the gate and has to detect calls the probes up to the first one that succeeds in
time, and a refresh always does so. If timers are punctual, as they are in scheduled runs, it is
known from the start when this will be.
-/

namespace PackageSearch.Server

open Relation

variable {settings : Settings} {world : World} {regime : Regime}
  {origin start state next last : State} {operation : Operation} {task other : TaskId}
  {before after : State × Point} {names : NameSet} {called took time : Nat}

/-! ### The start of a detection -/

/-- The task starts to detect when it goes on from one state to the next. -/
structure StartsToDetect (task : TaskId) (start next : State) : Prop where
  unstarted : .refreshing ∉ eventsOf start.journal task
  started : .refreshing ∈ eventsOf next.journal task

/-- A task that moves from the point may still come to the gate. -/
def Point.IsEarly : Point → Prop
  | .beginning _ | .sending _ | .received _ _ _ | .asking _ | .arriving _ _ | .entering _ _ => True
  | _ => False

/-- A detection starts from an early point, and before it starts no probe is called. -/
theorem Move.early_cases (move : Move settings world task before events after)
    (active : before.2.IsActive) :
    (∃ detection purpose, before.2.IsEarly ∧ events = [.refreshing] ∧
      after.2 = .trying detection purpose world.calls ∧ after.1.probed = before.1.probed) ∨
    .refreshing ∉ events ∧
      (after.2.IsEarly → before.2.IsEarly ∧ after.1.probed = before.1.probed) := by
  cases move with
  | goOn => exact active.elim
  | refreshDemanded | stillStale => exact .inl ⟨_, _, trivial, rfl, rfl, rfl⟩
  | searchMiss | current | refresh | queryAnswered | queryListed | stale | gateFree =>
      exact .inr ⟨by simp, fun _ => ⟨trivial, rfl⟩⟩
  | _ => exact .inr ⟨by simp, False.elim⟩

/-- The moves lead through the start of a detection. -/
structure StartsThrough (settings : Settings) (world : World) (task : TaskId)
    (before after : State × Point) (state : State) (detection : Detection) (purpose : Purpose) :
    Prop where
  earlier : Moves settings world task before (state, .trying detection purpose world.calls)
  later : Moves settings world task (state, .trying detection purpose world.calls) after
  now : state.now = before.1.now
  probed : state.probed = before.1.probed
  hasCalled : ∀ start, HasCalled start state.journal task []

/-- The induction is on the moves, from the end. As long as no detection has started and one still
may, no probe has been called. -/
theorem Moves.starts_or (moves : Moves settings world task before after)
    (unstarted : .refreshing ∉ eventsOf before.1.journal task) :
    (∃ state detection purpose,
      StartsThrough settings world task before after state detection purpose) ∨
    .refreshing ∉ eventsOf after.1.journal task ∧
      (after.2.IsEarly → after.1.probed = before.1.probed) := by
  induction moves with
  | refl => exact .inr ⟨unstarted, fun _ => rfl⟩
  | @tail middle after earlier last inductionHypothesis =>
      obtain ⟨active, events, move⟩ := last
      rcases inductionHypothesis with ⟨state, detection, purpose, through⟩ | ⟨notYet, uncalled⟩
      · exact .inl ⟨state, detection, purpose,
          { through with later := through.later.tail ⟨active, events, move⟩ }⟩
      · rcases move.early_cases active with
          ⟨detection, purpose, early, rfl, isTrying, same⟩ | ⟨silent, stillEarly⟩
        · obtain ⟨events, tells⟩ := Moves.exists_tells earlier
          have grown := move.journal_eq
          have sameTime := move.now_eq
          rcases after with ⟨state, point⟩
          cases isTrying
          refine .inl ⟨state, detection, purpose, earlier.tail ⟨active, _, move⟩, .refl,
            sameTime.trans tells.now, same.trans (uncalled early), fun start => ⟨?_, ?_⟩⟩
          · rw [grown, eventsOf_append_self]
            exact List.mem_append_right _ List.mem_cons_self
          · rw [grown, callsIn_of_start notYet]
            rfl
        · refine .inr ⟨?_, fun early => ?_⟩
          · rw [move.eventsOf_eq, List.mem_append]
            exact fun started => started.elim notYet silent
          · obtain ⟨earlyBefore, same⟩ := stillEarly early
            exact same.trans (uncalled earlyBefore)

theorem Moves.exists_startsThrough (moves : Moves settings world task before after)
    (unstarted : .refreshing ∉ eventsOf before.1.journal task)
    (started : .refreshing ∈ eventsOf after.1.journal task) :
    ∃ state detection purpose,
      StartsThrough settings world task before after state detection purpose := by
  rcases Moves.starts_or moves unstarted with through | ⟨notYet, -⟩
  · exact through
  · exact absurd started notYet

theorem Invariant.HoldsWhile.under {invariant : Invariant settings world}
    (holds : invariant.HoldsWhile task before) (regime : Regime) :
    (invariant.under regime).HoldsWhile task before :=
  ⟨holds.present, holds.common, holds.moving, holds.waiting⟩

/-- A task that goes on moves from a point that it has come to. -/
theorem Go.exists_moves
    (reachable : Reachable settings world origin)
    (go : Go settings world origin operation task start next) :
    ∃ tasks nextTicket point progress,
      (gated settings world).HoldsWhile task (start.withTasks tasks nextTicket, point) ∧
        Moves settings world task (start.withTasks tasks nextTicket, point) (atRest progress) ∧
        next = State.settle progress task := by
  cases go with
  | first begins =>
      obtain ⟨tasks, nextTicket, ready, rfl⟩ :=
        begins.exists_ready reachable.gated trivial fun _ => trivial
      exact ⟨tasks, nextTicket, _, _, ready, moves_begin _ operation, rfl⟩
  | later begins leads ready =>
      have holds := ((reachable.step begins.step).trans leads).gated
      obtain ⟨stage, waits, allowed⟩ := State.isReady_iff.mp ready
      obtain ⟨ticket, present⟩ := State.exists_getElem?_of_stage? waits
      refine ⟨start.tasks, start.nextTicket, stage.point, _, holds.enter waits allowed trivial,
        moves_proceed _ stage, ?_⟩
      simp only [State.resume, present]
      rfl

/-- Where a detection starts, the task that detects is inside the gate, and nothing has been called
for it. -/
theorem Go.exists_startsThrough
    (reachable : Reachable settings world origin)
    (go : Go settings world origin operation task start next)
    (starts : StartsToDetect task start next) :
    ∃ state detection purpose progress,
      (gated settings world).HoldsWhile task (state, .trying detection purpose world.calls) ∧
        Moves settings world task (state, .trying detection purpose world.calls)
          (atRest progress) ∧
        next = State.settle progress task ∧ state.now = start.now ∧
        state.probed = start.probed ∧ HasCalled start state.journal task [] := by
  obtain ⟨tasks, nextTicket, point, progress, holds, moves, rfl⟩ := go.exists_moves reachable
  obtain ⟨state, detection, purpose, through⟩ :=
    Moves.exists_startsThrough moves starts.unstarted starts.started
  exact ⟨state, detection, purpose, progress, holds.moves through.earlier, through.later, rfl,
    through.now, through.probed, through.hasCalled start⟩

theorem Go.probing
    (reachable : Reachable settings world origin)
    (go : Go settings world origin operation task start next)
    (starts : StartsToDetect task start next) (regime : Regime) :
    (probing settings world regime start task).invariant.Holds next := by
  obtain ⟨state, detection, purpose, progress, holds, moves, rfl, now, probed, hasCalled⟩ :=
    go.exists_startsThrough reachable starts
  have begun : (Server.probing settings world regime start task).invariant.HoldsWhile task
      (state, .trying detection purpose world.calls) := by
    refine Layer.holdsWhile (holds.under regime) holds.present (fun _ => ?_)
      fun different _ same => absurd same different
    refine ⟨[], by simp [AreUseless], rfl, hasCalled, ?_, fun _ => now⟩
    rw [probed, List.map_nil, List.append_nil]
  exact (begun.moves moves).settle

/-! ### Punctuality of scheduled runs -/

/-- No time passes. -/
def halted : Regime where
  admits _ := True
  passes _ := False
  resumes _ _ := True
  resumes_withTasks _ := trivial

/-- The time of a task that waits for a probe has not passed. -/
def Point.IsOnTime (state : State) : Point → Prop
  | .resting (.probing _ _ wake _ _ _) => state.now ≤ wake
  | _ => True

def waking (settings : Settings) (world : World) : Invariant settings world halted where
  common _ := True
  standing state _ point := point.IsOnTime state
  common_withTasks _ _ := trivial
  standing_withTasks {_ _ _ _ point} onTime := by
    cases point with
    | resting stage => cases stage <;> exact onTime
    | _ => trivial
  common_pass passes _ _ := passes.elim
  standing_pass passes _ _ _ := passes.elim
  announced _ _ := trivial
  move move _ _ _ _ := by
    refine ⟨trivial, ?_⟩
    cases move with
    | @goOn state stage allowed => cases stage <;> trivial
    | probeWaits => exact Nat.le_add_right _ _
    | _ => trivial
  undisturbed {before after _ _ _ stage} move _ _ _ onTime := by
    cases stage with
    | probing detection name wake outcome remaining purpose =>
        refine (?_ : after.1.now ≤ wake)
        rw [move.now_eq]
        exact onTime
    | _ => trivial

/-- Time passes no further than to the first moment at which a task goes on. -/
theorem State.le_of_nextWake? {wake moment : Nat} {stage : Stage}
    (wakes : state.nextWake? = some wake) (waits : state.stage? task = some stage)
    (isMoment : stage.wake? = some moment) : wake ≤ moment := by
  obtain ⟨ticket, present⟩ := State.exists_getElem?_of_stage? waits
  apply (List.min?_eq_some_iff.mp wakes).2
  exact List.mem_filterMap.mpr ⟨_, List.mem_of_getElem? present, isMoment⟩

theorem leadsUnder_punctual_runAll (onTime : (waking settings world).Holds state) (fuel : Nat) :
    LeadsUnder punctual settings world state (state.runAll settings world fuel) := by
  induction fuel generalizing state with
  | zero => exact .refl
  | succ fuel inductionHypothesis =>
      unfold State.runAll
      split
      · rename_i task picked
        obtain ⟨stage, waits, allowed⟩ := State.isReady_iff.mp (State.isReady_of_nextReady? picked)
        have permitted : punctual.resumes state stage := by
          cases stage with
          | probing => exact onTime.standing waits
          | _ => trivial
        refine .head (.resume waits allowed permitted) (inductionHypothesis ?_)
        exact onTime.stepUnder (.resume waits allowed trivial)
      · split
        · rename_i wake wakes
          refine .head (.pass (Nat.le_max_left _ _) trivial) (inductionHypothesis ⟨trivial, ?_⟩)
          intro task stage waits
          cases stage with
          | probing detection name moment outcome remaining purpose =>
              exact Nat.max_le.mpr ⟨onTime.standing waits, State.le_of_nextWake? wakes waits rfl⟩
          | _ => trivial
        · exact .refl

/-- When a detection starts no other is under way, so nobody waits for a probe whose time has
passed. -/
theorem Go.waking
    (reachable : Reachable settings world origin)
    (go : Go settings world origin operation task start next)
    (starts : StartsToDetect task start next) : (waking settings world).Holds next := by
  obtain ⟨state, detection, purpose, progress, holds, moves, rfl, -⟩ :=
    go.exists_startsThrough reachable starts
  have begun : (Server.waking settings world).HoldsWhile task
      (state, .trying detection purpose world.calls) := by
    refine ⟨holds.present, trivial, trivial, ?_⟩
    intro other stage different waits
    cases stage with
    | probing =>
        have inside : state.gate.head? = some task := holds.moving.2
        have insideToo : state.gate.head? = some other := (holds.waiting different waits).2
        exact absurd (Option.some.inj (insideToo.symm.trans inside)) different
    | _ => trivial
  exact (begun.moves moves).settle

/-! ### The end of a detection -/

theorem exists_hasFound_of_detected {snapshot : Snapshot}
    (holds : (probing settings world regime start task).invariant.Holds last)
    (detected : ⟨time, task, .detected snapshot⟩ ∈ last.journal) :
    ∃ called names took, snapshot = ⟨names, some time⟩ ∧
      HasFound settings world regime start last task called names took time := by
  have present : task < last.tasks.length := holds.common.2
  obtain ⟨stage, waits⟩ := State.exists_stage? present
  have stands : Stands last.journal last.generation task (.resting stage) :=
    (holds.standing waits).1.1.1
  have detects : (Point.resting stage).Detects settings world regime start last task :=
    (holds.standing waits).2 rfl
  cases stage with
  | probing =>
      have left : .detected snapshot ∈ eventsOf last.journal task :=
        mem_eventsOf.mpr ⟨time, detected⟩
      exact absurd left (stands.2.unended snapshot)
  | finished =>
      obtain ⟨called, names, took, ended, hasFound, -, only⟩ := detects
      obtain ⟨rfl, rfl⟩ := only time snapshot detected
      exact ⟨called, names, took, rfl, hasFound⟩
  | _ => exact detects.elim

theorem State.IsIdle.exists_detected (idle : last.IsIdle)
    (holds : (probing settings world regime start task).invariant.Holds last) :
    ∃ snapshot time, ⟨time, task, .detected snapshot⟩ ∈ last.journal := by
  have present : task < last.tasks.length := holds.common.2
  obtain ⟨stage, waits⟩ := State.exists_stage? present
  obtain ⟨answer, ended, rfl⟩ := idle.exists_answer waits
  obtain ⟨called, names, took, time, -, detected, -⟩ := (holds.standing waits).2 rfl
  exact ⟨_, _, detected⟩

/-- How long a detection takes, and so when it ends, if it ends. -/
theorem Go.time_eq_of_detected {snapshot : Snapshot}
    (reachable : Reachable settings world origin)
    (go : Go settings world origin operation task start next)
    (starts : StartsToDetect task start next)
    (first : FirstTimely settings.probeTimeout (start.replies world) called names took)
    (leads : LeadsUnder punctual settings world next last)
    (detected : ⟨time, task, .detected snapshot⟩ ∈ last.journal) : time = start.now + took := by
  have holds := (go.probing reachable starts punctual).leadsUnder leads
  obtain ⟨calledToo, namesToo, tookToo, -, hasFound⟩ := exists_hasFound_of_detected holds detected
  obtain ⟨-, -, rfl⟩ := hasFound.first.unique first
  exact hasFound.clock isPunctual_punctual

/-- What a detection finds, if it ends. -/
theorem Go.finds {snapshot : Snapshot} (reachable : Reachable settings world origin)
    (go : Go settings world origin operation task start next)
    (starts : StartsToDetect task start next)
    (first : FirstTimely settings.probeTimeout (start.replies world) called names took)
    (leads : Leads settings world next last)
    (detected : ⟨time, task, .detected snapshot⟩ ∈ last.journal) :
    snapshot = ⟨names, some time⟩ ∧
      HasFound settings world .free start last task called names took time := by
  have holds := (go.probing reachable starts .free).leads leads
  obtain ⟨calledToo, namesToo, tookToo, rfl, hasFound⟩ :=
    exists_hasFound_of_detected holds detected
  obtain ⟨rfl, rfl, rfl⟩ := hasFound.first.unique first
  exact ⟨rfl, hasFound⟩

/-! ### Refreshes -/

theorem eventsOf_eq_of_tells (different : other ≠ task) {events : List Event}
    (tells : Tells settings task events state next) :
    eventsOf next.journal other = eventsOf state.journal other := by
  rw [tells.journal, eventsOf_append_other different]

/-- A task that has started to detect did so at one of its goes. -/
theorem Begins.exists_starts (reachable : Reachable settings world origin)
    (begins : Begins settings world origin operation task next)
    (leads : Leads settings world next last) (started : .refreshing ∈ eventsOf last.journal task) :
    ∃ start after, Go settings world origin operation task start after ∧
      StartsToDetect task start after ∧ Leads settings world after last := by
  induction leads with
  | refl =>
      obtain ⟨tasks, nextTicket, ready, rfl⟩ :=
        begins.exists_ready reachable.accounted trivial fun _ => trivial
      have silent : eventsOf origin.journal task = [] := ready.moving
      exact ⟨origin, _, .first begins, ⟨by simp [silent], started⟩, .refl⟩
  | @tail middle last earlier step inductionHypothesis =>
      by_cases already : .refreshing ∈ eventsOf middle.journal task
      · obtain ⟨start, after, go, starts, leads⟩ := inductionHypothesis already
        exact ⟨start, after, go, starts, leads.tail step⟩
      · obtain ⟨stage, waits, -⟩ := begins.carries reachable.accounted earlier
        cases step with
        | arrive operation =>
            obtain ⟨events, tells⟩ := exists_tells_spawn middle operation
            have different := Nat.ne_of_lt (State.lt_length_of_stage? waits)
            rw [eventsOf_eq_of_tells different tells] at started
            exact absurd started already
        | announce | pass => exact absurd started already
        | @resume resumed ready =>
            by_cases own : task = resumed
            · subst own
              exact ⟨middle, _, .later begins earlier ready, ⟨already, started⟩, .refl⟩
            · obtain ⟨events, tells⟩ := exists_tells_resume middle resumed
              rw [eventsOf_eq_of_tells own tells] at started
              exact absurd started already

/-- The first thing that a task leaves that carries out a refresh is that it detects, and it does so
before it has anything to deliver. -/
def Point.Insists (journal : List JournalEntry) (task : TaskId) : Point → Prop
  | .resting (.scheduled operation _) | .beginning operation =>
      operation = .refresh ∧ eventsOf journal task = []
  | .resting (.queued demand _) | .arriving demand _ | .entering demand _ =>
      demand = .refresh ∧ eventsOf journal task = []
  | .resting (.probing _ _ _ _ _ _) | .trying _ _ _ | .hearing _ _ _ _ _ | .concluding _ _ _
  | .delivering _ _ | .failing _ _ | .answering _ | .resting (.finished _ _) =>
      (eventsOf journal task).head? = some .refreshing
  | _ => False

theorem Move.insists {events : List Event} (move : Move settings world task before events after)
    (insists : before.2.Insists before.1.journal task) :
    after.2.Insists after.1.journal task := by
  have grown := move.eventsOf_eq
  have kept (first : (eventsOf before.1.journal task).head? = some .refreshing) :
      (eventsOf after.1.journal task).head? = some .refreshing := by
    rw [grown, List.head?_append, first]
    rfl
  cases move with
  | @goOn state stage allowed => cases stage <;> exact insists
  | refresh => exact ⟨rfl, insists.2⟩
  | gateFree | gateTaken => exact insists
  | refreshDemanded =>
      refine (?_ : (eventsOf (State.note _ task .refreshing).journal task).head? = _)
      rw [grown, insists.2]
      rfl
  | noProbeLeft | probeAnswered | probeWaits | probeSucceeded | probeFailed | kept | discarded
  | reported | debugged | unassembled | assembled | fail | answer => exact kept insists
  | queryAnswered | queryWaits | queryLate | queryFailed | queryListed | stale | fresh =>
      exact insists.elim
  | _ => cases insists.1

def insisting (settings : Settings) (world : World) (task : TaskId) :
    Course settings world task where
  holds state point := point.Insists state.journal task
  withTasks insists := insists
  pass insists := insists
  own move _ _ insists := move.insists insists
  others := by
    intro before after other events stage move different insists
    have same := move.eventsOf_other different
    cases stage with
    | scheduled | queued => exact ⟨insists.1, same.trans insists.2⟩
    | probing | finished => exact (congrArg List.head? same).trans insists
    | _ => exact insists

theorem Begins.head?_eventsOf_of_refresh {answer : Answer}
    (reachable : Reachable settings world origin)
    (begins : Begins settings world origin .refresh task next)
    (leads : Leads settings world next last)
    (answered : last.answer? task = some (answer, time)) :
    (eventsOf last.journal task).head? = some .refreshing := by
  obtain ⟨tasks, nextTicket, ready, rfl⟩ :=
    begins.exists_ready reachable.accounted trivial fun _ => trivial
  have starts : (insisting settings world task).holds (origin.withTasks tasks nextTicket)
      (.beginning .refresh) := ⟨rfl, ready.moving⟩
  exact Course.follow_answer ready starts (moves_begin _ .refresh) leads answered

/-- A refresh that has been answered has detected, and its answer is what it has detected. -/
theorem Begins.detected_of_refresh {answer : Answer} (reachable : Reachable settings world origin)
    (begins : Begins settings world origin .refresh task next)
    (leads : Leads settings world next last)
    (answered : last.answer? task = some (answer, time)) :
    ∃ start after snapshot, Go settings world origin .refresh task start after ∧
      StartsToDetect task start after ∧ Leads settings world after last ∧
      answer = .snapshot snapshot ∧ ⟨time, task, .detected snapshot⟩ ∈ last.journal := by
  have started := List.mem_of_mem_head? (begins.head?_eventsOf_of_refresh reachable leads answered)
  obtain ⟨start, after, go, starts, ledOn⟩ := begins.exists_starts reachable leads started
  have holds := (go.probing reachable starts .free).leads ledOn
  obtain ⟨called, names, took, ended, -, detected, -⟩ :=
    (holds.standing (State.answer?_eq_some_iff.mp answered)).2 rfl
  have brings : Operation.refresh.Brings := trivial
  have returned := begins.returned_of_brings reachable.accounted brings leads detected
  obtain ⟨rfl, rfl⟩ : answer = .snapshot ⟨names, some ended⟩ ∧ time = ended := by
    simpa using answered.symm.trans returned
  exact ⟨start, after, _, go, starts, ledOn, rfl, detected⟩

/-- A refresh that has been answered has detected at one of its goes, and is answered with what it
detected. A detection that starts in a state calls the probes in their order, each once, up to the
first one that succeeds in time, or all of them if none does; it finds the names of that probe, or
none, captured when it ends. If timers are punctual, as they are in a scheduled run, this is after
the time that the replies take, of which each is waited for only so long. -/
theorem refresh_finds_first_timely (reachable : Reachable settings world origin) :
    (∀ task next last answer time, Begins settings world origin .refresh task next →
      Leads settings world next last → last.answer? task = some (answer, time) →
        ∃ start after snapshot, Go settings world origin .refresh task start after ∧
          StartsToDetect task start after ∧ Leads settings world after last ∧
          answer = .snapshot snapshot ∧ ⟨time, task, .detected snapshot⟩ ∈ last.journal) ∧
    ∀ operation task start after, Go settings world origin operation task start after →
      StartsToDetect task start after →
        ∃ called names took,
          FirstTimely settings.probeTimeout (start.replies world) called names took ∧
          (∀ last snapshot time, Leads settings world after last →
            ⟨time, task, .detected snapshot⟩ ∈ last.journal →
              snapshot = ⟨names, some time⟩ ∧
              start.probed ++ List.range called <+: last.probed ∧
              callsIn last.journal task = (world.calls.take called).flatMap start.callEvents ∧
              (LeadsUnder punctual settings world after last → time = start.now + took)) ∧
          LeadsUnder punctual settings world after
            (after.runAll settings world (after.rounds world)) ∧
          ⟨start.now + took, task, .detected ⟨names, some (start.now + took)⟩⟩ ∈
            (after.runAll settings world (after.rounds world)).journal := by
  refine ⟨?_, ?_⟩
  · intro task next last answer time begins leads answered
    exact begins.detected_of_refresh reachable leads answered
  · intro operation task start after go starts
    obtain ⟨called, names, took, first⟩ :=
      FirstTimely.exists_of settings.probeTimeout (start.replies world)
    have finds {last : State} {snapshot : Snapshot} {time : Nat}
        (leads : Leads settings world after last)
        (detected : ⟨time, task, .detected snapshot⟩ ∈ last.journal) :=
      go.finds reachable starts first leads detected
    refine ⟨called, names, took, first, ?_, ?_⟩
    · intro last snapshot time leads detected
      obtain ⟨rfl, hasFound⟩ := finds leads detected
      refine ⟨rfl, hasFound.probed, hasFound.hasCalled.calls, ?_⟩
      intro onTime
      exact go.time_eq_of_detected reachable starts first onTime detected
    · have onTime := leadsUnder_punctual_runAll (go.waking reachable starts) (after.rounds world)
      have idle := (reachable.trans go.leads).isIdle_runAll
      obtain ⟨snapshot, time, detected⟩ :=
        idle.exists_detected ((go.probing reachable starts .free).leads onTime.leads)
      obtain ⟨rfl, -⟩ := finds onTime.leads detected
      obtain rfl := go.time_eq_of_detected reachable starts first onTime detected
      exact ⟨onTime, detected⟩

/-! ### Success at the last moment -/

namespace LastMoment

def failure : Reply ProbeError NameSet :=
  { delay := 0, result := .error (.noOutput "broken") }

def late : Reply ProbeError NameSet :=
  { delay := 1001, result := .ok (NameSet.empty.insert "emacs") }

def inTime : Reply ProbeError NameSet :=
  { delay := 1000, result := .ok (NameSet.empty.insert "vim") }

def spare : Reply ProbeError NameSet :=
  { delay := 0, result := .ok (NameSet.empty.insert "nano") }

/-- Of the probes one fails, one succeeds too late, one at the last moment, and one would have
succeeded at once. -/
def fourProbes : World where
  search _ _ := { delay := 0, result := .ok Listing.empty }
  probes :=
    [{ name := "broken", reply := fun _ => failure }, { name := "slow", reply := fun _ => late },
      { name := "profile", reply := fun _ => inTime }, { name := "spare", reply := fun _ => spare }]
  environment :=
    { user := none, home := none, nixPath := "", euid := 0, kernel := "", nixVersion := "" }

def begun : State :=
  State.initial.spawn smallSettings fourProbes .refresh

def done : State :=
  begun.runAll smallSettings fourProbes (begun.rounds fourProbes)

def found : Snapshot :=
  ⟨NameSet.empty.insert "vim", some 2000⟩

theorem firstTimely :
    FirstTimely smallSettings.probeTimeout (State.initial.replies fourProbes) 3
      (NameSet.empty.insert "vim") 2000 := by
  have split : State.initial.replies fourProbes = [failure, late] ++ inTime :: [spare] := rfl
  have useless : ∀ reply ∈ [failure, late], reply.IsUseless smallSettings.probeTimeout := by
    refine List.forall_mem_cons.mpr ⟨fun names brings => ?_, List.forall_mem_singleton.mpr ?_⟩
    · cases brings.result
    · exact fun names brings => absurd brings.timely (by decide)
  exact .found split useless ⟨by decide, rfl⟩

theorem refresh_succeeds :
    StartsToDetect 0 .initial begun ∧ done.answer? 0 = some (.snapshot found, 2000) ∧
      LeadsUnder punctual smallSettings fourProbes begun done ∧
      ⟨2000, 0, .detected found⟩ ∈ done.journal ∧ [0, 1, 2] <+: done.probed := by
  have starts : StartsToDetect 0 .initial begun := ⟨by decide, by decide⟩
  have begins : Begins smallSettings fourProbes .initial .refresh 0 begun := .arriving
  have answered : done.answer? 0 = some (.snapshot found, 2000) := by decide
  obtain ⟨refreshes, detects⟩ :=
    @refresh_finds_first_timely smallSettings fourProbes .initial .initial
  obtain ⟨called, names, took, first, finds, onTime, -⟩ :=
    detects .refresh 0 .initial begun (.first begins) starts
  obtain ⟨rfl, rfl, rfl⟩ := first.unique firstTimely
  obtain ⟨-, -, snapshot, -, -, -, same, detected⟩ :=
    refreshes 0 begun done _ _ begins onTime.leads answered
  cases same
  obtain ⟨-, probed, -, -⟩ := finds done _ _ onTime.leads detected
  exact ⟨starts, answered, onTime, detected, probed⟩

end LastMoment

end PackageSearch.Server
