import PackageSearch.Proofs.Server.Move

/-!
# Invariants of runs

What a move leaves alone: the clock, how far the other tasks have come, and what the journal already
says. An `Invariant` has a part that all tasks share and a part that one task needs at the point
where it stands; it is enough to show that single moves keep both, for the task that moves and for
those that wait. A `Regime` restricts the runs for which this is to be shown.
-/

namespace PackageSearch.Server

open Relation

namespace State

/-- How far a task has come. -/
def stage? (state : State) (task : TaskId) : Option Stage :=
  (state.tasks[task]?).map Task.stage

/-- The answer of a task that has ended, and the time at which it did. -/
def answer? (state : State) (task : TaskId) : Option (Answer × Nat) :=
  match state.stage? task with
  | some (.finished answer time) => some (answer, time)
  | _ => none

def withTasks (state : State) (tasks : List Task) (nextTicket : Nat) : State :=
  { state with tasks, nextTicket }

/-- A task that arrives, before it begins. -/
def arrived (state : State) (operation : Operation) : State :=
  state.withTasks (state.tasks ++
    [{ stage := .scheduled operation state.now, ticket := state.nextTicket }]) state.nextTicket

theorem answer?_eq_some_iff {state : State} {task : TaskId} {answer : Answer} {time : Nat} :
    state.answer? task = some (answer, time) ↔
      state.stage? task = some (.finished answer time) := by
  unfold answer?
  split <;> simp_all

theorem stage?_eq_getElem? (state : State) (task : TaskId) :
    state.stage? task = (state.tasks.map Task.stage)[task]? := by
  simp [stage?]

theorem lt_length_of_stage? {state : State} {task : TaskId} {stage : Stage}
    (present : state.stage? task = some stage) : task < state.tasks.length := by
  rw [stage?_eq_getElem?] at present
  simpa using (List.getElem?_eq_some_iff.mp present).1

theorem exists_stage? {state : State} {task : TaskId} (present : task < state.tasks.length) :
    ∃ stage, state.stage? task = some stage :=
  ⟨_, by rw [stage?, List.getElem?_eq_getElem present, Option.map_some]⟩

theorem stage?_of_getElem? {state : State} {task : TaskId} {entry : Task}
    (present : state.tasks[task]? = some entry) : state.stage? task = some entry.stage := by
  simp [stage?, present]

theorem map_stage_renumber (state : State) (task : TaskId) :
    (state.renumber task).tasks.map Task.stage = state.tasks.map Task.stage := by
  apply List.ext_getElem?
  intro place
  simp only [renumber, List.getElem?_map, List.getElem?_modify]
  cases state.tasks[place]? with
  | none => rfl
  | some entry =>
      simp only [Option.map_eq_map, Option.map_some]
      split <;> rfl

@[simp]
theorem map_stage_leaveGate (state : State) :
    state.leaveGate.tasks.map Task.stage = state.tasks.map Task.stage := by
  unfold leaveGate
  split
  · exact map_stage_renumber _ _
  · rfl

@[simp]
theorem length_tasks_leaveGate (state : State) :
    state.leaveGate.tasks.length = state.tasks.length := by
  have sameStages := congrArg List.length (map_stage_leaveGate state)
  simpa only [List.length_map] using sameStages

@[simp]
theorem leaveGate_now (state : State) : state.leaveGate.now = state.now := by
  unfold leaveGate
  split <;> rfl

@[simp]
theorem leaveGate_cache (state : State) : state.leaveGate.cache = state.cache := by
  unfold leaveGate
  split <;> rfl

@[simp]
theorem leaveGate_snapshot (state : State) : state.leaveGate.snapshot = state.snapshot := by
  unfold leaveGate
  split <;> rfl

@[simp]
theorem leaveGate_generation (state : State) :
    state.leaveGate.generation = state.generation := by
  unfold leaveGate
  split <;> rfl

@[simp]
theorem leaveGate_asked (state : State) : state.leaveGate.asked = state.asked := by
  unfold leaveGate
  split <;> rfl

@[simp]
theorem leaveGate_probed (state : State) : state.leaveGate.probed = state.probed := by
  unfold leaveGate
  split <;> rfl

@[simp]
theorem leaveGate_journal (state : State) : state.leaveGate.journal = state.journal := by
  unfold leaveGate
  split <;> rfl

theorem noteAll_cons (state : State) (task : TaskId) (first : Event) (rest : List Event) :
    state.noteAll task (first :: rest) = (state.note task first).noteAll task rest := by
  simp [noteAll, note]

@[simp]
theorem mem_sweepEvents {removed : Nat} {event : Event} :
    event ∈ sweepEvents removed ↔ removed ≠ 0 ∧ event = .entriesSwept removed := by
  unfold sweepEvents
  split <;> simp_all

end State

/-- The entries of events that a task leaves at a time. -/
def entriesOf (time : Nat) (task : TaskId) (events : List Event) : List JournalEntry :=
  events.map (⟨time, task, ·⟩)

namespace Move

variable {settings : Settings} {world : World} {task : TaskId} {before after : State × Point}
  {events : List Event}

theorem now_eq (move : Move settings world task before events after) :
    after.1.now = before.1.now := by
  cases move <;> simp [State.note, State.noteAll, State.clear, State.resetSnapshot,
    State.noteQuery, State.noteProbe, State.lined, State.store]

theorem stages_eq (move : Move settings world task before events after) :
    after.1.tasks.map Task.stage = before.1.tasks.map Task.stage := by
  cases move <;> simp [State.note, State.noteAll, State.clear, State.resetSnapshot,
    State.noteQuery, State.noteProbe, State.lined, State.store]

theorem journal_eq (move : Move settings world task before events after) :
    after.1.journal = before.1.journal ++ entriesOf before.1.now task events := by
  cases move <;> simp [State.note, State.noteAll, State.clear, State.resetSnapshot,
    State.noteQuery, State.noteProbe, State.lined, State.store, entriesOf]

theorem generation_eq (move : Move settings world task before events after) :
    after.1.generation = before.1.generation + events.count .snapshotReset := by
  cases move <;> simp [State.note, State.noteAll, State.clear, State.resetSnapshot,
    State.noteQuery, State.noteProbe, State.lined, State.store, List.count_eq_zero]

theorem length_tasks_eq (move : Move settings world task before events after) :
    after.1.tasks.length = before.1.tasks.length := by
  simpa using congrArg List.length move.stages_eq

theorem stage?_eq (move : Move settings world task before events after) (other : TaskId) :
    after.1.stage? other = before.1.stage? other := by
  rw [State.stage?_eq_getElem?, State.stage?_eq_getElem?, move.stages_eq]

end Move

/-! ### Regimes -/

/-- What may happen in a run. It does not depend on how far the tasks have come whether one of them
may go on. -/
structure Regime where
  /-- The operations that may arrive. -/
  admits : Operation → Prop
  /-- Time may pass. -/
  passes : State → Prop
  /-- A task may go on from a stage. -/
  resumes : State → Stage → Prop
  resumes_withTasks {state : State} {tasks : List Task} {nextTicket : Nat} {stage : Stage} :
    resumes state stage → resumes (state.withTasks tasks nextTicket) stage

namespace Regime

/-- Everything may happen. -/
def free : Regime where
  admits _ := True
  passes _ := True
  resumes _ _ := True
  resumes_withTasks _ := trivial

/-- A task that waits may go on. -/
def Permits (regime : Regime) (place : State × Point) : Prop :=
  match place.2 with
  | .resting stage => regime.resumes place.1 stage
  | _ => True

theorem permits_of_isActive (regime : Regime) {place : State × Point}
    (active : place.2.IsActive) : regime.Permits place := by
  rcases place with ⟨state, point⟩
  cases point with
  | resting stage => exact active.elim
  | _ => trivial

end Regime

/-- The steps of runs under a regime. -/
inductive StepUnder (regime : Regime) (settings : Settings) (world : World) :
    State → State → Prop where
  | arrive {state : State} {operation : Operation} :
      regime.admits operation → regime.resumes state (.scheduled operation state.now) →
        StepUnder regime settings world state (state.spawn settings world operation)
  | announce {state : State} {operation : Operation} (start : Nat) :
      regime.admits operation →
        StepUnder regime settings world state (state.schedule operation start)
  | pass {state : State} {later : Nat} :
      state.now ≤ later → regime.passes state →
        StepUnder regime settings world state { state with now := later }
  | resume {state : State} {task : TaskId} {stage : Stage} :
      state.stage? task = some stage → state.allows task stage = true →
        regime.resumes state stage →
          StepUnder regime settings world state (state.resume settings world task)

/-- Any number of steps of a run. -/
abbrev Leads (settings : Settings) (world : World) : State → State → Prop :=
  ReflTransGen (Step settings world)

/-- Any number of steps of a run under a regime. -/
abbrev LeadsUnder (regime : Regime) (settings : Settings) (world : World) :
    State → State → Prop :=
  ReflTransGen (StepUnder regime settings world)

section Steps

variable {regime : Regime} {settings : Settings} {world : World} {state next : State}

theorem State.isReady_iff {task : TaskId} :
    state.isReady task = true ↔
      ∃ stage, state.stage? task = some stage ∧ state.allows task stage = true := by
  unfold isReady stage?
  split <;> simp_all

theorem Step.underFree (step : Step settings world state next) :
    StepUnder .free settings world state next := by
  cases step with
  | arrive operation => exact .arrive trivial trivial
  | announce operation start => exact .announce start trivial
  | pass ordered => exact .pass ordered trivial
  | resume ready =>
      obtain ⟨stage, waits, allowed⟩ := State.isReady_iff.mp ready
      exact .resume waits allowed trivial

theorem StepUnder.step (step : StepUnder regime settings world state next) :
    Step settings world state next := by
  cases step with
  | arrive => exact .arrive _
  | announce start => exact .announce _ start
  | pass ordered => exact .pass ordered
  | resume waits allowed => exact .resume (State.isReady_iff.mpr ⟨_, waits, allowed⟩)

theorem LeadsUnder.leads (leads : LeadsUnder regime settings world state next) :
    Leads settings world state next :=
  ReflTransGen.mono (fun _ _ step => step.step) _ _ leads

end Steps

/-! ### Invariants -/

/-- A part that all tasks rely on and a part that a task relies on at the point where it stands. A
waiting task keeps its part while other tasks move. -/
structure Invariant (settings : Settings) (world : World) (regime : Regime := .free) where
  common : State → Prop
  standing : State → TaskId → Point → Prop
  common_withTasks {state : State} {tasks : List Task} {nextTicket : Nat} :
    state.tasks.length ≤ tasks.length → common state → common (state.withTasks tasks nextTicket)
  standing_withTasks {state : State} {tasks : List Task} {nextTicket : Nat} {task : TaskId}
    {point : Point} :
    standing state task point → standing (state.withTasks tasks nextTicket) task point
  common_pass {state : State} {later : Nat} :
    regime.passes state → state.now ≤ later → common state → common { state with now := later }
  standing_pass {state : State} {later : Nat} {task : TaskId} {stage : Stage} :
    regime.passes state → state.now ≤ later → state.stage? task = some stage →
      standing state task (.resting stage) →
        standing { state with now := later } task (.resting stage)
  announced {state : State} {operation : Operation} {start : Nat} :
    regime.admits operation → common state →
      standing state state.tasks.length (.resting (.scheduled operation start))
  move {before after : State × Point} {task : TaskId} {events : List Event} :
    Move settings world task before events after → task < before.1.tasks.length →
      regime.Permits before → common before.1 → standing before.1 task before.2 →
        common after.1 ∧ standing after.1 task after.2
  undisturbed {before after : State × Point} {task other : TaskId} {events : List Event}
    {stage : Stage} :
    Move settings world task before events after → other ≠ task → common before.1 →
      standing before.1 task before.2 → standing before.1 other (.resting stage) →
        standing after.1 other (.resting stage)

namespace Invariant

variable {settings : Settings} {world : World} {regime : Regime}
  (invariant : Invariant settings world regime)

/-- The invariant between two steps of a run. -/
structure Holds (state : State) : Prop where
  common : invariant.common state
  standing : ∀ {task : TaskId} {stage : Stage}, state.stage? task = some stage →
    invariant.standing state task (.resting stage)

/-- The invariant while a task moves. -/
structure HoldsWhile (task : TaskId) (place : State × Point) : Prop where
  present : task < place.1.tasks.length
  common : invariant.common place.1
  moving : invariant.standing place.1 task place.2
  waiting : ∀ {other : TaskId} {stage : Stage}, other ≠ task →
    place.1.stage? other = some stage → invariant.standing place.1 other (.resting stage)

variable {invariant}

theorem HoldsWhile.move {task : TaskId} {before after : State × Point} {events : List Event}
    (holds : invariant.HoldsWhile task before)
    (move : Move settings world task before events after) (permitted : regime.Permits before) :
    invariant.HoldsWhile task after := by
  have kept := invariant.move move holds.present permitted holds.common holds.moving
  refine ⟨?_, kept.1, kept.2, ?_⟩
  · rw [move.length_tasks_eq]
    exact holds.present
  · intro other stage different waits
    rw [move.stage?_eq] at waits
    exact invariant.undisturbed move different holds.common holds.moving
      (holds.waiting different waits)

theorem HoldsWhile.moves {task : TaskId} {before after : State × Point}
    (holds : invariant.HoldsWhile task before) (moves : Moves settings world task before after) :
    invariant.HoldsWhile task after := by
  induction moves with
  | refl => exact holds
  | tail _ last inductionHypothesis =>
      rcases last with ⟨active, events, move⟩
      exact inductionHypothesis.move move (regime.permits_of_isActive active)

theorem HoldsWhile.settle {task : TaskId} {progress : Progress}
    (holds : invariant.HoldsWhile task (atRest progress)) :
    invariant.Holds (State.settle progress task) := by
  constructor
  · exact invariant.common_withTasks (by simp) holds.common
  · intro other stage waits
    refine invariant.standing_withTasks ?_
    by_cases same : other = task
    · subst same
      have present : other < progress.1.tasks.length := holds.present
      have stageIs : progress.2 = stage := by
        simpa [State.stage?, State.settle, present] using waits
      exact stageIs ▸ holds.moving
    · refine holds.waiting same ?_
      simpa [State.stage?, State.settle, atRest, List.getElem?_set, Ne.symm same] using waits

theorem Holds.enter {state : State} {task : TaskId} {stage : Stage}
    (holds : invariant.Holds state) (waits : state.stage? task = some stage)
    (allowed : state.allows task stage = true) (permitted : regime.resumes state stage) :
    invariant.HoldsWhile task (state, stage.point) := by
  have resting : invariant.HoldsWhile task (state, .resting stage) :=
    ⟨State.lt_length_of_stage? waits, holds.common, holds.standing waits,
      fun _ waits => holds.standing waits⟩
  exact resting.move (.goOn allowed) permitted

theorem Holds.announce {state : State} (holds : invariant.Holds state) {operation : Operation}
    (admitted : regime.admits operation) (start ticket nextTicket : Nat) :
    invariant.Holds (state.withTasks
      (state.tasks ++ [{ stage := .scheduled operation start, ticket }]) nextTicket) := by
  constructor
  · exact invariant.common_withTasks (by simp) holds.common
  · intro task stage waits
    apply invariant.standing_withTasks
    by_cases old : task < state.tasks.length
    · refine holds.standing ?_
      simpa [State.stage?, State.withTasks, List.getElem?_append_left old] using waits
    · have place : task < state.tasks.length + 1 := by
        simpa [State.withTasks] using State.lt_length_of_stage? waits
      obtain rfl : task = state.tasks.length :=
        Nat.le_antisymm (Nat.le_of_lt_succ place) (Nat.le_of_not_lt old)
      have stageIs : Stage.scheduled operation start = stage := by
        simpa [State.stage?, State.withTasks] using waits
      exact stageIs ▸ invariant.announced admitted holds.common

/-- A task that arrives begins at once. -/
theorem Holds.arrive {state : State} (holds : invariant.Holds state) {operation : Operation}
    (admitted : regime.admits operation)
    (permitted : regime.resumes state (.scheduled operation state.now)) :
    invariant.HoldsWhile state.tasks.length (state.arrived operation, .beginning operation) := by
  have added : invariant.Holds (state.arrived operation) :=
    holds.announce admitted state.now state.nextTicket state.nextTicket
  have waits : (state.arrived operation).stage? state.tasks.length =
      some (.scheduled operation state.now) := by
    simp [State.stage?, State.arrived, State.withTasks]
  exact added.enter waits (by simp [State.allows, State.arrived, State.withTasks])
    (regime.resumes_withTasks permitted)

theorem Holds.stepUnder {state next : State} (holds : invariant.Holds state)
    (step : StepUnder regime settings world state next) : invariant.Holds next := by
  cases step with
  | @arrive operation admitted permitted =>
      exact ((holds.arrive admitted permitted).moves (moves_begin _ operation)).settle
  | announce start admitted =>
      exact holds.announce admitted start state.nextTicket (state.nextTicket + 1)
  | pass ordered passes =>
      exact ⟨invariant.common_pass passes ordered holds.common,
        fun waits => invariant.standing_pass passes ordered waits (holds.standing waits)⟩
  | @resume task stage waits allowed permitted =>
      obtain ⟨⟨found, ticket⟩, present, rfl⟩ := Option.map_eq_some_iff.mp waits
      have entered := holds.enter waits allowed permitted
      simpa only [State.resume, present] using (entered.moves (moves_proceed _ found)).settle

theorem Holds.leadsUnder {state next : State} (holds : invariant.Holds state)
    (leads : LeadsUnder regime settings world state next) : invariant.Holds next := by
  induction leads with
  | refl => exact holds
  | tail _ step inductionHypothesis => exact inductionHypothesis.stepUnder step

theorem Holds.leads {invariant : Invariant settings world} {state next : State}
    (holds : invariant.Holds state) (leads : Leads settings world state next) :
    invariant.Holds next :=
  holds.leadsUnder (ReflTransGen.mono (fun _ _ step => step.underFree) _ _ leads)

end Invariant

theorem Reachable.leads {settings : Settings} {world : World} {state : State}
    (reachable : Reachable settings world state) :
    Leads settings world State.initial state := by
  induction reachable with
  | initial => exact .refl
  | step _ step inductionHypothesis => exact inductionHypothesis.tail step

theorem Reachable.trans {settings : Settings} {world : World} {state next : State}
    (reachable : Reachable settings world state) (leads : Leads settings world state next) :
    Reachable settings world next := by
  induction leads with
  | refl => exact reachable
  | tail _ step inductionHypothesis => exact inductionHypothesis.step step

/-- A task begins an operation: it has just arrived, or its time has come. -/
inductive Begins (settings : Settings) (world : World) (state : State) (operation : Operation) :
    TaskId → State → Prop where
  | arriving :
      Begins settings world state operation state.tasks.length
        (state.spawn settings world operation)
  | due {task : TaskId} {start : Nat} :
      state.stage? task = some (.scheduled operation start) → start ≤ state.now →
        Begins settings world state operation task (state.resume settings world task)

end PackageSearch.Server
