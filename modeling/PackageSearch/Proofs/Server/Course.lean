import PackageSearch.Proofs.Server.Standing

/-!
# The course of one task

A `Course` is something that one task keeps to whatever the other tasks do. What the task keeps to
when it begins holds of it for the rest of the run.
-/

namespace PackageSearch.Server

open Relation

variable {settings : Settings} {world : World} {task : TaskId} {state next last : State}

namespace State

theorem stage?_settle (progress : Progress) (present : task < progress.1.tasks.length) :
    (settle progress task).stage? task = some progress.2 := by
  simp [stage?, settle, present]

theorem exists_getElem?_of_stage? {stage : Stage} (waits : state.stage? task = some stage) :
    ∃ ticket, state.tasks[task]? = some { stage, ticket } := by
  obtain ⟨⟨found, ticket⟩, present, rfl⟩ := Option.map_eq_some_iff.mp waits
  exact ⟨ticket, present⟩

end State

/-- What a task keeps to, at every point that it comes to. -/
structure Course (settings : Settings) (world : World) (task : TaskId) where
  holds : State → Point → Prop
  withTasks {state : State} {tasks : List Task} {nextTicket : Nat} {point : Point} :
    holds state point → holds (state.withTasks tasks nextTicket) point
  pass {state : State} {later : Nat} {stage : Stage} :
    holds state (.resting stage) → holds { state with now := later } (.resting stage)
  own {before after : State × Point} {events : List Event} :
    Move settings world task before events after → Chronicled settings before.1 →
      Stands before.1.journal before.1.generation task before.2 →
        holds before.1 before.2 → holds after.1 after.2
  others {before after : State × Point} {other : TaskId} {events : List Event} {stage : Stage} :
    Move settings world other before events after → task ≠ other →
      holds before.1 (.resting stage) → holds after.1 (.resting stage)

namespace Course

variable (course : Course settings world task)

/-- The invariant that is there in any case, and that the task keeps to its course. -/
def invariant : Invariant settings world where
  common state := Chronicled settings state ∧ task < state.tasks.length
  standing state other point :=
    Stands state.journal state.generation other point ∧
      (other = task → course.holds state point)
  common_withTasks grown common := ⟨common.1.withTasks grown, Nat.lt_of_lt_of_le common.2 grown⟩
  standing_withTasks standing := ⟨standing.1, fun same => course.withTasks (standing.2 same)⟩
  common_pass _ ordered common := ⟨common.1.pass ordered, common.2⟩
  standing_pass _ _ _ standing := ⟨standing.1, fun same => course.pass (standing.2 same)⟩
  announced _ common :=
    ⟨common.1.eventsOf_new, fun same => absurd same.symm (Nat.ne_of_lt common.2)⟩
  move move present permitted common standing := by
    have kept := (accounted settings world).move move present permitted common.1 standing.1
    refine ⟨⟨kept.1, ?_⟩, kept.2, ?_⟩
    · rw [move.length_tasks_eq]
      exact common.2
    · rintro rfl
      exact course.own move common.1 standing.1 (standing.2 rfl)
  undisturbed move different common moving standing := by
    refine ⟨(accounted settings world).undisturbed move different common.1 moving.1 standing.1, ?_⟩
    rintro rfl
    exact course.others move different (standing.2 rfl)

variable {course}

theorem exists_stage (holds : course.invariant.Holds last) :
    ∃ stage, last.stage? task = some stage ∧ course.holds last (.resting stage) := by
  have shared : Chronicled settings last ∧ task < last.tasks.length := holds.common
  obtain ⟨stage, waits⟩ := State.exists_stage? shared.2
  have standing : _ ∧ (task = task → course.holds last (.resting stage)) := holds.standing waits
  exact ⟨stage, waits, standing.2 rfl⟩

theorem holdsWhile {place : State × Point}
    (holds : (accounted settings world).HoldsWhile task place)
    (starts : course.holds place.1 place.2) : course.invariant.HoldsWhile task place where
  present := holds.present
  common := And.intro holds.common holds.present
  moving := And.intro holds.moving fun _ => starts
  waiting different waits :=
    And.intro (holds.waiting different waits) fun same => absurd same different

theorem holdsFrom {stage : Stage} (holds : (accounted settings world).Holds state)
    (waits : state.stage? task = some stage) (starts : course.holds state (.resting stage)) :
    course.invariant.Holds state := by
  refine ⟨And.intro holds.common (State.lt_length_of_stage? waits), ?_⟩
  intro other otherStage otherWaits
  refine And.intro (holds.standing otherWaits) ?_
  rintro rfl
  rw [waits, Option.some.injEq] at otherWaits
  exact otherWaits ▸ starts

/-- A task that keeps to a course while it moves does so to the end of the run. -/
theorem follow {point : Point} {progress : Progress}
    (holds : (accounted settings world).HoldsWhile task (state, point))
    (starts : course.holds state point)
    (moves : Moves settings world task (state, point) (atRest progress))
    (leads : Leads settings world (State.settle progress task) last) :
    ∃ stage, last.stage? task = some stage ∧ course.holds last (.resting stage) := by
  have onCourse : course.invariant.HoldsWhile task (state, point) := holdsWhile holds starts
  exact exists_stage ((onCourse.moves moves).settle.leads leads)

theorem follow_answer {point : Point} {progress : Progress} {answer : Answer} {time : Nat}
    (holds : (accounted settings world).HoldsWhile task (state, point))
    (starts : course.holds state point)
    (moves : Moves settings world task (state, point) (atRest progress))
    (leads : Leads settings world (State.settle progress task) last)
    (answered : last.answer? task = some (answer, time)) :
    course.holds last (.resting (.finished answer time)) := by
  obtain ⟨stage, ends, onCourse⟩ := follow holds starts moves leads
  have isFinished := ends.symm.trans (State.answer?_eq_some_iff.mp answered)
  exact Option.some.inj isFinished ▸ onCourse

/-- A task that waits, and keeps to a course, does so to the end of the run. -/
theorem followFrom {stage : Stage} (holds : (accounted settings world).Holds state)
    (waits : state.stage? task = some stage) (starts : course.holds state (.resting stage))
    (leads : Leads settings world state last) :
    ∃ stage, last.stage? task = some stage ∧ course.holds last (.resting stage) := by
  have onCourse : course.invariant.Holds state := holdsFrom holds waits starts
  exact exists_stage (onCourse.leads leads)

end Course

/-! ### Ended tasks -/

/-- An ended task keeps its answer, and leaves nothing more in the journal. -/
def ended (settings : Settings) (world : World) (task : TaskId) (answer : Answer) (time : Nat)
    (journal : List JournalEntry) : Course settings world task where
  holds state point :=
    point = .resting (.finished answer time) ∧
      ∃ more, state.journal = journal ++ more ∧ eventsOf more task = []
  withTasks ended := ended
  pass ended := ended
  own := by
    rintro before after events move - - ⟨isFinished, -⟩
    rcases before with ⟨state, point⟩
    cases isFinished
    cases move with
    | goOn allowed => simp [State.allows] at allowed
  others := by
    rintro before after other events stage move different ⟨isFinished, more, grown, silent⟩
    refine ⟨isFinished, more ++ entriesOf before.1.now other events, ?_, ?_⟩
    · rw [move.journal_eq, grown, List.append_assoc]
    · rw [eventsOf_append, silent, eventsOf_entriesOf_other _ _ different, List.append_nil]

theorem answer?_of_leads {answer : Answer} {time : Nat}
    (holds : (accounted settings world).Holds state)
    (answered : state.answer? task = some (answer, time))
    (leads : Leads settings world state last) :
    last.answer? task = some (answer, time) ∧
      ∃ more, last.journal = state.journal ++ more ∧ eventsOf more task = [] := by
  have waits := State.answer?_eq_some_iff.mp answered
  have starts : (ended settings world task answer time state.journal).holds state
      (.resting (.finished answer time)) :=
    ⟨rfl, [], (List.append_nil _).symm, rfl⟩
  obtain ⟨stage, ends, isFinished, silent⟩ := Course.followFrom holds waits starts leads
  cases isFinished
  exact ⟨State.answer?_eq_some_iff.mpr ends, silent⟩

/-- What is answered at once is answered for good. -/
theorem answer?_of_finish {noted : State} {answer : Answer}
    (holds : (accounted settings world).Holds (State.settle (finish noted answer) task))
    (present : task < noted.tasks.length)
    (leads : Leads settings world (State.settle (finish noted answer) task) last) :
    last.answer? task = some (answer, noted.now) := by
  have ends := State.stage?_settle (finish noted answer) present
  exact (answer?_of_leads holds (State.answer?_eq_some_iff.mpr ends) leads).1

/-! ### Beginnings -/

def growing (settings : Settings) (world : World) (journal : List JournalEntry) :
    Invariant settings world where
  common state := journal <+: state.journal
  standing _ _ _ := True
  common_withTasks _ grown := grown
  standing_withTasks _ := trivial
  common_pass _ _ grown := grown
  standing_pass _ _ _ _ := trivial
  announced _ _ := trivial
  move move _ _ grown _ := by
    rw [move.journal_eq]
    exact ⟨grown.trans (List.prefix_append _ _), trivial⟩
  undisturbed _ _ _ _ _ := trivial

theorem journal_prefix_of_leads (leads : Leads settings world state last) :
    state.journal <+: last.journal := by
  have starts : (growing settings world state.journal).Holds state :=
    ⟨List.prefix_refl _, fun _ => trivial⟩
  exact (starts.leads leads).common

theorem Begins.step {operation : Operation}
    (begins : Begins settings world state operation task next) :
    Step settings world state next := by
  cases begins with
  | arriving => exact .arrive operation
  | @due task start waits onTime =>
      obtain ⟨ticket, present⟩ := State.exists_getElem?_of_stage? waits
      exact .resume (by simpa [State.isReady, present, State.allows] using onTime)

/-- What holds of a task that begins, and what becomes of it. -/
theorem Begins.exists_ready {regime : Regime} {invariant : Invariant settings world regime}
    {operation : Operation} (begins : Begins settings world state operation task next)
    (holds : invariant.Holds state) (admitted : regime.admits operation)
    (permitted : ∀ start, regime.resumes state (.scheduled operation start)) :
    ∃ tasks nextTicket,
      invariant.HoldsWhile task (state.withTasks tasks nextTicket, .beginning operation) ∧
      next = State.settle
        (begin settings world (state.withTasks tasks nextTicket) task operation) task := by
  cases begins with
  | arriving =>
      exact ⟨_, _, holds.arrive admitted (permitted _), rfl⟩
  | @due task start waits onTime =>
      obtain ⟨ticket, present⟩ := State.exists_getElem?_of_stage? waits
      refine ⟨state.tasks, state.nextTicket, holds.enter waits ?_ (permitted start), ?_⟩
      · simpa [State.allows] using onTime
      · simp only [State.resume, present]
        rfl

/-! ### A small server -/

def smallSettings : Settings where
  cache := { ttl := 100, threshold := 10 }
  installedTtl := 50
  probeTimeout := 1000
  searchTimeout := 1000
  limits := { results := 5, description := 20 }
  maxQueryLength := 10
  port := 80
  epoch := 0

/-- Every query finds nothing, and the only probe finds nothing installed; both take their time. -/
def smallWorld (queryDelay probeDelay : Nat) : World where
  search _ _ := { delay := queryDelay, result := .ok Listing.empty }
  probes :=
    [{ name := "profile", reply := fun _ => { delay := probeDelay, result := .ok NameSet.empty } }]
  environment :=
    { user := none, home := none, nixPath := "", euid := 0, kernel := "", nixVersion := "" }

end PackageSearch.Server
