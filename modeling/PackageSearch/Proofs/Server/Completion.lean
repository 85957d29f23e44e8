import PackageSearch.Proofs.Server.Conduct
import PackageSearch.Proofs.Server.Drain
import PackageSearch.Proofs.Server.Schedule

/-!
# Scheduled runs end

A task waits for its start, for the package query or the report on the environment, for the gate and
for each probe at most once. So there is a bound on how often the tasks of a state have yet to go
on, and the rounds that the scheduler is given are enough for all of them to end.
-/

namespace PackageSearch.Server

variable {settings : Settings} {world : World} {state next last : State} {task : TaskId}
  {before after : State × Point} {events : List Event} {probes : Nat}

/-- How often a task that has come to a point has yet to go on, at most. -/
def Point.goesLeft (probes : Nat) : Point → Nat
  | .resting (.scheduled _ _) => probes + 3
  | .resting (.searching _ _ _ _) | .resting .inspecting | .beginning _ | .sending _ => probes + 2
  | .resting (.queued _ _) | .received _ _ _ | .asking _ | .arriving _ _ => probes + 1
  | .entering _ _ => probes
  | .resting (.probing _ _ _ _ remaining _) => remaining.length + 1
  | .trying _ _ remaining | .hearing _ _ _ remaining _ => remaining.length
  | _ => 0

/-- How often the tasks of a state have yet to go on, at most. -/
def State.goesLeft (probes : Nat) (state : State) : Nat :=
  ((state.tasks.map Task.stage).map fun stage => (Point.resting stage).goesLeft probes).sum

/-! ### What one go of a task changes -/

theorem Move.goesLeft_le (move : Move settings world task before events after) :
    after.2.goesLeft world.probes.length ≤ before.2.goesLeft world.probes.length := by
  cases move with
  | @goOn state stage allowed => cases stage <;> simp [Stage.point, Point.goesLeft]
  | _ => simp [Point.goesLeft]

theorem Moves.goesLeft_le (moves : Moves settings world task before after) :
    after.2.goesLeft world.probes.length ≤ before.2.goesLeft world.probes.length := by
  induction moves with
  | refl => exact Nat.le_refl _
  | tail _ last inductionHypothesis =>
      obtain ⟨-, events, move⟩ := last
      exact Nat.le_trans move.goesLeft_le inductionHypothesis

/-- A task that can go on has one go less before it when it does. -/
theorem Stage.goesLeft_point_lt {stage : Stage} (allowed : state.allows task stage = true)
    (probes : Nat) : stage.point.goesLeft probes < (Point.resting stage).goesLeft probes := by
  cases stage with
  | finished => simp [State.allows] at allowed
  | _ => exact Nat.lt_succ_self _

theorem State.goesLeft_resume_lt (ready : state.isReady task = true) :
    (state.resume settings world task).goesLeft world.probes.length <
      state.goesLeft world.probes.length := by
  obtain ⟨stage, waits, allowed⟩ := State.isReady_iff.mp ready
  have moves : Moves settings world task _ _ := moves_proceed state stage
  have fewer := Nat.lt_of_le_of_lt moves.goesLeft_le
    (Stage.goesLeft_point_lt allowed world.probes.length)
  unfold State.goesLeft
  rw [State.map_stage_resume waits, List.map_set]
  apply sum_set_lt ?_ fewer
  rw [List.getElem?_map, ← State.stage?_eq_getElem?, waits, Option.map_some]

/-! ### The bound at the start -/

/-- No task has more goes before it than one that has not begun. -/
def limited (settings : Settings) (world : World) : Invariant settings world where
  common _ := True
  standing _ _ point := point.goesLeft world.probes.length ≤ world.probes.length + 3
  common_withTasks _ _ := trivial
  standing_withTasks bounded := bounded
  common_pass _ _ _ := trivial
  standing_pass _ _ _ bounded := bounded
  announced _ _ := Nat.le_refl _
  move move _ _ _ bounded := ⟨trivial, Nat.le_trans move.goesLeft_le bounded⟩
  undisturbed _ _ _ _ bounded := bounded

theorem Reachable.limited (reachable : Reachable settings world state) :
    (limited settings world).Holds state := by
  have started : (Server.limited settings world).Holds State.initial :=
    ⟨trivial, fun waits => by simp [State.stage?, State.initial] at waits⟩
  exact started.leads reachable.leads

theorem goesLeft_eq_zero_iff {stage : Stage} :
    (Point.resting stage).goesLeft probes = 0 ↔ ∃ answer time, stage = .finished answer time := by
  cases stage <;> simp [Point.goesLeft]

theorem sum_goesLeft_le {tasks : List Task}
    (bounded : ∀ task ∈ tasks, (Point.resting task.stage).goesLeft probes ≤ probes + 3) :
    ((tasks.map Task.stage).map fun stage => (Point.resting stage).goesLeft probes).sum ≤
      (tasks.countP fun task => !State.hasEnded task) * (probes + 3) := by
  induction tasks with
  | nil => simp
  | cons first rest inductionHypothesis =>
      have others := inductionHypothesis fun task membership =>
        bounded task (List.mem_cons_of_mem _ membership)
      have limit := bounded first List.mem_cons_self
      rw [List.countP_cons, List.map_cons, List.map_cons, List.sum_cons, Nat.add_mul]
      by_cases ended : State.hasEnded first = true
      · have none : (Point.resting first.stage).goesLeft probes = 0 := by
          apply goesLeft_eq_zero_iff.mpr
          rcases first with ⟨stage, ticket⟩
          cases stage with
          | finished answer time => exact ⟨answer, time, rfl⟩
          | _ => cases ended
        simp only [none, ended]
        omega
      · simp only [ended]
        simp only [Bool.not_false, if_true]
        omega

/-- The rounds are enough, with one for the passing of time before each go. -/
theorem goesLeft_le_rounds (holds : (limited settings world).Holds state) :
    2 * state.goesLeft world.probes.length ≤ state.rounds world := by
  have fewer : state.goesLeft world.probes.length ≤
      (state.tasks.countP fun task => !State.hasEnded task) * (world.probes.length + 3) := by
    apply sum_goesLeft_le
    intro entry membership
    obtain ⟨place, present⟩ := List.mem_iff_getElem?.mp membership
    exact holds.standing (State.stage?_of_getElem? present)
  rw [State.rounds, Nat.mul_assoc]
  apply Nat.mul_le_mul_left
  exact Nat.le_trans fewer (Nat.mul_le_mul_left _ (Nat.le_succ _))

/-! ### The passing of time -/

theorem State.exists_isReady_of_nextWake? {wake : Nat} (wakes : state.nextWake? = some wake) :
    ∃ task, State.isReady { state with now := max state.now wake } task = true := by
  obtain ⟨waiting, membership, isWake⟩ := List.mem_filterMap.mp (List.min?_mem wakes)
  obtain ⟨place, present⟩ := List.mem_iff_getElem?.mp membership
  have waits : state.stage? place = some waiting.stage := State.stage?_of_getElem? present
  refine ⟨place, State.isReady_iff.mpr ⟨waiting.stage, waits, ?_⟩⟩
  rcases waiting with ⟨stage, ticket⟩
  cases stage with
  | scheduled | searching | probing =>
      obtain rfl := Option.some.inj isWake
      exact decide_eq_true (Nat.le_max_right _ _)
  | inspecting | queued | finished => cases isWake

theorem State.wake?_eq_none_of_nextWake? (still : state.nextWake? = none) {stage : Stage}
    (waits : state.stage? task = some stage) : stage.wake? = none := by
  obtain ⟨ticket, present⟩ := State.exists_getElem?_of_stage? waits
  have none := List.filterMap_eq_nil_iff.mp (List.min?_eq_none_iff.mp still)
  exact none _ (List.mem_of_getElem? present)

/-- If nobody can go on, now or later, all tasks have ended: whoever is inside the gate either can go
on or waits for a probe. -/
theorem State.isIdle_of_still (holds : (gated settings world).Holds state)
    (nobody : state.nextReady? = none) (still : state.nextWake? = none) : state.IsIdle := by
  intro entry membership
  obtain ⟨task, present⟩ := List.mem_iff_getElem?.mp membership
  have waits : state.stage? task = some entry.stage := State.stage?_of_getElem? present
  have sleeps := State.wake?_eq_none_of_nextWake? still waits
  rcases entry with ⟨stage, ticket⟩
  cases stage with
  | scheduled | searching | probing => cases sleeps
  | inspecting =>
      have ready : state.isReady task = true := State.isReady_iff.mpr ⟨_, waits, rfl⟩
      exact absurd ready (State.not_isReady_of_nextReady? nobody)
  | finished => rfl
  | queued demand purpose =>
      have lined : task ∈ state.gate := (holds.standing waits).2
      have orderly : Orderly state := holds.common.2
      obtain ⟨first, waiting, isGate⟩ := List.exists_cons_of_ne_nil (List.ne_nil_of_mem lined)
      have inside : state.gate.head? = some first := by rw [isGate, List.head?_cons]
      have member : first ∈ state.gate := List.mem_of_mem_head? inside
      obtain ⟨stage, firstWaits⟩ := State.exists_stage? (orderly.present first member)
      have place : (Point.resting stage).HasPlace state.gate first := (holds.standing firstWaits).2
      cases stage with
      | queued demand purpose =>
          have allowed : state.allows first (.queued demand purpose) = true := by
            simpa [State.allows] using inside
          have ready : state.isReady first = true :=
            State.isReady_iff.mpr ⟨_, firstWaits, allowed⟩
          exact absurd ready (State.not_isReady_of_nextReady? nobody)
      | probing => cases State.wake?_eq_none_of_nextWake? still firstWaits
      | _ => exact absurd member place

/-! ### Scheduled runs -/

theorem State.isIdle_of_goesLeft_eq_zero (none : state.goesLeft probes = 0) : state.IsIdle := by
  intro entry membership
  have zero : (Point.resting entry.stage).goesLeft probes = 0 := by
    apply List.sum_eq_zero_iff_forall_eq_nat.mp none
    exact List.mem_map_of_mem (List.mem_map_of_mem membership)
  obtain ⟨answer, time, isFinished⟩ := goesLeft_eq_zero_iff.mp zero
  rw [State.hasEnded, isFinished]

/-- The induction is on the rounds. There are two for each go that is left, and one of those of the
next go may have been spent on waiting for it. -/
theorem State.isIdle_runAll {fuel : Nat} (holds : (gated settings world).Holds state)
    (enough : 2 * state.goesLeft world.probes.length ≤ fuel ∨
      state.nextReady? ≠ none ∧ 2 * state.goesLeft world.probes.length ≤ fuel + 1) :
    (state.runAll settings world fuel).IsIdle := by
  induction fuel generalizing state with
  | zero =>
      have none : state.goesLeft world.probes.length = 0 := by omega
      exact State.isIdle_of_goesLeft_eq_zero none
  | succ fuel inductionHypothesis =>
      unfold State.runAll
      split
      · rename_i task picked
        have ready := State.isReady_of_nextReady? picked
        have step : Step settings world state (state.resume settings world task) := .resume ready
        have fewer : (state.resume settings world task).goesLeft _ < _ :=
          State.goesLeft_resume_lt ready
        apply inductionHypothesis (holds.leads (.single step))
        omega
      · rename_i nobody
        have all : 2 * state.goesLeft world.probes.length ≤ fuel + 1 :=
          enough.resolve_right fun some => some.1 nobody
        split
        · rename_i wake wakes
          have step : Step settings world state { state with now := max state.now wake } :=
            .pass (Nat.le_max_left _ _)
          apply inductionHypothesis (holds.leads (.single step))
          obtain ⟨task, ready⟩ := State.exists_isReady_of_nextWake? wakes
          refine .inr ⟨fun nobody => State.not_isReady_of_nextReady? nobody ready, all⟩
        · rename_i still
          exact State.isIdle_of_still holds nobody still

theorem Reachable.isIdle_runAll (reachable : Reachable settings world state) :
    (state.runAll settings world (state.rounds world)).IsIdle :=
  State.isIdle_runAll reachable.gated (.inl (goesLeft_le_rounds reachable.limited))

/-- Wherever a run has come to, it can go on until a task that has begun is answered. -/
theorem Begins.exists_answer {operation : Operation} (reachable : Reachable settings world state)
    (begins : Begins settings world state operation task next)
    (leads : Leads settings world next last) :
    ∃ done answer time, Leads settings world last done ∧
      done.answer? task = some (answer, time) := by
  have reachableLast := (reachable.step begins.step).trans leads
  let done := last.runAll settings world (last.rounds world)
  have free : LeadsUnder .free settings world last done :=
    State.leadsUnder_runAll (fun _ _ => trivial) (fun _ _ => trivial) _ _
  obtain ⟨stage, waits, -⟩ := begins.carries reachable.accounted (leads.trans free.leads)
  obtain ⟨answer, time, rfl⟩ := reachableLast.isIdle_runAll.exists_answer waits
  exact ⟨done, answer, time, free.leads, State.answer?_eq_some_iff.mpr waits⟩

/-- Nothing happens where no operation is in flight. -/
theorem State.IsIdle.runAll (idle : state.IsIdle) (fuel : Nat) :
    state.runAll settings world fuel = state := by
  cases fuel with
  | zero => rfl
  | succ fuel =>
      have nobody : state.nextReady? = none := by
        cases picked : state.nextReady? with
        | none => rfl
        | some task =>
            obtain ⟨stage, waits, allowed⟩ := State.isReady_iff.mp (State.isReady_of_nextReady? picked)
            obtain ⟨answer, time, rfl⟩ := idle.exists_answer waits
            cases allowed
      have still : state.nextWake? = none := by
        rw [State.nextWake?, idle.wakes_eq_nil]
        rfl
      simp [State.runAll, nobody, still]

end PackageSearch.Server
