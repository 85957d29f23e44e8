import Mathlib.Algebra.GroupWithZero.Nat
import PackageSearch.Proofs.Server.Gate

/-!
# The line before the gate empties

Whoever is inside the gate waits for one probe after the other and leaves, and then the next one is
let in. So from wherever a run has come to it can go on until nobody is left at the gate. There is a
bound on how often the tasks at the gate have yet to wait there, and every go of one lowers it.
-/

namespace PackageSearch.Server

variable {settings : Settings} {world : World} {regime : Regime} {state : State} {task : TaskId}
  {before after : State × Point} {events : List Event}

/-- How often a task at a point has yet to wait at the gate, at most. A task that waits elsewhere is
not counted. -/
def Point.waitsLeft (probes : Nat) : Point → Nat
  | .resting (.queued _ _) => probes + 1
  | .resting (.probing _ _ _ _ remaining _) => remaining.length + 1
  | .beginning _ | .sending _ | .received _ _ _ | .asking _ | .arriving _ _ => probes + 1
  | .entering _ _ => probes
  | .trying _ _ remaining | .hearing _ _ _ remaining _ => remaining.length
  | _ => 0

/-- How often the tasks at the gate have yet to wait there, at most. -/
def State.waitsLeft (probes : Nat) (state : State) : Nat :=
  ((state.tasks.map Task.stage).map fun stage => (Point.resting stage).waitsLeft probes).sum

/-- The task waits inside the gate, or for being let in. -/
def Stage.IsAtGate : Stage → Prop
  | .queued _ _ | .probing _ _ _ _ _ _ => True
  | _ => False

/-! ### What one go of a task changes -/

theorem Move.waitsLeft_le (move : Move settings world task before events after)
    (active : before.2.IsActive) :
    after.2.waitsLeft world.probes.length ≤ before.2.waitsLeft world.probes.length := by
  cases move with
  | goOn => exact active.elim
  | _ => simp [Point.waitsLeft]

theorem Moves.waitsLeft_le (moves : Moves settings world task before after) :
    after.2.waitsLeft world.probes.length ≤ before.2.waitsLeft world.probes.length := by
  induction moves with
  | refl => exact Nat.le_refl _
  | tail _ last inductionHypothesis =>
      rcases last with ⟨active, events, move⟩
      exact Nat.le_trans (move.waitsLeft_le active) inductionHypothesis

theorem Moves.stages_eq (moves : Moves settings world task before after) :
    after.1.tasks.map Task.stage = before.1.tasks.map Task.stage := by
  induction moves with
  | refl => rfl
  | tail _ last inductionHypothesis =>
      rcases last with ⟨-, events, move⟩
      exact move.stages_eq.trans inductionHypothesis

/-- A task that is at the gate has one wait less before it when it goes on. -/
theorem Stage.waitsLeft_point_lt {stage : Stage} (atGate : stage.IsAtGate) (probes : Nat) :
    stage.point.waitsLeft probes < (Point.resting stage).waitsLeft probes := by
  cases stage with
  | queued | probing => exact Nat.lt_succ_self _
  | _ => exact atGate.elim

theorem sum_set_lt {waits : List Nat} {place fewer more : Nat} (present : waits[place]? = some more)
    (less : fewer < more) : (waits.set place fewer).sum < waits.sum := by
  induction waits generalizing place with
  | nil => cases present
  | cons first rest inductionHypothesis =>
      cases place with
      | zero =>
          obtain rfl : first = more := by simpa using present
          simpa using less
      | succ place => simpa using inductionHypothesis (by simpa using present)

/-- What a task that goes on changes about how far the tasks have come. -/
theorem State.map_stage_resume {stage : Stage} (waits : state.stage? task = some stage) :
    (state.resume settings world task).tasks.map Task.stage =
      (state.tasks.map Task.stage).set task (proceed settings world state task stage).2 := by
  obtain ⟨ticket, present⟩ := State.exists_getElem?_of_stage? waits
  have moves : Moves settings world task _ _ := moves_proceed state stage
  rw [← show (atRest _).1.tasks.map Task.stage = _ from moves.stages_eq]
  simp [State.resume, present, State.settle, atRest, List.map_set]

/-- A task that arrives comes after all others. -/
theorem State.map_stage_spawn (settings : Settings) (world : World) (state : State)
    (operation : Operation) :
    (state.spawn settings world operation).tasks.map Task.stage = state.tasks.map Task.stage ++
      [(begin settings world (state.arrived operation) state.tasks.length operation).2] := by
  let progress := begin settings world (state.arrived operation) state.tasks.length operation
  have moves : Moves settings world state.tasks.length (state.arrived operation, _)
      (atRest progress) := moves_begin (state.arrived operation) operation
  have kept : progress.1.tasks.map Task.stage = (state.arrived operation).tasks.map Task.stage :=
    moves.stages_eq
  calc (state.spawn settings world operation).tasks.map Task.stage
    _ = (progress.1.tasks.map Task.stage).set state.tasks.length progress.2 := List.map_set
    _ = state.tasks.map Task.stage ++ [progress.2] := by
      rw [kept]
      simp [State.arrived, State.withTasks]

theorem State.waitsLeft_resume_lt {stage : Stage} (waits : state.stage? task = some stage)
    (atGate : stage.IsAtGate) :
    (state.resume settings world task).waitsLeft world.probes.length <
      state.waitsLeft world.probes.length := by
  have moves : Moves settings world task _ _ := moves_proceed state stage
  have fewer := Nat.lt_of_le_of_lt moves.waitsLeft_le
    (Stage.waitsLeft_point_lt atGate world.probes.length)
  unfold State.waitsLeft
  rw [State.map_stage_resume waits, List.map_set]
  refine sum_set_lt ?_ fewer
  rw [List.getElem?_map, ← State.stage?_eq_getElem?, waits, Option.map_some]

/-! ### Runs -/

/-- If somebody is at the gate, whoever is inside can go on, at the latest after some time. -/
theorem exists_waitsLeft_lt (passes : ∀ state, regime.passes state)
    (goesOn : ∀ state stage, stage.IsAtGate → regime.resumes state stage)
    (holds : (gated settings world).Holds state) (nonempty : state.gate ≠ []) :
    ∃ next, LeadsUnder regime settings world state next ∧
      next.waitsLeft world.probes.length < state.waitsLeft world.probes.length := by
  obtain ⟨first, waiting, isGate⟩ := List.exists_cons_of_ne_nil nonempty
  have inside : state.gate.head? = some first := by rw [isGate, List.head?_cons]
  have orderly : Orderly state := holds.common.2
  have membership : first ∈ state.gate := List.mem_of_mem_head? inside
  obtain ⟨stage, waits⟩ := State.exists_stage? (orderly.present first membership)
  have place : (Point.resting stage).HasPlace state.gate first := (holds.standing waits).2
  cases stage with
  | queued demand purpose =>
      have allowed : state.allows first (.queued demand purpose) = true := by
        simpa [State.allows] using inside
      exact ⟨_, .single (.resume waits allowed (goesOn _ _ trivial)),
        State.waitsLeft_resume_lt waits trivial⟩
  | probing detection name wake outcome remaining purpose =>
      let later : State := { state with now := max state.now wake }
      have onTime : later.allows first
          (.probing detection name wake outcome remaining purpose) = true :=
        decide_eq_true (Nat.le_max_right state.now wake)
      have passed : LeadsUnder regime settings world state later :=
        .single (.pass (Nat.le_max_left _ _) (passes _))
      have stillWaits : later.stage? first = _ := waits
      exact ⟨_, passed.tail (.resume stillWaits onTime (goesOn _ _ trivial)),
        State.waitsLeft_resume_lt stillWaits trivial⟩
  | _ => exact absurd membership place

/-- A run can go on until nobody is left at the gate. -/
theorem exists_gate_eq_nil (passes : ∀ state, regime.passes state)
    (goesOn : ∀ state stage, stage.IsAtGate → regime.resumes state stage)
    (holds : (gated settings world).Holds state) :
    ∃ done, LeadsUnder regime settings world state done ∧ done.gate = [] := by
  induction count : state.waitsLeft world.probes.length using Nat.strongRecOn
      generalizing state with
  | ind count inductionHypothesis =>
      subst count
      by_cases isEmpty : state.gate = []
      · exact ⟨state, .refl, isEmpty⟩
      · obtain ⟨next, leads, fewer⟩ := exists_waitsLeft_lt passes goesOn holds isEmpty
        obtain ⟨done, rest, isEmpty⟩ := inductionHypothesis _ fewer
          (holds.leads (LeadsUnder.leads leads)) rfl
        exact ⟨done, leads.trans rest, isEmpty⟩

end PackageSearch.Server
