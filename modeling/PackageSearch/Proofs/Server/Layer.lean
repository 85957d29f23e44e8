import PackageSearch.Proofs.Server.Invariant

/-!
# Invariants that rest on others

A `Layer` is what holds of all runs besides an invariant that has been shown already, and its
proof may use that invariant for the task that moves and for those that wait.
-/

namespace PackageSearch.Server

variable {settings : Settings} {world : World} {regime : Regime}

/-- An invariant of all runs is one of the runs under a regime. -/
def Invariant.under (invariant : Invariant settings world) (regime : Regime) :
    Invariant settings world regime where
  common := invariant.common
  standing := invariant.standing
  common_withTasks := invariant.common_withTasks
  standing_withTasks := invariant.standing_withTasks
  common_pass _ ordered common := invariant.common_pass trivial ordered common
  standing_pass _ ordered waits standing := invariant.standing_pass trivial ordered waits standing
  announced _ common := invariant.announced trivial common
  move {before _ _ _} move present _ common standing := by
    refine invariant.move move present ?_ common standing
    rcases before with ⟨state, point⟩
    cases point <;> trivial
  undisturbed := invariant.undisturbed

theorem Invariant.Holds.under {invariant : Invariant settings world} {state : State}
    (holds : invariant.Holds state) (regime : Regime) : (invariant.under regime).Holds state :=
  ⟨holds.common, holds.standing⟩

/-- What all tasks rely on and what one task relies on at its point, besides a base. -/
structure Layer (base : Invariant settings world regime) where
  common : State → Prop
  standing : State → TaskId → Point → Prop
  common_withTasks {state : State} {tasks : List Task} {nextTicket : Nat} :
    state.tasks.length ≤ tasks.length → common state → common (state.withTasks tasks nextTicket)
  standing_withTasks {state : State} {tasks : List Task} {nextTicket : Nat} {task : TaskId}
    {point : Point} :
    standing state task point → standing (state.withTasks tasks nextTicket) task point
  common_pass {state : State} {later : Nat} :
    regime.passes state → state.now ≤ later → base.common state → common state →
      common { state with now := later }
  standing_pass {state : State} {later : Nat} {task : TaskId} {stage : Stage} :
    regime.passes state → state.now ≤ later → state.stage? task = some stage →
      base.standing state task (.resting stage) → standing state task (.resting stage) →
        standing { state with now := later } task (.resting stage)
  announced {state : State} {operation : Operation} {start : Nat} :
    regime.admits operation → base.common state → common state →
      standing state state.tasks.length (.resting (.scheduled operation start))
  move {before after : State × Point} {task : TaskId} {events : List Event} :
    Move settings world task before events after → task < before.1.tasks.length →
      regime.Permits before → base.common before.1 → base.standing before.1 task before.2 →
        common before.1 → standing before.1 task before.2 →
          common after.1 ∧ standing after.1 task after.2
  undisturbed {before after : State × Point} {task other : TaskId} {events : List Event}
    {stage : Stage} :
    Move settings world task before events after → other ≠ task → base.common before.1 →
      base.standing before.1 task before.2 → base.standing before.1 other (.resting stage) →
        common before.1 → standing before.1 task before.2 →
          standing before.1 other (.resting stage) → standing after.1 other (.resting stage)

namespace Layer

variable {base : Invariant settings world regime} (layer : Layer base)

/-- The layer together with its base. -/
def invariant : Invariant settings world regime where
  common state := base.common state ∧ layer.common state
  standing state task point := base.standing state task point ∧ layer.standing state task point
  common_withTasks grown common :=
    ⟨base.common_withTasks grown common.1, layer.common_withTasks grown common.2⟩
  standing_withTasks standing :=
    ⟨base.standing_withTasks standing.1, layer.standing_withTasks standing.2⟩
  common_pass passes ordered common :=
    ⟨base.common_pass passes ordered common.1,
      layer.common_pass passes ordered common.1 common.2⟩
  standing_pass passes ordered waits standing :=
    ⟨base.standing_pass passes ordered waits standing.1,
      layer.standing_pass passes ordered waits standing.1 standing.2⟩
  announced admitted common :=
    ⟨base.announced admitted common.1, layer.announced admitted common.1 common.2⟩
  move move present permitted common standing := by
    have below := base.move move present permitted common.1 standing.1
    have above := layer.move move present permitted common.1 standing.1 common.2 standing.2
    exact ⟨⟨below.1, above.1⟩, below.2, above.2⟩
  undisturbed move different common moving standing :=
    ⟨base.undisturbed move different common.1 moving.1 standing.1,
      layer.undisturbed move different common.1 moving.1 standing.1 common.2 moving.2 standing.2⟩

variable {layer}

/-- A layer begins to hold where its base holds. -/
theorem holds {state : State} (below : base.Holds state) (common : layer.common state)
    (standing : ∀ {task : TaskId} {stage : Stage}, state.stage? task = some stage →
      layer.standing state task (.resting stage)) : layer.invariant.Holds state :=
  ⟨⟨below.common, common⟩, fun waits => ⟨below.standing waits, standing waits⟩⟩

/-- A layer begins to hold of a task that moves where its base holds. -/
theorem holdsWhile {task : TaskId} {place : State × Point} (below : base.HoldsWhile task place)
    (common : layer.common place.1) (moving : layer.standing place.1 task place.2)
    (waiting : ∀ {other : TaskId} {stage : Stage}, other ≠ task →
      place.1.stage? other = some stage → layer.standing place.1 other (.resting stage)) :
    layer.invariant.HoldsWhile task place :=
  ⟨below.present, ⟨below.common, common⟩, ⟨below.moving, moving⟩,
    fun different waits => ⟨below.waiting different waits, waiting different waits⟩⟩

theorem below {state : State} (holds : layer.invariant.Holds state) : base.Holds state :=
  ⟨holds.common.1, fun waits => (holds.standing waits).1⟩

end Layer

end PackageSearch.Server
