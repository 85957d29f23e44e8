import PackageSearch.Proofs.Server.Invariant
import PackageSearch.Server.Schedule

/-!
# Scheduled runs

What the scheduler does is a run: the task that it picks can go on, and time passes only forwards,
and only when no task can go on. So whatever holds of all runs holds of the scheduled ones.
-/

namespace PackageSearch.Server

open Relation

variable {settings : Settings} {world : World} {regime : Regime} {state : State} {task : TaskId}

theorem getElem?_of_mem_zip_range {Entry : Type} {entries : List Entry} {numbered : Nat × Entry}
    (membership : numbered ∈ (List.range entries.length).zip entries) :
    entries[numbered.1]? = some numbered.2 := by
  obtain ⟨place, present, rfl⟩ := List.getElem_of_mem membership
  simp

theorem mem_zip_range_of_getElem? {Entry : Type} {entries : List Entry} {place : Nat}
    {entry : Entry} (present : entries[place]? = some entry) :
    (place, entry) ∈ (List.range entries.length).zip entries := by
  obtain ⟨bound, rfl⟩ := List.getElem?_eq_some_iff.mp present
  refine List.mem_iff_getElem.mpr ⟨place, by simpa using bound, ?_⟩
  simp

namespace State

/-! ### The task that goes on next -/

/-- The better one of the best task so far and another one. -/
def lower (best : Option (TaskId × Nat)) (candidate : TaskId × Task) : Option (TaskId × Nat) :=
  match best with
  | none => some (candidate.1, candidate.2.ticket)
  | some (chosen, ticket) =>
      if candidate.2.ticket < ticket then some (candidate.1, candidate.2.ticket)
      else some (chosen, ticket)

theorem lowestTicket?_eq_foldl (tasks : List (TaskId × Task)) :
    lowestTicket? tasks = (tasks.foldl lower none).map Prod.fst :=
  rfl

theorem mem_of_foldl_lower {tasks : List (TaskId × Task)} {best : Option (TaskId × Nat)}
    {chosen : TaskId × Nat} (lowest : tasks.foldl lower best = some chosen) :
    best = some chosen ∨ ∃ waiting, (chosen.1, waiting) ∈ tasks := by
  induction tasks generalizing best with
  | nil => exact .inl lowest
  | cons first rest inductionHypothesis =>
      rcases inductionHypothesis lowest with better | ⟨waiting, membership⟩
      · have isBetter : best = some chosen ∨ chosen = (first.1, first.2.ticket) := by
          unfold lower at better
          split at better
          · exact .inr (Option.some.inj better).symm
          · split at better
            · exact .inr (Option.some.inj better).symm
            · exact .inl better
        rcases isBetter with before | rfl
        · exact .inl before
        · exact .inr ⟨first.2, List.mem_cons_self⟩
      · exact .inr ⟨waiting, List.mem_cons_of_mem _ membership⟩

theorem foldl_lower_eq_none {tasks : List (TaskId × Task)} {best : Option (TaskId × Nat)}
    (none : tasks.foldl lower best = none) : best = Option.none ∧ tasks = [] := by
  induction tasks generalizing best with
  | nil => exact ⟨none, rfl⟩
  | cons first rest inductionHypothesis =>
      obtain ⟨noBetter, -⟩ := inductionHypothesis none
      unfold lower at noBetter
      split at noBetter
      · cases noBetter
      · split at noBetter <;> cases noBetter

theorem eq_nil_of_lowestTicket? {tasks : List (TaskId × Task)}
    (none : lowestTicket? tasks = none) : tasks = [] := by
  rw [lowestTicket?_eq_foldl, Option.map_eq_none_iff] at none
  exact (foldl_lower_eq_none none).2

theorem mem_of_lowestTicket? {tasks : List (TaskId × Task)}
    (lowest : lowestTicket? tasks = some task) : ∃ waiting, (task, waiting) ∈ tasks := by
  rw [lowestTicket?_eq_foldl] at lowest
  obtain ⟨chosen, isChosen, rfl⟩ := Option.map_eq_some_iff.mp lowest
  rcases mem_of_foldl_lower isChosen with impossible | present
  · cases impossible
  · exact present

/-- The tasks that can go on. -/
def readyTasks (state : State) : List (TaskId × Task) :=
  state.numbered.filter fun candidate => state.allows candidate.1 candidate.2.stage

theorem nextReady?_eq (state : State) :
    state.nextReady? =
      (lowestTicket? (state.readyTasks.filter fun candidate => !isInspecting candidate.2)).or
        (lowestTicket? (state.readyTasks.filter fun candidate => isInspecting candidate.2)) := by
  unfold nextReady?
  dsimp only
  rw [List.partition_eq_filter_filter]
  rfl

theorem isReady_of_nextReady? (picked : state.nextReady? = some task) :
    state.isReady task = true := by
  have ready : ∃ waiting, (task, waiting) ∈ state.readyTasks := by
    rw [nextReady?_eq, Option.or_eq_some_iff] at picked
    rcases picked with lowest | ⟨-, lowest⟩
    · obtain ⟨waiting, membership⟩ := mem_of_lowestTicket? lowest
      exact ⟨waiting, (List.mem_filter.mp membership).1⟩
    · obtain ⟨waiting, membership⟩ := mem_of_lowestTicket? lowest
      exact ⟨waiting, (List.mem_filter.mp membership).1⟩
  obtain ⟨waiting, membership⟩ := ready
  obtain ⟨numbered, allowed⟩ := List.mem_filter.mp membership
  exact isReady_iff.mpr ⟨waiting.stage, stage?_of_getElem? (getElem?_of_mem_zip_range numbered),
    allowed⟩

theorem not_isReady_of_nextReady? (nobody : state.nextReady? = none) :
    ¬state.isReady task = true := by
  intro ready
  obtain ⟨stage, waits, allowed⟩ := isReady_iff.mp ready
  obtain ⟨waiting, present, rfl⟩ := Option.map_eq_some_iff.mp waits
  have membership : (task, waiting) ∈ state.readyTasks :=
    List.mem_filter.mpr ⟨mem_zip_range_of_getElem? present, allowed⟩
  rw [nextReady?_eq, Option.or_eq_none_iff] at nobody
  have noOther := List.filter_eq_nil_iff.mp (eq_nil_of_lowestTicket? nobody.1) _ membership
  have noReport := List.filter_eq_nil_iff.mp (eq_nil_of_lowestTicket? nobody.2) _ membership
  cases inspecting : isInspecting waiting with
  | false => exact noOther (by simp [inspecting])
  | true => exact noReport inspecting

/-! ### Scheduled runs are runs -/

/-- All operations of a group, before time passes. -/
def submitAll (settings : Settings) (world : World) (state : State)
    (operations : List (Nat × Operation)) : State :=
  operations.foldl (fun state (delay, operation) => state.submit settings world delay operation)
    state

theorem runGroup_eq (operations : List (Nat × Operation)) (state : State) :
    state.runGroup settings world operations =
      (state.submitAll settings world operations).runAll settings world
        ((state.submitAll settings world operations).rounds world) :=
  rfl

section Regimes

variable (goesOn : ∀ state stage, regime.resumes state stage)

include goesOn

/-- If tasks may always go on, and time may pass when none can, all is done as it may be. -/
theorem leadsUnder_runAll (rests : ∀ state : State, state.nextReady? = none → regime.passes state)
    (fuel : Nat) (state : State) :
    LeadsUnder regime settings world state (state.runAll settings world fuel) := by
  induction fuel generalizing state with
  | zero => exact .refl
  | succ fuel inductionHypothesis =>
      unfold runAll
      split
      · rename_i task picked
        obtain ⟨stage, waits, allowed⟩ := isReady_iff.mp (isReady_of_nextReady? picked)
        exact .head (.resume waits allowed (goesOn _ _)) (inductionHypothesis _)
      · rename_i nobody
        split
        · exact .head (.pass (Nat.le_max_left _ _) (rests _ nobody)) (inductionHypothesis _)
        · exact .refl

theorem stepUnder_submit {operation : Operation} (admitted : regime.admits operation)
    (delay : Nat) (state : State) :
    StepUnder regime settings world state (state.submit settings world delay operation) := by
  unfold submit
  split
  · exact .arrive admitted (goesOn _ _)
  · exact .announce _ admitted

theorem leadsUnder_submitAll (admits : ∀ operation, regime.admits operation)
    (operations : List (Nat × Operation)) (state : State) :
    LeadsUnder regime settings world state (state.submitAll settings world operations) := by
  induction operations generalizing state with
  | nil => exact .refl
  | cons first rest inductionHypothesis =>
      exact .head (stepUnder_submit goesOn (admits first.2) first.1 state) (inductionHypothesis _)

theorem leadsUnder_runGroup (admits : ∀ operation, regime.admits operation)
    (rests : ∀ state : State, state.nextReady? = none → regime.passes state)
    (operations : List (Nat × Operation)) (state : State) :
    LeadsUnder regime settings world state (state.runGroup settings world operations) := by
  rw [runGroup_eq]
  exact (leadsUnder_submitAll goesOn admits operations state).trans
    (leadsUnder_runAll goesOn rests _ _)

end Regimes

theorem leads_submitAll (operations : List (Nat × Operation)) (state : State) :
    Leads settings world state (state.submitAll settings world operations) := by
  have free : LeadsUnder .free settings world state _ :=
    leadsUnder_submitAll (fun _ _ => trivial) (fun _ => trivial) operations state
  exact free.leads

theorem leads_runGroup (operations : List (Nat × Operation)) (state : State) :
    Leads settings world state (state.runGroup settings world operations) := by
  have free : LeadsUnder .free settings world state _ :=
    leadsUnder_runGroup (fun _ _ => trivial) (fun _ => trivial) (fun _ _ => trivial) operations
      state
  exact free.leads

end State

end PackageSearch.Server
