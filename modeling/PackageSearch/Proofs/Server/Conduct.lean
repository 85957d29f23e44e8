import PackageSearch.Proofs.Server.Effects
import PackageSearch.Proofs.Server.Reset

/-!
# What tasks do belongs to their operations

A task leaves only events of its operation, and answers in the way of its operation, whatever the
other tasks do. So what a task may change can be read off its operation.
-/

namespace PackageSearch.Server

variable {settings : Settings} {world : World} {state next last : State} {task : TaskId}
  {operation : Operation} {events : List Event} {before after : State × Point}

namespace Operation

/-- A search for a text that is this query when it is trimmed. -/
def SearchesFor (query : String) : Operation → Prop
  | .search text => trimmedQuery text = query
  | _ => False

/-- Operations that may have to detect the installed packages. -/
def MayDetect : Operation → Prop
  | .search _ | .debug | .current | .refresh => True
  | _ => False

/-- The events that an operation may leave. -/
def Leaves (operation : Operation) : Event → Prop
  | .cacheHit query _ | .searching query | .searchFailed query _ | .responseStored query _ =>
      operation.SearchesFor query
  | .queryNote _ | .entriesSwept _ => ∃ query, operation.SearchesFor query
  | .cacheCleared _ => operation = .clear
  | .snapshotReset => operation = .clear ∨ operation = .reset
  | _ => operation.MayDetect

/-- The answers that an operation may be given. -/
def Expects : Operation → Answer → Prop
  | .search _, .search _ | .clear, .cleared _ | .debug, .debug _ | .health, .health _
  | .stats, .stats _ => True
  | .refuse refusal, .refused answered => answered = refusal
  | .current, .snapshot _ | .refresh, .snapshot _ | .snapshot, .snapshot _
  | .reset, .snapshot _ => True
  | _, _ => False

theorem SearchesFor.exists_text {query : String} (searches : operation.SearchesFor query) :
    ∃ text, operation = .search text ∧ trimmedQuery text = query := by
  cases operation with
  | search text => exact ⟨text, rfl, searches⟩
  | _ => exact searches.elim

theorem SearchesFor.mayDetect {query : String} (searches : operation.SearchesFor query) :
    operation.MayDetect := by
  obtain ⟨text, rfl, -⟩ := searches.exists_text
  exact trivial

theorem SearchesFor.expects {query : String} (searches : operation.SearchesFor query)
    (response : SearchResponse) : operation.Expects (.search response) := by
  obtain ⟨text, rfl, -⟩ := searches.exists_text
  exact trivial

theorem Brings.mayDetect (brings : operation.Brings) : operation.MayDetect := by
  cases operation with
  | current | refresh => trivial
  | _ => exact brings.elim

theorem Brings.expects (brings : operation.Brings) (snapshot : Snapshot) :
    operation.Expects (.snapshot snapshot) := by
  cases operation with
  | current | refresh => trivial
  | _ => exact brings.elim

end Operation

/-- What the installed packages are wanted for belongs to the operation. -/
def Purpose.IsOf (operation : Operation) : Purpose → Prop
  | .report => operation.Brings
  | .debug => operation = .debug
  | .assemble query _ => operation.SearchesFor query

/-- A task that carries out the operation may stand at the point. -/
def Point.IsOf (operation : Operation) : Point → Prop
  | .resting (.scheduled other _) | .beginning other => other = operation
  | .resting (.searching query _ _ _) | .sending query | .received query _ _ | .failing query _ =>
      operation.SearchesFor query
  | .resting .inspecting => operation = .debug
  | .resting (.queued _ purpose) | .resting (.probing _ _ _ _ _ purpose) | .asking purpose
  | .arriving _ purpose | .entering _ purpose | .trying _ purpose _ | .hearing _ _ _ _ purpose
  | .concluding _ _ purpose | .delivering _ purpose => purpose.IsOf operation
  | .answering answer | .resting (.finished answer _) => operation.Expects answer

theorem Purpose.IsOf.mayDetect {purpose : Purpose} (isOf : purpose.IsOf operation) :
    operation.MayDetect := by
  cases purpose with
  | report => exact Operation.Brings.mayDetect isOf
  | debug =>
      obtain rfl : operation = .debug := isOf
      exact trivial
  | assemble query listing => exact Operation.SearchesFor.mayDetect isOf

/-! ### Moves -/

theorem Move.isOf (move : Move settings world task before events after)
    (isOf : before.2.IsOf operation) : after.2.IsOf operation := by
  cases move with
  | @goOn state stage allowed =>
      cases stage with
      | inspecting =>
          obtain rfl : operation = .debug := isOf
          rfl
      | _ => exact isOf
  | searchBlank | searchHit | clear | health | stats | current | refresh | snapshot | reset =>
      obtain rfl : _ = operation := isOf
      exact trivial
  | searchOverlong | searchMiss | debug | refuse =>
      obtain rfl : _ = operation := isOf
      exact rfl
  | reported => exact Operation.Brings.expects isOf _
  | debugged =>
      obtain rfl : operation = .debug := isOf
      exact trivial
  | assembled | fail => exact Operation.SearchesFor.expects isOf _
  | _ => exact isOf

theorem Move.leaves (move : Move settings world task before events after)
    (isOf : before.2.IsOf operation) : ∀ event ∈ events, operation.Leaves event := by
  cases move with
  | searchHit | clear | debug | reset =>
      obtain rfl : _ = operation := isOf
      simp [Operation.Leaves, Operation.SearchesFor, Operation.MayDetect]
  | queryAnswered | queryWaits =>
      have mayDetect := Operation.SearchesFor.mayDetect isOf
      simpa [Operation.Leaves] using ⟨isOf, fun _ _ => mayDetect⟩
  | queryLate | queryFailed | queryListed =>
      simpa [Operation.Leaves] using fun _ _ => ⟨_, isOf⟩
  | refreshDemanded | stillStale | noProbeLeft | probeAnswered | probeWaits | probeSucceeded
  | probeFailed | kept | discarded =>
      have mayDetect := Purpose.IsOf.mayDetect isOf
      simp [Operation.Leaves, mayDetect]
  | assembled =>
      intro event membership
      rcases List.mem_append.mp membership with swept | stored
      · obtain ⟨-, rfl⟩ := State.mem_sweepEvents.mp swept
        exact ⟨_, isOf⟩
      · rw [List.mem_singleton.mp stored]
        exact isOf
  | fail =>
      intro event membership
      rw [List.mem_singleton.mp membership]
      exact isOf
  | _ =>
      intro event membership
      exact absurd membership List.not_mem_nil

/-! ### Runs -/

/-- A task keeps to its operation. -/
def carrying (settings : Settings) (world : World) (task : TaskId) (operation : Operation) :
    Course settings world task where
  holds state point :=
    point.IsOf operation ∧ ∀ event ∈ eventsOf state.journal task, operation.Leaves event
  withTasks carries := carries
  pass carries := carries
  own := by
    rintro before after events move - - ⟨isOf, leaves⟩
    refine ⟨move.isOf isOf, ?_⟩
    rw [move.eventsOf_eq]
    intro event membership
    rcases List.mem_append.mp membership with old | new
    · exact leaves event old
    · exact move.leaves isOf event new
  others := by
    rintro before after other events stage move different ⟨isOf, leaves⟩
    refine ⟨isOf, ?_⟩
    rw [move.eventsOf_other different]
    exact leaves

/-- What becomes of a task that begins: it stays with its operation. -/
theorem Begins.carries (holds : (accounted settings world).Holds state)
    (begins : Begins settings world state operation task next)
    (leads : Leads settings world next last) :
    ∃ stage, last.stage? task = some stage ∧ (Point.resting stage).IsOf operation ∧
      ∀ event ∈ eventsOf last.journal task, operation.Leaves event := by
  obtain ⟨tasks, nextTicket, ready, rfl⟩ := begins.exists_ready holds trivial fun _ => trivial
  have starts : (carrying settings world task operation).holds (state.withTasks tasks nextTicket)
      (.beginning operation) := by
    refine ⟨rfl, ?_⟩
    intro event left
    exact absurd left ready.not_mem_eventsOf
  exact Course.follow ready starts (moves_begin _ operation) leads

theorem Begins.leaves (holds : (accounted settings world).Holds state)
    (begins : Begins settings world state operation task next)
    (leads : Leads settings world next last) :
    ∀ event ∈ eventsOf last.journal task, operation.Leaves event := by
  obtain ⟨-, -, -, leaves⟩ := begins.carries holds leads
  exact leaves

theorem Begins.expects {answer : Answer} {time : Nat}
    (holds : (accounted settings world).Holds state)
    (begins : Begins settings world state operation task next)
    (leads : Leads settings world next last)
    (answered : last.answer? task = some (answer, time)) : operation.Expects answer := by
  obtain ⟨stage, waits, isOf, -⟩ := begins.carries holds leads
  have isFinished := waits.symm.trans (State.answer?_eq_some_iff.mp answered)
  obtain rfl := Option.some.inj isFinished
  exact isOf

/-! ### Operations that end at once -/

/-- Nothing has changed but who waits for what, and what the journal says. -/
structure Unchanged (before after : State) : Prop where
  now : after.now = before.now
  cache : after.cache = before.cache
  snapshot : after.snapshot = before.snapshot
  generation : after.generation = before.generation
  gate : after.gate = before.gate
  asked : after.asked = before.asked
  probed : after.probed = before.probed

/-- What is answered as soon as it begins, with a note at most, changes nothing, and is answered for
good. -/
theorem Begins.unchanged_of_finish {answer : Answer} (holds : (accounted settings world).Holds state)
    (begins : Begins settings world state operation task next)
    (ends : ∀ tasks nextTicket, ∃ noted : State, noted.tasks = tasks ∧ Unchanged state noted ∧
      begin settings world (state.withTasks tasks nextTicket) task operation =
        finish noted answer) :
    Unchanged state next ∧
      ∀ last, Leads settings world next last → last.answer? task = some (answer, state.now) := by
  have afterwards : (accounted settings world).Holds next := holds.leads (.single begins.step)
  obtain ⟨tasks, nextTicket, ready, rfl⟩ := begins.exists_ready holds trivial fun _ => trivial
  obtain ⟨noted, rfl, unchanged, atOnce⟩ := ends tasks nextTicket
  rw [atOnce] at afterwards ⊢
  refine ⟨⟨unchanged.now, unchanged.cache, unchanged.snapshot, unchanged.generation,
    unchanged.gate, unchanged.asked, unchanged.probed⟩, ?_⟩
  intro last leads
  rw [← unchanged.now]
  exact answer?_of_finish afterwards ready.present leads

section Goes

variable {before after : State}

theorem Go.exists_begins (go : Go settings world state operation task before after) :
    ∃ next, Begins settings world state operation task next ∧ Leads settings world next after := by
  cases go with
  | first begins => exact ⟨after, begins, .refl⟩
  | later begins leads ready => exact ⟨_, begins, leads.tail (.resume ready)⟩

end Goes

end PackageSearch.Server
