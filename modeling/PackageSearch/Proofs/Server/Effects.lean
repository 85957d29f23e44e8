import PackageSearch.Proofs.Server.Contents

/-!
# What the events of a task tell

Whatever a task changes when it goes on, apart from who waits for what, can be read off the events
that it leaves. In particular the cache is what the journal makes of an empty one, so that a task
that neither stores nor clears anything might as well not have been there.
-/

namespace PackageSearch

/-- The event changes the cache of responses. -/
def Event.ChangesCache : Event → Prop
  | .responseStored _ _ | .cacheCleared _ => True
  | _ => False

namespace Server

variable {settings : Settings} {world : World} {state next last : State} {task : TaskId}
  {operation : Operation} {events more : List Event} {journal : List JournalEntry}

/-! ### The cache as the journal has it -/

/-- What an entry of the journal does to the cache. -/
def replayEntry (policy : CachePolicy) (cache : Cache) (entry : JournalEntry) : Cache :=
  match entry.event with
  | .responseStored query response => (cache.put policy entry.time (.ofQuery query) response).1
  | .cacheCleared _ => Cache.empty
  | _ => cache

/-- What the entries of a journal make of a cache, one after the other. -/
def replay (policy : CachePolicy) (cache : Cache) (journal : List JournalEntry) : Cache :=
  journal.foldl (replayEntry policy) cache

theorem replay_append (policy : CachePolicy) (cache : Cache) (journal more : List JournalEntry) :
    replay policy cache (journal ++ more) = replay policy (replay policy cache journal) more :=
  List.foldl_append

theorem replayEntry_eq {policy : CachePolicy} {cache : Cache} {entry : JournalEntry}
    (silent : ¬entry.event.ChangesCache) : replayEntry policy cache entry = cache := by
  unfold replayEntry
  cases same : entry.event with
  | responseStored | cacheCleared =>
      rw [same] at silent
      exact absurd trivial silent
  | _ => rfl

theorem replay_eq {policy : CachePolicy} {cache : Cache}
    (silent : ∀ entry ∈ journal, ¬entry.event.ChangesCache) :
    replay policy cache journal = cache := by
  induction journal with
  | nil => rfl
  | cons first rest inductionHypothesis =>
      have others : ∀ entry ∈ rest, ¬entry.event.ChangesCache := fun entry membership =>
        silent entry (List.mem_cons_of_mem _ membership)
      rw [replay, List.foldl_cons, replayEntry_eq (silent first List.mem_cons_self)]
      exact inductionHypothesis others

/-- Entries that do not change the cache may be left out. -/
theorem replay_filter {policy : CachePolicy} {cache : Cache} {keeps : JournalEntry → Bool}
    (silent : ∀ entry ∈ journal, keeps entry = false → ¬entry.event.ChangesCache) :
    replay policy cache (journal.filter keeps) = replay policy cache journal := by
  induction journal generalizing cache with
  | nil => rfl
  | cons first rest inductionHypothesis =>
      have others : ∀ entry ∈ rest, keeps entry = false → ¬entry.event.ChangesCache :=
        fun entry membership => silent entry (List.mem_cons_of_mem _ membership)
      cases kept : keeps first with
      | true =>
          rw [List.filter_cons_of_pos kept]
          exact inductionHypothesis others
      | false =>
          have unchanged := silent first List.mem_cons_self kept
          rw [List.filter_cons_of_neg (by simp [kept]), inductionHypothesis others, replay, replay,
            List.foldl_cons, replayEntry_eq unchanged]

/-! ### What events tell of two states -/

/-- The second state is what the events make of the first, if a task leaves them at one moment. -/
structure Tells (settings : Settings) (task : TaskId) (events : List Event)
    (before after : State) : Prop where
  now : after.now = before.now
  journal : after.journal = before.journal ++ entriesOf before.now task events
  cache : after.cache = replay settings.cache before.cache (entriesOf before.now task events)
  generation : after.generation = before.generation + events.count .snapshotReset
  snapshot : .snapshotReset ∉ events →
    after.snapshot = before.snapshot ∨ .detected after.snapshot ∈ events
  captured : ∀ found, .detected found ∈ events → found.capturedAt = some before.now
  asked : after.asked = before.asked ++ events.filterMap Event.sent?
  probed : (∀ name, .probeTried name ∉ events) → after.probed = before.probed

namespace Tells

variable {before middle after : State}

theorem refl (before : State) : Tells settings task [] before before where
  now := rfl
  journal := (List.append_nil _).symm
  cache := rfl
  generation := rfl
  snapshot _ := .inl rfl
  captured _ membership := absurd membership List.not_mem_nil
  asked := (List.append_nil _).symm
  probed _ := rfl

theorem trans (first : Tells settings task events before middle)
    (second : Tells settings task more middle after) :
    Tells settings task (events ++ more) before after where
  now := second.now.trans first.now
  journal := by
    rw [second.journal, first.journal, first.now]
    simp [entriesOf]
  cache := by
    rw [second.cache, first.cache, first.now, ← replay_append]
    simp [entriesOf]
  generation := by
    rw [second.generation, first.generation, List.count_append, Nat.add_assoc]
  snapshot := by
    intro noReset
    simp only [List.mem_append, not_or] at noReset ⊢
    rcases second.snapshot noReset.2 with same | detected
    · rw [same]
      exact (first.snapshot noReset.1).imp id .inl
    · exact .inr (.inr detected)
  captured := by
    intro found membership
    rcases List.mem_append.mp membership with old | new
    · exact first.captured found old
    · exact first.now ▸ second.captured found new
  asked := by
    rw [second.asked, first.asked, List.filterMap_append, List.append_assoc]
  probed := by
    intro untried
    simp only [List.mem_append, not_or] at untried
    rw [second.probed fun name => (untried name).2, first.probed fun name => (untried name).1]

/-- Who waits for what is not told. -/
theorem withTasks (tells : Tells settings task events before after) (tasks tasksAfter : List Task)
    (nextTicket nextTicketAfter : Nat) :
    Tells settings task events (before.withTasks tasks nextTicket)
      (after.withTasks tasksAfter nextTicketAfter) :=
  ⟨tells.now, tells.journal, tells.cache, tells.generation, tells.snapshot, tells.captured,
    tells.asked, tells.probed⟩

theorem cache_eq (tells : Tells settings task events before after)
    (silent : ∀ event ∈ events, ¬event.ChangesCache) : after.cache = before.cache := by
  rw [tells.cache]
  apply replay_eq
  intro entry membership
  obtain ⟨event, left, rfl⟩ := mem_entriesOf.mp membership
  exact silent event left

theorem snapshot_eq (tells : Tells settings task events before after)
    (noReset : .snapshotReset ∉ events) (unended : ∀ found, .detected found ∉ events) :
    after.snapshot = before.snapshot :=
  (tells.snapshot noReset).resolve_right (unended _)

theorem generation_eq (tells : Tells settings task events before after)
    (noReset : .snapshotReset ∉ events) : after.generation = before.generation := by
  rw [tells.generation, List.count_eq_zero.mpr noReset, Nat.add_zero]

theorem subset_eventsOf (tells : Tells settings task events before after) :
    events ⊆ eventsOf after.journal task := by
  intro event membership
  rw [tells.journal, eventsOf_append_self]
  exact List.mem_append_right _ membership

end Tells

/-! ### Moves -/

section Moves

variable {before after : State × Point}

theorem replay_noted {policy : CachePolicy} {cache : Cache} {time : Nat}
    (silent : ∀ event ∈ events, ¬event.ChangesCache) :
    replay policy cache (entriesOf time task events) = cache := by
  apply replay_eq
  intro entry membership
  obtain ⟨event, left, rfl⟩ := mem_entriesOf.mp membership
  exact silent event left

theorem Move.cache_eq (move : Move settings world task before events after) :
    after.1.cache =
      replay settings.cache before.1.cache (entriesOf before.1.now task events) := by
  cases move with
  | clear => rfl
  | @assembled state snapshot query listing response =>
      have swept : ∀ event ∈ State.sweepEvents
          (state.cache.put settings.cache state.now (.ofQuery query) response).2,
          ¬event.ChangesCache := by
        simp [Event.ChangesCache]
      have unswept : replay settings.cache state.cache (entriesOf state.now task _) = state.cache :=
        replay_noted swept
      rw [entriesOf, List.map_append, replay_append]
      exact congrArg (replay settings.cache · [⟨state.now, task, .responseStored query response⟩])
        unswept.symm
  | broughtMeanwhile => exact State.leaveGate_cache _
  | kept | discarded =>
      rw [State.leaveGate_cache]
      rfl
  | debug | queryAnswered | queryWaits | queryLate | queryFailed | queryListed | probeAnswered
  | probeWaits =>
      refine (replay_noted ?_).symm
      simp [Event.ChangesCache]
  | _ => rfl

theorem Move.snapshot_told (move : Move settings world task before events after)
    (noReset : .snapshotReset ∉ events) :
    after.1.snapshot = before.1.snapshot ∨ .detected after.1.snapshot ∈ events := by
  cases move with
  | clear | reset => exact absurd List.mem_cons_self noReset
  | broughtMeanwhile => exact .inl (State.leaveGate_snapshot _)
  | kept =>
      right
      rw [State.leaveGate_snapshot]
      exact List.mem_cons_self
  | discarded => exact .inl (State.leaveGate_snapshot _)
  | _ => exact .inl rfl

theorem Move.asked_eq (move : Move settings world task before events after) :
    after.1.asked = before.1.asked ++ events.filterMap Event.sent? := by
  cases move with
  | broughtMeanwhile | kept | discarded =>
      rw [State.leaveGate_asked]
      exact (List.append_nil _).symm
  | @assembled state snapshot query listing response =>
      have swept : (State.sweepEvents (state.cache.put settings.cache state.now (.ofQuery query)
          response).2).filterMap Event.sent? = [] := by
        unfold State.sweepEvents
        split <;> rfl
      rw [List.filterMap_append, swept]
      exact (List.append_nil _).symm
  | _ => simp [State.note, State.noteAll, State.clear, State.resetSnapshot, State.noteQuery,
      State.noteProbe, State.lined, Event.sent?]

theorem Move.probed_eq (move : Move settings world task before events after)
    (untried : ∀ name, .probeTried name ∉ events) : after.1.probed = before.1.probed := by
  cases move with
  | probeAnswered | probeWaits => exact absurd List.mem_cons_self (untried _)
  | broughtMeanwhile | kept | discarded => exact State.leaveGate_probed _
  | _ => rfl

theorem Move.tells (move : Move settings world task before events after) :
    Tells settings task events before.1 after.1 where
  now := move.now_eq
  journal := move.journal_eq
  cache := move.cache_eq
  generation := move.generation_eq
  snapshot := move.snapshot_told
  captured _ := move.capturedAt_of_detected
  asked := move.asked_eq
  probed := move.probed_eq

theorem Moves.exists_tells (moves : Moves settings world task before after) :
    ∃ events, Tells settings task events before.1 after.1 := by
  induction moves with
  | refl => exact ⟨[], .refl _⟩
  | tail _ last inductionHypothesis =>
      obtain ⟨events, tells⟩ := inductionHypothesis
      obtain ⟨-, more, move⟩ := last
      exact ⟨events ++ more, tells.trans move.tells⟩

end Moves

/-! ### Goes -/

/-- A task that begins an operation in a state goes on from one state to the next: it begins, or goes
on from where it waits. -/
inductive Go (settings : Settings) (world : World) (state : State) (operation : Operation)
    (task : TaskId) : State → State → Prop where
  | first {next : State} :
      Begins settings world state operation task next →
        Go settings world state operation task state next
  | later {next before : State} :
      Begins settings world state operation task next → Leads settings world next before →
        before.isReady task = true →
          Go settings world state operation task before (before.resume settings world task)

theorem exists_tells_resume (state : State) (task : TaskId) :
    ∃ events, Tells settings task events state (state.resume settings world task) := by
  unfold State.resume
  split
  · exact ⟨[], .refl state⟩
  · rename_i stage ticket present
    have moves : Moves settings world task _ _ := moves_proceed state stage
    obtain ⟨events, tells⟩ := moves.exists_tells
    exact ⟨events, tells.withTasks state.tasks _ state.nextTicket _⟩

theorem exists_tells_spawn (state : State) (operation : Operation) :
    ∃ events, Tells settings state.tasks.length events state
      (state.spawn settings world operation) := by
  have moves : Moves settings world state.tasks.length _ _ :=
    moves_begin (state.arrived operation) operation
  obtain ⟨events, tells⟩ := moves.exists_tells
  exact ⟨events, tells.withTasks state.tasks _ state.nextTicket _⟩

theorem Begins.exists_tells (begins : Begins settings world state operation task next) :
    ∃ events, Tells settings task events state next := by
  cases begins with
  | arriving => exact exists_tells_spawn state operation
  | due => exact exists_tells_resume state task

theorem Go.exists_tells {before after : State}
    (go : Go settings world state operation task before after) :
    ∃ events, Tells settings task events before after := by
  cases go with
  | first begins => exact begins.exists_tells
  | later => exact exists_tells_resume before task

theorem Go.leads {before after : State}
    (go : Go settings world state operation task before after) :
    Leads settings world state after := by
  cases go with
  | first begins => exact .single begins.step
  | later begins leads ready =>
      exact .tail (.head begins.step leads) (.resume ready)

/-! ### The cache of a run -/

/-- The cache is what the journal makes of an empty one. -/
def replaying (settings : Settings) (world : World) : Invariant settings world where
  common state := state.cache = replay settings.cache Cache.empty state.journal
  standing _ _ _ := True
  common_withTasks _ same := same
  standing_withTasks _ := trivial
  common_pass _ _ same := same
  standing_pass _ _ _ _ := trivial
  announced _ _ := trivial
  move {before after _ _} move _ _ same _ := by
    refine ⟨?_, trivial⟩
    have told := move.tells
    calc after.1.cache
      _ = replay settings.cache before.1.cache _ := told.cache
      _ = replay settings.cache (replay settings.cache Cache.empty before.1.journal) _ := by
        rw [same]
      _ = replay settings.cache Cache.empty after.1.journal := by
        rw [told.journal, replay_append]
  undisturbed _ _ _ _ _ := trivial

theorem Reachable.cache_eq_replay (reachable : Reachable settings world state) :
    state.cache = replay settings.cache Cache.empty state.journal := by
  have started : (replaying settings world).Holds State.initial := ⟨rfl, fun _ => trivial⟩
  exact (started.leads reachable.leads).common

/-- A task that has neither stored nor cleared anything might as well not have been there. -/
theorem Reachable.cache_eq_replay_others (reachable : Reachable settings world state)
    (silent : ∀ event ∈ eventsOf state.journal task, ¬event.ChangesCache) :
    state.cache = replay settings.cache Cache.empty
      (state.journal.filter fun entry => entry.task ≠ task) := by
  rw [reachable.cache_eq_replay, replay_filter]
  intro entry membership own
  have same : entry.task = task := by simpa using own
  exact silent entry.event (mem_eventsOf.mpr ⟨entry.time, same ▸ membership⟩)

end Server

end PackageSearch
