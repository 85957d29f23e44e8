import PackageSearch.Proofs.Server.Chronicle

/-!
# What a task has done

Every task has left the events that lead to the point where it stands. Together with what the
journal says about both caches this is an invariant of all runs.
-/

namespace PackageSearch.Server

variable {journal : List JournalEntry} {generation time : Nat} {task other : TaskId}
  {events : List Event}

/-- The task has sent the query that it has a listing for, and none if it has no listing. -/
def Purpose.IsBacked (journal : List JournalEntry) (task : TaskId) : Purpose → Prop
  | .assemble query _ => .searching query ∈ eventsOf journal task
  | .report | .debug => ∀ query, .searching query ∉ eventsOf journal task

/-- The task has not begun to detect. -/
structure HasNotDetected (journal : List JournalEntry) (task : TaskId) : Prop where
  unstarted : .refreshing ∉ eventsOf journal task
  unended : ∀ snapshot, .detected snapshot ∉ eventsOf journal task

/-- The task is detecting. Its detection is as old as its generation says: a reset has come since it
started exactly if the generation has changed. -/
structure IsDetecting (journal : List JournalEntry) (generation : Nat) (task : TaskId)
    (detection : Detection) : Prop where
  unended : ∀ snapshot, .detected snapshot ∉ eventsOf journal task
  known : detection.generation ≤ generation
  current : .refreshing ∈ eventsOf (sinceReset journal) task ↔ generation = detection.generation

/-- What a task that stands at a point has done. -/
def Stands (journal : List JournalEntry) (generation : Nat) (task : TaskId) : Point → Prop
  | .resting (.scheduled _ _) | .beginning _ | .sending _ => eventsOf journal task = []
  | .resting (.searching query _ _ _) | .received query _ _ =>
      .searching query ∈ eventsOf journal task ∧ HasNotDetected journal task
  | .resting .inspecting => Purpose.debug.IsBacked journal task ∧ HasNotDetected journal task
  | .resting (.queued _ purpose) | .asking purpose | .arriving _ purpose | .entering _ purpose =>
      purpose.IsBacked journal task ∧ HasNotDetected journal task
  | .resting (.probing detection _ _ _ _ purpose) | .trying detection purpose _
  | .hearing detection _ _ _ purpose | .concluding detection _ purpose =>
      purpose.IsBacked journal task ∧ IsDetecting journal generation task detection
  | .delivering snapshot purpose =>
      purpose.IsBacked journal task ∧ ∃ source, source? journal task = some (source, snapshot)
  | .resting (.finished _ _) | .failing _ _ | .answering _ => True

@[simp]
theorem entriesOf_nil (time : Nat) (task : TaskId) : entriesOf time task [] = [] := rfl

@[simp]
theorem eventsOf_entriesOf_self (time : Nat) (task : TaskId) (events : List Event) :
    eventsOf (entriesOf time task events) task = events := by
  simp [eventsOf, entriesOf, List.filter_map, Function.comp_def]

theorem eventsOf_entriesOf_other (time : Nat) (events : List Event) (different : other ≠ task) :
    eventsOf (entriesOf time task events) other = [] := by
  simp [eventsOf, entriesOf, List.filter_map, Function.comp_def, Ne.symm different]

theorem eventsOf_append_self (journal : List JournalEntry) (time : Nat) (task : TaskId)
    (events : List Event) :
    eventsOf (journal ++ entriesOf time task events) task = eventsOf journal task ++ events := by
  rw [eventsOf_append, eventsOf_entriesOf_self]

theorem eventsOf_append_other (different : other ≠ task) :
    eventsOf (journal ++ entriesOf time task events) other = eventsOf journal other := by
  rw [eventsOf_append, eventsOf_entriesOf_other _ _ different, List.append_nil]

/-- A task leaves its events after its earlier ones. -/
theorem Move.eventsOf_eq (move : Move settings world task before events after) :
    eventsOf after.1.journal task = eventsOf before.1.journal task ++ events := by
  rw [move.journal_eq, eventsOf_append_self]

theorem Move.eventsOf_other (move : Move settings world task before events after)
    (different : other ≠ task) :
    eventsOf after.1.journal other = eventsOf before.1.journal other := by
  rw [move.journal_eq, eventsOf_append_other different]

theorem mem_entriesOf {entry : JournalEntry} :
    entry ∈ entriesOf time task events ↔ ∃ event ∈ events, entry = ⟨time, task, event⟩ := by
  simp [entriesOf, eq_comm]

theorem mem_append_entriesOf {moment : Nat} {author : TaskId} {event : Event} :
    ⟨moment, author, event⟩ ∈ journal ++ entriesOf time task events ↔
      ⟨moment, author, event⟩ ∈ journal ∨ moment = time ∧ author = task ∧ event ∈ events := by
  simp only [List.mem_append, mem_entriesOf, JournalEntry.mk.injEq]
  grind

theorem Purpose.IsBacked.append {purpose : Purpose} (backed : purpose.IsBacked journal task)
    (unsent : ∀ query, .searching query ∉ events) :
    purpose.IsBacked (journal ++ entriesOf time task events) task := by
  cases purpose <;> simp_all [Purpose.IsBacked]

/-- The entries of events that reset nothing. -/
theorem noReset_of_not_mem (absent : .snapshotReset ∉ events) :
    ∀ entry ∈ entriesOf time task events, entry.event ≠ .snapshotReset := by
  intro entry membership resets
  obtain ⟨event, left, rfl⟩ := mem_entriesOf.mp membership
  apply absent
  exact resets ▸ left

/-! ### Quiet events -/

section Quiet

variable (quiet : ∀ event ∈ events, event.IsQuiet)

include quiet

theorem unsent_of_quiet (query : String) : .searching query ∉ events :=
  fun sent => quiet _ sent

theorem unstarted_of_quiet : .refreshing ∉ events :=
  fun started => quiet _ started

theorem unended_of_quiet (snapshot : Snapshot) : .detected snapshot ∉ events :=
  fun ended => quiet _ ended

theorem HasNotDetected.append (notDetected : HasNotDetected journal task) :
    HasNotDetected (journal ++ entriesOf time task events) task := by
  constructor
  · simpa using ⟨notDetected.unstarted, unstarted_of_quiet quiet⟩
  · intro snapshot
    simpa using ⟨notDetected.unended snapshot, unended_of_quiet quiet snapshot⟩

theorem IsDetecting.append {detection : Detection}
    (detecting : IsDetecting journal generation task detection) :
    IsDetecting (journal ++ entriesOf time task events)
      (generation + events.count .snapshotReset) task detection := by
  have noReset : .snapshotReset ∉ events := fun resets => quiet _ resets
  rw [List.count_eq_zero.mpr noReset, Nat.add_zero]
  refine ⟨?_, detecting.known, ?_⟩
  · intro snapshot
    simpa using ⟨detecting.unended snapshot, unended_of_quiet quiet snapshot⟩
  · rw [sinceReset_append_of_noReset _ (noReset_of_not_mem noReset)]
    simpa [unstarted_of_quiet quiet] using detecting.current

end Quiet

/-! ### Events of other tasks -/

theorem IsDetecting.undisturbed {detection : Detection}
    (detecting : IsDetecting journal generation other detection) (different : other ≠ task) :
    IsDetecting (journal ++ entriesOf time task events)
      (generation + events.count .snapshotReset) other detection := by
  refine ⟨?_, Nat.le_trans detecting.known (Nat.le_add_right _ _), ?_⟩
  · simpa [eventsOf_entriesOf_other time events different] using detecting.unended
  · by_cases resets : .snapshotReset ∈ events
    · -- From now on neither side holds: the detection is older than the latest reset.
      have entry : ∃ entry ∈ entriesOf time task events, entry.event = .snapshotReset :=
        ⟨⟨time, task, .snapshotReset⟩, mem_entriesOf.mpr ⟨_, resets, rfl⟩, rfl⟩
      have positive : 0 < events.count .snapshotReset := List.count_pos_iff.mpr resets
      have known := detecting.known
      have absent : ∀ entry ∈ sinceReset (entriesOf time task events), entry.task ≠ other := by
        intro entry membership
        obtain ⟨_, _, rfl⟩ := mem_entriesOf.mp ((List.rtakeWhile_suffix _ _).subset membership)
        exact different.symm
      rw [sinceReset_append_of_reset _ entry, eventsOf_eq_nil absent]
      simp only [List.not_mem_nil, false_iff]
      omega
    · rw [sinceReset_append_of_noReset _ (noReset_of_not_mem resets),
        List.count_eq_zero.mpr resets]
      simpa [eventsOf_entriesOf_other time events different] using detecting.current

theorem Stands.undisturbed {stage : Stage}
    (stands : Stands journal generation other (.resting stage)) (different : other ≠ task) :
    Stands (journal ++ entriesOf time task events) (generation + events.count .snapshotReset)
      other (.resting stage) := by
  have sameEvents : eventsOf (journal ++ entriesOf time task events) other =
      eventsOf journal other := eventsOf_append_other different
  have sameBacking (purpose : Purpose) (backed : purpose.IsBacked journal other) :
      purpose.IsBacked (journal ++ entriesOf time task events) other := by
    cases purpose <;> simpa only [Purpose.IsBacked, sameEvents] using backed
  have stillUndetected (notDetected : HasNotDetected journal other) :
      HasNotDetected (journal ++ entriesOf time task events) other := by
    refine ⟨?_, ?_⟩
    · simpa only [sameEvents] using notDetected.unstarted
    · simpa only [sameEvents] using notDetected.unended
  cases stage with
  | scheduled operation start => exact sameEvents.trans stands
  | searching query wake outcome notes =>
      exact ⟨sameEvents.symm ▸ stands.1, stillUndetected stands.2⟩
  | inspecting => exact ⟨sameBacking _ stands.1, stillUndetected stands.2⟩
  | queued demand purpose => exact ⟨sameBacking _ stands.1, stillUndetected stands.2⟩
  | probing detection name wake outcome remaining purpose =>
      exact ⟨sameBacking _ stands.1, stands.2.undisturbed different⟩
  | finished answer ended => trivial

/-! ### Moves -/

variable {settings : Settings} {world : World} {before after : State × Point}

/-- There is no snapshot, or it is the kept one. -/
theorem Chronicled.snapshot_cases {state : State} (chronicled : Chronicled settings state) :
    state.snapshot = Snapshot.empty ∨
      ∃ source, (keepingIn state.journal).kept = some (source, state.snapshot) := by
  have same := chronicled.snapshot
  cases kept : (keepingIn state.journal).kept with
  | none =>
      left
      simpa [Keeping.snapshot, kept] using same
  | some pair =>
      rcases pair with ⟨source, snapshot⟩
      have sameSnapshot : state.snapshot = snapshot := by
        simpa [Keeping.snapshot, kept] using same
      exact .inr ⟨source, by rw [sameSnapshot]⟩

/-- A snapshot that is not stale is the kept one. -/
theorem Chronicled.exists_kept_of_fresh {state : State} (chronicled : Chronicled settings state)
    {moment : Nat} (fresh : state.snapshot.isStale settings.installedTtl moment = false) :
    ∃ source, (keepingIn state.journal).kept = some (source, state.snapshot) := by
  rcases chronicled.snapshot_cases with isEmpty | kept
  · rw [isEmpty] at fresh
    cases fresh
  · exact kept

/-- A task that delivers without having detected has the kept snapshot. -/
theorem source?_of_kept {source : TaskId} {snapshot : Snapshot}
    (notDetected : HasNotDetected journal task)
    (kept : (keepingIn journal).kept = some (source, snapshot)) :
    source? journal task = some (source, snapshot) := by
  rw [source?, detected?_eq_none notDetected.unended]
  exact kept

/-- A task that has just detected delivers what it has found. -/
theorem source?_of_detected {snapshot : Snapshot}
    (unended : ∀ snapshot, .detected snapshot ∉ eventsOf journal task) :
    source? (journal ++ entriesOf time task (.detected snapshot :: events)) task =
      some (task, snapshot) := by
  have ownNone : (eventsOf journal task).findSome? Event.found? = none :=
    detected?_eq_none unended
  have ownNew : detected? (journal ++ entriesOf time task (.detected snapshot :: events)) task =
      some snapshot := by
    simp [detected?, List.findSome?_append, ownNone, List.findSome?_cons, Event.found?]
  rw [source?, ownNew]

theorem HasNotDetected.of_eq_nil (idle : eventsOf journal task = []) :
    HasNotDetected journal task :=
  ⟨by simp [idle], by simp [idle]⟩

theorem Purpose.isBacked_of_eq_nil (idle : eventsOf journal task = []) :
    Purpose.report.IsBacked journal task ∧ Purpose.debug.IsBacked journal task :=
  ⟨fun query => by simp [idle], fun query => by simp [idle]⟩

/-- A task that has sent its query, with the commands that this starts. -/
theorem sent_of_eq_nil {query : String} {commands : List Host.Command}
    (idle : eventsOf journal task = []) :
    .searching query ∈ eventsOf
        (journal ++ entriesOf time task (.searching query :: commands.map .commandStarted)) task ∧
      HasNotDetected
        (journal ++ entriesOf time task (.searching query :: commands.map .commandStarted)) task :=
  ⟨by simp, by simp [idle], by simp [idle]⟩

/-- A task that starts a detection. -/
theorem started_of_hasNotDetected {purpose : Purpose} (backed : purpose.IsBacked journal task)
    (notDetected : HasNotDetected journal task) (startedAt : Nat) :
    purpose.IsBacked (journal ++ entriesOf time task [.refreshing]) task ∧
      IsDetecting (journal ++ entriesOf time task [.refreshing]) generation task
        { startedAt, generation } := by
  refine ⟨?_, ?_, Nat.le_refl _, ?_⟩
  · exact backed.append (by simp)
  · simpa using notDetected.unended
  · rw [sinceReset_append_of_noReset _ (by simp [entriesOf])]
    simp

/-- A move leaves the events that belong to the point to which it leads. -/
theorem Move.stands (move : Move settings world task before events after)
    (chronicled : Chronicled settings before.1)
    (stands : Stands before.1.journal before.1.generation task before.2) :
    Stands after.1.journal after.1.generation task after.2 := by
  rw [move.journal_eq, move.generation_eq]
  cases move with
  | searchBlank | searchOverlong | searchHit | clear | health | stats | refuse | snapshot
  | reset | queryLate | queryFailed | reported | debugged | unassembled | assembled | fail
  | answer => trivial
  | @goOn state stage allowed =>
      rw [entriesOf_nil, List.append_nil]
      cases stage <;> exact stands
  | searchMiss =>
      rw [entriesOf_nil, List.append_nil]
      exact stands
  | debug =>
      have quiet := quiet_commands world.environmentCommands
      exact ⟨(Purpose.isBacked_of_eq_nil stands).2.append (unsent_of_quiet quiet),
        (HasNotDetected.of_eq_nil stands).append quiet⟩
  | current | refresh =>
      rw [entriesOf_nil, List.append_nil]
      exact ⟨(Purpose.isBacked_of_eq_nil stands).1, .of_eq_nil stands⟩
  | queryAnswered | queryWaits => exact sent_of_eq_nil stands
  | @queryListed state query listing notes =>
      have backed : (Purpose.assemble query listing).IsBacked state.journal task := stands.1
      have quiet := quiet_notes notes
      exact ⟨backed.append (unsent_of_quiet quiet), stands.2.append quiet⟩
  | stale | gateFree | gateTaken =>
      rw [entriesOf_nil, List.append_nil]
      exact stands
  | fresh notStale | broughtMeanwhile notStale =>
      rw [entriesOf_nil, List.append_nil]
      obtain ⟨source, kept⟩ := chronicled.exists_kept_of_fresh notStale
      exact ⟨stands.1, source, source?_of_kept stands.2 kept⟩
  | refreshDemanded | stillStale => exact started_of_hasNotDetected stands.1 stands.2 _
  | noProbeLeft | probeSucceeded | probeFailed =>
      exact ⟨stands.1.append (by simp), stands.2.append (quiet_singleton (by trivial))⟩
  | probeAnswered | probeWaits =>
      exact ⟨stands.1.append (by simp), stands.2.append (quiet_tried _ _)⟩
  | kept | discarded =>
      exact ⟨stands.1.append (by simp), task, source?_of_detected stands.2.unended⟩

/-- A move keeps the journal in order, and both caches with it. -/
theorem Move.chronicled (move : Move settings world task before events after)
    (present : task < before.1.tasks.length) (chronicled : Chronicled settings before.1)
    (stands : Stands before.1.journal before.1.generation task before.2) :
    Chronicled settings after.1 := by
  cases move with
  | goOn | searchBlank | searchOverlong | searchMiss | health | stats | refuse | current | refresh
  | snapshot | stale | fresh | reported | debugged | unassembled | answer => exact chronicled
  | searchHit | noProbeLeft | probeSucceeded | probeFailed | fail =>
      exact chronicled.note present (by trivial)
  | debug => exact chronicled.noteAll present (quiet_commands _)
  | queryLate | queryFailed | queryListed => exact chronicled.noteAll present (quiet_notes _)
  | clear => exact chronicled.clear present
  | reset => exact chronicled.resetSnapshot present
  | queryAnswered | queryWaits => exact chronicled.noteQuery present stands
  | gateFree | gateTaken => exact chronicled.lined
  | refreshDemanded | stillStale => exact chronicled.startDetection present stands.2.unstarted
  | broughtMeanwhile => exact chronicled.leaveGate
  | probeAnswered | probeWaits => exact chronicled.noteProbe present
  | kept current =>
      exact (chronicled.keepDetected present _ (stands.2.current.mpr current)).leaveGate
  | @discarded state detection names purpose overtaken =>
      have dropped := chronicled.dropDetected present (state.captured names)
        fun current => overtaken (stands.2.current.mp current)
      exact (dropped.note present (by trivial)).leaveGate
  | assembled assembled =>
      rcases stands with ⟨sent, source, found⟩
      exact chronicled.store present ⟨sent, source, _, _, found, assembled⟩

/-- The journal accounts for both caches, and for all tasks. -/
def accounted (settings : Settings) (world : World) : Invariant settings world where
  common := Chronicled settings
  standing state task point := Stands state.journal state.generation task point
  common_withTasks grown chronicled := chronicled.withTasks grown
  standing_withTasks stands := stands
  common_pass _ ordered chronicled := chronicled.pass ordered
  standing_pass _ _ _ stands := stands
  announced _ chronicled := chronicled.eventsOf_new
  move move present _ chronicled stands :=
    ⟨move.chronicled present chronicled stands, move.stands chronicled stands⟩
  undisturbed move different _ _ stands := by
    rw [move.journal_eq, move.generation_eq]
    exact stands.undisturbed different

theorem Reachable.accounted {state : State} (reachable : Reachable settings world state) :
    (accounted settings world).Holds state := by
  have started : (Server.accounted settings world).Holds State.initial :=
    ⟨Chronicled.initial, fun waits => by simp [State.stage?, State.initial] at waits⟩
  exact started.leads reachable.leads

/-- A task that begins has left nothing in the journal. -/
theorem Invariant.HoldsWhile.not_mem_eventsOf {state : State} {task : TaskId}
    {operation : Operation} {event : Event}
    (ready : (accounted settings world).HoldsWhile task (state, .beginning operation)) :
    event ∉ eventsOf state.journal task := by
  have idle : eventsOf state.journal task = [] := ready.moving
  rw [idle]
  exact List.not_mem_nil

end PackageSearch.Server
