import PackageSearch.Proofs.Server.Invariant
import PackageSearch.Proofs.Server.Journal

/-!
# The journal and the state agree

Both caches hold what the journal says they hold, and an entry of the journal tells what its task
has done before.
-/

namespace PackageSearch

def Event.sent? : Event → Option String
  | .searching query => some query
  | _ => none

/-- Events that change neither the caches nor the number of queries sent, and that ask for nothing
to have happened before. -/
def Event.IsQuiet : Event → Prop
  | .searching _ | .responseStored _ _ | .cacheCleared _ | .refreshing | .detected _
  | .snapshotReset => False
  | _ => True

namespace Server

theorem quiet_singleton {event : Event} (quiet : event.IsQuiet) :
    ∀ other ∈ [event], other.IsQuiet := by
  simpa using quiet

theorem quiet_commands (commands : List Host.Command) :
    ∀ event ∈ commands.map Event.commandStarted, event.IsQuiet := by
  simp [Event.IsQuiet]

theorem quiet_notes (notes : List LogLine) :
    ∀ event ∈ notes.map Event.queryNote, event.IsQuiet := by
  simp [Event.IsQuiet]

theorem quiet_tried (name : String) (commands : List Host.Command) :
    ∀ event ∈ Event.probeTried name :: commands.map Event.commandStarted, event.IsQuiet := by
  simp [Event.IsQuiet]

/-- What an entry says about those before it. A task sends one query and starts one detection, and
a response is stored by the task that sent its query, put together with what the last detection
known to the task has found. -/
def Fits (settings : Settings) (earlier : List JournalEntry) (entry : JournalEntry) : Prop :=
  match entry.event with
  | .searching _ => eventsOf earlier entry.task = []
  | .refreshing => .refreshing ∉ eventsOf earlier entry.task
  | .responseStored query response =>
      .searching query ∈ eventsOf earlier entry.task ∧
        ∃ source snapshot listing, source? earlier entry.task = some (source, snapshot) ∧
          assemble settings.limits listing snapshot = .ok response
  | _ => True

theorem source?_note (state : State) {task : TaskId} {event : Event} (quiet : event.IsQuiet)
    (other : TaskId) :
    source? (state.note task event).journal other = source? state.journal other := by
  have sameKeeping : keepingIn (state.note task event).journal = keepingIn state.journal := by
    simp only [State.note, keepingIn_concat]
    cases event with
    | refreshing | detected | snapshotReset => exact quiet.elim
    | _ => rfl
  have sameDetected : detected? (state.note task event).journal other =
      detected? state.journal other := by
    simp only [State.note, detected?, eventsOf_concat]
    split
    · cases event with
      | detected => exact quiet.elim
      | _ => simp [Event.found?]
    · rfl
  rw [source?, source?, sameKeeping, sameDetected]

theorem source?_noteAll (state : State) {task : TaskId} {events : List Event}
    (quiet : ∀ event ∈ events, event.IsQuiet) (other : TaskId) :
    source? (state.noteAll task events).journal other = source? state.journal other := by
  induction events generalizing state with
  | nil => simp [State.noteAll]
  | cons first rest inductionHypothesis =>
      rw [State.noteAll_cons, inductionHypothesis _ fun event membership =>
        quiet event (List.mem_cons_of_mem _ membership)]
      exact source?_note state (quiet first List.mem_cons_self) other

/-- The journal is in order, and it accounts for both caches. -/
structure Chronicled (settings : Settings) (state : State) : Prop where
  authors : ∀ entry ∈ state.journal, entry.task < state.tasks.length
  past : ∀ entry ∈ state.journal, entry.time ≤ state.now
  ordered : state.journal.Pairwise fun earlier later => earlier.time ≤ later.time
  asked : state.asked = state.journal.filterMap fun entry => entry.event.sent?
  cache : state.cache.Reflects (storedIn state.journal) settings.cache.ttl state.now
  snapshot : state.snapshot = (keepingIn state.journal).snapshot
  fitting : ∀ earlier entry later, state.journal = earlier ++ entry :: later →
    Fits settings earlier entry

namespace Chronicled

variable {settings : Settings} {state before after : State} {task : TaskId} {event : Event}

theorem initial : Chronicled settings State.initial where
  authors := by simp [State.initial]
  past := by simp [State.initial]
  ordered := by simp [State.initial]
  asked := rfl
  cache := Cache.Reflects.empty
  snapshot := rfl
  fitting := by simp [State.initial]

theorem eventsOf_new (chronicled : Chronicled settings state) :
    eventsOf state.journal state.tasks.length = [] :=
  eventsOf_eq_nil fun entry membership => Nat.ne_of_lt (chronicled.authors entry membership)

theorem withTasks {tasks : List Task} {nextTicket : Nat} (chronicled : Chronicled settings state)
    (grown : state.tasks.length ≤ tasks.length) :
    Chronicled settings (state.withTasks tasks nextTicket) :=
  ⟨fun entry membership => Nat.lt_of_lt_of_le (chronicled.authors entry membership) grown,
    chronicled.past, chronicled.ordered, chronicled.asked, chronicled.cache, chronicled.snapshot,
    chronicled.fitting⟩

theorem pass {later : Nat} (chronicled : Chronicled settings state) (ordered : state.now ≤ later) :
    Chronicled settings { state with now := later } :=
  ⟨chronicled.authors,
    fun entry membership => Nat.le_trans (chronicled.past entry membership) ordered,
    chronicled.ordered, chronicled.asked, chronicled.cache.later ordered, chronicled.snapshot,
    chronicled.fitting⟩

theorem lined (chronicled : Chronicled settings state) :
    Chronicled settings (state.lined task) :=
  ⟨chronicled.authors, chronicled.past, chronicled.ordered, chronicled.asked, chronicled.cache,
    chronicled.snapshot, chronicled.fitting⟩

theorem leaveGate (chronicled : Chronicled settings state) :
    Chronicled settings state.leaveGate where
  authors := by
    simpa using chronicled.authors
  past := by simpa using chronicled.past
  ordered := by simpa using chronicled.ordered
  asked := by simpa using chronicled.asked
  cache := by simpa using chronicled.cache
  snapshot := by simpa using chronicled.snapshot
  fitting := by simpa using chronicled.fitting

/-- One more entry of a task, with what it makes of the caches. -/
theorem append (chronicled : Chronicled settings before) (present : task < before.tasks.length)
    (sameTime : after.now = before.now) (sameLength : after.tasks.length = before.tasks.length)
    (grown : after.journal = before.journal ++ [⟨before.now, task, event⟩])
    (asked : after.asked = before.asked ++ event.sent?.toList)
    (cache : after.cache.Reflects
      (noteInLog (storedIn before.journal) ⟨before.now, task, event⟩) settings.cache.ttl
      before.now)
    (snapshot : after.snapshot =
      ((keepingIn before.journal).note ⟨before.now, task, event⟩).snapshot)
    (fits : Fits settings before.journal ⟨before.now, task, event⟩) :
    Chronicled settings after where
  authors := by
    rw [grown, sameLength]
    simpa [or_imp, forall_and] using ⟨chronicled.authors, present⟩
  past := by
    rw [grown, sameTime]
    simpa [or_imp, forall_and] using chronicled.past
  ordered := by
    rw [grown, List.pairwise_append]
    refine ⟨chronicled.ordered, List.pairwise_singleton _ _, ?_⟩
    intro entry membership last isLast
    rw [List.mem_singleton.mp isLast]
    exact chronicled.past entry membership
  asked := by
    rw [grown, asked, chronicled.asked]
    cases sent : event.sent? <;> simp [sent]
  cache := by
    rw [grown, sameTime, storedIn_concat]
    exact cache
  snapshot := by
    rw [grown, keepingIn_concat]
    exact snapshot
  fitting := by
    intro earlier entry later split
    rw [grown] at split
    rcases List.eq_nil_or_concat later with rfl | ⟨between, newest, isConcat⟩
    · obtain ⟨rfl, same⟩ := List.append_inj' split rfl
      rw [← List.singleton_inj.mp same]
      exact fits
    · rw [isConcat, List.concat_eq_append, ← List.cons_append, ← List.append_assoc] at split
      exact chronicled.fitting earlier entry between (List.append_inj' split rfl).1

theorem note (chronicled : Chronicled settings state) (present : task < state.tasks.length)
    (quiet : event.IsQuiet) : Chronicled settings (state.note task event) := by
  cases event with
  | searching | responseStored | cacheCleared | refreshing | detected | snapshotReset =>
      exact quiet.elim
  | _ =>
      exact chronicled.append present rfl rfl rfl (List.append_nil _).symm chronicled.cache
        chronicled.snapshot trivial

theorem noteAll (chronicled : Chronicled settings state) (present : task < state.tasks.length)
    {events : List Event} (quiet : ∀ event ∈ events, event.IsQuiet) :
    Chronicled settings (state.noteAll task events) := by
  induction events generalizing state with
  | nil => simpa [State.noteAll] using chronicled
  | cons first rest inductionHypothesis =>
      have noted := chronicled.note present (quiet first List.mem_cons_self)
      rw [State.noteAll_cons]
      exact inductionHypothesis noted present fun event membership =>
        quiet event (List.mem_cons_of_mem _ membership)

theorem noteQuery {query : String} {commands : List Host.Command}
    (chronicled : Chronicled settings state) (present : task < state.tasks.length)
    (first : eventsOf state.journal task = []) :
    Chronicled settings (state.noteQuery task query commands) := by
  have sent : Chronicled settings
      ({ state with asked := state.asked ++ [query] }.note task (.searching query)) :=
    chronicled.append present rfl rfl rfl rfl chronicled.cache chronicled.snapshot first
  exact sent.noteAll present (quiet_commands commands)

theorem noteProbe {place : Nat} {name : String} {commands : List Host.Command}
    (chronicled : Chronicled settings state) (present : task < state.tasks.length) :
    Chronicled settings (state.noteProbe task place name commands) := by
  have counted : Chronicled settings { state with probed := state.probed ++ [place] } :=
    ⟨chronicled.authors, chronicled.past, chronicled.ordered, chronicled.asked, chronicled.cache,
      chronicled.snapshot, chronicled.fitting⟩
  have tried : (Event.probeTried name).IsQuiet := trivial
  exact (counted.note present tried).noteAll present (quiet_commands commands)

theorem startDetection (chronicled : Chronicled settings state)
    (present : task < state.tasks.length) (first : .refreshing ∉ eventsOf state.journal task) :
    Chronicled settings (state.note task .refreshing) :=
  chronicled.append present rfl rfl rfl (List.append_nil _).symm chronicled.cache
    chronicled.snapshot first

theorem keepDetected (chronicled : Chronicled settings state)
    (present : task < state.tasks.length) (snapshot : Snapshot)
    (current : .refreshing ∈ eventsOf (sinceReset state.journal) task) :
    Chronicled settings { state.note task (.detected snapshot) with snapshot } := by
  refine chronicled.append present rfl rfl rfl (List.append_nil _).symm chronicled.cache ?_ trivial
  simp [Keeping.note, Keeping.snapshot, mem_current_keepingIn_iff.mpr current]

theorem dropDetected (chronicled : Chronicled settings state)
    (present : task < state.tasks.length) (snapshot : Snapshot)
    (overtaken : .refreshing ∉ eventsOf (sinceReset state.journal) task) :
    Chronicled settings (state.note task (.detected snapshot)) := by
  refine chronicled.append present rfl rfl rfl (List.append_nil _).symm chronicled.cache ?_ trivial
  have notCurrent : task ∉ (keepingIn state.journal).current := by
    rw [mem_current_keepingIn_iff]
    exact overtaken
  simpa [Keeping.note, notCurrent, State.note] using chronicled.snapshot

theorem store {query : String} {response : SearchResponse}
    (chronicled : Chronicled settings state) (present : task < state.tasks.length)
    (fits : Fits settings state.journal ⟨state.now, task, .responseStored query response⟩) :
    Chronicled settings (state.store settings task query response) := by
  have quiet : ∀ event ∈ State.sweepEvents
      (state.cache.put settings.cache state.now (.ofQuery query) response).2, event.IsQuiet := by
    simp [Event.IsQuiet]
  -- The sweep is noted before the response that has made the cache outgrow its threshold.
  have swept := chronicled.noteAll present quiet
  refine swept.append present rfl rfl rfl (List.append_nil _).symm ?_ swept.snapshot ?_
  · exact swept.cache.put (.ofQuery query) response
  · rcases fits with ⟨sent, source, snapshot, listing, found, assembled⟩
    refine ⟨?_, source, snapshot, listing, ?_, assembled⟩
    · simp [State.noteAll, sent]
    · rw [← found]
      exact source?_noteAll state quiet task

theorem resetSnapshot (chronicled : Chronicled settings state)
    (present : task < state.tasks.length) :
    Chronicled settings (state.resetSnapshot task) :=
  chronicled.append present rfl rfl rfl (List.append_nil _).symm chronicled.cache rfl trivial

theorem clear (chronicled : Chronicled settings state) (present : task < state.tasks.length) :
    Chronicled settings (state.clear task) :=
  (chronicled.resetSnapshot present).append present rfl rfl rfl (List.append_nil _).symm
    Cache.Reflects.empty (chronicled.resetSnapshot present).snapshot trivial

end Chronicled

end Server

end PackageSearch
