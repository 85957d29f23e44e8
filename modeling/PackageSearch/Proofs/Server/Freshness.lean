import PackageSearch.Proofs.Server.Completion
import PackageSearch.Proofs.Server.Staleness

/-!
# Calls for the current snapshot

A call is answered with a snapshot that has been captured, and that was not stale when the call was
made unless the call has detected it itself. Looked at from the other side, what a detection has
brought spares all calls that are made before it is stale a detection of their own, also if every
probe has failed and nothing was found.
-/

namespace PackageSearch.Server

variable {settings : Settings} {world : World} {state next last asked : State} {call task : TaskId}
  {before after : State × Point} {events : List Event} {journal more : List JournalEntry}
  {snapshot : Snapshot} {time captured : Nat}

/-! ### What has happened since -/

/-- The clock has not gone back, and what has happened since is noted with its time. -/
def elapsing (settings : Settings) (world : World) (start : State) : Invariant settings world where
  common state := start.now ≤ state.now ∧ ∃ more, state.journal = start.journal ++ more ∧
    ∀ entry ∈ more, start.now ≤ entry.time
  standing _ _ _ := True
  common_withTasks _ elapsed := elapsed
  standing_withTasks _ := trivial
  common_pass _ ordered elapsed := ⟨Nat.le_trans elapsed.1 ordered, elapsed.2⟩
  standing_pass _ _ _ _ := trivial
  announced _ _ := trivial
  move := by
    rintro before after task events move - - ⟨past, more, grown, later⟩ -
    refine ⟨⟨?_, more ++ entriesOf before.1.now task events, ?_, ?_⟩, trivial⟩
    · rw [move.now_eq]
      exact past
    · rw [move.journal_eq, grown, List.append_assoc]
    · intro entry membership
      rcases List.mem_append.mp membership with old | new
      · exact later entry old
      · obtain ⟨event, -, rfl⟩ := mem_entriesOf.mp new
        exact past
  undisturbed _ _ _ _ _ := trivial

theorem elapsed_of_leads (leads : Leads settings world state last) :
    state.now ≤ last.now ∧ ∃ more, last.journal = state.journal ++ more ∧
      ∀ entry ∈ more, state.now ≤ entry.time := by
  have starts : (elapsing settings world state).Holds state :=
    ⟨⟨Nat.le_refl _, [], (List.append_nil _).symm, by simp⟩, fun _ => trivial⟩
  exact (starts.leads leads).common

/-! ### What a call is answered with -/

/-- The snapshot was not stale at the time, or the call has detected it itself. -/
def Serves (settings : Settings) (time : Nat) (more : List JournalEntry) (call : TaskId)
    (snapshot : Snapshot) : Prop :=
  snapshot.isStale settings.installedTtl time = false ∨ Detects more call snapshot

theorem Serves.append (serves : Serves settings time more call snapshot)
    (new : List JournalEntry) : Serves settings time (more ++ new) call snapshot :=
  serves.imp id fun detects => detects.mono (List.sublist_append_left _ _)

/-- What holds at a point of a call that was made at the time, if `more` has happened since. -/
def Calls (settings : Settings) (time : Nat) (more : List JournalEntry) (call : TaskId)
    (now : Nat) : Point → Prop
  | .beginning operation => operation = .current ∧ now = time
  | .asking purpose => purpose = .report ∧ now = time
  | .arriving demand purpose | .entering demand purpose | .resting (.queued demand purpose) =>
      demand = .current time ∧ purpose = .report
  | .resting (.probing _ _ _ _ _ purpose) | .trying _ purpose _ | .hearing _ _ _ _ purpose
  | .concluding _ _ purpose => purpose = .report ∧ .refreshing ∈ eventsOf more call
  | .delivering snapshot purpose => purpose = .report ∧ Serves settings time more call snapshot
  | .answering answer | .resting (.finished answer _) =>
      ∃ snapshot, answer = .snapshot snapshot ∧ Serves settings time more call snapshot
  | _ => False

theorem Calls.append {stage : Stage} {now : Nat}
    (calls : Calls settings time more call now (.resting stage)) (new : List JournalEntry)
    (later : Nat) : Calls settings time (more ++ new) call later (.resting stage) := by
  cases stage with
  | scheduled | searching | inspecting => exact calls.elim
  | queued demand purpose => exact calls
  | probing =>
      refine ⟨calls.1, ?_⟩
      rw [eventsOf_append]
      exact List.mem_append_left _ calls.2
  | finished answer ended =>
      obtain ⟨snapshot, isAnswer, serves⟩ := calls
      exact ⟨snapshot, isAnswer, serves.append new⟩

theorem Calls.move (move : Move settings world call before events after)
    (calls : Calls settings time more call before.1.now before.2) :
    Calls settings time (more ++ entriesOf before.1.now call events) call after.1.now after.2 := by
  cases move with
  | @goOn state stage allowed =>
      rw [entriesOf_nil, List.append_nil]
      cases stage with
      | scheduled | searching | inspecting => exact calls.elim
      | _ => exact calls
  | searchBlank | searchOverlong | searchHit | searchMiss | clear | debug | health | stats | refuse
  | refresh | snapshot | reset =>
      obtain ⟨same, -⟩ := calls
      cases same
  | queryAnswered | queryWaits | queryLate | queryFailed | queryListed | fail => exact calls.elim
  | current => exact ⟨rfl, calls.2⟩
  | stale =>
      obtain ⟨isReport, rfl⟩ := calls
      exact ⟨rfl, isReport⟩
  | fresh notStale =>
      obtain ⟨isReport, rfl⟩ := calls
      exact ⟨isReport, .inl notStale⟩
  | gateFree | gateTaken => exact calls
  | refreshDemanded =>
      obtain ⟨same, -⟩ := calls
      cases same
  | stillStale =>
      refine ⟨calls.2, ?_⟩
      rw [eventsOf_append_self]
      exact List.mem_append_right _ List.mem_cons_self
  | broughtMeanwhile notStale =>
      obtain ⟨same, isReport⟩ := calls
      cases same
      exact ⟨isReport, .inl notStale⟩
  | noProbeLeft | probeAnswered | probeWaits | probeSucceeded | probeFailed =>
      refine ⟨calls.1, ?_⟩
      rw [eventsOf_append]
      exact List.mem_append_left _ calls.2
  | kept | discarded =>
      exact ⟨calls.1, .inr (detects_of_started calls.2)⟩
  | reported =>
      rw [entriesOf_nil, List.append_nil]
      exact ⟨_, rfl, calls.2⟩
  | debugged | unassembled | assembled =>
      obtain ⟨same, -⟩ := calls
      cases same
  | answer =>
      rw [entriesOf_nil, List.append_nil]
      exact calls

/-- A call keeps to what was demanded when it was made. -/
def calling (settings : Settings) (world : World) (call : TaskId) (time : Nat)
    (journal : List JournalEntry) : Course settings world call where
  holds state point :=
    ∃ more, state.journal = journal ++ more ∧ Calls settings time more call state.now point
  withTasks calls := calls
  pass := by
    rintro state later stage ⟨more, grown, calls⟩
    refine ⟨more, grown, ?_⟩
    rw [← List.append_nil more]
    exact calls.append [] later
  own := by
    rintro before after events move - - ⟨more, grown, calls⟩
    refine ⟨more ++ entriesOf before.1.now call events, ?_, calls.move move⟩
    rw [move.journal_eq, grown, List.append_assoc]
  others := by
    rintro before after other events stage move different ⟨more, grown, calls⟩
    refine ⟨more ++ entriesOf before.1.now other events, ?_, calls.append _ _⟩
    rw [move.journal_eq, grown, List.append_assoc]

theorem Begins.serves {answer : Answer} {ended : Nat}
    (holds : (accounted settings world).Holds state)
    (begins : Begins settings world state .current call next)
    (leads : Leads settings world next last)
    (answered : last.answer? call = some (answer, ended)) :
    ∃ snapshot more, answer = .snapshot snapshot ∧ last.journal = state.journal ++ more ∧
      Serves settings state.now more call snapshot := by
  obtain ⟨tasks, nextTicket, ready, rfl⟩ := begins.exists_ready holds trivial fun _ => trivial
  have starts : (calling settings world call state.now state.journal).holds
      (state.withTasks tasks nextTicket) (.beginning .current) :=
    ⟨[], (List.append_nil _).symm, rfl, rfl⟩
  rcases Course.follow_answer ready starts (moves_begin _ .current) leads answered with
    ⟨more, grown, snapshot, isAnswer, serves⟩
  exact ⟨snapshot, more, isAnswer, grown, serves⟩

/-- A snapshot that serves a call has been captured: not too long before the call, or by its own
detection, and then not before it was made. -/
theorem Serves.exists_captured (serves : Serves settings state.now more call snapshot)
    (leads : Leads settings world state last) (soundJournal : SoundJournal settings last.journal)
    (grown : last.journal = state.journal ++ more) :
    ∃ captured, snapshot.capturedAt = some captured ∧
      (state.now - captured < settings.installedTtl ∨
        state.now ≤ captured ∧ Detects more call snapshot) := by
  rcases serves with notStale | detects
  · cases capturedAt : snapshot.capturedAt with
    | none => simp [Snapshot.isStale, capturedAt] at notStale
    | some captured =>
        refine ⟨captured, rfl, .inl ?_⟩
        simpa [Snapshot.isStale, capturedAt] using notStale
  · obtain ⟨started, ended, pair⟩ := detects
    have noted : ⟨ended, call, .detected snapshot⟩ ∈ more := pair.subset (by simp)
    obtain ⟨-, since, sameGrown, later⟩ := elapsed_of_leads leads
    obtain rfl : since = more := List.append_cancel_left (sameGrown.symm.trans grown)
    refine ⟨ended, ?_, .inr ⟨later _ noted, started, ended, pair⟩⟩
    apply soundJournal.capturedAt ended call
    rw [grown]
    exact List.mem_append_right _ noted

/-! ### Detections in which every probe fails -/

/-- A task for which no probe has succeeded has detected nothing at that moment, or is about to. -/
def failing (settings : Settings) (world : World) : Layer (accounted settings world) where
  common _ := True
  standing state task point :=
    ∀ time, ⟨time, task, .noProbeSucceeded⟩ ∈ state.journal →
      ⟨time, task, .detected ⟨NameSet.empty, some time⟩⟩ ∈ state.journal ∨
        time = state.now ∧ ∃ detection purpose, point = .concluding detection NameSet.empty purpose
  common_withTasks _ _ := trivial
  standing_withTasks concludes := concludes
  common_pass _ _ _ _ := trivial
  standing_pass := by
    intro state later task stage _ _ _ _ concludes time failed
    rcases concludes time failed with detected | ⟨-, detection, purpose, concluding⟩
    · exact .inl detected
    · cases concluding
  announced := by
    intro state operation start _ chronicled _ time failed
    have left := mem_eventsOf.mpr ⟨time, failed⟩
    rw [Chronicled.eventsOf_new chronicled] at left
    cases left
  move := by
    rintro ⟨before, point⟩ after task events move - - - - - concludes
    refine ⟨trivial, ?_⟩
    intro time failed
    rw [move.journal_eq] at failed ⊢
    rw [move.now_eq]
    rcases mem_append_entriesOf.mp failed with old | ⟨rfl, -, left⟩
    · rcases concludes time old with detected | ⟨rfl, detection, purpose, rfl⟩
      · exact .inl (List.mem_append_left _ detected)
      · left
        apply mem_append_entriesOf.mpr
        cases move with
        | kept | discarded => exact .inr ⟨rfl, rfl, List.mem_cons_self⟩
    · right
      cases move with
      | noProbeLeft => exact ⟨rfl, _, _, rfl⟩
      | _ => simp at left
  undisturbed := by
    rintro before after task other events stage move different - - - - - concludes time failed
    rw [move.journal_eq] at failed ⊢
    rcases mem_append_entriesOf.mp failed with old | ⟨-, same, -⟩
    · rcases concludes time old with detected | ⟨-, detection, purpose, concluding⟩
      · exact .inl (List.mem_append_left _ detected)
      · cases concluding
    · exact absurd same different

/-- A detection in which no probe has succeeded ends with an empty snapshot. -/
theorem Reachable.detected_of_noProbeSucceeded (reachable : Reachable settings world state)
    (failed : ⟨time, task, .noProbeSucceeded⟩ ∈ state.journal) :
    ⟨time, task, .detected ⟨NameSet.empty, some time⟩⟩ ∈ state.journal := by
  have started : (failing settings world).invariant.Holds State.initial :=
    Layer.holds Reachable.initial.accounted trivial
      fun waits => by simp [State.stage?, State.initial] at waits
  have holds := started.leads reachable.leads
  have chronicled : Chronicled settings state := holds.common.1
  obtain ⟨stage, waits⟩ := State.exists_stage? (chronicled.authors _ failed)
  rcases (holds.standing waits).2 time failed with detected | ⟨-, detection, purpose, concluding⟩
  · exact detected
  · cases concluding

/-! ### What a detection is remembered for -/

/-- The snapshot has not been reset. -/
def Unreset (more : List JournalEntry) : Prop :=
  ∀ entry ∈ more, entry.event ≠ .snapshotReset

/-- The task has neither started a detection nor called a probe. -/
structure Spared (more : List JournalEntry) (task : TaskId) : Prop where
  unstarted : .refreshing ∉ eventsOf more task
  untried : ∀ name, .probeTried name ∉ eventsOf more task

/-- The snapshot has been captured at the given time or since, unless it has been reset. -/
structure Remembers (captured : Nat) (journal : List JournalEntry) (state : State) : Prop where
  past : captured ≤ state.now
  kept : ∃ more, state.journal = journal ++ more ∧ (Unreset more →
    ∃ since, state.snapshot.capturedAt = some since ∧ captured ≤ since)

theorem Remembers.move (move : Move settings world task before events after)
    (remembers : Remembers captured journal before.1) : Remembers captured journal after.1 := by
  obtain ⟨past, more, grown, kept⟩ := remembers
  refine ⟨?_, more ++ entriesOf before.1.now task events, ?_, ?_⟩
  · rw [move.now_eq]
    exact past
  · rw [move.journal_eq, grown, List.append_assoc]
  · intro unreset
    have noReset : .snapshotReset ∉ events := by
      intro resets
      apply unreset ⟨before.1.now, task, .snapshotReset⟩
      · exact List.mem_append_right _ (mem_entriesOf.mpr ⟨_, resets, rfl⟩)
      · rfl
    rcases move.tells.snapshot noReset with same | detected
    · rw [same]
      exact kept fun entry membership => unreset entry (List.mem_append_left _ membership)
    · exact ⟨before.1.now, move.tells.captured _ detected, past⟩

def remembering (settings : Settings) (world : World) (captured : Nat)
    (journal : List JournalEntry) : Invariant settings world where
  common := Remembers captured journal
  standing _ _ _ := True
  common_withTasks _ remembers := ⟨remembers.past, remembers.kept⟩
  standing_withTasks _ := trivial
  common_pass _ ordered remembers := ⟨Nat.le_trans remembers.past ordered, remembers.kept⟩
  standing_pass _ _ _ _ := trivial
  announced _ _ := trivial
  move move _ _ remembers _ := ⟨remembers.move move, trivial⟩
  undisturbed _ _ _ _ _ := trivial

theorem Reachable.captured_le (reachable : Reachable settings world state)
    (capturedAt : state.snapshot.capturedAt = some captured) : captured ≤ state.now := by
  have holds := reachable.sound
  have chronicled : Chronicled settings state := holds.common.1
  have soundJournal : SoundJournal settings state.journal := holds.common.2
  rcases chronicled.snapshot_cases with isEmpty | ⟨source, kept⟩
  · rw [isEmpty] at capturedAt
    cases capturedAt
  · obtain ⟨since, -, sameTime, past⟩ := soundJournal.capturedAt_of_kept chronicled kept
    obtain rfl := Option.some.inj (capturedAt.symm.trans sameTime)
    exact past

theorem Reachable.remembers (reachable : Reachable settings world state)
    (capturedAt : state.snapshot.capturedAt = some captured) :
    Remembers captured state.journal state :=
  ⟨reachable.captured_le capturedAt, [], (List.append_nil _).symm,
    fun _ => ⟨captured, capturedAt, Nat.le_refl _⟩⟩

/-- A snapshot captured at the given time or since is not stale for a young call. -/
theorem not_isStale_of_captured_le {since : Nat} (positive : 0 < settings.installedTtl)
    (young : time < captured + settings.installedTtl)
    (capturedAt : snapshot.capturedAt = some since) (later : captured ≤ since) :
    snapshot.isStale settings.installedTtl time = false := by
  simp only [Snapshot.isStale, capturedAt, decide_eq_false_iff_not]
  omega

/-- A call that does not find the snapshot stale when it is let in does not detect. -/
theorem Calls.spared {now : Nat} (move : Move settings world call before events after)
    (calls : Calls settings time more call now before.2)
    (fresh : before.1.snapshot.isStale settings.installedTtl time = false)
    (unstarted : .refreshing ∉ eventsOf more call) :
    .refreshing ∉ events ∧ ∀ name, .probeTried name ∉ events := by
  cases move with
  | refreshDemanded =>
      obtain ⟨same, -⟩ := calls
      cases same
  | stillStale stale =>
      obtain ⟨same, -⟩ := calls
      cases same
      cases stale.symm.trans fresh
  | probeAnswered | probeWaits => exact absurd calls.2 unstarted
  | _ => simp

/-- A call that is made before what is remembered is stale neither starts a detection nor calls a
probe. -/
def sparing (world : World) (call : TaskId) (journal : List JournalEntry)
    (positive : 0 < settings.installedTtl) (young : time < captured + settings.installedTtl) :
    Layer (calling settings world call time journal).invariant where
  common := Remembers captured journal
  standing state task _ := task = call → ∀ more, state.journal = journal ++ more →
    Unreset more → Spared more call
  common_withTasks _ remembers := ⟨remembers.past, remembers.kept⟩
  standing_withTasks spared := spared
  common_pass _ ordered _ remembers := ⟨Nat.le_trans remembers.past ordered, remembers.kept⟩
  standing_pass _ _ _ _ spared := spared
  announced _ common _ same := absurd same.symm (Nat.ne_of_lt common.2)
  move := by
    rintro before after task events move - - - standing remembers spared
    refine ⟨remembers.move move, ?_⟩
    rintro rfl all grown unreset
    obtain ⟨more, earlier, calls⟩ := standing.2 rfl
    rw [move.journal_eq, earlier, List.append_assoc] at grown
    obtain rfl := List.append_cancel_left grown
    have stillUnreset : Unreset more := fun entry membership =>
      unreset entry (List.mem_append_left _ membership)
    obtain ⟨unstarted, untried⟩ := spared rfl more earlier stillUnreset
    obtain ⟨known, sameGrown, kept⟩ := remembers.kept
    obtain rfl : known = more := List.append_cancel_left (sameGrown.symm.trans earlier)
    obtain ⟨since, capturedAt, later⟩ := kept stillUnreset
    have fresh := not_isStale_of_captured_le positive young capturedAt later
    obtain ⟨startsNone, triesNone⟩ := calls.spared move fresh unstarted
    constructor
    · simpa using ⟨unstarted, startsNone⟩
    · intro name
      simpa using ⟨untried name, triesNone name⟩
  undisturbed := by
    rintro before after task other events stage move different - - standing - - spared rfl all grown
      unreset
    obtain ⟨more, earlier, -⟩ := standing.2 rfl
    rw [move.journal_eq, earlier, List.append_assoc] at grown
    obtain rfl := List.append_cancel_left grown
    obtain ⟨unstarted, untried⟩ := spared rfl more earlier fun entry membership =>
      unreset entry (List.mem_append_left _ membership)
    constructor
    · simpa [eventsOf_entriesOf_other _ events different] using unstarted
    · simpa [eventsOf_entriesOf_other _ events different] using untried

/-- A call for the current snapshot that was made at the given time, and that has not begun to detect
in the given state: it waits at the gate there, or it begins later. -/
inductive CallsFrom (settings : Settings) (world : World) (state : State) :
    TaskId → Nat → State → Prop where
  | waiting {call : TaskId} {time : Nat} {last : State} :
      state.stage? call = some (.queued (.current time) .report) →
      Leads settings world state last →
        CallsFrom settings world state call time last
  | beginning {call : TaskId} {asked next last : State} :
      Leads settings world state asked → Begins settings world asked .current call next →
      Leads settings world next last →
        CallsFrom settings world state call asked.now last

theorem spared_of_sparing {positive : 0 < settings.installedTtl}
    {young : time < captured + settings.installedTtl}
    (holds : (sparing world call journal positive young).invariant.Holds last)
    (grown : last.journal = journal ++ more) (unreset : Unreset more) : Spared more call := by
  obtain ⟨stage, waits⟩ := State.exists_stage? holds.common.1.2
  exact (holds.standing waits).2 rfl more grown unreset

theorem Begins.spared {since : Nat} (reachable : Reachable settings world asked)
    (begins : Begins settings world asked .current call next)
    (leads : Leads settings world next last) (positive : 0 < settings.installedTtl)
    (capturedAt : asked.snapshot.capturedAt = some since)
    (young : asked.now < since + settings.installedTtl)
    (grown : last.journal = asked.journal ++ more) (unreset : Unreset more) :
    eventsOf asked.journal call = [] ∧ Spared more call := by
  obtain ⟨tasks, nextTicket, ready, rfl⟩ :=
    begins.exists_ready reachable.accounted trivial fun _ => trivial
  have starts : (calling settings world call asked.now asked.journal).holds
      (asked.withTasks tasks nextTicket) (.beginning .current) :=
    ⟨[], (List.append_nil _).symm, rfl, rfl⟩
  have below := Course.holdsWhile ready starts
  have holds : (sparing world call asked.journal positive young).invariant.HoldsWhile call
      (asked.withTasks tasks nextTicket, .beginning .current) := by
    apply Layer.holdsWhile below
    · obtain ⟨past, kept⟩ := reachable.remembers capturedAt
      exact ⟨past, kept⟩
    · rintro - none sameJournal -
      obtain rfl := List.append_right_eq_self.mp sameJournal.symm
      exact ⟨List.not_mem_nil, fun _ => List.not_mem_nil⟩
    · intro other stage different _ same
      exact absurd same different
  have settled := (holds.moves (moves_begin _ .current)).settle
  exact ⟨ready.moving, spared_of_sparing (settled.leads leads) grown unreset⟩

theorem CallsFrom.spared (reachable : Reachable settings world state)
    (calls : CallsFrom settings world state call time last)
    (positive : 0 < settings.installedTtl)
    (capturedAt : state.snapshot.capturedAt = some captured)
    (young : time < captured + settings.installedTtl)
    (grown : last.journal = state.journal ++ more) (unreset : Unreset more) :
    Spared more call := by
  cases calls with
  | waiting waits leads =>
      have starts : (calling settings world call time state.journal).holds state
          (.resting (.queued (.current time) .report)) :=
        ⟨[], (List.append_nil _).symm, rfl, rfl⟩
      have below := Course.holdsFrom reachable.accounted waits starts
      have holds : (sparing world call state.journal positive young).invariant.Holds state := by
        apply Layer.holds below (reachable.remembers capturedAt)
        rintro _ _ - rfl none sameJournal -
        obtain rfl := List.append_right_eq_self.mp sameJournal.symm
        exact ⟨List.not_mem_nil, fun _ => List.not_mem_nil⟩
      exact spared_of_sparing (holds.leads leads) grown unreset
  | beginning leads begins rest =>
      rename_i asked next
      have started : (remembering settings world captured state.journal).Holds state :=
        ⟨reachable.remembers capturedAt, fun _ => trivial⟩
      obtain ⟨-, earlier, grownBefore, kept⟩ := (started.leads leads).common
      obtain ⟨since, sameGrown⟩ := journal_prefix_of_leads (rest.head begins.step)
      rw [← sameGrown, grownBefore, List.append_assoc] at grown
      obtain rfl := List.append_cancel_left grown
      have unresetBefore : Unreset earlier := fun entry membership =>
        unreset entry (List.mem_append_left _ membership)
      obtain ⟨latest, capturedSince, later⟩ := kept unresetBefore
      have stillYoung : asked.now < latest + settings.installedTtl := by omega
      obtain ⟨idle, unstarted, untried⟩ := begins.spared (reachable.trans leads) rest positive
        capturedSince stillYoung sameGrown.symm fun entry membership =>
          unreset entry (List.mem_append_right _ membership)
      have silent : eventsOf earlier call = [] := by
        rw [grownBefore, eventsOf_append] at idle
        exact (List.append_eq_nil_iff.mp idle).2
      constructor
      · rw [eventsOf_append, silent, List.nil_append]
        exact unstarted
      · rw [eventsOf_append, silent, List.nil_append]
        exact untried

/-! ### Fresh snapshots -/

/-- A call for the current snapshot goes on until it is answered, with a snapshot that has been
captured: less than a time to live before the call, or by the detection of the call itself and not
before it. A detection in which no probe has succeeded ends with an empty snapshot. Whatever
snapshot is stored spares a call that has not begun to detect a detection of its own, if the call is
made within a time to live and the snapshot has not been reset. -/
theorem current_is_fresh (reachable : Reachable settings world state) :
    (∀ call next, Begins settings world state .current call next →
      (∀ last, Leads settings world next last → ∃ done answer time,
        Leads settings world last done ∧ done.answer? call = some (answer, time)) ∧
      ∀ last answer time, Leads settings world next last →
        last.answer? call = some (answer, time) → ∃ snapshot captured more,
          answer = .snapshot snapshot ∧ snapshot.capturedAt = some captured ∧
          last.journal = state.journal ++ more ∧
          (state.now - captured < settings.installedTtl ∨
            state.now ≤ captured ∧ Detects more call snapshot)) ∧
    (∀ task time, ⟨time, task, .noProbeSucceeded⟩ ∈ state.journal →
      ⟨time, task, .detected ⟨NameSet.empty, some time⟩⟩ ∈ state.journal) ∧
    (0 < settings.installedTtl → ∀ captured call time last more,
      state.snapshot.capturedAt = some captured →
      CallsFrom settings world state call time last →
      time < captured + settings.installedTtl →
      last.journal = state.journal ++ more → Unreset more → Spared more call) := by
  refine ⟨?_, ?_, ?_⟩
  · intro call next begins
    refine ⟨fun last => begins.exists_answer reachable, ?_⟩
    intro last answer time leads answered
    obtain ⟨snapshot, more, isAnswer, grown, serves⟩ :=
      begins.serves reachable.accounted leads answered
    have sound := (reachable.trans (leads.head begins.step)).sound
    have soundJournal : SoundJournal settings last.journal := sound.common.2
    obtain ⟨captured, capturedAt, recent⟩ :=
      serves.exists_captured (leads.head begins.step) soundJournal grown
    exact ⟨snapshot, captured, more, isAnswer, capturedAt, grown, recent⟩
  · intro task time failed
    exact reachable.detected_of_noProbeSucceeded failed
  · intro positive captured call time last more capturedAt calls young grown unreset
    exact calls.spared reachable positive capturedAt young grown unreset

/-- The only probe fails, at once. -/
def probelessWorld : World :=
  { smallWorld 0 0 with
    probes := [{
      name := "profile"
      reply := fun _ => { delay := 0, result := .error (.noOutput "profile") } }] }

/-- A server that has found nothing because every probe failed, just before it would look again. -/
def foundNothing : State :=
  { State.initial.spawn smallSettings probelessWorld .current with now := 49 }

theorem foundNothing_is_remembered :
    ⟨0, 0, .detected ⟨NameSet.empty, some 0⟩⟩ ∈ foundNothing.journal ∧
      ∀ more, (foundNothing.spawn smallSettings probelessWorld .current).journal =
        foundNothing.journal ++ more → Spared more 1 := by
  have reachable : Reachable smallSettings probelessWorld foundNothing :=
    .step (.step .initial (.arrive .current)) (.pass (by decide))
  obtain ⟨-, detected, spared⟩ := current_is_fresh reachable
  refine ⟨detected 0 0 (by decide), ?_⟩
  intro more grown
  have calls : CallsFrom smallSettings probelessWorld foundNothing 1 49
      (foundNothing.spawn smallSettings probelessWorld .current) :=
    .beginning .refl .arriving .refl
  apply spared (by decide) 0 1 49 _ more (by decide) calls (by decide) grown
  have sameJournal : (foundNothing.spawn smallSettings probelessWorld .current).journal =
      foundNothing.journal := by decide
  obtain rfl := List.append_right_eq_self.mp (grown.symm.trans sameJournal)
  exact fun entry membership => absurd membership List.not_mem_nil

end PackageSearch.Server
