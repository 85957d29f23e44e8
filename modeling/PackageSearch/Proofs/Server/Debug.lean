import PackageSearch.Proofs.Server.Freshness

/-!
# Debug requests

A debug request waits for the report on the environment and then calls for the current snapshot. Its
answer is made from the snapshot that this call is served with.
-/

namespace PackageSearch.Server

variable {settings : Settings} {world : World} {state next last : State} {task : TaskId}
  {before after : State × Point} {events : List Event} {journal more : List JournalEntry}
  {snapshot : Snapshot} {start now time : Nat}

/-- A detection has found the snapshot by now, and a call for the current snapshot that the task has
made between the two times is served with it. -/
structure IsServed (settings : Settings) (start now : Nat) (journal more : List JournalEntry)
    (task : TaskId) (snapshot : Snapshot) : Prop where
  detected : ∃ source captured, captured ≤ now ∧ ⟨captured, source, .detected snapshot⟩ ∈ journal
  called : ∃ asked, start ≤ asked ∧ asked ≤ now ∧ Serves settings asked more task snapshot

theorem IsServed.append (served : IsServed settings start now journal more task snapshot)
    (new : List JournalEntry) :
    IsServed settings start now (journal ++ new) (more ++ new) task snapshot := by
  obtain ⟨⟨source, captured, before, detected⟩, asked, since, past, serves⟩ := served
  exact ⟨⟨source, captured, before, List.mem_append_left _ detected⟩, asked, since, past,
    serves.append new⟩

/-- A snapshot that is not stale has been found by a detection. -/
theorem Chronicled.exists_detected_of_fresh (chronicled : Chronicled settings state)
    (fresh : state.snapshot.isStale settings.installedTtl time = false) :
    ∃ source captured, captured ≤ state.now ∧
      ⟨captured, source, .detected state.snapshot⟩ ∈ state.journal := by
  obtain ⟨source, kept⟩ := chronicled.exists_kept_of_fresh fresh
  obtain ⟨started, ended, pair⟩ := detects_of_kept kept
  have since : (sinceReset state.journal).Sublist state.journal :=
    (List.rtakeWhile_suffix _ _).sublist
  have detected : ⟨ended, source, .detected state.snapshot⟩ ∈ state.journal :=
    (pair.trans since).subset (by simp)
  exact ⟨source, ended, chronicled.past _ detected, detected⟩

/-- What holds at a point of a debug request that began at the time, if `more` has happened
since. -/
def Inspects (settings : Settings) (world : World) (start : Nat) (more : List JournalEntry)
    (task : TaskId) (state : State) : Point → Prop
  | .beginning operation => operation = .debug
  | .resting .inspecting => True
  | .asking purpose => purpose = .debug
  | .arriving demand purpose | .entering demand purpose | .resting (.queued demand purpose) =>
      purpose = .debug ∧ ∃ asked, demand = .current asked ∧ start ≤ asked ∧ asked ≤ state.now
  | .resting (.probing _ _ _ _ _ purpose) | .trying _ purpose _ | .hearing _ _ _ _ purpose
  | .concluding _ _ purpose => purpose = .debug ∧ .refreshing ∈ eventsOf more task
  | .delivering snapshot purpose =>
      purpose = .debug ∧ IsServed settings start state.now state.journal more task snapshot
  | .answering answer => ∃ snapshot, answer = .debug (state.debug settings world snapshot) ∧
      IsServed settings start state.now state.journal more task snapshot
  | .resting (.finished answer time) => ∃ made : State, ∃ snapshot, made.now = time ∧
      answer = .debug (made.debug settings world snapshot) ∧
      IsServed settings start time state.journal more task snapshot
  | _ => False

theorem Inspects.move (move : Move settings world task before events after)
    (chronicled : Chronicled settings before.1) (past : start ≤ before.1.now)
    (inspects : Inspects settings world start more task before.1 before.2) :
    Inspects settings world start (more ++ entriesOf before.1.now task events) task after.1
      after.2 := by
  have grown := move.journal_eq
  have sameTime := move.now_eq
  cases move with
  | @goOn state stage allowed =>
      rw [entriesOf_nil, List.append_nil]
      cases stage with
      | scheduled | searching => exact inspects.elim
      | inspecting => rfl
      | _ => exact inspects
  | searchBlank | searchOverlong | searchHit | searchMiss | clear | health | stats | refuse
  | current | refresh | snapshot | reset => cases inspects
  | queryAnswered | queryWaits | queryLate | queryFailed | queryListed | fail =>
      exact inspects.elim
  | debug => trivial
  | stale => exact ⟨inspects, _, rfl, past, Nat.le_refl _⟩
  | fresh notStale =>
      exact ⟨inspects, chronicled.exists_detected_of_fresh notStale, _, past, Nat.le_refl _,
        .inl notStale⟩
  | gateFree | gateTaken => exact inspects
  | refreshDemanded =>
      obtain ⟨-, asked, same, -⟩ := inspects
      cases same
  | stillStale =>
      refine ⟨inspects.1, ?_⟩
      rw [eventsOf_append_self]
      exact List.mem_append_right _ List.mem_cons_self
  | broughtMeanwhile notStale =>
      obtain ⟨isDebug, moment, same, since, before⟩ := inspects
      cases same
      refine ⟨isDebug, ?_, _, since, ?_, .inl notStale⟩
      · rw [State.leaveGate_journal, State.leaveGate_now]
        exact chronicled.exists_detected_of_fresh notStale
      · rw [State.leaveGate_now]
        exact before
  | noProbeLeft | probeAnswered | probeWaits | probeSucceeded | probeFailed =>
      refine ⟨inspects.1, ?_⟩
      rw [eventsOf_append]
      exact List.mem_append_left _ inspects.2
  | kept | discarded =>
      refine ⟨inspects.1, ?_, _, past, Nat.le_of_eq sameTime.symm,
        .inr (detects_of_started inspects.2)⟩
      rw [grown]
      exact ⟨task, _, Nat.le_of_eq sameTime.symm, List.mem_append_right _ List.mem_cons_self⟩
  | reported | unassembled | assembled =>
      obtain ⟨same, -⟩ := inspects
      cases same
  | debugged =>
      rw [entriesOf_nil, List.append_nil]
      exact ⟨_, rfl, inspects.2⟩
  | answer =>
      rw [entriesOf_nil, List.append_nil]
      obtain ⟨snapshot, isReport, served⟩ := inspects
      exact ⟨_, snapshot, rfl, isReport, served⟩

theorem Inspects.append_other {stage : Stage} {other : TaskId}
    (move : Move settings world other before events after)
    (inspects : Inspects settings world start more task before.1 (.resting stage)) :
    Inspects settings world start (more ++ entriesOf before.1.now other events) task after.1
      (.resting stage) := by
  have grown := move.journal_eq
  cases stage with
  | scheduled | searching => exact inspects.elim
  | inspecting => trivial
  | queued demand purpose =>
      obtain ⟨isDebug, asked, same, since, past⟩ := inspects
      refine ⟨isDebug, asked, same, since, ?_⟩
      rw [move.now_eq]
      exact past
  | probing =>
      refine ⟨inspects.1, ?_⟩
      rw [eventsOf_append]
      exact List.mem_append_left _ inspects.2
  | finished answer ended =>
      obtain ⟨made, snapshot, atEnd, isReport, served⟩ := inspects
      refine ⟨made, snapshot, atEnd, isReport, ?_⟩
      rw [grown]
      exact served.append _

/-- A debug request keeps to what it is served with. -/
def inspecting (settings : Settings) (world : World) (task : TaskId) (start : Nat)
    (journal : List JournalEntry) : Layer (accounted settings world) where
  common state := task < state.tasks.length ∧ start ≤ state.now
  standing state other point := other = task → ∃ more, state.journal = journal ++ more ∧
    Inspects settings world start more task state point
  common_withTasks grown common := ⟨Nat.lt_of_lt_of_le common.1 grown, common.2⟩
  standing_withTasks inspects := inspects
  common_pass _ ordered _ common := ⟨common.1, Nat.le_trans common.2 ordered⟩
  standing_pass := by
    rintro state later other stage - ordered - - inspects same
    obtain ⟨more, grown, inspects⟩ := inspects same
    refine ⟨more, grown, ?_⟩
    cases stage with
    | queued demand purpose =>
        obtain ⟨isDebug, asked, isCurrent, since, past⟩ := inspects
        exact ⟨isDebug, asked, isCurrent, since, Nat.le_trans past ordered⟩
    | _ => exact inspects
  announced _ _ common same := absurd same.symm (Nat.ne_of_lt common.1)
  move := by
    rintro before after other events move - - chronicled - ⟨present, past⟩ inspects
    refine ⟨⟨?_, ?_⟩, ?_⟩
    · rw [move.length_tasks_eq]
      exact present
    · rw [move.now_eq]
      exact past
    · rintro rfl
      obtain ⟨more, grown, inspects⟩ := inspects rfl
      refine ⟨more ++ entriesOf before.1.now other events, ?_,
        inspects.move move chronicled past⟩
      rw [move.journal_eq, grown, List.append_assoc]
  undisturbed := by
    rintro before after other task events stage move - - - - - - inspects same
    obtain ⟨more, grown, inspects⟩ := inspects same
    refine ⟨more ++ entriesOf before.1.now other events, ?_, inspects.append_other move⟩
    rw [move.journal_eq, grown, List.append_assoc]

/-- A debug request is answered with a report on the snapshot that it is served with. -/
theorem Begins.exists_report {answer : Answer} (reachable : Reachable settings world state)
    (begins : Begins settings world state .debug task next)
    (leads : Leads settings world next last)
    (answered : last.answer? task = some (answer, time)) :
    ∃ made : State, ∃ snapshot more, made.now = time ∧
      answer = .debug (made.debug settings world snapshot) ∧
      last.journal = state.journal ++ more ∧
      IsServed settings state.now time last.journal more task snapshot := by
  obtain ⟨tasks, nextTicket, ready, rfl⟩ :=
    begins.exists_ready reachable.accounted trivial fun _ => trivial
  have starts : (inspecting settings world task state.now state.journal).invariant.HoldsWhile task
      (state.withTasks tasks nextTicket, .beginning .debug) := by
    refine Layer.holdsWhile ready ⟨ready.present, Nat.le_refl _⟩ ?_ ?_
    · exact fun _ => ⟨[], (List.append_nil _).symm, rfl⟩
    · exact fun different _ same => absurd same different
  have ends := ((starts.moves (moves_begin _ .debug)).settle).leads leads
  have standing := ends.standing (State.answer?_eq_some_iff.mp answered)
  obtain ⟨more, grown, made, snapshot, atEnd, isReport, served⟩ := standing.2 rfl
  exact ⟨made, snapshot, more, atEnd, isReport, grown, served⟩

end PackageSearch.Server
