import PackageSearch.Proofs.Server.Course

/-!
# Resets and detections under way

The stored snapshot never comes from a detection that a reset has overtaken, and whoever asks for a
snapshot after a reset never sees one from before it. A detection that is overtaken still serves the
task that made it.
-/

namespace PackageSearch.Server

variable {settings : Settings} {world : World} {state next last : State} {task : TaskId}
  {journal more : List JournalEntry} {snapshot : Snapshot} {events : List Event} {time : Nat}

/-- Operations that bring a snapshot, detecting it if they have to. -/
def Operation.Brings : Operation → Prop
  | .current | .refresh => True
  | _ => False

/-! ### Since the latest reset -/

/-- The stored snapshot is empty, or was detected since the latest reset. -/
theorem Chronicled.snapshot_since_reset (chronicled : Chronicled settings state) :
    state.snapshot = Snapshot.empty ∨
      ∃ source, Detects (sinceReset state.journal) source state.snapshot := by
  rcases chronicled.snapshot_cases with isEmpty | ⟨source, kept⟩
  · exact .inl isEmpty
  · exact .inr ⟨source, detects_of_kept kept⟩

/-- A detection that has started among some entries ends with the next one. -/
theorem detects_of_started (started : .refreshing ∈ eventsOf more task) :
    Detects (more ++ entriesOf time task (.detected snapshot :: events)) task snapshot := by
  obtain ⟨startedAt, start⟩ := mem_eventsOf.mp started
  refine ⟨startedAt, time, ?_⟩
  exact (List.singleton_sublist.mpr start).append
    (List.singleton_sublist.mpr List.mem_cons_self)

/-- What a task that brings a snapshot has seen at a point, if it began when the journal was as
given and `more` has come since. -/
def HasSeen (journal more : List JournalEntry) (task : TaskId) : Point → Prop
  | .resting (.scheduled operation _) | .beginning operation => operation.Brings
  | .resting (.probing _ _ _ _ _ _) | .trying _ _ _ | .hearing _ _ _ _ _ | .concluding _ _ _ =>
      .refreshing ∈ eventsOf more task
  | .delivering snapshot _ => ∃ source, Detects (sinceReset journal ++ more) source snapshot
  | .answering answer | .resting (.finished answer _) => ∀ snapshot, answer = .snapshot snapshot →
      ∃ source, Detects (sinceReset journal ++ more) source snapshot
  | _ => True

theorem HasSeen.append {stage : Stage} (seen : HasSeen journal more task (.resting stage))
    (new : List JournalEntry) : HasSeen journal (more ++ new) task (.resting stage) := by
  cases stage with
  | scheduled operation start => exact seen
  | searching | inspecting | queued => trivial
  | probing detection name wake outcome remaining purpose =>
      have started : .refreshing ∈ eventsOf more task := seen
      simp [HasSeen, started]
  | finished answer ended =>
      intro snapshot same
      obtain ⟨source, detects⟩ := seen snapshot same
      exact ⟨source, detects.mono ((List.sublist_append_left more new).append_left _)⟩

/-- What is kept was detected since the latest reset, so also since any earlier time that the latest
reset lay before. -/
theorem detects_of_kept_since {source : TaskId}
    (kept : (keepingIn (journal ++ more)).kept = some (source, snapshot)) :
    Detects (sinceReset journal ++ more) source snapshot :=
  (detects_of_kept kept).mono (sinceReset_append_sublist journal more)

theorem HasSeen.move {before after : State × Point}
    (move : Move settings world task before events after)
    (chronicled : Chronicled settings before.1) (grown : before.1.journal = journal ++ more)
    (seen : HasSeen journal more task before.2) :
    HasSeen journal (more ++ entriesOf before.1.now task events) task after.2 := by
  cases move with
  | @goOn state stage allowed =>
      rw [entriesOf_nil, List.append_nil]
      cases stage <;> exact seen
  | searchBlank | searchOverlong | searchHit | searchMiss | clear | debug | health | stats | refuse
  | snapshot | reset => exact seen.elim
  | current | refresh | queryAnswered | queryWaits | queryLate | queryFailed | queryListed | stale
  | gateFree | gateTaken | unassembled => trivial
  | fresh notStale | broughtMeanwhile notStale =>
      rw [entriesOf_nil, List.append_nil]
      obtain ⟨source, kept⟩ := chronicled.exists_kept_of_fresh notStale
      rw [grown] at kept
      exact ⟨source, detects_of_kept_since kept⟩
  | refreshDemanded | stillStale => simp [HasSeen]
  | noProbeLeft | probeAnswered | probeWaits | probeSucceeded | probeFailed =>
      have started : .refreshing ∈ eventsOf more task := seen
      simp [HasSeen, started]
  | kept | discarded =>
      exact ⟨task, (detects_of_started seen).mono (List.sublist_append_right _ _)⟩
  | reported =>
      rw [entriesOf_nil, List.append_nil]
      rintro snapshot ⟨⟩
      exact seen
  | debugged | assembled | fail =>
      rintro snapshot ⟨⟩
  | answer =>
      rw [entriesOf_nil, List.append_nil]
      exact seen

/-- A task shows nothing that was detected before the latest reset when it began. -/
def seeing (settings : Settings) (world : World) (task : TaskId) (journal : List JournalEntry) :
    Course settings world task where
  holds state point :=
    ∃ more, state.journal = journal ++ more ∧ HasSeen journal more task point
  withTasks seen := seen
  pass seen := seen
  own := by
    rintro before after events move chronicled - ⟨more, grown, seen⟩
    refine ⟨more ++ entriesOf before.1.now task events, ?_, seen.move move chronicled grown⟩
    rw [move.journal_eq, grown, List.append_assoc]
  others := by
    rintro before after other events stage move different ⟨more, grown, seen⟩
    refine ⟨more ++ entriesOf before.1.now other events, ?_, seen.append _⟩
    rw [move.journal_eq, grown, List.append_assoc]

/-! ### What a task does with its own detection -/

/-- All that the task has detected is the given snapshot, at the given time. -/
def HasOnlyDetected (journal : List JournalEntry) (task : TaskId) (snapshot : Snapshot)
    (time : Nat) : Prop :=
  ∀ ended found, ⟨ended, task, .detected found⟩ ∈ journal → found = snapshot ∧ ended = time

/-- What a task that brings a snapshot does with its own detection. -/
def Returns (state : State) (task : TaskId) : Point → Prop
  | .resting (.scheduled operation _) | .beginning operation => operation.Brings
  | .resting (.queued _ purpose) | .resting (.probing _ _ _ _ _ purpose) | .asking purpose
  | .arriving _ purpose | .entering _ purpose | .trying _ purpose _ | .hearing _ _ _ _ purpose
  | .concluding _ _ purpose => purpose = .report
  | .delivering snapshot purpose =>
      purpose = .report ∧ HasOnlyDetected state.journal task snapshot state.now
  | .answering answer => ∃ snapshot, answer = .snapshot snapshot ∧
      HasOnlyDetected state.journal task snapshot state.now
  | .resting (.finished answer ended) => ∃ snapshot, answer = .snapshot snapshot ∧
      HasOnlyDetected state.journal task snapshot ended
  | _ => False

theorem HasOnlyDetected.of_unended (unended : ∀ found, .detected found ∉ eventsOf journal task)
    (snapshot : Snapshot) (time : Nat) : HasOnlyDetected journal task snapshot time :=
  fun ended found membership => absurd (mem_eventsOf.mpr ⟨ended, membership⟩) (unended found)

theorem HasOnlyDetected.of_detected (unended : ∀ found, .detected found ∉ eventsOf journal task)
    (silent : ∀ found, .detected found ∉ events) :
    HasOnlyDetected (journal ++ entriesOf time task (.detected snapshot :: events)) task snapshot
      time := by
  intro ended found membership
  rcases List.mem_append.mp membership with before | new
  · exact absurd (mem_eventsOf.mpr ⟨ended, before⟩) (unended found)
  · obtain ⟨event, left, same⟩ := mem_entriesOf.mp new
    cases same
    rcases List.mem_cons.mp left with same | after
    · cases same
      exact ⟨rfl, rfl⟩
    · exact absurd after (silent found)

theorem HasOnlyDetected.append_other {other : TaskId} {moment : Nat}
    (only : HasOnlyDetected journal task snapshot time) (different : task ≠ other) :
    HasOnlyDetected (journal ++ entriesOf moment other events) task snapshot time := by
  intro ended found membership
  rcases List.mem_append.mp membership with before | new
  · exact only ended found before
  · obtain ⟨event, -, same⟩ := mem_entriesOf.mp new
    exact absurd (congrArg JournalEntry.task same) different

theorem Returns.move {before after : State × Point}
    (move : Move settings world task before events after)
    (stands : Stands before.1.journal before.1.generation task before.2)
    (returns : Returns before.1 task before.2) : Returns after.1 task after.2 := by
  have grown := move.journal_eq
  have sameTime := move.now_eq
  cases move with
  | @goOn state stage allowed =>
      cases stage with
      | inspecting => exact returns.elim
      | _ => exact returns
  | searchBlank | searchOverlong | searchHit | searchMiss | clear | debug | health | stats | refuse
  | snapshot | reset | queryAnswered | queryWaits | queryLate | queryFailed | queryListed | fail =>
      exact returns.elim
  | current | refresh => rfl
  | stale | gateFree | gateTaken | refreshDemanded | stillStale | noProbeLeft | probeAnswered
  | probeWaits | probeSucceeded | probeFailed => exact returns
  | fresh => exact ⟨returns, .of_unended stands.2.unended _ _⟩
  | broughtMeanwhile =>
      rw [entriesOf_nil, List.append_nil] at grown
      refine ⟨returns, ?_⟩
      rw [grown]
      exact .of_unended stands.2.unended _ _
  | kept | discarded =>
      refine ⟨returns, ?_⟩
      rw [grown, sameTime]
      exact .of_detected stands.2.unended (by simp)
  | reported => exact ⟨_, rfl, returns.2⟩
  | debugged | unassembled | assembled => cases returns.1
  | answer => exact returns

/-- A task that brings a snapshot answers with what it has detected, if it has detected. -/
def returning (settings : Settings) (world : World) (task : TaskId) :
    Course settings world task where
  holds state point := Returns state task point
  withTasks {_ _ _ point} returns := by
    cases point with
    | resting stage => cases stage <;> exact returns
    | _ => exact returns
  pass {_ _ stage} returns := by cases stage <;> exact returns
  own move _ stands returns := returns.move move stands
  others := by
    intro before after other events stage move different returns
    cases stage with
    | finished answer ended =>
        rcases returns with ⟨snapshot, isAnswer, only⟩
        refine ⟨snapshot, isAnswer, ?_⟩
        rw [move.journal_eq]
        exact only.append_other different
    | _ => exact returns

/-! ### Resets win -/

theorem Begins.answer_of_snapshot (holds : (accounted settings world).Holds state)
    (begins : Begins settings world state .snapshot task next)
    (leads : Leads settings world next last) :
    last.answer? task = some (.snapshot state.snapshot, state.now) := by
  have afterwards : (accounted settings world).Holds next := holds.leads (.single begins.step)
  obtain ⟨tasks, nextTicket, ready, rfl⟩ := begins.exists_ready holds trivial fun _ => trivial
  have answered := answer?_of_finish afterwards ready.present leads
  exact answered

theorem Begins.seen_of_brings {operation : Operation}
    (holds : (accounted settings world).Holds state) (brings : operation.Brings)
    (begins : Begins settings world state operation task next)
    (leads : Leads settings world next last)
    (answered : last.answer? task = some (.snapshot snapshot, time)) :
    ∃ more source, last.journal = state.journal ++ more ∧
      Detects (sinceReset state.journal ++ more) source snapshot := by
  obtain ⟨tasks, nextTicket, ready, rfl⟩ := begins.exists_ready holds trivial fun _ => trivial
  have starts : (seeing settings world task state.journal).holds
      (state.withTasks tasks nextTicket) (.beginning operation) :=
    ⟨[], (List.append_nil _).symm, brings⟩
  rcases Course.follow_answer ready starts (moves_begin _ operation) leads answered with
    ⟨more, grown, seen⟩
  obtain ⟨source, detects⟩ := seen snapshot rfl
  exact ⟨more, source, grown, detects⟩

theorem Begins.returned_of_brings {operation : Operation}
    (holds : (accounted settings world).Holds state) (brings : operation.Brings)
    (begins : Begins settings world state operation task next)
    (leads : Leads settings world next last)
    (detected : ⟨time, task, .detected snapshot⟩ ∈ last.journal) :
    last.answer? task = some (.snapshot snapshot, time) := by
  have holdsLast := (holds.leads (.single begins.step)).leads leads
  obtain ⟨tasks, nextTicket, ready, rfl⟩ := begins.exists_ready holds trivial fun _ => trivial
  have starts : (returning settings world task).holds (state.withTasks tasks nextTicket)
      (.beginning operation) := brings
  obtain ⟨stage, ends, returns⟩ := Course.follow ready starts (moves_begin _ operation) leads
  have stands : Stands last.journal last.generation task (.resting stage) := holdsLast.standing ends
  have left : .detected snapshot ∈ eventsOf last.journal task := mem_eventsOf.mpr ⟨time, detected⟩
  cases stage with
  | scheduled operation start =>
      have idle : eventsOf last.journal task = [] := stands
      simp [idle] at left
  | searching | inspecting => exact returns.elim
  | queued => exact absurd left (stands.2.unended snapshot)
  | probing => exact absurd left (stands.2.unended snapshot)
  | finished answer ended =>
      rcases returns with ⟨found, rfl, only⟩
      obtain ⟨rfl, rfl⟩ := only time snapshot detected
      exact State.answer?_eq_some_iff.mpr ends

/-- At every moment the stored snapshot is the empty one, or the result of a detection that started
after the latest reset, and this is what a snapshot taken then shows. Whoever asks for a current or
a new snapshot is shown only the result of a detection that started after the latest reset before
they asked. If they detect themselves they are shown what they found, when they found it, even if a
reset has come in between. -/
theorem reset_wins (reachable : Reachable settings world state) :
    (state.snapshot = Snapshot.empty ∨
      ∃ source, Detects (sinceReset state.journal) source state.snapshot) ∧
    (∀ task next last, Begins settings world state .snapshot task next →
      Leads settings world next last →
        last.answer? task = some (.snapshot state.snapshot, state.now)) ∧
    ∀ operation task next last, operation.Brings →
      Begins settings world state operation task next → Leads settings world next last →
        (∀ snapshot time, last.answer? task = some (.snapshot snapshot, time) →
          ∃ more source, last.journal = state.journal ++ more ∧
            Detects (sinceReset state.journal ++ more) source snapshot) ∧
        (∀ snapshot time, ⟨time, task, .detected snapshot⟩ ∈ last.journal →
          last.answer? task = some (.snapshot snapshot, time)) := by
  have holds := reachable.accounted
  have chronicled : Chronicled settings state := holds.common
  refine ⟨chronicled.snapshot_since_reset, ?_, ?_⟩
  · intro task next last begins leads
    exact begins.answer_of_snapshot holds leads
  · intro operation task next last brings begins leads
    constructor
    · intro snapshot time answered
      exact begins.seen_of_brings holds brings leads answered
    · intro snapshot time detected
      exact begins.returned_of_brings holds brings leads detected

/-- A detection that takes three milliseconds. -/
def detecting : State :=
  State.initial.spawn smallSettings (smallWorld 0 3) .refresh

/-- A reset comes before the detection ends. -/
def resetMeanwhile : State :=
  detecting.spawn smallSettings (smallWorld 0 3) .reset

/-- The detection ends after the reset. -/
def overtaken : State :=
  { resetMeanwhile with now := 3 }.resume smallSettings (smallWorld 0 3) 0

theorem overtaken_returns_and_keeps_nothing :
    overtaken.answer? 0 = some (.snapshot ⟨NameSet.empty, some 3⟩, 3) ∧
      overtaken.snapshot = Snapshot.empty := by
  have reset : Step smallSettings (smallWorld 0 3) detecting resetMeanwhile := .arrive .reset
  have waited : Step smallSettings (smallWorld 0 3) resetMeanwhile
      { resetMeanwhile with now := 3 } := .pass (by decide)
  have ended : Step smallSettings (smallWorld 0 3) { resetMeanwhile with now := 3 } overtaken :=
    .resume (by decide)
  have leads : Leads smallSettings (smallWorld 0 3) detecting overtaken :=
    .tail (.tail (.single reset) waited) ended
  refine ⟨?_, by decide⟩
  exact ((reset_wins .initial).2.2 .refresh 0 detecting overtaken trivial .arriving leads).2 _ _
    (by decide)

end PackageSearch.Server
