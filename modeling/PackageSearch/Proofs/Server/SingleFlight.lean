import PackageSearch.Proofs.Server.Drain

/-!
# One detection for many calls

When a call finds the snapshot stale and nothing is in flight, it detects, and whoever asks before
its snapshot has become stale again is given the same one: those who come while it detects wait at
the gate, and look again when they are let in. This holds as long as nobody forces a detection or
resets the snapshot.
-/

namespace PackageSearch

/-- The event is the start or the end of a detection. -/
def Event.isOfDetection : Event → Bool
  | .refreshing | .detected _ => true
  | _ => false

theorem Snapshot.isStale_mono {snapshot : Snapshot} {ttl time moment : Nat}
    (ordered : time ≤ moment)
    (stale : snapshot.isStale ttl time = true) : snapshot.isStale ttl moment = true := by
  cases capturedAt : snapshot.capturedAt with
  | none => simp [Snapshot.isStale, capturedAt]
  | some captured =>
      simp only [Snapshot.isStale, capturedAt, decide_eq_true_eq] at stale ⊢
      omega

namespace Server

variable {settings : Settings} {world : World} {start state next last : State}
  {task other first : TaskId} {before after : State × Point} {events : List Event}
  {journal : List JournalEntry} {found : Snapshot} {ended time moment : Nat}

/-! ### Calm runs -/

/-- The operation neither forces a detection nor forgets the snapshot. -/
def Operation.IsCalm : Operation → Prop
  | .clear | .refresh | .reset => False
  | _ => True

/-- The operation may ask for the snapshot when it begins. -/
def Operation.MayAsk : Operation → Prop
  | .search _ | .current => True
  | _ => False

/-- A task that goes on from the stage may ask for the snapshot. -/
def Stage.MayAsk : Stage → Prop
  | .scheduled operation _ => operation.MayAsk
  | .searching _ _ _ _ | .inspecting => True
  | _ => False

/-- What the task has detected, if it has, is not stale at the moment. -/
def InTime (settings : Settings) (task : TaskId) (journal : List JournalEntry) (moment : Nat) :
    Prop :=
  ∀ ended found, ⟨ended, task, .detected found⟩ ∈ journal → moment < ended + settings.installedTtl

/-- Nobody forces a detection or forgets the snapshot, and whoever asks for it does so before what
the first task has detected is stale. -/
def calm (settings : Settings) (first : TaskId) : Regime where
  admits := Operation.IsCalm
  passes _ := True
  resumes state stage := stage.MayAsk → InTime settings first state.journal state.now
  resumes_withTasks inTime := inTime

/-! ### Detections in the journal -/

/-- The starts and the ends of all detections. -/
def detectionsIn (journal : List JournalEntry) : List JournalEntry :=
  journal.filter fun entry => entry.event.isOfDetection

@[simp]
theorem detectionsIn_append (journal more : List JournalEntry) :
    detectionsIn (journal ++ more) = detectionsIn journal ++ detectionsIn more :=
  List.filter_append _ _

@[simp]
theorem detectionsIn_entriesOf (time : Nat) (task : TaskId) (events : List Event) :
    detectionsIn (entriesOf time task events) =
      entriesOf time task (events.filter Event.isOfDetection) := by
  simp only [detectionsIn, entriesOf, List.filter_map]
  rfl

theorem mem_detectionsIn {entry : JournalEntry} :
    entry ∈ detectionsIn journal ↔ entry ∈ journal ∧ entry.event.isOfDetection = true :=
  List.mem_filter

/-- Neither a detection nor the snapshot has changed. -/
structure Unaffected (before after : State) : Prop where
  detections : detectionsIn after.journal = detectionsIn before.journal
  snapshot : after.snapshot = before.snapshot

/-- What a task at the point does next neither starts nor ends a detection, and does not forget the
snapshot. -/
def Point.IsQuiet : Point → Prop
  | .beginning operation => operation.IsCalm
  | .entering _ _ | .concluding _ _ _ => False
  | _ => True

theorem Move.detectionsIn_eq (move : Move settings world task before events after) :
    detectionsIn after.1.journal = detectionsIn before.1.journal ++
      entriesOf before.1.now task (events.filter Event.isOfDetection) := by
  rw [move.journal_eq, detectionsIn_append, detectionsIn_entriesOf]

theorem Move.unaffected (move : Move settings world task before events after)
    (quiet : before.2.IsQuiet) :
    Unaffected before.1 after.1 ∧ before.1.gate <+: after.1.gate := by
  have silent : events.filter Event.isOfDetection = [] →
      detectionsIn after.1.journal = detectionsIn before.1.journal := by
    intro nothing
    rw [move.detectionsIn_eq, nothing, entriesOf_nil, List.append_nil]
  cases move with
  | clear | reset | refresh | refreshDemanded | stillStale | broughtMeanwhile | kept
  | discarded => exact quiet.elim
  | gateFree | gateTaken => exact ⟨⟨silent rfl, rfl⟩, List.prefix_append _ _⟩
  | _ =>
      refine ⟨⟨silent ?_, rfl⟩, List.prefix_refl _⟩
      simp [Event.isOfDetection]

theorem Move.probed_cases (move : Move settings world task before events after) :
    after.1.probed = before.1.probed ∨
      ∃ detection purpose place probe remaining,
        before.2 = .trying detection purpose ((place, probe) :: remaining) ∧
          after.1.probed = before.1.probed ++ [place] := by
  cases move with
  | probeAnswered | probeWaits => exact .inr ⟨_, _, _, _, _, rfl, rfl⟩
  | broughtMeanwhile | kept | discarded => exact .inl (State.leaveGate_probed _)
  | _ => exact .inl rfl

/-! ### The detection of the first call -/

/-- The detection that the first task has started is under way, with the snapshot as it was. -/
structure IsAwaited (start state : State) : Prop where
  inside : state.gate.head? = some start.tasks.length
  snapshot : state.snapshot = start.snapshot
  detections : detectionsIn state.journal =
    detectionsIn start.journal ++ [⟨start.now, start.tasks.length, .refreshing⟩]

/-- The detection that the first task has started has ended, and its snapshot is still there. -/
structure HasBrought (start state : State) (found : Snapshot) (ended : Nat) : Prop where
  snapshot : state.snapshot = found
  capturedAt : found.capturedAt = some ended
  past : ended ≤ state.now
  detections : detectionsIn state.journal =
    detectionsIn start.journal ++ [⟨start.now, start.tasks.length, .refreshing⟩,
      ⟨ended, start.tasks.length, .detected found⟩]

/-- No probe has been called twice since the start, not even if the remaining ones are called. -/
def CallsOnce (start state : State) (remaining : List (Nat × Probe)) : Prop :=
  ∃ calls, state.probed = start.probed ++ calls ∧ (calls ++ remaining.map Prod.fst).Nodup

/-- What has come of the detection that the first task has started. -/
structure Flight (start state : State) : Prop where
  later : start.now ≤ state.now
  generation : state.generation = start.generation
  callsOnce : CallsOnce start state []
  phase : IsAwaited start state ∨ ∃ found ended, HasBrought start state found ended

theorem IsAwaited.mem_journal (awaited : IsAwaited start state) :
    .refreshing ∈ eventsOf state.journal start.tasks.length := by
  refine mem_eventsOf.mpr ⟨start.now, (mem_detectionsIn.mp ?_).1⟩
  rw [awaited.detections]
  exact List.mem_append_right _ (List.mem_singleton_self _)

theorem HasBrought.mem_journal (brought : HasBrought start state found ended) :
    ⟨ended, start.tasks.length, .detected found⟩ ∈ state.journal := by
  refine (mem_detectionsIn.mp ?_).1
  rw [brought.detections]
  simp

/-- Whoever asks in time finds what the first task has detected not stale. -/
theorem HasBrought.isStale_eq_false (brought : HasBrought start state found ended)
    (positive : 0 < settings.installedTtl)
    (inTime : InTime settings start.tasks.length state.journal moment) :
    state.snapshot.isStale settings.installedTtl moment = false := by
  have young := inTime _ _ brought.mem_journal
  rw [brought.snapshot]
  simp only [Snapshot.isStale, brought.capturedAt, decide_eq_false_iff_not]
  omega

theorem HasBrought.not_isAwaited (brought : HasBrought start state found ended) :
    ¬IsAwaited start state := by
  intro awaited
  have lengths := congrArg List.length (awaited.detections.symm.trans brought.detections)
  simp at lengths

theorem IsAwaited.of_unaffected (awaited : IsAwaited start state)
    (unaffected : Unaffected state next) (joined : state.gate <+: next.gate) :
    IsAwaited start next where
  inside := by
    obtain ⟨others, same⟩ := joined
    rw [← same, List.head?_append_of_ne_nil _
      (List.ne_nil_of_mem (List.mem_of_mem_head? awaited.inside))]
    exact awaited.inside
  snapshot := unaffected.snapshot.trans awaited.snapshot
  detections := unaffected.detections.trans awaited.detections

theorem HasBrought.of_unaffected (brought : HasBrought start state found ended)
    (unaffected : Unaffected state next) (ordered : state.now ≤ next.now) :
    HasBrought start next found ended where
  snapshot := unaffected.snapshot.trans brought.snapshot
  capturedAt := brought.capturedAt
  past := Nat.le_trans brought.past ordered
  detections := unaffected.detections.trans brought.detections

theorem CallsOnce.of_eq {remaining : List (Nat × Probe)}
    (callsOnce : CallsOnce start state remaining) (same : next.probed = state.probed) :
    CallsOnce start next remaining := by
  obtain ⟨calls, probed, distinct⟩ := callsOnce
  exact ⟨calls, same.trans probed, distinct⟩

theorem CallsOnce.of_remaining {remaining : List (Nat × Probe)}
    (callsOnce : CallsOnce start state remaining) : CallsOnce start state [] := by
  obtain ⟨calls, probed, distinct⟩ := callsOnce
  exact ⟨calls, probed, by simpa using distinct.of_append_left⟩

theorem CallsOnce.call {place : Nat} {probe : Probe} {remaining : List (Nat × Probe)}
    (callsOnce : CallsOnce start state ((place, probe) :: remaining))
    (called : next.probed = state.probed ++ [place]) : CallsOnce start next remaining := by
  obtain ⟨calls, probed, distinct⟩ := callsOnce
  refine ⟨calls ++ [place], ?_, by simpa using distinct⟩
  rw [called, probed, List.append_assoc]

theorem Flight.phase_of_unaffected (flight : Flight start state)
    (unaffected : Unaffected state next) (joined : state.gate <+: next.gate)
    (ordered : state.now ≤ next.now) :
    IsAwaited start next ∨ ∃ found ended, HasBrought start next found ended := by
  rcases flight.phase with awaited | ⟨found, ended, brought⟩
  · exact .inl (awaited.of_unaffected unaffected joined)
  · exact .inr ⟨found, ended, brought.of_unaffected unaffected ordered⟩

theorem Flight.of_same (flight : Flight start state) (unaffected : Unaffected state next)
    (generation : next.generation = state.generation) (probed : next.probed = state.probed)
    (joined : state.gate <+: next.gate) (ordered : state.now ≤ next.now) :
    Flight start next where
  later := Nat.le_trans flight.later ordered
  generation := generation.trans flight.generation
  callsOnce := flight.callsOnce.of_eq probed
  phase := flight.phase_of_unaffected unaffected joined ordered

/-! ### What tasks expect -/

/-- What was asked in time is in time, whatever comes to be detected from then on. -/
theorem Move.inTime (move : Move settings world task before events after)
    (positive : 0 < settings.installedTtl) (past : moment ≤ before.1.now)
    (inTime : InTime settings first before.1.journal moment) :
    InTime settings first after.1.journal moment := by
  intro ended found detected
  rw [move.journal_eq] at detected
  rcases mem_append_entriesOf.mp detected with old | ⟨rfl, -, -⟩
  · exact inTime ended found old
  · omega

/-- What a task at a point expects while the first one's snapshot is awaited or there. -/
def Point.Expects (settings : Settings) (start state : State) (task : TaskId) : Point → Prop
  | .resting (.scheduled operation _) => operation.IsCalm
  | .beginning operation => operation.IsCalm ∧
      (operation.MayAsk → InTime settings start.tasks.length state.journal state.now)
  | .sending _ | .received _ _ _ | .asking _ =>
      InTime settings start.tasks.length state.journal state.now
  | .resting (.queued demand _) | .arriving demand _ | .entering demand _ => ∃ askedAt,
      demand = .current askedAt ∧ askedAt ≤ state.now ∧
        InTime settings start.tasks.length state.journal askedAt
  | .resting (.probing detection _ _ _ remaining _) | .trying detection _ remaining
  | .hearing detection _ _ remaining _ =>
      task = start.tasks.length ∧ detection.generation = start.generation ∧
        IsAwaited start state ∧ CallsOnce start state remaining
  | .concluding detection _ _ => task = start.tasks.length ∧
      detection.generation = start.generation ∧ IsAwaited start state
  | .delivering snapshot _ => ∃ ended, HasBrought start state snapshot ended
  | _ => True

/-- Whoever is let into the gate without having detected finds what the first task has detected. -/
theorem Flight.brought_of_entering {demand : Demand} {purpose : Purpose}
    (flight : Flight start state) (positive : 0 < settings.installedTtl)
    (stands : Stands state.journal state.generation task (.entering demand purpose))
    (inside : state.gate.head? = some task)
    (expects : (Point.entering demand purpose).Expects settings start state task) :
    ∃ askedAt found ended, demand = .current askedAt ∧
      state.snapshot.isStale settings.installedTtl askedAt = false ∧
      HasBrought start state found ended := by
  obtain ⟨askedAt, same, -, inTime⟩ := expects
  rcases flight.phase with awaited | ⟨found, ended, brought⟩
  · obtain rfl : task = start.tasks.length := Option.some.inj (inside.symm.trans awaited.inside)
    exact absurd awaited.mem_journal stands.2.unstarted
  · exact ⟨askedAt, found, ended, same, brought.isStale_eq_false positive inTime, brought⟩

theorem Move.callsOnce (move : Move settings world task before events after)
    (callsOnce : CallsOnce start before.1 [])
    (expects : before.2.Expects settings start before.1 task) : CallsOnce start after.1 [] := by
  rcases move.probed_cases with same | ⟨_, _, place, probe, remaining, isTrying, called⟩
  · exact callsOnce.of_eq same
  · rw [isTrying] at expects
    exact (expects.2.2.2.call called).of_remaining

theorem IsAwaited.hasBrought (awaited : IsAwaited start state) (names : NameSet) :
    HasBrought start (State.leaveGate
      { state.note start.tasks.length (.detected (state.captured names)) with
          snapshot := state.captured names }) (state.captured names) state.now where
  snapshot := State.leaveGate_snapshot _
  capturedAt := rfl
  past := by
    rw [State.leaveGate_now]
    exact Nat.le_refl _
  detections := by
    rw [State.leaveGate_journal]
    refine (detectionsIn_append _ _).trans ?_
    rw [awaited.detections, List.append_assoc]
    rfl

/-- What a move of a calm run can do to the snapshot: nothing; or its task is let into the gate and
is handed what is there; or the first task ends its detection. -/
theorem Move.calm_cases (move : Move settings world task before events after)
    (positive : 0 < settings.installedTtl)
    (stands : Stands before.1.journal before.1.generation task before.2)
    (place : before.2.HasPlace before.1.gate task) (flight : Flight start before.1)
    (expects : before.2.Expects settings start before.1 task) :
    before.2.IsQuiet ∨
      (∃ found ended purpose, after.2 = .delivering found purpose ∧
        HasBrought start before.1 found ended ∧ Unaffected before.1 after.1) ∨
      ∃ found purpose, after.2 = .delivering found purpose ∧ IsAwaited start before.1 ∧
        HasBrought start after.1 found before.1.now := by
  cases move with
  | clear | reset | refresh => exact expects.1.elim
  | refreshDemanded =>
      obtain ⟨askedAt, same, -⟩ := expects
      cases same
  | stillStale stale =>
      obtain ⟨askedAt, found, ended, same, fresh, -⟩ :=
        flight.brought_of_entering positive stands place expects
      cases same
      exact absurd (stale.symm.trans fresh) (by decide)
  | @broughtMeanwhile state askedAt purpose =>
      obtain ⟨-, found, ended, -, -, brought⟩ :=
        flight.brought_of_entering positive stands place expects
      have same : Unaffected state state.leaveGate := ⟨by simp, by simp⟩
      exact .inr (.inl ⟨found, ended, purpose, by rw [brought.snapshot], brought, same⟩)
  | kept =>
      obtain ⟨rfl, -, awaited⟩ := expects
      exact .inr (.inr ⟨_, _, rfl, awaited, awaited.hasBrought _⟩)
  | discarded overtaken =>
      obtain ⟨-, generation, -⟩ := expects
      exact absurd (flight.generation.trans generation.symm) overtaken
  | _ => exact .inl trivial

/-- What the first task has brought stays there. -/
theorem Move.hasBrought (move : Move settings world task before events after)
    (positive : 0 < settings.installedTtl)
    (stands : Stands before.1.journal before.1.generation task before.2)
    (place : before.2.HasPlace before.1.gate task) (flight : Flight start before.1)
    (expects : before.2.Expects settings start before.1 task)
    (brought : HasBrought start before.1 found ended) : HasBrought start after.1 found ended := by
  have ordered := Nat.le_of_eq move.now_eq.symm
  rcases move.calm_cases positive stands place flight expects with
    quiet | ⟨-, -, -, -, -, same⟩ | ⟨-, -, -, awaited, -⟩
  · exact brought.of_unaffected (move.unaffected quiet).1 ordered
  · exact brought.of_unaffected same ordered
  · exact absurd awaited brought.not_isAwaited

theorem Move.phase (move : Move settings world task before events after)
    (positive : 0 < settings.installedTtl)
    (stands : Stands before.1.journal before.1.generation task before.2)
    (place : before.2.HasPlace before.1.gate task) (flight : Flight start before.1)
    (expects : before.2.Expects settings start before.1 task) :
    IsAwaited start after.1 ∨ ∃ found ended, HasBrought start after.1 found ended := by
  have ordered := Nat.le_of_eq move.now_eq.symm
  rcases move.calm_cases positive stands place flight expects with
    quiet | ⟨found, ended, -, -, brought, same⟩ | ⟨found, -, -, -, brought⟩
  · obtain ⟨unaffected, joined⟩ := move.unaffected quiet
    exact flight.phase_of_unaffected unaffected joined ordered
  · exact .inr ⟨found, ended, brought.of_unaffected same ordered⟩
  · exact .inr ⟨found, _, brought⟩

theorem Move.flight (move : Move settings world task before events after)
    (positive : 0 < settings.installedTtl)
    (stands : Stands before.1.journal before.1.generation task before.2)
    (place : before.2.HasPlace before.1.gate task) (flight : Flight start before.1)
    (expects : before.2.Expects settings start before.1 task) : Flight start after.1 where
  later := move.now_eq.symm ▸ flight.later
  generation := by
    have noReset : .snapshotReset ∉ events := by
      cases move with
      | clear | reset => exact expects.1.elim
      | _ => simp
    rw [move.generation_eq, List.count_eq_zero.mpr noReset]
    exact flight.generation
  callsOnce := move.callsOnce flight.callsOnce expects
  phase := move.phase positive stands place flight expects

theorem Move.expects_of_quiet (move : Move settings world task before events after)
    (positive : 0 < settings.installedTtl)
    (stale : start.snapshot.isStale settings.installedTtl start.now = true)
    (permitted : (calm settings start.tasks.length).Permits before) (quiet : before.2.IsQuiet)
    (flight : Flight start before.1)
    (expects : before.2.Expects settings start before.1 task) :
    after.2.Expects settings start after.1 task := by
  obtain ⟨unaffected, joined⟩ := move.unaffected quiet
  have inTime : InTime settings start.tasks.length before.1.journal before.1.now →
      InTime settings start.tasks.length after.1.journal before.1.now :=
    move.inTime positive (Nat.le_refl _)
  cases move with
  | @goOn state stage allowed =>
      cases stage with
      | scheduled operation due => exact ⟨expects, permitted⟩
      | searching | inspecting => exact permitted trivial
      | queued | probing => exact expects
      | finished => trivial
  | clear | reset | refresh => exact expects.1.elim
  | refreshDemanded | stillStale | broughtMeanwhile | kept | discarded => exact quiet.elim
  | searchMiss | current => exact expects.2 trivial
  | queryAnswered | queryListed => exact inTime expects
  | @stale state purpose => exact ⟨state.now, rfl, Nat.le_refl _, expects⟩
  | fresh fresh =>
      rcases flight.phase with awaited | ⟨found, ended, brought⟩
      · rw [awaited.snapshot] at fresh
        exact absurd ((Snapshot.isStale_mono flight.later stale).symm.trans fresh) (by decide)
      · exact ⟨ended, brought.snapshot ▸ brought⟩
  | gateFree | gateTaken => exact expects
  | noProbeLeft | probeSucceeded =>
      obtain ⟨isFirst, generation, awaited, -⟩ := expects
      exact ⟨isFirst, generation, awaited.of_unaffected unaffected joined⟩
  | probeAnswered | probeWaits =>
      obtain ⟨isFirst, generation, awaited, callsOnce⟩ := expects
      exact ⟨isFirst, generation, awaited.of_unaffected unaffected joined, callsOnce.call rfl⟩
  | probeFailed =>
      obtain ⟨isFirst, generation, awaited, callsOnce⟩ := expects
      exact ⟨isFirst, generation, awaited.of_unaffected unaffected joined, callsOnce.of_eq rfl⟩
  | _ => trivial

theorem Move.expects (move : Move settings world task before events after)
    (positive : 0 < settings.installedTtl)
    (stale : start.snapshot.isStale settings.installedTtl start.now = true)
    (permitted : (calm settings start.tasks.length).Permits before)
    (stands : Stands before.1.journal before.1.generation task before.2)
    (place : before.2.HasPlace before.1.gate task) (flight : Flight start before.1)
    (expects : before.2.Expects settings start before.1 task) :
    after.2.Expects settings start after.1 task := by
  rcases move.calm_cases positive stands place flight expects with
    quiet | ⟨found, ended, _, delivers, brought, same⟩ | ⟨found, _, delivers, -, brought⟩
  · exact move.expects_of_quiet positive stale permitted quiet flight expects
  · rw [delivers]
    exact ⟨ended, brought.of_unaffected same (Nat.le_of_eq move.now_eq.symm)⟩
  · rw [delivers]
    exact ⟨_, brought⟩

/-- Whoever is not inside the gate is quiet in a calm run. -/
theorem Point.isQuiet_of_outside {point : Point} (place : point.HasPlace state.gate task)
    (expects : point.Expects settings start state task) (outside : state.gate.head? ≠ some task) :
    point.IsQuiet := by
  cases point with
  | beginning operation => exact expects.1
  | entering | concluding => exact absurd place outside
  | _ => trivial

/-- What other tasks expect stays true. -/
theorem Move.expects_other {stage : Stage} (move : Move settings world task before events after)
    (different : other ≠ task) (positive : 0 < settings.installedTtl)
    (moving : before.2.HasPlace before.1.gate task)
    (place : (Point.resting stage).HasPlace before.1.gate other)
    (movingExpects : before.2.Expects settings start before.1 task)
    (expects : (Point.resting stage).Expects settings start before.1 other) :
    (Point.resting stage).Expects settings start after.1 other := by
  cases stage with
  | scheduled => exact expects
  | queued demand purpose =>
      obtain ⟨askedAt, same, past, inTime⟩ := expects
      exact ⟨askedAt, same, move.now_eq.symm ▸ past, move.inTime positive past inTime⟩
  | probing detection name wake outcome remaining purpose =>
      obtain ⟨isFirst, generation, awaited, callsOnce⟩ := expects
      have outside : before.1.gate.head? ≠ some task := fun inside =>
        different (Option.some.inj (place.symm.trans inside))
      have quiet := Point.isQuiet_of_outside moving movingExpects outside
      obtain ⟨unaffected, joined⟩ := move.unaffected quiet
      have sameProbed : after.1.probed = before.1.probed := by
        rcases move.probed_cases with same | ⟨_, _, _, _, _, isTrying, -⟩
        · exact same
        · rw [isTrying] at moving
          exact absurd moving outside
      exact ⟨isFirst, generation, awaited.of_unaffected unaffected joined,
        callsOnce.of_eq sameProbed⟩
  | _ => trivial

theorem Point.Expects.withTasks {point : Point} {tasks : List Task} {nextTicket : Nat}
    (expects : point.Expects settings start state task) :
    point.Expects settings start (state.withTasks tasks nextTicket) task := by
  have awaits : IsAwaited start state → IsAwaited start (state.withTasks tasks nextTicket) :=
    fun awaited => awaited.of_unaffected ⟨rfl, rfl⟩ (List.prefix_refl _)
  cases point with
  | resting stage =>
      cases stage with
      | probing => exact ⟨expects.1, expects.2.1, awaits expects.2.2.1, expects.2.2.2⟩
      | _ => exact expects
  | trying | hearing => exact ⟨expects.1, expects.2.1, awaits expects.2.2.1, expects.2.2.2⟩
  | concluding => exact ⟨expects.1, expects.2.1, awaits expects.2.2⟩
  | delivering =>
      obtain ⟨ended, brought⟩ := expects
      exact ⟨ended, brought.of_unaffected ⟨rfl, rfl⟩ (Nat.le_refl _)⟩
  | _ => exact expects

/-- Calm runs after a call has begun to detect. -/
def flying (world : World) (positive : 0 < settings.installedTtl)
    (stale : start.snapshot.isStale settings.installedTtl start.now = true) :
    Layer ((gated settings world).under (calm settings start.tasks.length)) where
  common := Flight start
  standing state task point := point.Expects settings start state task
  common_withTasks _ flight :=
    flight.of_same ⟨rfl, rfl⟩ rfl rfl (List.prefix_refl _) (Nat.le_refl _)
  standing_withTasks expects := expects.withTasks
  common_pass _ ordered _ flight :=
    flight.of_same ⟨rfl, rfl⟩ rfl rfl (List.prefix_refl _) ordered
  standing_pass {_ _ _ stage} _ ordered _ _ expects := by
    cases stage with
    | queued =>
        obtain ⟨askedAt, same, past, inTime⟩ := expects
        exact ⟨askedAt, same, Nat.le_trans past ordered, inTime⟩
    | probing =>
        obtain ⟨isFirst, generation, awaited, callsOnce⟩ := expects
        exact ⟨isFirst, generation, awaited.of_unaffected ⟨rfl, rfl⟩ (List.prefix_refl _),
          callsOnce⟩
    | _ => exact expects
  announced admitted _ _ := admitted
  move move _ permitted _ standing flight expects :=
    ⟨move.flight positive standing.1.1 standing.2 flight expects,
      move.expects positive stale permitted standing.1.1 standing.2 flight expects⟩
  undisturbed move different _ moving place _ movingExpects expects :=
    move.expects_other different positive moving.2 place.2 movingExpects expects

/-! ### All calls get the same snapshot -/

/-- How far a call has come that is to return what the first task has detected. -/
def Point.Reports (start state : State) : Point → Prop
  | .beginning operation => operation = .current
  | .resting (.queued _ purpose) | .resting (.probing _ _ _ _ _ purpose) | .asking purpose
  | .arriving _ purpose | .entering _ purpose | .trying _ purpose _ | .hearing _ _ _ _ purpose
  | .concluding _ _ purpose | .delivering _ purpose => purpose = .report
  | .answering answer | .resting (.finished answer _) =>
      ∃ found ended, answer = .snapshot found ∧ HasBrought start state found ended
  | _ => False

theorem Point.Reports.mono {point : Point} (reports : point.Reports start state)
    (keeps : ∀ {found ended}, HasBrought start state found ended →
      HasBrought start next found ended) : point.Reports start next := by
  cases point with
  | resting stage =>
      cases stage with
      | finished =>
          obtain ⟨found, ended, same, brought⟩ := reports
          exact ⟨found, ended, same, keeps brought⟩
      | _ => exact reports
  | answering =>
      obtain ⟨found, ended, same, brought⟩ := reports
      exact ⟨found, ended, same, keeps brought⟩
  | _ => exact reports

theorem Move.reports (move : Move settings world task before events after)
    (expects : before.2.Expects settings start before.1 task)
    (reports : before.2.Reports start before.1) : after.2.Reports start after.1 := by
  cases move with
  | @goOn state stage allowed =>
      cases stage with
      | scheduled | searching | inspecting => exact reports.elim
      | _ => exact reports
  | current => rfl
  | reported =>
      obtain ⟨ended, brought⟩ := expects
      exact ⟨_, ended, rfl, brought⟩
  | searchBlank | searchOverlong | searchHit | searchMiss | clear | debug | health | stats | refuse
  | refresh | snapshot | reset | debugged | unassembled | assembled => cases reports
  | queryAnswered | queryWaits | queryLate | queryFailed | queryListed | fail => exact reports.elim
  | _ => exact reports

/-- Calm runs after another call has begun. -/
def reporting (world : World) (positive : 0 < settings.installedTtl)
    (stale : start.snapshot.isStale settings.installedTtl start.now = true) (call : TaskId) :
    Layer (flying world positive stale).invariant where
  common state := call < state.tasks.length
  standing state task point := task = call → point.Reports start state
  common_withTasks grown present := Nat.lt_of_lt_of_le present grown
  standing_withTasks reports same :=
    (reports same).mono (·.of_unaffected ⟨rfl, rfl⟩ (Nat.le_refl _))
  common_pass _ _ _ present := present
  standing_pass _ ordered _ _ reports same :=
    (reports same).mono (·.of_unaffected ⟨rfl, rfl⟩ ordered)
  announced _ _ present same := absurd same.symm (Nat.ne_of_lt present)
  move move _ _ _ standing present reports := by
    refine ⟨?_, fun same => move.reports standing.2 (reports same)⟩
    rw [move.length_tasks_eq]
    exact present
  undisturbed move _ common moving _ _ _ reports same :=
    (reports same).mono
      (move.hasBrought positive moving.1.1.1 moving.1.2 common.2 moving.2)

/-- The state in which a first call has begun to detect. -/
def State.detecting (start : State) : State :=
  State.note (State.lined start.tasks.length (start.withTasks
    (start.tasks ++ [{ stage := .scheduled .current start.now, ticket := start.nextTicket }])
    start.nextTicket)) start.tasks.length .refreshing

theorem isAwaited_detecting (noGate : start.gate = []) : IsAwaited start start.detecting where
  inside := by simp [State.detecting, State.note, State.lined, State.withTasks, noGate]
  snapshot := rfl
  detections := detectionsIn_append _ _

/-- The probes are called at their places. -/
theorem places_calls (world : World) :
    world.calls.map Prod.fst = List.range world.probes.length :=
  List.map_fst_zip (by simp)

theorem callsOnce_detecting (start : State) (world : World) :
    CallsOnce start start.detecting world.calls := by
  refine ⟨[], (List.append_nil _).symm, ?_⟩
  rw [List.nil_append, places_calls]
  exact List.nodup_range

theorem spawn_current_eq (noGate : start.gate = [])
    (stale : start.snapshot.isStale settings.installedTtl start.now = true) :
    start.spawn settings world .current =
      State.settle (tryProbes settings world start.detecting start.tasks.length start.detection
        .report world.calls) start.tasks.length := by
  simp only [State.spawn, begin, askCurrent, comeToGate, enterGate, startDetection, stale, noGate,
    List.isEmpty_nil, if_true]
  simp only [State.detecting, State.lined, State.withTasks, noGate]
  rfl

theorem State.stage?_detecting (different : other ≠ start.tasks.length) :
    start.detecting.stage? other = start.stage? other := by
  let arrival : Task := { stage := .scheduled .current start.now, ticket := start.nextTicket }
  have added : start.detecting.tasks = start.tasks ++ [arrival] := rfl
  rw [State.stage?, added, State.stage?]
  rcases Nat.lt_or_gt_of_ne different with old | later
  · rw [List.getElem?_append_left old]
  · have absent : (start.tasks ++ [arrival]).length ≤ other := by
      simpa using Nat.succ_le_of_lt later
    rw [List.getElem?_eq_none absent, List.getElem?_eq_none (Nat.le_of_lt later)]

/-- A call that finds the snapshot stale while nothing is in flight comes to detect. -/
theorem State.IsIdle.comesToDetect (idle : start.IsIdle)
    (holds : (gated settings world).Holds start)
    (stale : start.snapshot.isStale settings.installedTtl start.now = true) :
    ((gated settings world).under (calm settings start.tasks.length)).HoldsWhile
      start.tasks.length (start.detecting, .trying start.detection .report world.calls) := by
  have chronicled : Chronicled settings start := holds.common.1.1
  have noGate : start.gate.isEmpty = true := List.isEmpty_iff.mpr (idle.gate_eq_nil holds)
  have admitted : (calm settings start.tasks.length).admits .current := trivial
  have inTime : InTime settings start.tasks.length start.journal start.now := by
    intro ended found detected
    have new := mem_eventsOf.mpr ⟨ended, detected⟩
    rw [chronicled.eventsOf_new] at new
    cases new
  have arrived := (holds.under (calm settings start.tasks.length)).arrive admitted fun _ => inTime
  have asking := arrived.move .current trivial
  have arriving := asking.move (.stale stale) trivial
  have entering := arriving.move (.gateFree noGate) trivial
  exact entering.move (.stillStale stale) trivial

/-- From there on all that is expected of calm runs holds. -/
theorem State.IsIdle.detects (idle : start.IsIdle) (holds : (gated settings world).Holds start)
    (positive : 0 < settings.installedTtl)
    (stale : start.snapshot.isStale settings.installedTtl start.now = true) :
    (reporting world positive stale start.tasks.length).invariant.Holds
      (start.spawn settings world .current) := by
  have noGate : start.gate = [] := idle.gate_eq_nil holds
  have awaited := isAwaited_detecting noGate
  have callsOnce := callsOnce_detecting start world
  have flight : Flight start start.detecting :=
    ⟨Nat.le_refl _, rfl, callsOnce.of_remaining, .inl awaited⟩
  have flown : (flying world positive stale).invariant.HoldsWhile start.tasks.length
      (start.detecting, .trying start.detection .report world.calls) := by
    refine Layer.holdsWhile (idle.comesToDetect holds stale) flight
      ⟨rfl, rfl, awaited, callsOnce⟩ fun different waits => ?_
    rw [State.stage?_detecting different] at waits
    obtain ⟨answer, time, rfl⟩ := idle.exists_answer waits
    trivial
  have reported : (reporting world positive stale start.tasks.length).invariant.HoldsWhile _ _ :=
    Layer.holdsWhile flown flown.present (fun _ => rfl) fun different _ same =>
      absurd same different
  rw [spawn_current_eq noGate stale]
  exact (reported.moves (moves_tryProbes _ _ _ _)).settle

theorem calm_resumes_of_isAtGate (state : State) (stage : Stage) (atGate : stage.IsAtGate) :
    (calm settings first).resumes state stage := by
  intro mayAsk
  cases stage with
  | queued | probing => exact mayAsk.elim
  | _ => exact atGate.elim

/-- The calls that have been made in a calm run. -/
inductive Called (settings : Settings) (world : World) (start : State) : State → TaskId → Prop where
  | first {last : State} :
      LeadsUnder (calm settings start.tasks.length) settings world
        (start.spawn settings world .current) last →
        Called settings world start last start.tasks.length
  | further {asked next last : State} {call : TaskId} :
      LeadsUnder (calm settings start.tasks.length) settings world
        (start.spawn settings world .current) asked →
      InTime settings start.tasks.length asked.journal asked.now →
      Begins settings world asked .current call next →
      LeadsUnder (calm settings start.tasks.length) settings world next last →
        Called settings world start last call

theorem Called.reporting {call : TaskId} (called : Called settings world start last call)
    (idle : start.IsIdle) (holds : (gated settings world).Holds start)
    (positive : 0 < settings.installedTtl)
    (stale : start.snapshot.isStale settings.installedTtl start.now = true) :
    (reporting world positive stale call).invariant.Holds last := by
  have begun := idle.detects holds positive stale
  cases called with
  | first leads => exact begun.leadsUnder leads
  | further ledBefore inTime begins leads =>
      have flown := (Layer.below begun).leadsUnder ledBefore
      obtain ⟨tasks, nextTicket, ready, rfl⟩ :=
        begins.exists_ready flown trivial fun _ _ => inTime
      have reported : (Server.reporting world positive stale call).invariant.HoldsWhile _ _ :=
        Layer.holdsWhile ready ready.present (fun _ => rfl) fun different _ same =>
          absurd same different
      exact ((reported.moves (moves_begin _ _)).settle).leadsUnder leads

theorem Called.leadsUnder {call : TaskId} (called : Called settings world start last call)
    (leads : LeadsUnder (calm settings start.tasks.length) settings world last next) :
    Called settings world start next call := by
  cases called with
  | first led => exact .first (led.trans leads)
  | further ledBefore inTime begins led => exact .further ledBefore inTime begins (led.trans leads)

/-- A call that has been made has its answer once nobody is left at the gate. -/
theorem exists_answer?_of_reporting {call : TaskId} {positive : 0 < settings.installedTtl}
    {stale : start.snapshot.isStale settings.installedTtl start.now = true}
    (holds : (reporting world positive stale call).invariant.Holds last)
    (isEmpty : last.gate = []) : ∃ answer time, last.answer? call = some (answer, time) := by
  obtain ⟨stage, waits⟩ := State.exists_stage? holds.common.2
  have reports : (Point.resting stage).Reports start last := (holds.standing waits).2 rfl
  have place : (Point.resting stage).HasPlace last.gate call := (holds.standing waits).1.1.2
  rw [isEmpty] at place
  cases stage with
  | scheduled | searching | inspecting => exact reports.elim
  | queued | probing => cases place
  | finished answer time => exact ⟨answer, time, State.answer?_eq_some_iff.mpr waits⟩

/-- Since the start one detection has run and no other: that of the first task, which has called no
probe twice and has ended at the given time with the given snapshot. -/
structure HasRunOnce (start last : State) (found : Snapshot) (ended : Nat) : Prop where
  capturedAt : found.capturedAt = some ended
  detections : detectionsIn last.journal =
    detectionsIn start.journal ++ [⟨start.now, start.tasks.length, .refreshing⟩,
      ⟨ended, start.tasks.length, .detected found⟩]
  callsOnce : ∃ calls, last.probed = start.probed ++ calls ∧ calls.Nodup

theorem Flight.hasRunOnce (flight : Flight start last)
    (brought : HasBrought start last found ended) : HasRunOnce start last found ended := by
  obtain ⟨calls, probed, distinct⟩ := flight.callsOnce
  exact ⟨brought.capturedAt, brought.detections, calls, probed, by simpa using distinct⟩

/-- In no run two detections overlap. And if a call finds the snapshot stale while nothing is in
flight, then as long as nobody resets the snapshot or forces a detection, and all calls come before
what the first one detects is stale, all calls that have been answered have been answered with one
snapshot, and the detection that found it is the only one. Every such run can go on until all calls
that have been made are answered. -/
theorem single_flight (reachable : Reachable settings world start) :
    NeverOverlap start.journal ∧
    (0 < settings.installedTtl → start.IsIdle →
      start.snapshot.isStale settings.installedTtl start.now = true →
      ∀ last, LeadsUnder (calm settings start.tasks.length) settings world
        (start.spawn settings world .current) last →
      ((∃ call, Called settings world start last call ∧ (last.answer? call).isSome) →
        ∃ found ended, HasRunOnce start last found ended ∧
          ∀ call answer time, Called settings world start last call →
            last.answer? call = some (answer, time) → answer = .snapshot found) ∧
      ∃ done, LeadsUnder (calm settings start.tasks.length) settings world last done ∧
        ∀ call, Called settings world start last call →
          ∃ answer time, done.answer? call = some (answer, time)) := by
  have holds := reachable.gated
  refine ⟨holds.common.2.apart, ?_⟩
  intro positive idle stale last leads
  have reports {call : TaskId} {answer : Answer} {time : Nat}
      (called : Called settings world start last call)
      (answered : last.answer? call = some (answer, time)) :
      ∃ found ended, answer = .snapshot found ∧ HasBrought start last found ended :=
    ((called.reporting idle holds positive stale).standing
      (State.answer?_eq_some_iff.mp answered)).2 rfl
  refine ⟨?_, ?_⟩
  · rintro ⟨call, called, answered⟩
    obtain ⟨⟨answer, time⟩, answered⟩ := Option.isSome_iff_exists.mp answered
    obtain ⟨found, ended, -, brought⟩ := reports called answered
    have flown := (Layer.below (idle.detects holds positive stale)).leadsUnder leads
    refine ⟨found, ended, flown.common.2.hasRunOnce brought, ?_⟩
    intro other answer time called answered
    obtain ⟨shown, moment, rfl, same⟩ := reports called answered
    rw [← same.snapshot, brought.snapshot]
  · have led : Leads settings world start last :=
      .head (.arrive .current) (LeadsUnder.leads leads)
    have passes : ∀ state, (calm settings start.tasks.length).passes state := fun _ => trivial
    obtain ⟨done, drained, isEmpty⟩ :=
      exists_gate_eq_nil passes calm_resumes_of_isAtGate (holds.leads led)
    refine ⟨done, drained, fun call called => ?_⟩
    have reporting := (called.leadsUnder drained).reporting idle holds positive stale
    exact exists_answer?_of_reporting reporting isEmpty

/-- A server whose first call waits for a probe, some time later. -/
def calledEarlier : State :=
  { State.initial.spawn smallSettings (smallWorld 0 3) .current with now := 1 }

/-- A second call lines up behind the first one, and time passes until the probe answers. -/
def calledTwice : State :=
  { calledEarlier.spawn smallSettings (smallWorld 0 3) .current with now := 3 }

/-- Both calls have gone on. -/
def calledTwiceDone : State :=
  (calledTwice.resume smallSettings (smallWorld 0 3) 0).resume smallSettings (smallWorld 0 3) 1

theorem calledTwiceDone_answered_with_one_snapshot :
    ∃ found, HasRunOnce State.initial calledTwiceDone found 3 ∧
      calledTwiceDone.answer? 0 = some (.snapshot found, 3) ∧
      Called smallSettings (smallWorld 0 3) .initial calledTwiceDone 1 ∧
      calledTwiceDone.answer? 1 = some (.snapshot found, 3) := by
  have passed : LeadsUnder (calm smallSettings 0) smallSettings (smallWorld 0 3)
      (State.initial.spawn smallSettings (smallWorld 0 3) .current) calledEarlier :=
    .single (.pass (by decide) trivial)
  have inTime : InTime smallSettings 0 calledEarlier.journal calledEarlier.now := by
    have undetected : ∀ entry ∈ calledEarlier.journal, entry.event.found? = none := by decide
    intro ended found detected
    cases undetected _ detected
  have twice : LeadsUnder (calm smallSettings 0) smallSettings (smallWorld 0 3)
      (calledEarlier.spawn smallSettings (smallWorld 0 3) .current) calledTwiceDone := by
    refine .tail (.tail (.single (.pass (by decide) trivial)) (.resume rfl rfl ?_))
      (.resume rfl rfl ?_)
    · intro mayAsk
      exact mayAsk.elim
    · intro mayAsk
      exact mayAsk.elim
  have called : LeadsUnder (calm smallSettings 0) smallSettings (smallWorld 0 3)
      (State.initial.spawn smallSettings (smallWorld 0 3) .current)
      (calledEarlier.spawn smallSettings (smallWorld 0 3) .current) :=
    passed.tail (.arrive trivial fun _ => inTime)
  have first : Called smallSettings (smallWorld 0 3) .initial calledTwiceDone 0 :=
    .first (called.trans twice)
  have second : Called smallSettings (smallWorld 0 3) .initial calledTwiceDone 1 :=
    .further passed inTime .arriving twice
  obtain ⟨served, -⟩ :=
    (single_flight .initial).2 (by decide) (by decide) rfl calledTwiceDone (called.trans twice)
  obtain ⟨found, ended, ranOnce, answers⟩ := served ⟨0, first, by decide⟩
  have answered : calledTwiceDone.answer? 0 = some (.snapshot ⟨NameSet.empty, some 3⟩, 3) := by
    decide
  obtain rfl : ⟨NameSet.empty, some 3⟩ = found :=
    Answer.snapshot.inj (answers 0 _ _ first answered)
  obtain rfl : 3 = ended := Option.some.inj ranOnce.capturedAt
  have waited : calledTwiceDone.answer? 1 = some (.snapshot ⟨NameSet.empty, some 3⟩, 3) := by
    decide
  exact ⟨_, ranOnce, answered, second, waited⟩

end Server

end PackageSearch
