import PackageSearch.Proofs.Server.Gate
import PackageSearch.Proofs.Server.Schedule

/-!
# How old the snapshot behind an answer is

A search shows what a detection has found, and it may pass through two caches on the way: the
detection may be older than the response by less than the one time to live, and the response older
than the answer by less than the other. Waiting at the gate adds nothing, because whoever waits
there is handed what has been detected at that very moment.
-/

namespace PackageSearch.Server

variable {settings : Settings} {world : World} {state last : State} {task other : TaskId}
  {before after : State × Point} {events : List Event} {journal : List JournalEntry}
  {response : SearchResponse} {time captured : Nat}

/-- Whoever has been let into the gate goes on before time passes. -/
def prompt : Regime where
  admits _ := True
  passes state := ∀ task demand purpose,
    state.stage? task = some (.queued demand purpose) → state.gate.head? ≠ some task
  resumes _ _ := True
  resumes_withTasks _ := trivial

/-- The scheduler lets time pass only when nobody can go on, so its runs are of this kind. -/
theorem leadsUnder_prompt_runGroup (operations : List (Nat × Operation)) (state : State) :
    LeadsUnder prompt settings world state (state.runGroup settings world operations) := by
  refine State.leadsUnder_runGroup (fun _ _ => trivial) (fun _ => trivial) ?_ operations state
  intro state nobody task demand purpose waits inside
  have allowed : state.allows task (.queued demand purpose) = true := by
    simpa [State.allows] using inside
  exact State.not_isReady_of_nextReady? nobody (State.isReady_iff.mpr ⟨_, waits, allowed⟩)

/-- The response has been put together from what a detection found at the given time. -/
def IsMadeFrom (settings : Settings) (journal : List JournalEntry) (response : SearchResponse)
    (captured : Nat) : Prop :=
  ∃ source snapshot listing, ⟨captured, source, .detected snapshot⟩ ∈ journal ∧
    snapshot.capturedAt = some captured ∧ assemble settings.limits listing snapshot = .ok response

/-- What was captured has not become stale, or was captured just now. -/
structure IsRecent (settings : Settings) (captured time : Nat) : Prop where
  past : captured ≤ time
  young : time < captured + settings.installedTtl ∨ captured = time

theorem IsMadeFrom.append (made : IsMadeFrom settings journal response captured)
    (more : List JournalEntry) : IsMadeFrom settings (journal ++ more) response captured := by
  rcases made with ⟨source, snapshot, listing, detected, capturedAt, assembled⟩
  exact ⟨source, snapshot, listing, List.mem_append_left _ detected, capturedAt, assembled⟩

/-! ### The snapshot while tasks move -/

/-- The snapshot was captured at this moment, if at all. -/
def State.IsCapturedNow (state : State) : Prop :=
  ∀ captured, state.snapshot.capturedAt = some captured → captured = state.now

theorem State.isCapturedNow_of_empty (isEmpty : state.snapshot = Snapshot.empty) :
    state.IsCapturedNow := by
  intro captured capturedAt
  rw [isEmpty] at capturedAt
  cases capturedAt

/-- What a move does to the snapshot: nothing, or it resets it, or its task leaves the gate and
keeps what it has found. -/
theorem Move.snapshot_cases (move : Move settings world task before events after) :
    after.1.snapshot = before.1.snapshot ∧ after.1.generation = before.1.generation ∨
      after.1.snapshot = Snapshot.empty ∨
      after.1.snapshot.capturedAt = some after.1.now ∧
        ∃ detection names purpose, before.2 = .concluding detection names purpose := by
  cases move with
  | clear | reset => exact .inr (.inl rfl)
  | kept =>
      refine .inr (.inr ⟨?_, _, _, _, rfl⟩)
      rw [State.leaveGate_snapshot, State.leaveGate_now]
      rfl
  | broughtMeanwhile | discarded => exact .inl (by simp [State.note])
  | _ => exact .inl ⟨rfl, rfl⟩

theorem Move.isCapturedNow (move : Move settings world task before events after)
    (capturedNow : before.1.IsCapturedNow) : after.1.IsCapturedNow := by
  rcases move.snapshot_cases with ⟨same, -⟩ | isEmpty | ⟨capturedAt, -⟩
  · intro captured capturedAt
    rw [move.now_eq]
    exact capturedNow captured (same ▸ capturedAt)
  · exact State.isCapturedNow_of_empty isEmpty
  · intro captured other
    exact Option.some.inj (other.symm.trans capturedAt)

/-! ### What tasks rely on -/

/-- What an answer to a search shows is as young as both caches together allow, and as young as the
snapshot has to be if it does not come from the cache. -/
def Answer.IsTimely (settings : Settings) (journal : List JournalEntry) (time : Nat) :
    Answer → Prop
  | .search response =>
      (response.cached = true → ∃ stored captured, response = stored.asCached ∧
        IsMadeFrom settings journal stored captured ∧ captured ≤ time ∧
        time < captured + (settings.cache.ttl + settings.installedTtl)) ∧
      (response.cached = false → response.outcome = .success → ∃ captured,
        IsMadeFrom settings journal response captured ∧ IsRecent settings captured time)
  | _ => True

/-- What a task at a point may rely on, if whoever is let into the gate goes on at once. -/
def Point.IsTimely (settings : Settings) (state : State) (task : TaskId) : Point → Prop
  | .resting (.queued _ _) => state.gate.head? = some task → state.IsCapturedNow
  | .arriving (.current askedAt) _ => state.snapshot.isStale settings.installedTtl askedAt = true
  | .entering (.current askedAt) _ =>
      state.snapshot.isStale settings.installedTtl askedAt = false → state.IsCapturedNow
  | .trying detection _ _ | .hearing detection _ _ _ _ | .concluding detection _ _
  | .resting (.probing detection _ _ _ _ _) =>
      state.generation ≠ detection.generation → state.snapshot = Snapshot.empty
  | .delivering snapshot _ => ∃ captured source,
      ⟨captured, source, .detected snapshot⟩ ∈ state.journal ∧
        snapshot.capturedAt = some captured ∧ IsRecent settings captured state.now
  | .answering answer => answer.IsTimely settings state.journal state.now
  | .resting (.finished answer ended) => answer.IsTimely settings state.journal ended
  | _ => True

/-- Every stored response shows a snapshot that was recent when it was stored. -/
def StoresRecent (settings : Settings) (journal : List JournalEntry) : Prop :=
  ∀ time task query response, ⟨time, task, .responseStored query response⟩ ∈ journal →
    ∃ captured, IsMadeFrom settings journal response captured ∧ IsRecent settings captured time

theorem Answer.IsTimely.append {answer : Answer} (timely : answer.IsTimely settings journal time)
    (more : List JournalEntry) : answer.IsTimely settings (journal ++ more) time := by
  cases answer with
  | search response =>
      refine ⟨fun isCached => ?_, fun uncached succeeded => ?_⟩
      · obtain ⟨stored, captured, same, made, young⟩ := timely.1 isCached
        exact ⟨stored, captured, same, made.append more, young⟩
      · obtain ⟨captured, made, recent⟩ := timely.2 uncached succeeded
        exact ⟨captured, made.append more, recent⟩
  | _ => trivial

theorem Answer.isTimely_of_unsuccessful (uncached : response.cached = false)
    (unsuccessful : response.outcome = .nothing ∨ response.outcome = .failure) :
    (Answer.search response).IsTimely settings journal time := by
  refine ⟨fun isCached => ?_, fun _ succeeded => ?_⟩
  · exact absurd (uncached.symm.trans isCached) (by decide)
  · rcases unsuccessful with nothing | failed
    · exact absurd (nothing.symm.trans succeeded) (by decide)
    · exact absurd (failed.symm.trans succeeded) (by decide)

/-- What is served from the cache was recent when it was stored, and it was stored not long ago. -/
theorem isTimely_of_hit (chronicled : Chronicled settings state)
    (recent : StoresRecent settings state.journal) {key : Fingerprint} {entry : CacheEntry}
    (found : state.cache.lookup? settings.cache.ttl state.now key = some entry) :
    (Answer.search entry.payload.asCached).IsTimely settings state.journal state.now := by
  obtain ⟨store, -, rfl, fresh⟩ := chronicled.lookup?_eq_some_iff.mp found
  obtain ⟨captured, made, past, young⟩ := recent _ _ _ _ store.mem_journal
  have stored := chronicled.past _ store.mem_journal
  refine ⟨fun _ => ⟨store.response, captured, rfl, made, Nat.le_trans past stored, ?_⟩, ?_⟩
  · omega
  · intro uncached
    cases uncached

/-- A snapshot that is not stale is recent. -/
theorem isRecent_of_fresh (past : captured ≤ time) {snapshot : Snapshot}
    (capturedAt : snapshot.capturedAt = some captured)
    (fresh : snapshot.isStale settings.installedTtl time = false) :
    IsRecent settings captured time := by
  have young : time - captured < settings.installedTtl := by
    simpa [Snapshot.isStale, capturedAt] using fresh
  exact ⟨past, .inl (by omega)⟩

theorem Move.isTimely (move : Move settings world task before events after)
    (chronicled : Chronicled settings before.1)
    (soundJournal : SoundJournal settings before.1.journal)
    (recent : StoresRecent settings before.1.journal)
    (place : before.2.HasPlace before.1.gate task)
    (timely : before.2.IsTimely settings before.1 task) :
    after.2.IsTimely settings after.1 task := by
  have grown := move.journal_eq
  cases move with
  | @goOn state stage allowed =>
      cases stage with
      | queued demand purpose =>
          have first : state.gate.head? = some task := by simpa [State.allows] using allowed
          cases demand with
          | refresh => trivial
          | current askedAt => exact fun _ => timely first
      | probing => exact timely
      | finished => exact timely
      | _ => trivial
  | searchBlank => exact Answer.isTimely_of_unsuccessful rfl (.inl rfl)
  | searchHit valid found => exact (isTimely_of_hit chronicled recent found).append _
  | stale stale => exact stale
  | @fresh state purpose fresh =>
      obtain ⟨source, kept⟩ := chronicled.exists_kept_of_fresh fresh
      obtain ⟨captured, detected, capturedAt, past⟩ :=
        soundJournal.capturedAt_of_kept chronicled kept
      exact ⟨captured, source, detected, capturedAt, isRecent_of_fresh past capturedAt fresh⟩
  | @gateFree state demand purpose free =>
      cases demand with
      | refresh => trivial
      | current askedAt =>
          intro fresh
          have stale : state.snapshot.isStale settings.installedTtl askedAt = true := timely
          exact absurd (stale.symm.trans fresh) (by decide)
  | @gateTaken state demand purpose taken =>
      intro first
      have nonempty : state.gate ≠ [] := by simpa using taken
      rw [State.lined, List.head?_append_of_ne_nil _ nonempty] at first
      exact absurd (List.mem_of_mem_head? first) place
  | refreshDemanded | stillStale => exact fun changed => absurd rfl changed
  | @broughtMeanwhile state askedAt purpose fresh =>
      obtain ⟨source, kept⟩ := chronicled.exists_kept_of_fresh fresh
      obtain ⟨captured, detected, capturedAt, past⟩ :=
        soundJournal.capturedAt_of_kept chronicled kept
      refine ⟨captured, source, ?_, capturedAt, ?_⟩
      · rw [State.leaveGate_journal]
        exact detected
      · rw [State.leaveGate_now]
        exact ⟨past, .inr (timely fresh captured capturedAt)⟩
  | noProbeLeft | probeAnswered | probeWaits | probeSucceeded | probeFailed => exact timely
  | @kept state detection names purpose current =>
      refine ⟨state.now, task, ?_, rfl, ?_⟩
      · rw [State.leaveGate_journal]
        exact List.mem_append_right _ List.mem_cons_self
      · rw [State.leaveGate_now]
        exact ⟨Nat.le_refl _, .inr rfl⟩
  | @discarded state detection names purpose overtaken =>
      refine ⟨state.now, task, ?_, rfl, ?_⟩
      · rw [State.leaveGate_journal]
        exact List.mem_append_left _ (List.mem_append_right _ List.mem_cons_self)
      · rw [State.leaveGate_now]
        exact ⟨Nat.le_refl _, .inr rfl⟩
  | assembled assembled =>
      obtain ⟨captured, source, detected, capturedAt, young⟩ := timely
      have made : IsMadeFrom settings _ _ captured :=
        ⟨source, _, _, detected, capturedAt, assembled⟩
      refine ⟨fun isCached => ?_, fun _ _ => ⟨captured, ?_, young⟩⟩
      · rw [assemble_cached assembled] at isCached
        cases isCached
      · rw [grown]
        exact made.append _
  | fail => exact Answer.isTimely_of_unsuccessful rfl (.inr rfl)
  | answer => exact timely
  | _ => trivial

/-- Whoever is let into the gate finds what has been captured at this moment, or nothing. -/
theorem Move.isCapturedNow_of_letIn (move : Move settings world task before events after)
    (timely : before.2.IsTimely settings before.1 task) (different : other ≠ task)
    (outside : before.1.gate.head? ≠ some other) (inside : after.1.gate.head? = some other) :
    after.1.IsCapturedNow := by
  cases move with
  | @gateFree state demand purpose free =>
      have noGate : state.gate = [] := List.isEmpty_iff.mp free
      have isTask : task = other := by simpa [State.lined, noGate] using inside
      exact absurd isTask.symm different
  | @gateTaken state demand purpose taken =>
      have nonempty : state.gate ≠ [] := by simpa using taken
      rw [State.lined, List.head?_append_of_ne_nil _ nonempty] at inside
      exact absurd inside outside
  | broughtMeanwhile fresh =>
      intro captured capturedAt
      rw [State.leaveGate_snapshot] at capturedAt
      rw [State.leaveGate_now]
      exact timely fresh captured capturedAt
  | kept =>
      intro captured capturedAt
      rw [State.leaveGate_snapshot] at capturedAt
      rw [State.leaveGate_now]
      exact (Option.some.inj capturedAt).symm
  | discarded overtaken =>
      refine State.isCapturedNow_of_empty ?_
      rw [State.leaveGate_snapshot]
      exact timely overtaken
  | _ => exact absurd inside outside

/-- What other tasks rely on stays true. -/
theorem Move.isTimely_other {stage : Stage} (move : Move settings world task before events after)
    (different : other ≠ task) (moving : before.2.HasPlace before.1.gate task)
    (place : (Point.resting stage).HasPlace before.1.gate other)
    (movingTimely : before.2.IsTimely settings before.1 task)
    (timely : (Point.resting stage).IsTimely settings before.1 other) :
    (Point.resting stage).IsTimely settings after.1 other := by
  cases stage with
  | queued demand purpose =>
      intro inside
      by_cases already : before.1.gate.head? = some other
      · exact move.isCapturedNow (timely already)
      · exact move.isCapturedNow_of_letIn movingTimely different already inside
  | probing detection name wake outcome remaining purpose =>
      intro changed
      rcases move.snapshot_cases with ⟨sameSnapshot, sameGeneration⟩ | isEmpty | ⟨-, concluding⟩
      · rw [sameSnapshot]
        exact timely (sameGeneration ▸ changed)
      · exact isEmpty
      · obtain ⟨detection, names, purpose, isConcluding⟩ := concluding
        rw [isConcluding] at moving
        exact absurd (Option.some.inj (place.symm.trans moving)) different
  | finished answer ended =>
      have kept : answer.IsTimely settings before.1.journal ended := timely
      refine (?_ : answer.IsTimely settings after.1.journal ended)
      rw [move.journal_eq]
      exact kept.append _
  | _ => trivial

/-! ### Staleness in all runs -/

theorem StoresRecent.append (recent : StoresRecent settings journal)
    (new : ∀ query response, .responseStored query response ∈ events → ∃ captured,
      IsMadeFrom settings journal response captured ∧ IsRecent settings captured time) :
    StoresRecent settings (journal ++ entriesOf time task events) := by
  intro moment author query response membership
  rcases mem_append_entriesOf.mp membership with old | ⟨rfl, -, stored⟩
  · obtain ⟨captured, made, young⟩ := recent _ _ _ _ old
    exact ⟨captured, made.append _, young⟩
  · obtain ⟨captured, made, young⟩ := new _ _ stored
    exact ⟨captured, made.append _, young⟩

/-- What a task stores was put together from what it relied on. -/
theorem Move.isRecent_of_stored {query : String}
    (move : Move settings world task before events after)
    (timely : before.2.IsTimely settings before.1 task)
    (stored : .responseStored query response ∈ events) : ∃ captured,
      IsMadeFrom settings before.1.journal response captured ∧
        IsRecent settings captured before.1.now := by
  cases move with
  | @assembled state snapshot searched listing made assembled =>
      obtain ⟨captured, source, detected, capturedAt, young⟩ := timely
      obtain ⟨rfl, rfl⟩ : query = searched ∧ response = made := by simpa using stored
      exact ⟨captured, ⟨source, _, _, detected, capturedAt, assembled⟩, young⟩
  | _ => simp at stored

/-- Runs in which whoever is let into the gate goes on at once. -/
def timeliness (settings : Settings) (world : World) :
    Layer ((gated settings world).under prompt) where
  common state := StoresRecent settings state.journal
  standing state task point := point.IsTimely settings state task
  common_withTasks _ recent := recent
  standing_withTasks {_ _ _ _ point} timely := by
    cases point with
    | resting stage => cases stage <;> exact timely
    | arriving demand => cases demand <;> exact timely
    | entering demand => cases demand <;> exact timely
    | _ => exact timely
  common_pass _ _ _ recent := recent
  standing_pass {_ _ _ stage} passes _ waits _ timely := by
    cases stage with
    | queued demand purpose => exact fun first => absurd first (passes _ _ _ waits)
    | _ => exact timely
  announced _ _ _ := trivial
  move move _ _ common standing recent timely := by
    refine ⟨?_, move.isTimely common.1.1 common.1.2 recent standing.2 timely⟩
    rw [move.journal_eq]
    exact recent.append fun _ _ stored => move.isRecent_of_stored timely stored
  undisturbed move different _ moving place _ movingTimely timely :=
    move.isTimely_other different moving.2 place.2 movingTimely timely

/-- In a run in which whoever is let into the gate goes on at once, a search that is answered from
the cache shows a snapshot that is younger than the two times to live together. A search that
succeeds otherwise shows one that is younger than its own, or was captured at that moment. -/
theorem snapshot_age_of_answer (leads : LeadsUnder prompt settings world State.initial last)
    (answered : last.answer? task = some (.search response, time)) :
    (response.cached = true → ∃ stored captured, response = stored.asCached ∧
      IsMadeFrom settings last.journal stored captured ∧ captured ≤ time ∧
      time < captured + (settings.cache.ttl + settings.installedTtl)) ∧
    (response.cached = false → response.outcome = .success → ∃ captured,
      IsMadeFrom settings last.journal response captured ∧ IsRecent settings captured time) := by
  have started : (timeliness settings world).invariant.Holds State.initial := by
    refine Layer.holds (Reachable.initial.gated.under prompt) ?_ fun waits => ?_
    · intro moment author query stored membership
      cases membership
    · simp [State.stage?, State.initial] at waits
  have holds := started.leadsUnder leads
  exact (holds.standing (State.answer?_eq_some_iff.mp answered)).2

/-- A server that has answered a search at once, some time later. -/
def searchedEarlier : State :=
  { searched with now := 10 }

theorem searchedEarlier_answered_from_young_snapshot :
    ∃ stored captured, (SearchResponse.success [] 0 false).asCached = stored.asCached ∧
      IsMadeFrom smallSettings
        (searchedEarlier.spawn smallSettings (smallWorld 0 0) (.search "vim")).journal stored
        captured ∧ captured ≤ 10 ∧ 10 < captured + (100 + 50) := by
  have leads : LeadsUnder prompt smallSettings (smallWorld 0 0) State.initial
      (searchedEarlier.spawn smallSettings (smallWorld 0 0) (.search "vim")) := by
    have unlined : searched.gate = [] := by decide
    have passes : prompt.passes searched := by
      intro task demand purpose waits
      simp [unlined]
    exact .tail (.tail (.single (.arrive trivial trivial)) (.pass (by decide) passes))
      (.arrive trivial trivial)
  have answered : State.answer?
      (searchedEarlier.spawn smallSettings (smallWorld 0 0) (.search "vim")) 1 =
        some (.search (SearchResponse.success [] 0 false).asCached, 10) := by decide +kernel
  exact (snapshot_age_of_answer leads answered).1 rfl

end PackageSearch.Server
