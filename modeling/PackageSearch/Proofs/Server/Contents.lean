import PackageSearch.Proofs.Search.Assembly
import PackageSearch.Proofs.Server.Layer
import PackageSearch.Proofs.Server.Search

/-!
# What the caches hold

Whatever has happened, the cache of responses holds successes only, each under the key of its query,
and the snapshot is the result of a detection that has ended, or there is none. So a search finds
nothing, fails, or succeeds, and which of these it is can be seen from its answer.
-/

namespace PackageSearch.Server

variable {settings : Settings} {world : World} {state : State} {task : TaskId}
  {before after : State × Point} {events : List Event}

/-- The queries that are sent. -/
structure IsQuery (settings : Settings) (query : String) : Prop where
  trimmed : trimmedQuery query = query
  nonempty : query ≠ ""
  bounded : query.length ≤ settings.maxQueryLength

theorem ValidQuery.isQuery {text : String} (valid : ValidQuery settings text) :
    IsQuery settings (trimmedQuery text) :=
  ⟨by simp [trimmedQuery, Text.trim_trim], valid.nonempty, valid.bounded⟩

/-! ### What moves leave -/

theorem Move.isQuery_of_sent {query : String}
    (move : Move settings world task before events after) (sent : .searching query ∈ events)
    (sound : ∀ next, before.2 = .sending next → IsQuery settings next) :
    IsQuery settings query := by
  cases move with
  | queryAnswered | queryWaits =>
      obtain rfl : query = _ := by simpa using sent
      exact sound _ rfl
  | _ => simp at sent

theorem Move.capturedAt_of_detected {snapshot : Snapshot}
    (move : Move settings world task before events after) (ended : .detected snapshot ∈ events) :
    snapshot.capturedAt = some before.1.now := by
  cases move with
  | kept | discarded =>
      obtain rfl : snapshot = _ := by simpa using ended
      rfl
  | _ => simp at ended

/-- A stored response is a success. -/
theorem Chronicled.isSuccess_of_store (chronicled : Chronicled settings state)
    (store : Store state.journal) :
    store.response.cached = false ∧ store.response.IsSuccess settings.limits.results := by
  obtain ⟨-, source, snapshot, listing, -, assembled⟩ := chronicled.fits_store store
  exact ⟨assemble_cached assembled, isSuccess_of_assemble assembled⟩

/-- The response is that of an outcome. -/
def Answer.IsSound (settings : Settings) : Answer → Prop
  | .search response => ∃ outcome, response.Has settings.limits.results outcome
  | _ => True

/-- What a task sends is a query, and what it answers is sound. -/
def Point.IsSound (settings : Settings) : Point → Prop
  | .sending query => IsQuery settings query
  | .answering answer | .resting (.finished answer _) => answer.IsSound settings
  | _ => True

theorem Move.isSound (move : Move settings world task before events after)
    (chronicled : Chronicled settings before.1) (sound : before.2.IsSound settings) :
    after.2.IsSound settings := by
  cases move with
  | @goOn state stage allowed =>
      cases stage with
      | finished answer time => exact sound
      | _ => trivial
  | searchBlank => exact ⟨.nothing, rfl⟩
  | searchHit valid found =>
      obtain ⟨store, -, rfl, -⟩ := chronicled.lookup?_eq_some_iff.mp found
      exact ⟨.success, (chronicled.isSuccess_of_store store).2.asCached⟩
  | searchMiss valid => exact valid.isQuery
  | assembled assembled => exact ⟨.success, isSuccess_of_assemble assembled⟩
  | fail => exact ⟨.failure, SearchResponse.isFailure_failure _⟩
  | answer => exact sound
  | _ => trivial

/-- The queries and the snapshots of the journal are what they should be. -/
structure SoundJournal (settings : Settings) (journal : List JournalEntry) : Prop where
  isQuery : ∀ time task query, ⟨time, task, .searching query⟩ ∈ journal → IsQuery settings query
  capturedAt : ∀ time task snapshot, ⟨time, task, .detected snapshot⟩ ∈ journal →
    snapshot.capturedAt = some time

theorem SoundJournal.append {journal : List JournalEntry} {time : Nat}
    (sound : SoundJournal settings journal)
    (isQuery : ∀ query, .searching query ∈ events → IsQuery settings query)
    (capturedAt : ∀ snapshot, .detected snapshot ∈ events → snapshot.capturedAt = some time) :
    SoundJournal settings (journal ++ entriesOf time task events) := by
  constructor
  · intro moment author query membership
    rcases mem_append_entriesOf.mp membership with old | ⟨-, -, left⟩
    · exact sound.isQuery _ _ _ old
    · exact isQuery _ left
  · intro moment author snapshot membership
    rcases mem_append_entriesOf.mp membership with old | ⟨rfl, -, left⟩
    · exact sound.capturedAt _ _ _ old
    · exact capturedAt _ left

def soundness (settings : Settings) (world : World) : Layer (accounted settings world) where
  common state := SoundJournal settings state.journal
  standing _ _ point := point.IsSound settings
  common_withTasks _ sound := sound
  standing_withTasks sound := sound
  common_pass _ _ _ sound := sound
  standing_pass _ _ _ _ sound := sound
  announced _ _ _ := trivial
  move := by
    rintro before after task events move present - chronicled - sound standing
    refine ⟨?_, move.isSound chronicled standing⟩
    rw [move.journal_eq]
    refine sound.append (fun query sent => move.isQuery_of_sent sent ?_) fun snapshot ended =>
      move.capturedAt_of_detected ended
    intro next isSending
    rw [isSending] at standing
    exact standing
  undisturbed _ _ _ _ _ _ _ sound := sound

/-- The journal accounts for both caches and all tasks, and is sound. -/
abbrev sound (settings : Settings) (world : World) : Invariant settings world :=
  (soundness settings world).invariant

theorem Reachable.sound (reachable : Reachable settings world state) :
    (sound settings world).Holds state := by
  have started : (Server.sound settings world).Holds State.initial :=
    Layer.holds Reachable.initial.accounted
      ⟨by simp [State.initial], by simp [State.initial]⟩
      fun waits => by simp [State.stage?, State.initial] at waits
  exact started.leads reachable.leads

/-! ### Contents -/

/-- A kept snapshot was captured when its detection ended. -/
theorem SoundJournal.capturedAt_of_kept (soundJournal : SoundJournal settings state.journal)
    (chronicled : Chronicled settings state) {source : TaskId} {snapshot : Snapshot}
    (kept : (keepingIn state.journal).kept = some (source, snapshot)) :
    ∃ captured, ⟨captured, source, .detected snapshot⟩ ∈ state.journal ∧
      snapshot.capturedAt = some captured ∧ captured ≤ state.now := by
  obtain ⟨started, ended, pair⟩ := detects_of_kept kept
  have since : (sinceReset state.journal).Sublist state.journal :=
    (List.rtakeWhile_suffix _ _).sublist
  have membership : ⟨ended, source, .detected snapshot⟩ ∈ state.journal :=
    (pair.trans since).subset (by simp)
  exact ⟨ended, membership, soundJournal.capturedAt _ _ _ membership,
    chronicled.past _ membership⟩

end PackageSearch.Server
