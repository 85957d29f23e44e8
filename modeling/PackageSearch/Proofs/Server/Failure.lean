import PackageSearch.Proofs.Server.Completion
import PackageSearch.Proofs.Server.Search

/-!
# Searches that fail

A search that ends in an error leaves the cache of responses alone, however late it fails and
whatever happens meanwhile. What is not a query is not sent, and a query that is not answered in
time, or answered with an error, leads to no detection.
-/

namespace PackageSearch

/-- The event is left when a response is put into the cache. -/
def Event.IsOfStore : Event → Prop
  | .entriesSwept _ | .responseStored _ _ => True
  | _ => False

/-- The event tells of a query, and of nothing that follows from its answer. -/
def Event.IsOfQuery : Event → Prop
  | .searching _ | .queryNote _ | .searchFailed _ _ | .commandStarted _ => True
  | _ => False

theorem Event.IsOfQuery.not_changesCache {event : Event} (isOfQuery : event.IsOfQuery) :
    ¬event.ChangesCache := by
  cases event with
  | responseStored | cacheCleared => exact isOfQuery.elim
  | _ => exact id

namespace Server

variable {settings : Settings} {world : World} {state next last : State} {task : TaskId}
  {text query : String} {events : List Event} {reply : Reply SearchError Listing}
  {response : SearchResponse} {time : Nat}

/-! ### Texts that are not searched for -/

/-- What is not searched for is answered at once, and nothing is asked of anybody. -/
theorem Begins.answer_of_invalid (holds : (accounted settings world).Holds state)
    (begins : Begins settings world state (.search text) task next)
    (invalid : ¬ValidQuery settings text) :
    Unchanged state next ∧ ∀ last, Leads settings world next last →
      last.answer? task = some (.search (if trimmedQuery text = "" then .empty
        else .failure (overlongQuery settings).message), state.now) := by
  apply begins.unchanged_of_finish holds
  intro tasks nextTicket
  by_cases blank : trimmedQuery text = ""
  · refine ⟨state.withTasks tasks nextTicket, rfl, ⟨rfl, rfl, rfl, rfl, rfl, rfl, rfl⟩, ?_⟩
    simp [begin_search, search, blank]
  · have overlong : settings.maxQueryLength < (trimmedQuery text).length := by
      apply Nat.lt_of_not_le
      intro bounded
      exact invalid ⟨blank, bounded⟩
    refine ⟨(state.withTasks tasks nextTicket).note task
      (.searchFailed (trimmedQuery text) (overlongQuery settings)), rfl,
      ⟨rfl, rfl, rfl, rfl, rfl, rfl, rfl⟩, ?_⟩
    simp [begin_search, search, blank, overlong, failSearch, overlongQuery]

/-! ### What a failing search stores -/

section Moves

variable {before after : State × Point}

/-- A search that has ended without an error. -/
def Answer.Succeeds : Answer → Prop
  | .search response => response.error = none
  | _ => False

def Point.Succeeds : Point → Prop
  | .answering answer | .resting (.finished answer _) => answer.Succeeds
  | _ => False

theorem Move.succeeds (move : Move settings world task before events after)
    (succeeds : before.2.Succeeds) : after.2.Succeeds := by
  cases move with
  | @goOn state stage allowed =>
      cases stage with
      | finished => exact succeeds
      | _ => exact succeeds.elim
  | answer => exact succeeds
  | _ => exact succeeds.elim

theorem Move.stores_cases (move : Move settings world task before events after) :
    (∀ event ∈ events, ¬event.IsOfStore) ∨ after.2.Succeeds := by
  cases move with
  | assembled assembled => exact .inr (isSuccess_of_assemble assembled).error
  | _ =>
      left
      simp [Event.IsOfStore]

end Moves

/-- A task puts something into the cache only when it answers a search without an error. -/
def storing (settings : Settings) (world : World) (task : TaskId) :
    Course settings world task where
  holds state point :=
    (∀ event ∈ eventsOf state.journal task, ¬event.IsOfStore) ∨ point.Succeeds
  withTasks kept := kept
  pass kept := kept
  own := by
    rintro before after events move - - (silent | succeeds)
    · rcases move.stores_cases with new | succeeds
      · left
        rw [move.eventsOf_eq]
        intro event membership
        exact (List.mem_append.mp membership).elim (silent event) (new event)
      · exact .inr succeeds
    · exact .inr (move.succeeds succeeds)
  others := by
    rintro before after other events stage move different (silent | succeeds)
    · left
      rw [move.eventsOf_other different]
      exact silent
    · exact .inr succeeds

theorem Begins.unstored_of_failure {operation : Operation}
    (holds : (accounted settings world).Holds state)
    (begins : Begins settings world state operation task next)
    (leads : Leads settings world next last)
    (answered : last.answer? task = some (.search response, time))
    (failed : response.error ≠ none) :
    ∀ event ∈ eventsOf last.journal task, ¬event.IsOfStore := by
  obtain ⟨tasks, nextTicket, ready, rfl⟩ := begins.exists_ready holds trivial fun _ => trivial
  have starts : (storing settings world task).holds (state.withTasks tasks nextTicket)
      (.beginning operation) := by
    left
    intro event left
    exact absurd left ready.not_mem_eventsOf
  rcases Course.follow_answer ready starts (moves_begin _ operation) leads answered with
    silent | succeeds
  · exact silent
  · exact absurd succeeds failed

theorem Begins.silent_of_failure (holds : (accounted settings world).Holds state)
    (begins : Begins settings world state (.search text) task next)
    (leads : Leads settings world next last)
    (answered : last.answer? task = some (.search response, time))
    (failed : response.error ≠ none) :
    ∀ event ∈ eventsOf last.journal task, ¬event.ChangesCache := by
  intro event left
  have unstored := begins.unstored_of_failure holds leads answered failed event left
  have ofSearch := begins.leaves holds leads event left
  cases event with
  | responseStored => exact absurd trivial unstored
  | cacheCleared => cases ofSearch
  | _ => exact id

/-! ### Queries that are sent -/

section Moves

variable {before after : State × Point}

/-- The task has come past the point at which it sends a query. -/
def Point.IsPastSending : Point → Prop
  | .beginning _ | .sending _ | .resting (.scheduled _ _) => False
  | _ => True

theorem Move.isPastSending (move : Move settings world task before events after)
    (past : before.2.IsPastSending) :
    after.2.IsPastSending ∧ after.1.asked = before.1.asked := by
  have asked := move.asked_eq
  cases move with
  | @goOn state stage allowed =>
      cases stage with
      | scheduled => exact past.elim
      | _ => exact ⟨trivial, rfl⟩
  | searchBlank | searchOverlong | searchHit | searchMiss | clear | debug | health | stats | refuse
  | current | refresh | snapshot | reset | queryAnswered | queryWaits => exact past.elim
  | broughtMeanwhile | kept | discarded => exact ⟨trivial, asked.trans (List.append_nil _)⟩
  | _ => exact ⟨trivial, rfl⟩

theorem Moves.asked_eq (moves : Moves settings world task before after)
    (past : before.2.IsPastSending) : after.1.asked = before.1.asked := by
  have kept : after.2.IsPastSending ∧ after.1.asked = before.1.asked := by
    induction moves with
    | refl => exact ⟨past, rfl⟩
    | tail _ last inductionHypothesis =>
        obtain ⟨-, events, move⟩ := last
        obtain ⟨stillPast, same⟩ := move.isPastSending inductionHypothesis.1
        exact ⟨stillPast, same.trans inductionHypothesis.2⟩
  exact kept.2

end Moves

theorem asked_sendQuery (state : State) (task : TaskId) (query : String) :
    (sendQuery settings world state task query).1.asked = state.asked ++ [query] := by
  unfold sendQuery
  dsimp only
  split
  · let reply := state.queryReply world query
    let outcome := reply.outcome settings.searchTimeout
    let notes := reply.notesWithin settings.searchTimeout
    let sent := state.noteQuery task query reply.commands
    have moves : Moves settings world task (sent, .received query outcome notes)
        (atRest (resumeSearch settings world sent task query outcome notes)) :=
      moves_resumeSearch sent query outcome notes
    exact moves.asked_eq trivial
  · rfl

/-- A search that finds no entry sends its query at once, and once only. -/
theorem Begins.asked_of_miss (holds : (accounted settings world).Holds state)
    (valid : ValidQuery settings text)
    (begins : Begins settings world state (.search text) task next)
    (absent : state.cache.lookup? settings.cache.ttl state.now (.ofQuery (trimmedQuery text)) =
      none) : next.asked = state.asked ++ [trimmedQuery text] := by
  obtain ⟨tasks, nextTicket, -, rfl⟩ := begins.exists_ready holds trivial fun _ => trivial
  have stillAbsent : (state.withTasks tasks nextTicket).cache.lookup? settings.cache.ttl
      (state.withTasks tasks nextTicket).now (.ofQuery (trimmedQuery text)) = none := absent
  rw [begin_search, search_eq_sendQuery valid stillAbsent]
  exact asked_sendQuery _ task _

/-! ### Searches whose query is answered -/

/-- The errors in which a search may end whose query is replied to in this way. -/
inductive FailsWith (settings : Settings) (reply : Reply SearchError Listing) :
    SearchError → Prop where
  | late :
      reply.outcome settings.searchTimeout = none →
        FailsWith settings reply (.queryTimeout (settings.searchTimeout / 1000))
  | failed {error : SearchError} :
      reply.outcome settings.searchTimeout = some (.error error) →
        FailsWith settings reply error
  | unassembled {listing : Listing} {snapshot : Snapshot} {error : SearchError} :
      reply.outcome settings.searchTimeout = some (.ok listing) →
      assemble settings.limits listing snapshot = .error error →
        FailsWith settings reply error

/-- The answers in which a search may end whose query is replied to in this way, if the task has
left the given events. -/
inductive EndsWith (settings : Settings) (reply : Reply SearchError Listing) (query : String)
    (events : List Event) : Answer → Prop where
  | failure {error : SearchError} :
      FailsWith settings reply error →
        EndsWith settings reply query events (.search (.failure error.message))
  | success {listing : Listing} {snapshot : Snapshot} {response : SearchResponse} :
      reply.outcome settings.searchTimeout = some (.ok listing) →
      assemble settings.limits listing snapshot = .ok response →
      .responseStored query response ∈ events →
        EndsWith settings reply query events (.search response)

/-- A search whose query is answered with a listing succeeds if the listing can be put together. -/
theorem EndsWith.of_listed {listing : Listing}
    (ends : EndsWith settings reply query events (.search response))
    (listed : reply.outcome settings.searchTimeout = some (.ok listing)) :
    (response.error = none ↔ ∀ entry ∈ listing.entries.take settings.limits.results,
      ∃ metadata, Metadata.decode entry.2 = .ok metadata) ∧
    (response.error = none → .responseStored query response ∈ events) := by
  cases ends with
  | @failure error fails =>
      cases fails with
      | late outcome | failed outcome => cases listed.symm.trans outcome
      | @unassembled other snapshot _ outcome failed =>
          cases listed.symm.trans outcome
          have unread : ¬∃ made, assemble settings.limits listing snapshot = .ok made := by
            rintro ⟨made, assembled⟩
            cases failed.symm.trans assembled
          rw [exists_assemble_eq_ok_iff] at unread
          have isError : (SearchResponse.failure error.message).error ≠ none := Option.some_ne_none _
          exact ⟨⟨fun none => absurd none isError, fun read => absurd read unread⟩,
            fun none => absurd none isError⟩
  | @success other snapshot _ outcome assembled stored =>
      cases listed.symm.trans outcome
      have read := exists_assemble_eq_ok_iff.mp ⟨response, assembled⟩
      have succeeded : response.error = none := (isSuccess_of_assemble assembled).error
      exact ⟨⟨fun _ => read, fun _ => succeeded⟩, fun _ => stored⟩

/-- What holds at a point of a task that searches, if its query is replied to in this way. -/
def Pursues (settings : Settings) (world : World) (reply : Reply SearchError Listing)
    (query : String) (state : State) (task : TaskId) : Point → Prop
  | .sending other => other = query ∧ state.queryReply world query = reply
  | .received other outcome _ | .resting (.searching other _ outcome _) =>
      other = query ∧ outcome = reply.outcome settings.searchTimeout
  | .resting (.queued _ purpose) | .resting (.probing _ _ _ _ _ purpose) | .asking purpose
  | .arriving _ purpose | .entering _ purpose | .trying _ purpose _ | .hearing _ _ _ _ purpose
  | .concluding _ _ purpose | .delivering _ purpose =>
      ∃ listing, reply.outcome settings.searchTimeout = some (.ok listing) ∧
        purpose = .assemble query listing
  | .failing other error => other = query ∧ FailsWith settings reply error
  | .answering answer | .resting (.finished answer _) =>
      EndsWith settings reply query (eventsOf state.journal task) answer
  | _ => False

section Moves

variable {before after : State × Point}

theorem Pursues.move (move : Move settings world task before events after)
    (pursues : Pursues settings world reply query before.1 task before.2) :
    Pursues settings world reply query after.1 task after.2 := by
  have grown := move.journal_eq
  cases move with
  | @goOn state stage allowed =>
      cases stage with
      | scheduled | inspecting => exact pursues.elim
      | _ => exact pursues
  | queryAnswered | queryWaits =>
      obtain ⟨rfl, same⟩ := pursues
      exact ⟨rfl, congrArg (Reply.outcome · settings.searchTimeout) same⟩
  | queryLate => exact ⟨pursues.1, .late pursues.2.symm⟩
  | queryFailed => exact ⟨pursues.1, .failed pursues.2.symm⟩
  | queryListed =>
      obtain ⟨rfl, listed⟩ := pursues
      exact ⟨_, listed.symm, rfl⟩
  | unassembled failed =>
      obtain ⟨listing, listed, same⟩ := pursues
      cases same
      exact ⟨rfl, .unassembled listed failed⟩
  | assembled assembled =>
      obtain ⟨listing, listed, same⟩ := pursues
      cases same
      refine .success listed assembled ?_
      rw [grown, eventsOf_append_self]
      simp
  | fail =>
      obtain ⟨rfl, fails⟩ := pursues
      exact .failure fails
  | reported | debugged =>
      obtain ⟨listing, -, same⟩ := pursues
      cases same
  | searchBlank | searchOverlong | searchHit | searchMiss | clear | debug | health | stats | refuse
  | current | refresh | snapshot | reset => exact pursues.elim
  | _ => exact pursues

/-- A search whose query is not answered with a listing tells of its query only. -/
theorem Pursues.isOfQuery (move : Move settings world task before events after)
    (pursues : Pursues settings world reply query before.1 task before.2)
    (unlisted : ∀ listing, reply.outcome settings.searchTimeout ≠ some (.ok listing)) :
    ∀ event ∈ events, event.IsOfQuery := by
  cases move with
  | refreshDemanded | stillStale | noProbeLeft | probeAnswered | probeWaits | probeSucceeded
  | probeFailed | kept | discarded | assembled =>
      obtain ⟨listing, listed, -⟩ := pursues
      exact absurd listed (unlisted listing)
  | searchHit | clear | debug | reset => exact pursues.elim
  | _ => simp [Event.IsOfQuery]

end Moves

/-- A task that searches ends as the reply to its query makes it. -/
def pursuing (settings : Settings) (world : World) (task : TaskId)
    (reply : Reply SearchError Listing) (query : String) : Course settings world task where
  holds state point :=
    Pursues settings world reply query state task point ∧
      ((∀ listing, reply.outcome settings.searchTimeout ≠ some (.ok listing)) →
        ∀ event ∈ eventsOf state.journal task, event.IsOfQuery)
  withTasks {_ _ _ point} pursued := by
    refine ⟨?_, pursued.2⟩
    cases point with
    | resting stage => cases stage <;> exact pursued.1
    | _ => exact pursued.1
  pass {_ _ stage} pursued := by
    refine ⟨?_, pursued.2⟩
    cases stage <;> exact pursued.1
  own := by
    rintro before after events move - - ⟨pursues, quiet⟩
    refine ⟨pursues.move move, ?_⟩
    intro unlisted
    rw [move.eventsOf_eq]
    intro event membership
    rcases List.mem_append.mp membership with old | new
    · exact quiet unlisted event old
    · exact pursues.isOfQuery move unlisted event new
  others := by
    rintro before after other events stage move different ⟨pursues, quiet⟩
    have sameEvents := move.eventsOf_other different
    rw [sameEvents]
    refine ⟨?_, quiet⟩
    cases stage with
    | finished answer ended =>
        unfold Pursues
        rw [sameEvents]
        exact pursues
    | _ => exact pursues

/-- What becomes of a search that finds no entry. -/
theorem Begins.pursues (holds : (accounted settings world).Holds state)
    (valid : ValidQuery settings text)
    (begins : Begins settings world state (.search text) task next)
    (absent : state.cache.lookup? settings.cache.ttl state.now (.ofQuery (trimmedQuery text)) =
      none)
    (leads : Leads settings world next last) :
    ∃ stage, last.stage? task = some stage ∧
      (pursuing settings world task (state.queryReply world (trimmedQuery text))
        (trimmedQuery text)).holds last (.resting stage) := by
  obtain ⟨tasks, nextTicket, ready, rfl⟩ := begins.exists_ready holds trivial fun _ => trivial
  have stillAbsent : (state.withTasks tasks nextTicket).cache.lookup? settings.cache.ttl
      (state.withTasks tasks nextTicket).now (.ofQuery (trimmedQuery text)) = none := absent
  rw [begin_search, search_eq_sendQuery valid stillAbsent] at leads
  have sending := ready.move (Move.searchMiss valid absent) trivial
  have starts : (pursuing settings world task (state.queryReply world (trimmedQuery text))
      (trimmedQuery text)).holds (state.withTasks tasks nextTicket)
      (.sending (trimmedQuery text)) := by
    refine ⟨⟨rfl, rfl⟩, ?_⟩
    intro _ event left
    exact absurd left ready.not_mem_eventsOf
  exact Course.follow sending starts (moves_sendQuery _ _) leads

theorem Begins.endsWith {answer : Answer} (holds : (accounted settings world).Holds state)
    (valid : ValidQuery settings text)
    (begins : Begins settings world state (.search text) task next)
    (absent : state.cache.lookup? settings.cache.ttl state.now (.ofQuery (trimmedQuery text)) =
      none)
    (leads : Leads settings world next last)
    (answered : last.answer? task = some (answer, time)) :
    EndsWith settings (state.queryReply world (trimmedQuery text)) (trimmedQuery text)
      (eventsOf last.journal task) answer := by
  obtain ⟨stage, waits, pursues, -⟩ := begins.pursues holds valid absent leads
  have isFinished := waits.symm.trans (State.answer?_eq_some_iff.mp answered)
  obtain rfl := Option.some.inj isFinished
  exact pursues

/-- While a search goes on whose query is not answered with a listing, it changes neither cache, and
calls no probe. -/
theorem Go.untouched {before after : State} (holds : (accounted settings world).Holds state)
    (go : Go settings world state (.search text) task before after)
    (valid : ValidQuery settings text)
    (absent : state.cache.lookup? settings.cache.ttl state.now (.ofQuery (trimmedQuery text)) =
      none)
    (unlisted : ∀ listing, (state.queryReply world (trimmedQuery text)).outcome
      settings.searchTimeout ≠ some (.ok listing)) :
    after.cache = before.cache ∧ after.snapshot = before.snapshot ∧
      after.generation = before.generation ∧ after.probed = before.probed := by
  obtain ⟨events, tells⟩ := go.exists_tells
  obtain ⟨next, begins, leads⟩ := go.exists_begins
  obtain ⟨-, -, -, quiet⟩ := begins.pursues holds valid absent leads
  have told : ∀ event ∈ events, event.IsOfQuery := by
    intro event membership
    exact quiet unlisted event (tells.subset_eventsOf membership)
  have noReset : .snapshotReset ∉ events := fun resets => told _ resets
  have unended : ∀ found, .detected found ∉ events := fun found ended => told _ ended
  have untried : ∀ name, .probeTried name ∉ events := fun name tried => told _ tried
  exact ⟨tells.cache_eq fun event left => (told event left).not_changesCache,
    tells.snapshot_eq noReset unended, tells.generation_eq noReset, tells.probed untried⟩

/-! ### Failing searches -/

/-- The search, which began in the given state and has ended, has left no trace in the cache. -/
structure LeavesNoTrace (settings : Settings) (world : World) (state : State) (text : String)
    (task : TaskId) (last : State) : Prop where
  unstored : ∀ event ∈ eventsOf last.journal task, ¬event.IsOfStore
  /-- Whenever the task went on, it left the cache as it was. -/
  goes : ∀ before after, Go settings world state (.search text) task before after →
    Leads settings world after last → after.cache = before.cache
  /-- The cache is what the other tasks have made of it. -/
  cache : last.cache = replay settings.cache Cache.empty
    (last.journal.filter fun entry => entry.task ≠ task)
  /-- The same search sends its query again, unless another task has stored a response. -/
  again : ∀ asked text' other answered, Leads settings world last asked →
    ValidQuery settings text → trimmedQuery text' = trimmedQuery text →
    Begins settings world asked (.search text') other answered →
      answered.asked = asked.asked ++ [trimmedQuery text] ∨
      ∃ store : Store asked.journal, store.task ≠ task ∧
        store.IsLastUnder (.ofQuery (trimmedQuery text)) ∧
        asked.now < store.time + settings.cache.ttl

/-- The search ends in the error, and touches neither cache and no probe on the way. -/
structure FailsQuietly (settings : Settings) (world : World) (state : State) (text : String)
    (task : TaskId) (next : State) (error : SearchError) : Prop where
  answer : ∀ last answer time, Leads settings world next last →
    last.answer? task = some (answer, time) → answer = .search (.failure error.message)
  untouched : ∀ before after, Go settings world state (.search text) task before after →
    after.cache = before.cache ∧ after.snapshot = before.snapshot ∧
      after.generation = before.generation ∧ after.probed = before.probed

theorem Begins.leavesNoTrace (reachable : Reachable settings world state)
    (begins : Begins settings world state (.search text) task next)
    (leads : Leads settings world next last)
    (answered : last.answer? task = some (.search response, time))
    (failed : response.error ≠ none) : LeavesNoTrace settings world state text task last := by
  have holds := reachable.accounted
  have reachableLast := (reachable.step begins.step).trans leads
  have unstored := begins.unstored_of_failure holds leads answered failed
  have silent := begins.silent_of_failure holds leads answered failed
  refine ⟨unstored, ?_, reachableLast.cache_eq_replay_others silent, ?_⟩
  · intro before after go rest
    obtain ⟨events, tells⟩ := go.exists_tells
    apply tells.cache_eq
    intro event membership
    obtain ⟨more, grown⟩ := journal_prefix_of_leads rest
    apply silent event
    rw [← grown, eventsOf_append]
    exact List.mem_append_left _ (tells.subset_eventsOf membership)
  · intro asked text' other again rest valid same beginsAgain
    have holdsAsked := (reachableLast.trans rest).accounted
    have chronicled : Chronicled settings asked := holdsAsked.common
    have validAgain : ValidQuery settings text' := ⟨same ▸ valid.nonempty, same ▸ valid.bounded⟩
    cases found : asked.cache.lookup? settings.cache.ttl asked.now
        (.ofQuery (trimmedQuery text')) with
    | none =>
        left
        rw [← same]
        exact beginsAgain.asked_of_miss holdsAsked validAgain found
    | some entry =>
        right
        obtain ⟨store, isLast, -, fresh⟩ := chronicled.lookup?_eq_some_iff.mp found
        refine ⟨store, ?_, same ▸ isLast, fresh⟩
        intro own
        obtain ⟨-, more, grown, nothing⟩ := answer?_of_leads reachableLast.accounted answered rest
        obtain ⟨event, isOfStore, left⟩ : ∃ event : Event, event.IsOfStore ∧
            event ∈ eventsOf asked.journal task :=
          ⟨.responseStored store.query store.response, trivial,
            mem_eventsOf.mpr ⟨store.time, own ▸ store.mem_journal⟩⟩
        rw [grown, eventsOf_append, nothing, List.append_nil] at left
        exact unstored event left isOfStore

theorem Begins.failsQuietly (holds : (accounted settings world).Holds state)
    (valid : ValidQuery settings text)
    (begins : Begins settings world state (.search text) task next)
    (absent : state.cache.lookup? settings.cache.ttl state.now (.ofQuery (trimmedQuery text)) =
      none) {error : SearchError}
    (unlisted : ∀ listing, (state.queryReply world (trimmedQuery text)).outcome
      settings.searchTimeout ≠ some (.ok listing))
    (only : ∀ other, FailsWith settings (state.queryReply world (trimmedQuery text)) other →
      other = error) : FailsQuietly settings world state text task next error := by
  constructor
  · intro last answer time leads answered
    cases begins.endsWith holds valid absent leads answered with
    | failure fails => rw [only _ fails]
    | success listed => exact absurd listed (unlisted _)
  · intro before after go
    exact go.untouched holds valid absent unlisted

/-- A search goes on until it is answered. If the answer is an error it has put nothing into the
cache and swept nothing from it: whenever it went on it left the cache as it was, the cache is what
the other tasks have made of it, and the same search sends its query again unless another task has
stored a response. A text that is blank or too long is answered at once, and nothing changes. A
query that is not in the cache is sent. If it is answered too late, or with an error, the search
fails without a detection; if it is answered in time with a listing, which may take as long as the
time limit, the search succeeds exactly if the first entries of the listing can be read, and then
its response is stored. -/
theorem failing_search_leaves_no_trace (reachable : Reachable settings world state)
    (begins : Begins settings world state (.search text) task next) :
    (∀ last, Leads settings world next last → ∃ done response time,
      Leads settings world last done ∧
        done.answer? task = some (.search response, time)) ∧
    (∀ last response time, Leads settings world next last →
      last.answer? task = some (.search response, time) → response.error ≠ none →
        LeavesNoTrace settings world state text task last) ∧
    (¬ValidQuery settings text → Unchanged state next ∧
      ∀ last, Leads settings world next last →
        last.answer? task = some (.search (if trimmedQuery text = "" then .empty
          else .failure (overlongQuery settings).message), state.now)) ∧
    (ValidQuery settings text →
      state.cache.lookup? settings.cache.ttl state.now (.ofQuery (trimmedQuery text)) = none →
      let reply := state.queryReply world (trimmedQuery text)
      next.asked = state.asked ++ [trimmedQuery text] ∧
      (settings.searchTimeout < reply.delay →
        FailsQuietly settings world state text task next
          (.queryTimeout (settings.searchTimeout / 1000))) ∧
      (∀ error, reply.delay ≤ settings.searchTimeout → reply.result = .error error →
        FailsQuietly settings world state text task next error) ∧
      ∀ listing, reply.delay ≤ settings.searchTimeout → reply.result = .ok listing →
        ∀ last response time, Leads settings world next last →
          last.answer? task = some (.search response, time) →
            (response.error = none ↔ ∀ entry ∈ listing.entries.take settings.limits.results,
              ∃ metadata, Metadata.decode entry.2 = .ok metadata) ∧
            (response.error = none →
              .responseStored (trimmedQuery text) response ∈ eventsOf last.journal task)) := by
  have holds := reachable.accounted
  refine ⟨?_, ?_, ?_, ?_⟩
  · intro last leads
    obtain ⟨done, answer, time, rest, answered⟩ := begins.exists_answer reachable leads
    have expected := begins.expects holds (leads.trans rest) answered
    cases answer with
    | search response => exact ⟨done, response, time, rest, answered⟩
    | _ => exact expected.elim
  · intro last response time leads answered failed
    exact begins.leavesNoTrace reachable leads answered failed
  · exact begins.answer_of_invalid holds
  · intro valid absent reply
    refine ⟨begins.asked_of_miss holds valid absent, ?_, ?_, ?_⟩
    · intro late
      have none : reply.outcome settings.searchTimeout = none := if_neg (Nat.not_le.mpr late)
      apply begins.failsQuietly holds valid absent
      · intro listing listed
        cases none.symm.trans listed
      · intro other fails
        cases fails with
        | late => rfl
        | failed outcome | unassembled outcome => cases none.symm.trans outcome
    · intro error inTime result
      have failed : reply.outcome settings.searchTimeout = some (.error error) := by
        rw [Reply.outcome, if_pos inTime, result]
      apply begins.failsQuietly holds valid absent
      · intro listing listed
        cases failed.symm.trans listed
      · intro other fails
        cases fails with
        | failed outcome =>
            cases failed.symm.trans outcome
            rfl
        | late outcome | unassembled outcome => cases failed.symm.trans outcome
    · intro listing inTime result last response time leads answered
      have listed : reply.outcome settings.searchTimeout = some (.ok listing) := by
        rw [Reply.outcome, if_pos inTime, result]
      exact (begins.endsWith holds valid absent leads answered).of_listed listed

/-- Everything is answered at once, and the first time that a text is asked for the answer is an
error. -/
def refusingWorld : World :=
  { smallWorld 0 0 with
    search := fun _ asked =>
      { delay := 0
        result := if asked = 0 then .error (.queryFailure "no") else .ok Listing.empty } }

/-- A server that has answered a search with an error. -/
def searchedInVain : State :=
  State.initial.spawn smallSettings refusingWorld (.search "vim")

/-- The same search again, written otherwise. -/
def searchedOnceMore : State :=
  searchedInVain.spawn smallSettings refusingWorld (.search " vim ")

theorem searchedInVain_leaves_no_trace :
    LeavesNoTrace smallSettings refusingWorld State.initial "vim" 0 searchedInVain ∧
      FailsQuietly smallSettings refusingWorld State.initial "vim" 0 searchedInVain
        (.queryFailure "no") ∧
      searchedOnceMore.asked = ["vim", "vim"] := by
  obtain ⟨-, failing, -, sent⟩ :=
    failing_search_leaves_no_trace (Reachable.initial : Reachable smallSettings refusingWorld _)
      (.arriving : Begins _ _ State.initial (.search "vim") 0 searchedInVain)
  have valid : ValidQuery smallSettings "vim" := ⟨by decide, by decide⟩
  have trace := failing searchedInVain (.failure "Search failed: no") 0 .refl (by decide) (by decide)
  obtain ⟨-, -, quiet, -⟩ := sent valid rfl
  refine ⟨trace, quiet _ (Nat.zero_le _) rfl, ?_⟩
  rcases trace.again searchedInVain " vim " 1 searchedOnceMore .refl valid (by decide) .arriving with
    asked | ⟨store, other, -⟩
  · rw [asked]
    decide
  · have own : ∀ entry ∈ searchedInVain.journal, entry.task = 0 := by decide
    exact absurd (own _ store.mem_journal) other

end Server

end PackageSearch
