import PackageSearch.Proofs.Server.Course

/-!
# Searches and the cache

A search is answered from the cache exactly if a response to its query has been stored since the
last clear and not too long ago. What it is answered with is the response stored last.
-/

namespace PackageSearch

theorem assemble_cached {limits : AssemblyLimits} {listing : Listing} {snapshot : Snapshot}
    {response : SearchResponse} (assembled : assemble limits listing snapshot = .ok response) :
    response.cached = false := by
  unfold assemble at assembled
  split at assembled
  · cases assembled
  · cases assembled
    rfl

namespace Server

variable {settings : Settings} {world : World} {state next last : State} {task : TaskId}
  {text query : String} {journal : List JournalEntry}

/-! ### The two ways of a search -/

theorem begin_search (settings : Settings) (world : World) (state : State) (task : TaskId)
    (text : String) :
    begin settings world state task (.search text) = search settings world state task text := rfl

theorem search_eq_finish {entry : CacheEntry} (valid : ValidQuery settings text)
    (found : state.cache.lookup? settings.cache.ttl state.now (.ofQuery (trimmedQuery text)) =
      some entry) :
    search settings world state task text =
      finish (state.note task (.cacheHit (trimmedQuery text) (.ofQuery (trimmedQuery text))))
        (.search entry.payload.asCached) := by
  have notBlank : (trimmedQuery text).isEmpty = false :=
    String.isEmpty_eq_false_iff.mpr valid.nonempty
  unfold search
  simp [notBlank, Nat.not_lt.mpr valid.bounded, found]

theorem search_eq_sendQuery (valid : ValidQuery settings text)
    (absent : state.cache.lookup? settings.cache.ttl state.now (.ofQuery (trimmedQuery text)) =
      none) :
    search settings world state task text =
      sendQuery settings world state task (trimmedQuery text) := by
  have notBlank : (trimmedQuery text).isEmpty = false :=
    String.isEmpty_eq_false_iff.mpr valid.nonempty
  unfold search
  simp [notBlank, Nat.not_lt.mpr valid.bounded, absent]

/-- An answer that does not come from the cache. -/
def Answer.IsUncached : Answer → Prop
  | .search response => response.cached = false
  | _ => True

/-- A task past its beginning does not answer from the cache. -/
def uncached (settings : Settings) (world : World) (task : TaskId) :
    Course settings world task where
  holds _ point :=
    match point with
    | .beginning _ | .resting (.scheduled _ _) => False
    | .answering answer | .resting (.finished answer _) => answer.IsUncached
    | _ => True
  withTasks holds := holds
  pass holds := holds
  own := by
    intro before after events move _ _ holds
    cases move with
    | @goOn state stage allowed => cases stage <;> simp_all [Stage.point]
    | assembled assembled => exact assemble_cached assembled
    | fail => rfl
    | answer => exact holds
    | searchBlank | searchOverlong | searchHit | searchMiss | clear | debug | health | stats
    | refuse | current | refresh | snapshot | reset => exact holds.elim
    | _ => trivial
  others _ _ holds := holds

/-! ### Stored responses -/

/-- A stored response is put together by a task that has sent its query. -/
theorem Chronicled.fits_store (chronicled : Chronicled settings state)
    (store : Store state.journal) :
    .searching store.query ∈ eventsOf store.earlier store.task ∧
      ∃ source snapshot listing, source? store.earlier store.task = some (source, snapshot) ∧
        assemble settings.limits listing snapshot = .ok store.response :=
  chronicled.fitting _ _ _ store.split

theorem Chronicled.sent_of_stored (chronicled : Chronicled settings state) {time : Nat}
    {author : TaskId} {response : SearchResponse}
    (stored : ⟨time, author, .responseStored query response⟩ ∈ state.journal) :
    query ∈ state.asked := by
  obtain ⟨earlier, later, split⟩ := List.append_of_mem stored
  obtain ⟨sentAt, sent⟩ := (chronicled.fitting _ _ _ split).1 |> mem_eventsOf.mp
  rw [chronicled.asked]
  refine List.mem_filterMap.mpr ⟨⟨sentAt, author, .searching query⟩, ?_, rfl⟩
  rw [split]
  exact List.mem_append_left _ sent

/-- The last response under a key is the last one for its query, if no other query has the key. -/
theorem Chronicled.isLastUnder_iff (chronicled : Chronicled settings state)
    (distinct : ∀ other ∈ state.asked, Fingerprint.ofQuery other = .ofQuery query → other = query)
    (store : Store state.journal) :
    store.IsLastUnder (.ofQuery query) ↔ store.IsLastFor query := by
  constructor
  · intro isLast
    have sent := chronicled.sent_of_stored store.mem_journal
    refine ⟨distinct store.query sent isLast.sameKey, ?_⟩
    intro entry membership response stored
    exact isLast.unreplaced entry membership query response stored rfl
  · intro isLast
    refine ⟨congrArg Fingerprint.ofQuery isLast.sameQuery, ?_⟩
    rintro ⟨time, author, event⟩ membership other response rfl sameKey
    have stored : ⟨time, author, .responseStored other response⟩ ∈ state.journal := by
      rw [store.split]
      exact List.mem_append_right _ (List.mem_cons_of_mem _ membership)
    have same := distinct other (chronicled.sent_of_stored stored) sameKey
    exact isLast.unreplaced _ membership response (by rw [same])

/-- What a lookup finds, as the journal has it. -/
theorem Chronicled.lookup?_eq_some_iff (chronicled : Chronicled settings state)
    {key : Fingerprint} {entry : CacheEntry} :
    state.cache.lookup? settings.cache.ttl state.now key = some entry ↔
      ∃ store : Store state.journal, store.IsLastUnder key ∧ store.entry = entry ∧
        state.now < store.time + settings.cache.ttl := by
  rw [chronicled.cache.lookup?_eq_some_iff, latest?_storedIn_eq_some_iff]
  have young (store : Store state.journal) :
      store.entry.age state.now < settings.cache.ttl ↔
        state.now < store.time + settings.cache.ttl := by
    have past := chronicled.past _ store.mem_journal
    simp only [CacheEntry.age, Store.entry] at past ⊢
    omega
  constructor
  · rintro ⟨⟨store, isLast, rfl⟩, fresh⟩
    exact ⟨store, isLast, rfl, (young store).mp fresh⟩
  · rintro ⟨store, isLast, rfl, fresh⟩
    exact ⟨⟨store, isLast, rfl⟩, (young store).mpr fresh⟩

/-! ### Answers -/

/-- A search that finds an entry is answered at once, and changes nothing that others see. -/
theorem Begins.answer_of_hit {entry : CacheEntry} (holds : (accounted settings world).Holds state)
    (valid : ValidQuery settings text)
    (begins : Begins settings world state (.search text) task next)
    (found : state.cache.lookup? settings.cache.ttl state.now (.ofQuery (trimmedQuery text)) =
      some entry) :
    (∀ last, Leads settings world next last →
      last.answer? task = some (.search entry.payload.asCached, state.now)) ∧
    next.cache = state.cache ∧ next.snapshot = state.snapshot ∧ next.asked = state.asked ∧
      next.probed = state.probed := by
  have afterwards : (accounted settings world).Holds next :=
    holds.leads (.single begins.step)
  obtain ⟨tasks, nextTicket, ready, rfl⟩ := begins.exists_ready holds trivial fun _ => trivial
  have foundAgain : (state.withTasks tasks nextTicket).cache.lookup? settings.cache.ttl
      (state.withTasks tasks nextTicket).now (.ofQuery (trimmedQuery text)) = some entry := found
  rw [begin_search, search_eq_finish valid foundAgain] at afterwards ⊢
  refine ⟨?_, rfl, rfl, rfl, rfl⟩
  intro last leads
  have answered := answer?_of_finish afterwards ready.present leads
  exact answered

/-- A search that finds no entry is not answered from the cache, however long it takes. -/
theorem Begins.uncached_of_miss {response : SearchResponse} {time : Nat}
    (holds : (accounted settings world).Holds state) (valid : ValidQuery settings text)
    (begins : Begins settings world state (.search text) task next)
    (absent : state.cache.lookup? settings.cache.ttl state.now (.ofQuery (trimmedQuery text)) =
      none)
    (leads : Leads settings world next last)
    (answered : last.answer? task = some (.search response, time)) :
    response.cached = false := by
  obtain ⟨tasks, nextTicket, ready, rfl⟩ := begins.exists_ready holds trivial fun _ => trivial
  have stillAbsent : (state.withTasks tasks nextTicket).cache.lookup? settings.cache.ttl
      (state.withTasks tasks nextTicket).now (.ofQuery (trimmedQuery text)) = none := absent
  rw [begin_search, search_eq_sendQuery valid stillAbsent] at leads
  have sending := ready.move (Move.searchMiss valid absent) trivial
  have starts : (uncached settings world task).holds (state.withTasks tasks nextTicket)
      (.sending (trimmedQuery text)) := trivial
  exact Course.follow_answer sending starts (moves_sendQuery _ _) leads answered

/-- A search for a valid query is answered from the cache if and only if a response to the same
query has been stored since the latest clear, less than the time to live ago. The answer is then
the response stored last, by a task that had sent the query itself, as it was but for the mark; it
is there at once and for good, no query is sent and no probe called for it, and both caches stay as
they are. It is assumed that no other query sent so far has the fingerprint of this one. -/
theorem search_answered_from_cache_iff (reachable : Reachable settings world state)
    (distinct : ∀ other ∈ state.asked,
      Fingerprint.ofQuery other = .ofQuery (trimmedQuery text) → other = trimmedQuery text)
    (valid : ValidQuery settings text)
    (begins : Begins settings world state (.search text) task next) :
    (∀ last response time, Leads settings world next last →
      last.answer? task = some (.search response, time) →
        (response.cached = true ↔ ∃ store : Store state.journal,
          store.query = trimmedQuery text ∧ state.now < store.time + settings.cache.ttl)) ∧
    ((∃ store : Store state.journal,
        store.query = trimmedQuery text ∧ state.now < store.time + settings.cache.ttl) →
      ∃ store : Store state.journal, store.IsLastFor (trimmedQuery text) ∧
        .searching (trimmedQuery text) ∈ eventsOf store.earlier store.task ∧
        (∀ last, Leads settings world next last →
          last.answer? task = some (.search store.response.asCached, state.now)) ∧
        next.cache = state.cache ∧ next.snapshot = state.snapshot ∧ next.asked = state.asked ∧
        next.probed = state.probed) := by
  have holds := reachable.accounted
  have chronicled : Chronicled settings state := holds.common
  cases found : state.cache.lookup? settings.cache.ttl state.now (.ofQuery (trimmedQuery text)) with
  | some entry =>
      obtain ⟨store, isLast, rfl, fresh⟩ := chronicled.lookup?_eq_some_iff.mp found
      have isLastFor := (chronicled.isLastUnder_iff distinct store).mp isLast
      have sent := (chronicled.fits_store store).1
      rw [isLastFor.sameQuery] at sent
      have hit := begins.answer_of_hit holds valid found
      refine ⟨?_, fun _ => ⟨store, isLastFor, sent, hit⟩⟩
      intro last response time leads answered
      have same := answered.symm.trans (hit.1 last leads)
      simp only [Option.some.injEq, Prod.mk.injEq, Answer.search.injEq] at same
      rcases same with ⟨rfl, -⟩
      exact ⟨fun _ => ⟨store, isLastFor.sameQuery, fresh⟩, fun _ => rfl⟩
  | none =>
      have noStore : ¬∃ store : Store state.journal,
          store.query = trimmedQuery text ∧ state.now < store.time + settings.cache.ttl := by
        rintro ⟨store, sameQuery, fresh⟩
        obtain ⟨newest, isLast, notOlder⟩ := store.exists_isLastUnder chronicled.ordered
        have young : state.now < newest.time + settings.cache.ttl := by omega
        have present := chronicled.lookup?_eq_some_iff.mpr ⟨newest, isLast, rfl, young⟩
        rw [sameQuery, found] at present
        cases present
      refine ⟨?_, fun stored => absurd stored noStore⟩
      intro last response time leads answered
      have isUncached := begins.uncached_of_miss holds valid found leads answered
      simp [isUncached, noStore]

/-- A server that has answered a search at once. -/
def searched : State :=
  State.initial.spawn smallSettings (smallWorld 0 0) (.search "vim")

/-- The same search again, written otherwise. -/
def searchedAgain : State :=
  searched.spawn smallSettings (smallWorld 0 0) (.search " vim ")

theorem searchedAgain_answered_from_cache :
    ∃ store : Store searched.journal, store.IsLastFor (trimmedQuery " vim ") ∧
      (∀ last, Leads smallSettings (smallWorld 0 0) searchedAgain last →
        last.answer? 1 = some (.search store.response.asCached, 0)) ∧
      searchedAgain.asked = searched.asked := by
  have reachable : Reachable smallSettings (smallWorld 0 0) searched := .step .initial (.arrive _)
  have valid : ValidQuery smallSettings " vim " := ⟨by decide, by decide⟩
  have distinct : ∀ other ∈ searched.asked,
      Fingerprint.ofQuery other = .ofQuery (trimmedQuery " vim ") →
        other = trimmedQuery " vim " := by
    have asked : searched.asked = ["vim"] := by decide
    simpa [asked] using fun _ => (by decide : "vim" = trimmedQuery " vim ")
  let store : Store searched.journal :=
    { earlier := searched.journal.dropLast
      time := 0
      task := 0
      query := "vim"
      response := .success [] 0 false
      later := []
      split := by decide
      uncleared := by simp }
  have stored : store.query = trimmedQuery " vim " := by decide
  have fresh : searched.now < store.time + smallSettings.cache.ttl := by decide
  obtain ⟨newest, isLast, -, answers, -, -, asked, -⟩ :=
    (search_answered_from_cache_iff reachable distinct valid .arriving).2 ⟨store, stored, fresh⟩
  exact ⟨newest, isLast, answers, asked⟩

end Server

end PackageSearch
