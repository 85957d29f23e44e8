import PackageSearch.Proofs.Server.Search

/-!
# Clears and searches under way

A clear empties both caches and discards the detection under way, but a search that is under way
stores its response all the same, and later searches are answered from it. Nothing else from before
a clear outlives it.
-/

namespace PackageSearch.Server

variable {settings : Settings} {world : World} {state : State} {task : TaskId} {query : String}
  {journal : List JournalEntry} {generation : Nat}

def Purpose.query? : Purpose → Option String
  | .assemble query _ => some query
  | .report | .debug => none

/-- The query of a search that is under way: it has been sent, and there is no answer yet. -/
def Stage.query? : Stage → Option String
  | .searching query _ _ _ => some query
  | .queued _ purpose | .probing _ _ _ _ _ purpose => purpose.query?
  | _ => none

/-- The query for the response was sent, or the detection that it relies on was started, before the
journal went on from here. -/
def Store.IsOlderThan (store : Store journal) (here : List JournalEntry) : Prop :=
  .searching store.query ∈ eventsOf here store.task ∨
    ∃ source snapshot, source? store.earlier store.task = some (source, snapshot) ∧
      .refreshing ∈ eventsOf here source

/-! ### Queries that have been sent -/

/-- A query is the first thing that a task leaves. -/
theorem Chronicled.head?_eventsOf (chronicled : Chronicled settings state)
    (sent : .searching query ∈ eventsOf state.journal task) :
    (eventsOf state.journal task).head? = some (.searching query) := by
  obtain ⟨time, membership⟩ := mem_eventsOf.mp sent
  obtain ⟨earlier, later, split⟩ := List.append_of_mem membership
  have idle : eventsOf earlier task = [] := chronicled.fitting _ _ _ split
  rw [split, eventsOf_append, idle]
  simp [eventsOf]

theorem Chronicled.sent_unique (chronicled : Chronicled settings state) {other : String}
    (sent : .searching query ∈ eventsOf state.journal task)
    (otherSent : .searching other ∈ eventsOf state.journal task) : query = other := by
  have same := (chronicled.head?_eventsOf sent).symm.trans (chronicled.head?_eventsOf otherSent)
  simpa using same

/-- A task that had left anything had sent its query by then. -/
theorem Chronicled.sent_before (chronicled : Chronicled settings state)
    {here more : List JournalEntry} (grown : state.journal = here ++ more)
    (sent : .searching query ∈ eventsOf state.journal task)
    (active : eventsOf here task ≠ []) : .searching query ∈ eventsOf here task := by
  have first := chronicled.head?_eventsOf sent
  rw [grown, eventsOf_append, List.head?_append_of_ne_nil _ active] at first
  exact List.mem_of_mem_head? first

theorem Stands.sent_of_query? {stage : Stage}
    (stands : Stands journal generation task (.resting stage))
    (searches : stage.query? = some query) : .searching query ∈ eventsOf journal task := by
  have backed {purpose : Purpose} (isFor : purpose.query? = some query)
      (backed : purpose.IsBacked journal task) : .searching query ∈ eventsOf journal task := by
    cases purpose with
    | assemble other listing =>
        cases isFor
        exact backed
    | report | debug => cases isFor
  cases stage with
  | searching other wake outcome notes =>
      cases searches
      exact stands.1
  | queued demand purpose => exact backed searches stands.1
  | probing detection name wake outcome remaining purpose => exact backed searches stands.1
  | scheduled | inspecting | finished => cases searches

/-- A task that has sent its query, and has not ended, is searching. -/
theorem Stands.exists_query? {stage : Stage}
    (stands : Stands journal generation task (.resting stage))
    (sent : .searching query ∈ eventsOf journal task)
    (unfinished : ∀ answer time, stage ≠ .finished answer time) :
    ∃ other, stage.query? = some other := by
  have unbacked {purpose : Purpose} (backed : purpose.IsBacked journal task) :
      ∃ other, purpose.query? = some other := by
    cases purpose with
    | assemble other listing => exact ⟨other, rfl⟩
    | report | debug => exact absurd sent (backed query)
  cases stage with
  | scheduled operation start =>
      have idle : eventsOf journal task = [] := stands
      simp [idle] at sent
  | searching other wake outcome notes => exact ⟨other, rfl⟩
  | inspecting => exact absurd sent (stands.1 query)
  | queued demand purpose => exact unbacked stands.1
  | probing detection name wake outcome remaining purpose => exact unbacked stands.1
  | finished answer time => exact absurd rfl (unfinished answer time)

/-! ### What is stored after a clear -/

/-- A response that is there after a clear was stored after it. -/
theorem Store.exists_between (store : Store journal) {before more : List JournalEntry}
    {clearing : JournalEntry} {count : Nat} (split : journal = before ++ clearing :: more)
    (clears : clearing.event = .cacheCleared count) :
    ∃ between, store.earlier = before ++ clearing :: between ∧
      more = between ++
        ⟨store.time, store.task, .responseStored store.query store.response⟩ :: store.later := by
  have other : clearing ≠
      ⟨store.time, store.task, .responseStored store.query store.response⟩ := by
    rintro rfl
    cases clears
  rcases List.append_eq_append_iff.mp (store.split.symm.trans split) with
    ⟨rest, -, tail⟩ | ⟨rest, early, tail⟩
  · have membership : clearing ∈ rest ++ clearing :: more := List.mem_append_cons_self
    rw [← tail] at membership
    rcases List.mem_cons.mp membership with same | after
    · exact absurd same other
    · exact absurd clears (store.uncleared clearing after count)
  · cases rest with
    | nil =>
        injection tail with same _
        exact absurd same other
    | cons first between =>
        injection tail with same tail
        subst same
        exact ⟨between, early, tail⟩

theorem Begins.journal_of_clear {before cleared : State}
    (holds : (accounted settings world).Holds before)
    (clears : Begins settings world before .clear task cleared) :
    cleared.journal = before.journal ++ [⟨before.now, task, .snapshotReset⟩] ++
      [⟨before.now, task, .cacheCleared before.cache.size⟩] := by
  obtain ⟨tasks, nextTicket, -, rfl⟩ := clears.exists_ready holds trivial fun _ => trivial
  rfl

variable {before cleared asked next : State} {clearing : TaskId} {text : String}

theorem sinceReset_journal_of_clear (holds : (accounted settings world).Holds before)
    (clears : Begins settings world before .clear clearing cleared) :
    sinceReset cleared.journal = [⟨before.now, clearing, .cacheCleared before.cache.size⟩] := by
  rw [clears.journal_of_clear holds, sinceReset_concat, sinceReset_concat]
  simp

theorem Chronicled.started_once (chronicled : Chronicled settings state)
    {here more : List JournalEntry} (grown : state.journal = here ++ more)
    (started : .refreshing ∈ eventsOf here task) : .refreshing ∉ eventsOf more task := by
  intro again
  obtain ⟨time, membership⟩ := mem_eventsOf.mp again
  obtain ⟨earlier, later, rfl⟩ := List.append_of_mem membership
  have first : .refreshing ∉ eventsOf (here ++ earlier) task :=
    chronicled.fitting _ _ _ (grown.trans (List.append_assoc _ _ _).symm)
  rw [eventsOf_append] at first
  exact first (List.mem_append_left _ started)

/-- No detection from before a clear is kept after it. -/
theorem not_started_of_kept (holds : (accounted settings world).Holds before)
    (clears : Begins settings world before .clear clearing cleared)
    (chronicled : Chronicled settings state) {between later : List JournalEntry}
    (grown : state.journal = cleared.journal ++ (between ++ later)) {source : TaskId}
    {snapshot : Snapshot}
    (kept : (keepingIn (cleared.journal ++ between)).kept = some (source, snapshot)) :
    .refreshing ∉ eventsOf cleared.journal source := by
  intro older
  obtain ⟨started, ended, pair⟩ := detects_of_kept kept
  have current := (pair.trans (sinceReset_append_sublist _ _)).subset List.mem_cons_self
  rw [sinceReset_journal_of_clear holds clears] at current
  have again : .refreshing ∈ eventsOf (between ++ later) source := by
    refine mem_eventsOf.mpr ⟨started, List.mem_append_left _ ?_⟩
    simpa using current
  exact chronicled.started_once grown older again

theorem Store.exists_after_clear (holds : (accounted settings world).Holds before)
    (clears : Begins settings world before .clear clearing cleared)
    (leads : Leads settings world cleared asked) (store : Store asked.journal) :
    ∃ between, store.earlier = cleared.journal ++ between ∧
      asked.journal = cleared.journal ++ (between ++
        ⟨store.time, store.task, .responseStored store.query store.response⟩ :: store.later) := by
  have clearedJournal := clears.journal_of_clear holds
  obtain ⟨more, grown⟩ := journal_prefix_of_leads leads
  have split : asked.journal = before.journal ++ [⟨before.now, clearing, .snapshotReset⟩] ++
      ⟨before.now, clearing, .cacheCleared before.cache.size⟩ :: more := by
    rw [← grown, clearedJournal]
    simp
  obtain ⟨between, early, rfl⟩ := store.exists_between split rfl
  refine ⟨between, ?_, grown.symm⟩
  rw [early, clearedJournal]
  simp

/-- The query for a response that is older than a clear had been sent when the clear came, even if
it is only the detection that is known to be older. -/
theorem Store.sent_of_isOlderThan (holds : (accounted settings world).Holds before)
    (clears : Begins settings world before .clear clearing cleared)
    (leads : Leads settings world cleared asked) (chronicled : Chronicled settings asked)
    (store : Store asked.journal) (older : store.IsOlderThan cleared.journal) :
    .searching store.query ∈ eventsOf cleared.journal store.task := by
  rcases older with sent | ⟨source, snapshot, found, started⟩
  · exact sent
  · obtain ⟨between, early, grown⟩ := store.exists_after_clear holds clears leads
    rw [early, source?] at found
    split at found
    · cases found
      have sent := store.mem_eventsOf_of_earlier (chronicled.fits_store store).1
      exact chronicled.sent_before grown sent (List.ne_nil_of_mem started)
    · exact absurd started (not_started_of_kept holds clears chronicled grown found)

/-- A task that had sent its query when the clear came, and that stores something after it, was
searching when the clear came. -/
theorem Store.searching_of_sent (reachable : Reachable settings world before)
    (clears : Begins settings world before .clear clearing cleared)
    (leads : Leads settings world cleared asked) (store : Store asked.journal)
    (sent : .searching store.query ∈ eventsOf cleared.journal store.task) :
    ∃ stage, cleared.stage? store.task = some stage ∧ stage.query? = some store.query := by
  have holds := (reachable.step clears.step).accounted
  have chronicled : Chronicled settings cleared := holds.common
  obtain ⟨sentAt, entry⟩ := mem_eventsOf.mp sent
  obtain ⟨stage, waits⟩ := State.exists_stage? (chronicled.authors _ entry)
  have stands : Stands cleared.journal cleared.generation store.task (.resting stage) :=
    holds.standing waits
  have unfinished : ∀ answer time, stage ≠ .finished answer time := by
    rintro answer time rfl
    have answered := State.answer?_eq_some_iff.mpr waits
    obtain ⟨-, more, silentGrown, silent⟩ := answer?_of_leads holds answered leads
    obtain ⟨between, -, grown⟩ := store.exists_after_clear reachable.accounted clears leads
    rw [List.append_cancel_left (silentGrown.symm.trans grown), eventsOf_append] at silent
    simp [eventsOf] at silent
  obtain ⟨other, searches⟩ := stands.exists_query? sent unfinished
  have same := chronicled.sent_unique (stands.sent_of_query? searches) sent
  exact ⟨stage, waits, same ▸ searches⟩

/-- After a clear, a response is older than it exactly if the task that stored it was searching when
the clear came. -/
theorem Store.isOlderThan_clear_iff (reachable : Reachable settings world before)
    (clears : Begins settings world before .clear clearing cleared)
    (leads : Leads settings world cleared asked) (store : Store asked.journal) :
    store.IsOlderThan cleared.journal ↔
      ∃ stage, cleared.stage? store.task = some stage ∧ stage.query? = some store.query := by
  have holds := (reachable.step clears.step).accounted
  constructor
  · intro older
    have sent := store.sent_of_isOlderThan reachable.accounted clears leads
      (holds.leads leads).common older
    exact store.searching_of_sent reachable clears leads sent
  · rintro ⟨stage, waits, searches⟩
    have stands : Stands cleared.journal cleared.generation store.task (.resting stage) :=
      holds.standing waits
    exact .inl (stands.sent_of_query? searches)

/-- A search that begins after a clear is answered from a response that is older than the clear if
and only if the last response under its key is young enough, and was stored by a task that was
searching when the clear came. -/
theorem search_answered_from_before_clear_iff (reachable : Reachable settings world before)
    (clears : Begins settings world before .clear clearing cleared)
    (leads : Leads settings world cleared asked) (valid : ValidQuery settings text)
    (begins : Begins settings world asked (.search text) task next) :
    (∃ last time, Leads settings world next last ∧ ∃ store : Store asked.journal,
        store.IsLastUnder (.ofQuery (trimmedQuery text)) ∧
        last.answer? task = some (.search store.response.asCached, time) ∧
        store.IsOlderThan cleared.journal) ↔
      ∃ store : Store asked.journal, store.IsLastUnder (.ofQuery (trimmedQuery text)) ∧
        asked.now < store.time + settings.cache.ttl ∧
        ∃ stage, cleared.stage? store.task = some stage ∧ stage.query? = some store.query := by
  have holds := ((reachable.step clears.step).trans leads).accounted
  have chronicled : Chronicled settings asked := holds.common
  constructor
  · rintro ⟨last, time, afterwards, store, isLast, answered, older⟩
    refine ⟨store, isLast, ?_, (store.isOlderThan_clear_iff reachable clears leads).mp older⟩
    cases found : asked.cache.lookup? settings.cache.ttl asked.now
        (.ofQuery (trimmedQuery text)) with
    | none =>
        have isUncached := begins.uncached_of_miss holds valid found afterwards answered
        cases isUncached
    | some entry =>
        obtain ⟨newest, isNewest, rfl, fresh⟩ := chronicled.lookup?_eq_some_iff.mp found
        have sameTime : store.time = newest.time :=
          congrArg CacheEntry.createdAt (isLast.entry_eq isNewest)
        rw [sameTime]
        exact fresh
  · rintro ⟨store, isLast, fresh, searching⟩
    have older := (store.isOlderThan_clear_iff reachable clears leads).mpr searching
    have found := chronicled.lookup?_eq_some_iff.mpr ⟨store, isLast, rfl, fresh⟩
    have answered := (begins.answer_of_hit holds valid found).1 next .refl
    exact ⟨next, asked.now, .refl, store, isLast, answered, older⟩

/-! ### A clear that comes too early -/

/-- A search whose query takes five milliseconds. -/
def querySent : State :=
  State.initial.spawn smallSettings (smallWorld 5 0) (.search "vim")

/-- A clear comes before the query is answered. -/
def clearedMeanwhile : State :=
  querySent.spawn smallSettings (smallWorld 5 0) .clear

/-- The search goes on after the clear. -/
def storedAfterwards : State :=
  { clearedMeanwhile with now := 5 }.resume smallSettings (smallWorld 5 0) 0

/-- The same search begins after the clear. -/
def searchedAfterwards : State :=
  storedAfterwards.spawn smallSettings (smallWorld 5 0) (.search "vim")

theorem leads_storedAfterwards :
    Leads smallSettings (smallWorld 5 0) clearedMeanwhile storedAfterwards := by
  have waited : Step smallSettings (smallWorld 5 0) clearedMeanwhile
      { clearedMeanwhile with now := 5 } := .pass (by decide)
  have stored : Step smallSettings (smallWorld 5 0) { clearedMeanwhile with now := 5 }
      storedAfterwards := .resume (by decide)
  exact .tail (.single waited) stored

/-- What the first search stores. -/
def storedLate : Store storedAfterwards.journal where
  earlier := storedAfterwards.journal.dropLast
  time := 5
  task := 0
  query := "vim"
  response := .success [] 0 false
  later := []
  split := by decide
  uncleared := Store.uncleared_nil

theorem storedLate_isLastUnder : storedLate.IsLastUnder (.ofQuery (trimmedQuery "vim")) := by
  have trimmed : trimmedQuery "vim" = "vim" := by decide
  constructor
  · rw [trimmed]
    rfl
  · simp [storedLate]

theorem searchedAfterwards_answered_from_before_clear :
    ∃ last time, Leads smallSettings (smallWorld 5 0) searchedAfterwards last ∧
      ∃ store : Store storedAfterwards.journal,
        store.IsLastUnder (.ofQuery (trimmedQuery "vim")) ∧
        last.answer? 2 = some (.search store.response.asCached, time) ∧
        store.IsOlderThan clearedMeanwhile.journal := by
  have reachable : Reachable smallSettings (smallWorld 5 0) querySent := .step .initial (.arrive _)
  have valid : ValidQuery smallSettings "vim" := ⟨by decide, by decide⟩
  refine (search_answered_from_before_clear_iff reachable .arriving leads_storedAfterwards valid
    .arriving).mpr ⟨storedLate, storedLate_isLastUnder, by decide, ?_⟩
  exact ⟨_, rfl, rfl⟩

/-- No search that begins after a clear is answered from a response that is older than the clear. -/
def ClearWins (settings : Settings) (world : World) : Prop :=
  ∀ (before cleared asked next last : State) (clearing task : TaskId) (text : String) (time : Nat)
    (store : Store asked.journal),
    Reachable settings world before → Begins settings world before .clear clearing cleared →
    Leads settings world cleared asked → ValidQuery settings text →
    Begins settings world asked (.search text) task next → Leads settings world next last →
    store.IsLastUnder (.ofQuery (trimmedQuery text)) →
    last.answer? task = some (.search store.response.asCached, time) →
      ¬store.IsOlderThan cleared.journal

theorem not_clearWins : ¬ClearWins smallSettings (smallWorld 5 0) := by
  intro wins
  have reachable : Reachable smallSettings (smallWorld 5 0) querySent := .step .initial (.arrive _)
  have cleared : Begins smallSettings (smallWorld 5 0) querySent .clear 1 clearedMeanwhile :=
    .arriving
  have begins : Begins smallSettings (smallWorld 5 0) storedAfterwards (.search "vim") 2
      searchedAfterwards := .arriving
  have valid : ValidQuery smallSettings "vim" := ⟨by decide, by decide⟩
  have holds := ((reachable.step cleared.step).trans leads_storedAfterwards).accounted
  have chronicled : Chronicled smallSettings storedAfterwards := holds.common
  have found := chronicled.lookup?_eq_some_iff.mpr
    ⟨storedLate, storedLate_isLastUnder, rfl, by decide⟩
  have answered := (begins.answer_of_hit holds valid found).1 searchedAfterwards .refl
  refine wins _ _ _ _ _ _ _ _ _ storedLate reachable cleared leads_storedAfterwards valid begins
    .refl storedLate_isLastUnder answered (.inl ?_)
  decide

end PackageSearch.Server
