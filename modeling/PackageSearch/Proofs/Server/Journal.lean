import Mathlib.Data.List.DropRight
import Mathlib.Data.List.Induction
import PackageSearch.Proofs.Cache.Log
import PackageSearch.Server.State

/-!
# What the journal tells

The journal alone says which responses have been stored since the cache was last cleared, which
detections have started since the snapshot was last reset, and which of them has ended last.
-/

namespace PackageSearch

def Event.found? : Event → Option Snapshot
  | .detected snapshot => some snapshot
  | _ => none

namespace Server

variable {journal : List JournalEntry} {last : JournalEntry} {task : TaskId}

/-- The events that a task has left. -/
def eventsOf (journal : List JournalEntry) (task : TaskId) : List Event :=
  (journal.filter fun entry => entry.task = task).map JournalEntry.event

@[simp]
theorem eventsOf_nil (task : TaskId) : eventsOf [] task = [] := rfl

@[simp]
theorem eventsOf_append (journal more : List JournalEntry) (task : TaskId) :
    eventsOf (journal ++ more) task = eventsOf journal task ++ eventsOf more task := by
  simp [eventsOf]

theorem eventsOf_concat (journal : List JournalEntry) (last : JournalEntry) (task : TaskId) :
    eventsOf (journal ++ [last]) task =
      if last.task = task then eventsOf journal task ++ [last.event]
      else eventsOf journal task := by
  by_cases same : last.task = task <;> simp [eventsOf, same]

theorem mem_eventsOf {event : Event} :
    event ∈ eventsOf journal task ↔ ∃ time, ⟨time, task, event⟩ ∈ journal := by
  simp only [eventsOf, List.mem_map, List.mem_filter, decide_eq_true_eq]
  constructor
  · rintro ⟨⟨time, author, left⟩, ⟨membership, rfl⟩, rfl⟩
    exact ⟨time, membership⟩
  · rintro ⟨time, membership⟩
    exact ⟨⟨time, task, event⟩, ⟨membership, rfl⟩, rfl⟩

theorem eventsOf_eq_nil (absent : ∀ entry ∈ journal, entry.task ≠ task) :
    eventsOf journal task = [] := by
  unfold eventsOf
  rw [List.filter_eq_nil_iff.mpr (by simpa using absent), List.map_nil]

/-! ### Stored responses -/

/-- What an entry of the journal does to the log of the cache. -/
def noteInLog (log : CacheLog) (entry : JournalEntry) : CacheLog :=
  match entry.event with
  | .responseStored query response =>
      log ++ [{ key := .ofQuery query, payload := response, createdAt := entry.time }]
  | .cacheCleared _ => []
  | _ => log

/-- The log of the cache, as the journal has it. -/
def storedIn (journal : List JournalEntry) : CacheLog :=
  journal.foldl noteInLog []

theorem storedIn_concat (journal : List JournalEntry) (last : JournalEntry) :
    storedIn (journal ++ [last]) = noteInLog (storedIn journal) last := by
  simp [storedIn]

/-- A response that has been stored, and that no clear has removed since. -/
structure Store (journal : List JournalEntry) where
  earlier : List JournalEntry
  time : Nat
  task : TaskId
  query : String
  response : SearchResponse
  later : List JournalEntry
  split : journal = earlier ++ ⟨time, task, .responseStored query response⟩ :: later
  uncleared : ∀ entry ∈ later, ∀ count, entry.event ≠ .cacheCleared count

namespace Store

def entry (store : Store journal) : CacheEntry where
  key := .ofQuery store.query
  payload := store.response
  createdAt := store.time

/-- Nothing has been stored under the key since. -/
structure IsLastUnder (store : Store journal) (key : Fingerprint) : Prop where
  sameKey : Fingerprint.ofQuery store.query = key
  unreplaced : ∀ entry ∈ store.later, ∀ query response,
    entry.event = .responseStored query response → Fingerprint.ofQuery query ≠ key

/-- Nothing has been stored for the query since. -/
structure IsLastFor (store : Store journal) (query : String) : Prop where
  sameQuery : store.query = query
  unreplaced : ∀ entry ∈ store.later, ∀ response, entry.event ≠ .responseStored query response

def extend (store : Store journal) (last : JournalEntry)
    (uncleared : ∀ count, last.event ≠ .cacheCleared count) : Store (journal ++ [last]) where
  earlier := store.earlier
  time := store.time
  task := store.task
  query := store.query
  response := store.response
  later := store.later ++ [last]
  split := by
    simpa using congrArg (· ++ [last]) store.split
  uncleared := by
    intro entry membership
    rcases List.mem_append.mp membership with old | new
    · exact store.uncleared entry old
    · rw [List.mem_singleton.mp new]
      exact uncleared

theorem uncleared_nil :
    ∀ entry ∈ ([] : List JournalEntry), ∀ count, entry.event ≠ .cacheCleared count := by
  simp

/-- A response that the last entry stores. -/
def ofLast (journal : List JournalEntry) (time : Nat) (task : TaskId) (query : String)
    (response : SearchResponse) :
    Store (journal ++ [⟨time, task, .responseStored query response⟩]) where
  earlier := journal
  time := time
  task := task
  query := query
  response := response
  later := []
  split := rfl
  uncleared := uncleared_nil

theorem mem_journal (store : Store journal) :
    ⟨store.time, store.task, .responseStored store.query store.response⟩ ∈ journal := by
  rcases store with ⟨earlier, time, author, query, response, later, rfl, uncleared⟩
  exact List.mem_append_cons_self

theorem mem_eventsOf_of_earlier (store : Store journal) {event : Event}
    (left : event ∈ eventsOf store.earlier task) : event ∈ eventsOf journal task := by
  rcases store with ⟨earlier, time, author, query, response, later, rfl, uncleared⟩
  rw [eventsOf_append]
  exact List.mem_append_left _ left

theorem exists_extend (store : Store (journal ++ [last])) (notLast : store.later ≠ []) :
    ∃ (old : Store journal) (uncleared : ∀ count, last.event ≠ .cacheCleared count),
      old.extend last uncleared = store := by
  rcases store with ⟨earlier, time, author, query, response, later, split, uncleared⟩
  rcases List.eq_nil_or_concat later with rfl | ⟨between, newest, isConcat⟩
  · exact absurd rfl notLast
  · rw [List.concat_eq_append] at isConcat
    subst isConcat
    have parts : journal = earlier ++ ⟨time, author, .responseStored query response⟩ :: between ∧
        last = newest := by
      rw [← List.cons_append, ← List.append_assoc] at split
      exact List.append_inj' split rfl |>.imp id (by simpa using ·)
    rcases parts with ⟨old, rfl⟩
    exact ⟨⟨earlier, time, author, query, response, between, old,
      fun entry membership => uncleared entry (List.mem_append_left _ membership)⟩,
      uncleared last (by simp), rfl⟩

theorem last_eq (store : Store (journal ++ [last])) (isLast : store.later = []) :
    last = ⟨store.time, store.task, .responseStored store.query store.response⟩ := by
  have split := store.split
  rw [isLast] at split
  simpa using (List.append_inj' split rfl).2

theorem isLastUnder_ofLast (journal : List JournalEntry) (time : Nat) (task : TaskId)
    (query : String) (response : SearchResponse) :
    (ofLast journal time task query response).IsLastUnder (.ofQuery query) :=
  ⟨rfl, by simp [ofLast]⟩

theorem IsLastUnder.extend {store : Store journal} {key : Fingerprint}
    (isLast : store.IsLastUnder key) (uncleared : ∀ count, last.event ≠ .cacheCleared count)
    (otherKey : ∀ query response, last.event = .responseStored query response →
      Fingerprint.ofQuery query ≠ key) : (store.extend last uncleared).IsLastUnder key := by
  refine ⟨isLast.sameKey, ?_⟩
  intro entry membership
  rcases List.mem_append.mp membership with before | new
  · exact isLast.unreplaced entry before
  · rw [List.mem_singleton.mp new]
    exact otherKey

/-- An entry that neither clears the cache nor stores something under the key leaves the last
response under the key as it was. -/
theorem exists_isLastUnder_concat_iff {key : Fingerprint} {entry : CacheEntry}
    (uncleared : ∀ count, last.event ≠ .cacheCleared count)
    (otherKey : ∀ query response, last.event = .responseStored query response →
      Fingerprint.ofQuery query ≠ key) :
    (∃ store : Store (journal ++ [last]), store.IsLastUnder key ∧ store.entry = entry) ↔
      ∃ store : Store journal, store.IsLastUnder key ∧ store.entry = entry := by
  constructor
  · rintro ⟨store, isLast, rfl⟩
    have notLast : store.later ≠ [] := by
      intro isEmpty
      have event := congrArg JournalEntry.event (store.last_eq isEmpty)
      exact otherKey store.query store.response event isLast.sameKey
    obtain ⟨old, _, rfl⟩ := store.exists_extend notLast
    refine ⟨old, ⟨isLast.sameKey, ?_⟩, rfl⟩
    intro entry membership
    exact isLast.unreplaced entry (List.mem_append_left _ membership)
  · rintro ⟨old, isLast, rfl⟩
    exact ⟨old.extend last uncleared, isLast.extend uncleared otherKey, rfl⟩

theorem false_of_cleared (store : Store (journal ++ [last])) {count : Nat}
    (cleared : last.event = .cacheCleared count) : False := by
  by_cases isLast : store.later = []
  · have event := congrArg JournalEntry.event (store.last_eq isLast)
    rw [cleared] at event
    cases event
  · obtain ⟨_, uncleared, _⟩ := store.exists_extend isLast
    exact uncleared count cleared

theorem entry_eq_of_isLastUnder {query : String} {response : SearchResponse}
    (stored : last.event = .responseStored query response)
    (store : Store (journal ++ [last])) (isLast : store.IsLastUnder (.ofQuery query)) :
    store.entry = { key := .ofQuery query, payload := response, createdAt := last.time } := by
  by_cases newest : store.later = []
  · have same := store.last_eq newest
    have event : Event.responseStored store.query store.response = .responseStored query response :=
      (congrArg JournalEntry.event same).symm.trans stored
    injection event with sameQuery sameResponse
    have sameTime : last.time = store.time := congrArg JournalEntry.time same
    rw [entry, sameQuery, sameResponse, sameTime]
  · obtain ⟨old, _, rfl⟩ := store.exists_extend newest
    exact absurd rfl (isLast.unreplaced last (List.mem_append_right _ (by simp)) _ _ stored)

/-- The last response under the key of a stored one is not older. -/
theorem exists_isLastUnder (store : Store journal)
    (ordered : journal.Pairwise fun earlier later => earlier.time ≤ later.time) :
    ∃ newest : Store journal, newest.IsLastUnder (.ofQuery store.query) ∧
      store.time ≤ newest.time := by
  induction journal using List.reverseRecOn with
  | nil => simpa using store.mem_journal
  | append_singleton journal last inductionHypothesis =>
      by_cases isNewest : store.later = []
      · exact ⟨store, ⟨rfl, by simp [isNewest]⟩, Nat.le_refl _⟩
      · obtain ⟨old, uncleared, rfl⟩ := store.exists_extend isNewest
        obtain ⟨oldOrdered, -, across⟩ := List.pairwise_append.mp ordered
        by_cases replaces : ∃ query response, last.event = .responseStored query response ∧
            Fingerprint.ofQuery query = .ofQuery old.query
        · rcases last with ⟨time, author, event⟩
          rcases replaces with ⟨query, response, rfl, sameKey⟩
          refine ⟨.ofLast journal time author query response, ?_, ?_⟩
          · exact sameKey ▸ isLastUnder_ofLast journal time author query response
          · exact across _ old.mem_journal _ (List.mem_singleton_self _)
        · obtain ⟨newest, isLast, notOlder⟩ := inductionHypothesis old oldOrdered
          exact ⟨newest.extend last uncleared, isLast.extend uncleared (by simpa using replaces),
            notOlder⟩

end Store

/-- The log of the cache has under each key the response that was stored last. The induction is on
the journal, from its end. -/
theorem latest?_storedIn_eq_some_iff {key : Fingerprint} {entry : CacheEntry} :
    (storedIn journal).latest? key = some entry ↔
      ∃ store : Store journal, store.IsLastUnder key ∧ store.entry = entry := by
  induction journal using List.reverseRecOn with
  | nil =>
      constructor
      · intro latest
        simp [storedIn] at latest
      · rintro ⟨store, -, -⟩
        simpa using store.mem_journal
  | append_singleton journal last inductionHypothesis =>
      rcases last with ⟨time, author, event⟩
      rw [storedIn_concat]
      by_cases clears : ∃ count, event = .cacheCleared count
      · rcases clears with ⟨count, rfl⟩
        constructor
        · intro latest
          simp [noteInLog] at latest
        · rintro ⟨store, -, -⟩
          exact (store.false_of_cleared rfl).elim
      · by_cases replaces : ∃ query response, event = .responseStored query response ∧
            Fingerprint.ofQuery query = key
        · rcases replaces with ⟨query, response, rfl, rfl⟩
          simp only [noteInLog, CacheLog.latest?_concat, if_true, Option.some.injEq]
          constructor
          · rintro rfl
            exact ⟨.ofLast journal time author query response,
              Store.isLastUnder_ofLast journal time author query response, rfl⟩
          · rintro ⟨store, isLast, rfl⟩
            exact (store.entry_eq_of_isLastUnder rfl isLast).symm
        · rw [Store.exists_isLastUnder_concat_iff (by simpa using clears)
            (by simpa using replaces), ← inductionHypothesis]
          cases event with
          | responseStored query response =>
              have otherKey : Fingerprint.ofQuery query ≠ key := by simpa using replaces
              simp [noteInLog, CacheLog.latest?_concat, otherKey]
          | cacheCleared count => simp at clears
          | _ => rfl

theorem Store.IsLastUnder.entry_eq {store other : Store journal} {key : Fingerprint}
    (isLast : store.IsLastUnder key) (otherIsLast : other.IsLastUnder key) :
    store.entry = other.entry := by
  have latest := latest?_storedIn_eq_some_iff.mpr ⟨store, isLast, rfl⟩
  have otherLatest := latest?_storedIn_eq_some_iff.mpr ⟨other, otherIsLast, rfl⟩
  exact Option.some.inj (latest.symm.trans otherLatest)

/-! ### Detected snapshots -/

/-- The entries that came after the snapshot was last reset. -/
def sinceReset (journal : List JournalEntry) : List JournalEntry :=
  journal.rtakeWhile fun entry => entry.event ≠ .snapshotReset

/-- Among the entries a task starts a detection, and ends it with the snapshot. -/
def Detects (entries : List JournalEntry) (task : TaskId) (snapshot : Snapshot) : Prop :=
  ∃ started ended, List.Sublist
    [⟨started, task, .refreshing⟩, ⟨ended, task, .detected snapshot⟩] entries

/-- What the detections since the latest reset have brought. -/
structure Keeping where
  /-- The tasks whose detections have started since. -/
  current : List TaskId
  /-- The one among them that ended last, with what it found. -/
  kept : Option (TaskId × Snapshot)

namespace Keeping

def initial : Keeping := ⟨[], none⟩

def note (keeping : Keeping) (entry : JournalEntry) : Keeping :=
  match entry.event with
  | .refreshing => { keeping with current := entry.task :: keeping.current }
  | .detected snapshot =>
      if entry.task ∈ keeping.current then { keeping with kept := some (entry.task, snapshot) }
      else keeping
  | .snapshotReset => initial
  | _ => keeping

/-- The snapshot of the detection that ended last, or the one that nothing was captured for. -/
def snapshot (keeping : Keeping) : Snapshot :=
  (keeping.kept.map Prod.snd).getD Snapshot.empty

end Keeping

/-- What the detections since the latest reset have brought, as the journal has it. -/
def keepingIn (journal : List JournalEntry) : Keeping :=
  journal.foldl Keeping.note Keeping.initial

theorem keepingIn_concat (journal : List JournalEntry) (last : JournalEntry) :
    keepingIn (journal ++ [last]) = (keepingIn journal).note last := by
  simp [keepingIn]

/-- The snapshot that a task has detected. -/
def detected? (journal : List JournalEntry) (task : TaskId) : Option Snapshot :=
  (eventsOf journal task).findSome? Event.found?

theorem detected?_eq_none (unended : ∀ snapshot, .detected snapshot ∉ eventsOf journal task) :
    detected? journal task = none := by
  refine List.findSome?_eq_none_iff.mpr ?_
  intro event membership
  cases event with
  | detected snapshot => exact absurd membership (unended snapshot)
  | _ => rfl

/-- The task whose detection brings what a task delivers, and what that detection found: its own
detection if it has made one, and the kept one if not. -/
def source? (journal : List JournalEntry) (task : TaskId) : Option (TaskId × Snapshot) :=
  match detected? journal task with
  | some snapshot => some (task, snapshot)
  | none => (keepingIn journal).kept

theorem sinceReset_concat (journal : List JournalEntry) (last : JournalEntry) :
    sinceReset (journal ++ [last]) =
      if last.event = .snapshotReset then [] else sinceReset journal ++ [last] := by
  unfold sinceReset
  rw [List.rtakeWhile_concat]
  by_cases resets : last.event = .snapshotReset <;> simp [resets]

/-- Entries that reset nothing are all younger than the latest reset. -/
theorem sinceReset_append_of_noReset (journal : List JournalEntry) {more : List JournalEntry}
    (noReset : ∀ entry ∈ more, entry.event ≠ .snapshotReset) :
    sinceReset (journal ++ more) = sinceReset journal ++ more := by
  induction more using List.reverseRecOn with
  | nil => simp
  | append_singleton more last inductionHypothesis =>
      rw [← List.append_assoc, sinceReset_concat, if_neg (noReset last (by simp)),
        inductionHypothesis fun entry membership =>
          noReset entry (List.mem_append_left _ membership), List.append_assoc]

theorem sinceReset_append_of_reset (journal : List JournalEntry) {more : List JournalEntry}
    (resets : ∃ entry ∈ more, entry.event = .snapshotReset) :
    sinceReset (journal ++ more) = sinceReset more := by
  induction more using List.reverseRecOn with
  | nil => simp at resets
  | append_singleton more last inductionHypothesis =>
      rw [← List.append_assoc, sinceReset_concat, sinceReset_concat]
      by_cases lastResets : last.event = .snapshotReset
      · rw [if_pos lastResets, if_pos lastResets]
      · rw [if_neg lastResets, if_neg lastResets, inductionHypothesis]
        rcases resets with ⟨entry, membership, reset⟩
        rcases List.mem_append.mp membership with before | new
        · exact ⟨entry, before, reset⟩
        · exact absurd (List.mem_singleton.mp new ▸ reset) lastResets

theorem sinceReset_append_sublist (journal more : List JournalEntry) :
    (sinceReset (journal ++ more)).Sublist (sinceReset journal ++ more) := by
  by_cases resets : ∃ entry ∈ more, entry.event = .snapshotReset
  · rw [sinceReset_append_of_reset journal resets]
    have suffix : (sinceReset more).Sublist more := (List.rtakeWhile_suffix _ _).sublist
    exact suffix.trans (List.sublist_append_right _ _)
  · have noReset : ∀ entry ∈ more, entry.event ≠ .snapshotReset := by simpa using resets
    rw [sinceReset_append_of_noReset journal noReset]

theorem Detects.mono {entries more : List JournalEntry} {snapshot : Snapshot}
    (detects : Detects entries task snapshot) (included : entries.Sublist more) :
    Detects more task snapshot := by
  rcases detects with ⟨started, ended, pair⟩
  exact ⟨started, ended, pair.trans included⟩

theorem Keeping.current_note_of_ordinary (keeping : Keeping) (ordinary : last.event ≠ .refreshing)
    (noReset : last.event ≠ .snapshotReset) : (keeping.note last).current = keeping.current := by
  unfold Keeping.note
  split
  · contradiction
  · split <;> rfl
  · contradiction
  · rfl

/-- A detection is current while its start is younger than the latest reset. -/
theorem mem_current_keepingIn_iff :
    task ∈ (keepingIn journal).current ↔ .refreshing ∈ eventsOf (sinceReset journal) task := by
  induction journal using List.reverseRecOn with
  | nil => simp [keepingIn, Keeping.initial, sinceReset]
  | append_singleton journal last inductionHypothesis =>
      rw [keepingIn_concat, sinceReset_concat]
      by_cases resets : last.event = .snapshotReset
      · simp [Keeping.note, resets, Keeping.initial]
      · rw [if_neg resets, eventsOf_concat]
        by_cases starts : last.event = .refreshing
        · simp only [Keeping.note, starts, List.mem_cons, inductionHypothesis]
          by_cases same : last.task = task
          · simp [same]
          · simp [same, Ne.symm same]
        · rw [Keeping.current_note_of_ordinary _ starts resets, inductionHypothesis]
          split <;> simp [Ne.symm starts]

/-- What is kept was detected by a task that started after the latest reset. -/
theorem detects_of_kept {snapshot : Snapshot}
    (kept : (keepingIn journal).kept = some (task, snapshot)) :
    Detects (sinceReset journal) task snapshot := by
  induction journal using List.reverseRecOn with
  | nil => simp [keepingIn, Keeping.initial] at kept
  | append_singleton journal last inductionHypothesis =>
      rw [keepingIn_concat] at kept
      rw [sinceReset_concat]
      rcases last with ⟨time, author, event⟩
      have earlier (unchanged : (keepingIn journal).kept = some (task, snapshot)) :
          Detects (sinceReset journal ++ [⟨time, author, event⟩]) task snapshot :=
        (inductionHypothesis unchanged).mono (List.sublist_append_left _ _)
      cases event with
      | snapshotReset => simp [Keeping.note, Keeping.initial] at kept
      | detected found =>
          rw [if_neg (by simp)]
          by_cases current : author ∈ (keepingIn journal).current
          · simp only [Keeping.note, current, if_true, Option.some.injEq, Prod.mk.injEq] at kept
            rcases kept with ⟨rfl, rfl⟩
            obtain ⟨started, start⟩ := mem_eventsOf.mp (mem_current_keepingIn_iff.mp current)
            refine ⟨started, time, ?_⟩
            exact (List.singleton_sublist.mpr start).append (List.Sublist.refl _)
          · simp only [Keeping.note, current, if_false] at kept
            exact earlier kept
      | _ => exact earlier kept

end Server

end PackageSearch
