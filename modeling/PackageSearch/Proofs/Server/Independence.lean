import PackageSearch.Proofs.Cache.Insertion
import PackageSearch.Proofs.Server.Drain
import PackageSearch.Proofs.Server.Search

/-!
# Searches for different packages

Where the package query and the probes answer without delay, searches that are made at one moment,
each with a key of its own, can be made in any order: each gets the response that it would have got
alone, and the caches are left with the same contents.
-/

namespace PackageSearch

/-- The package query and the probes answer without delay. -/
structure Server.World.IsPrompt (world : Server.World) : Prop where
  queries : ∀ query asked, (world.search query asked).delay = 0
  probes : ∀ probe ∈ world.probes, ∀ called, (probe.reply called).delay = 0

namespace Server

variable {settings : Settings} {world : World} {state before after : State} {task : TaskId}
  {text query : String} {calls : List (Nat × Probe)} {names : NameSet} {snapshot : Snapshot}
  {purpose : Purpose} {detection : Detection}

/-- From now on the package query and the probes answer without delay, and nobody is at the gate. -/
structure State.IsUndelayed (world : World) (state : State) : Prop where
  gate : state.gate = []
  queries : ∀ query asked, state.asked.count query ≤ asked →
    (world.search query asked).delay = 0
  probes : ∀ call ∈ world.calls, ∀ called, state.probed.count call.1 ≤ called →
    (call.2.reply called).delay = 0

/-! ### What a search finds -/

/-- What is found by the first of these probes that succeeds, if they are called now. -/
def State.found (settings : Settings) (state : State) : List (Nat × Probe) → NameSet
  | [] => NameSet.empty
  | (place, probe) :: remaining =>
      match probeResult settings probe.name
          ((state.probeReply place probe).outcome settings.probeTimeout) with
      | .ok names => names
      | .error _ => state.found settings remaining

/-- The snapshot that is stored, or the one that a detection brings if that is stale. -/
def State.currentSnapshot (settings : Settings) (world : World) (state : State) : Snapshot :=
  if state.snapshot.isStale settings.installedTtl state.now then
    state.captured (state.found settings world.calls)
  else state.snapshot

theorem State.isStale_currentSnapshot (positive : 0 < settings.installedTtl) :
    (state.currentSnapshot settings world).isStale settings.installedTtl state.now = false := by
  unfold State.currentSnapshot
  split
  · simpa [Snapshot.isStale, State.captured] using Nat.ne_of_gt positive
  · rename_i fresh
    simpa using fresh

/-- How a search ends. -/
inductive Finding where
  /-- The installed packages do not matter. -/
  | apart (response : SearchResponse)
  | unassembled (error : SearchError)
  | assembled (response : SearchResponse)

namespace Finding

def response : Finding → SearchResponse
  | .apart response | .assembled response => response
  | .unassembled error => .failure error.message

/-- Whether a snapshot was needed. -/
def needsSnapshot : Finding → Bool
  | .apart _ => false
  | .unassembled _ | .assembled _ => true

/-- What is put into the cache. -/
def batch (key : Fingerprint) : Finding → Cache.Batch
  | .assembled response => [(key, response)]
  | .apart _ | .unassembled _ => []

/-- What becomes of a search whose query is answered. -/
def ofOutcome (settings : Settings) (snapshot : Snapshot) :
    Option (Except SearchError Listing) → Finding
  | none => .apart (.failure (SearchError.queryTimeout (settings.searchTimeout / 1000)).message)
  | some (.error error) => .apart (.failure error.message)
  | some (.ok listing) =>
      match assemble settings.limits listing snapshot with
      | .error error => .unassembled error
      | .ok response => .assembled response

end Finding

def keyOf (text : String) : Fingerprint :=
  .ofQuery (trimmedQuery text)

/-- How a search ends that is made now, if nothing is waited for. -/
def State.finding (settings : Settings) (world : World) (state : State) (text : String) : Finding :=
  if (trimmedQuery text).isEmpty then .apart .empty
  else if settings.maxQueryLength < (trimmedQuery text).length then
    .apart (.failure (overlongQuery settings).message)
  else
    match state.cache.lookup? settings.cache.ttl state.now (keyOf text) with
    | some entry => .apart entry.payload.asCached
    | none =>
        .ofOutcome settings (state.currentSnapshot settings world)
          ((state.queryReply world (trimmedQuery text)).outcome settings.searchTimeout)

/-- What the ending of a search depends on. -/
theorem State.finding_congr
    (lookup : after.cache.lookup? settings.cache.ttl after.now (keyOf text) =
      before.cache.lookup? settings.cache.ttl before.now (keyOf text))
    (reply : after.queryReply world (trimmedQuery text) =
      before.queryReply world (trimmedQuery text))
    (current : after.currentSnapshot settings world = before.currentSnapshot settings world) :
    after.finding settings world text = before.finding settings world text := by
  rw [State.finding, State.finding, lookup, reply, current]

/-! ### Detections without delay -/

theorem Reply.wait_eq_zero {Failure Value : Type} {reply : Reply Failure Value} {patience : Nat}
    (undelayed : reply.delay = 0) : reply.wait patience = 0 := by
  rw [Reply.wait, undelayed, Nat.zero_min]

/-- What a detection changes that ends at once. -/
structure Brings (before after : State) (snapshot : Snapshot) : Prop where
  now : after.now = before.now
  cache : after.cache = before.cache
  asked : after.asked = before.asked
  snapshot : after.snapshot = snapshot
  gate : after.gate = []
  probed : before.probed <+: after.probed

theorem State.found_congr (same : ∀ call ∈ calls,
    after.probed.count call.1 = before.probed.count call.1) :
    after.found settings calls = before.found settings calls := by
  induction calls with
  | nil => rfl
  | cons first rest inductionHypothesis =>
      have others := inductionHypothesis fun call membership =>
        same call (List.mem_cons_of_mem _ membership)
      rw [State.found, State.found, State.probeReply, State.probeReply,
        same first List.mem_cons_self, others]

/-- The task delivers the snapshot now, whether it was there or has been brought. -/
def DeliversAtOnce (settings : Settings) (world : World) (before : State) (task : TaskId)
    (purpose : Purpose) (snapshot : Snapshot) (progress : Progress) : Prop :=
  ∃ after, progress = deliver settings world after task snapshot purpose ∧
    Brings before after snapshot

/-- What is noted, and which probes are called, before the snapshot is brought. -/
theorem DeliversAtOnce.of_called {called : State} {progress : Progress}
    (delivers : DeliversAtOnce settings world called task purpose snapshot progress)
    (now : called.now = before.now) (cache : called.cache = before.cache)
    (asked : called.asked = before.asked) (probed : before.probed <+: called.probed) :
    DeliversAtOnce settings world before task purpose snapshot progress := by
  obtain ⟨after, ends, brings⟩ := delivers
  exact ⟨after, ends, brings.now.trans now, brings.cache.trans cache, brings.asked.trans asked,
    brings.snapshot, brings.gate, probed.trans brings.probed⟩

/-- A detection that nothing has overtaken is kept. -/
theorem conclude_delivers (inside : state.gate = [task])
    (current : state.generation = detection.generation) :
    DeliversAtOnce settings world state task purpose (state.captured names)
      (conclude settings world state task detection names purpose) := by
  let noted := state.note task (.detected (state.captured names))
  let ended : State := { noted with snapshot := state.captured names }
  have kept : noted.keep task detection (state.captured names) = ended := if_pos current
  refine ⟨ended.leaveGate, ?_, State.leaveGate_now _, State.leaveGate_cache _,
    State.leaveGate_asked _, State.leaveGate_snapshot _, ?_, ?_⟩
  · rw [← kept]
    rfl
  · rw [State.leaveGate_gate]
    exact congrArg List.tail inside
  · rw [State.leaveGate_probed]
    exact List.prefix_rfl

/-- The induction is on the probes that are left: a call changes only what the same probe replies
the next time. -/
theorem tryProbes_delivers (distinct : (calls.map Prod.fst).Nodup)
    (undelayed : ∀ call ∈ calls, ∀ called, state.probed.count call.1 ≤ called →
      (call.2.reply called).delay = 0)
    (inside : state.gate = [task]) (current : state.generation = detection.generation) :
    DeliversAtOnce settings world state task purpose
      (state.captured (state.found settings calls))
      (tryProbes settings world state task detection purpose calls) := by
  induction calls generalizing state with
  | nil =>
      have noted : DeliversAtOnce settings world (state.note task .noProbeSucceeded) task purpose _
        (tryProbes settings world state task detection purpose []) :=
        conclude_delivers inside current
      exact noted.of_called rfl rfl rfl List.prefix_rfl
  | cons first rest inductionHypothesis =>
      rcases first with ⟨place, probe⟩
      obtain ⟨fresh, others⟩ := List.nodup_cons.mp distinct
      let reply := state.probeReply place probe
      let called := state.noteProbe task place probe.name reply.commands
      have atOnce : reply.delay = 0 := undelayed _ List.mem_cons_self _ (Nat.le_refl _)
      have sameCount : ∀ call ∈ rest, called.probed.count call.1 = state.probed.count call.1 := by
        intro call membership
        have different : place ≠ call.1 := by
          rintro rfl
          exact fresh (List.mem_map.mpr ⟨call, membership, rfl⟩)
        simp [called, State.noteProbe, State.note, State.noteAll, List.count_append, different]
      have grown : state.probed <+: called.probed := List.prefix_append _ _
      have tried : tryProbes settings world state task detection purpose ((place, probe) :: rest) =
          match probeResult settings probe.name (reply.outcome settings.probeTimeout) with
          | .ok names => conclude settings world
              (called.note task (.probeSucceeded probe.name names.size)) task detection names purpose
          | .error error => tryProbes settings world
              (called.note task (.probeFailed probe.name error)) task detection purpose rest := by
        rw [tryProbes]
        exact if_pos (Reply.wait_eq_zero atOnce)
      have finds : state.found settings ((place, probe) :: rest) =
          match probeResult settings probe.name (reply.outcome settings.probeTimeout) with
          | .ok names => names
          | .error _ => state.found settings rest := rfl
      rw [tried, finds]
      cases probeResult settings probe.name (reply.outcome settings.probeTimeout) with
      | ok names =>
          let succeeded := called.note task (.probeSucceeded probe.name names.size)
          have ends : DeliversAtOnce settings world succeeded task purpose (state.captured names)
            (conclude settings world succeeded task detection names purpose) :=
            conclude_delivers inside current
          exact ends.of_called rfl rfl rfl grown
      | error error =>
          let failed := called.note task (.probeFailed probe.name error)
          have same : failed.found settings rest = state.found settings rest :=
            State.found_congr sameCount
          have stillUndelayed : ∀ call ∈ rest, ∀ again, failed.probed.count call.1 ≤ again →
              (call.2.reply again).delay = 0 := by
            intro call membership again later
            apply undelayed call (List.mem_cons_of_mem _ membership)
            rw [← sameCount call membership]
            exact later
          rw [← same]
          have ends : DeliversAtOnce settings world failed task purpose _ _ :=
            inductionHypothesis others stillUndelayed inside current
          exact ends.of_called rfl rfl rfl grown

theorem startDetection_delivers (undelayed : ∀ call ∈ world.calls, ∀ called,
      state.probed.count call.1 ≤ called → (call.2.reply called).delay = 0)
    (inside : state.gate = [task]) :
    DeliversAtOnce settings world state task purpose
      (state.captured (state.found settings world.calls))
      (startDetection settings world state task purpose) := by
  let started := state.note task .refreshing
  have distinct : (world.calls.map Prod.fst).Nodup := by
    rw [World.calls, List.map_fst_zip (by simp)]
    exact List.nodup_range
  have ends : DeliversAtOnce settings world started task purpose
      (started.captured (started.found settings world.calls))
      (tryProbes settings world started task state.detection purpose world.calls) :=
    tryProbes_delivers distinct undelayed inside rfl
  have same : started.found settings world.calls = state.found settings world.calls :=
    State.found_congr fun _ _ => rfl
  rw [same] at ends
  exact ends.of_called rfl rfl rfl List.prefix_rfl

/-- Whoever wants the current snapshot gets it now, if they do not have to wait for anybody. -/
theorem askCurrent_delivers (undelayed : state.IsUndelayed world) :
    DeliversAtOnce settings world state task purpose (state.currentSnapshot settings world)
      (askCurrent settings world state task purpose) := by
  unfold askCurrent State.currentSnapshot
  cases stale : state.snapshot.isStale settings.installedTtl state.now with
  | false => exact ⟨state, rfl, rfl, rfl, rfl, rfl, undelayed.gate, List.prefix_rfl⟩
  | true =>
      let lined := state.lined task
      have inside : lined.gate = [task] := by simp [lined, State.lined, undelayed.gate]
      have enters : comeToGate settings world state task (.current state.now) purpose =
          startDetection settings world lined task purpose := by
        simp [comeToGate, enterGate, undelayed.gate, stale, lined, State.lined]
      have same : lined.found settings world.calls = state.found settings world.calls :=
        State.found_congr fun _ _ => rfl
      have ends : DeliversAtOnce settings world lined task purpose
          (lined.captured (lined.found settings world.calls))
          (startDetection settings world lined task purpose) :=
        startDetection_delivers undelayed.probes inside
      simp only [if_true]
      rw [enters, ← same]
      exact ends.of_called rfl rfl rfl List.prefix_rfl

/-! ### Searches without delay -/

/-- What a search for a text changes that is answered at once. -/
structure Searches (settings : Settings) (world : World) (before : State) (text : String)
    (finding : Finding) (after : State) : Prop where
  now : after.now = before.now
  gate : after.gate = []
  cache : after.cache =
    before.cache.putAll settings.cache before.now (finding.batch (keyOf text))
  snapshot : after.snapshot =
    if finding.needsSnapshot then before.currentSnapshot settings world else before.snapshot
  asked : before.asked <+: after.asked
  otherwise : ∀ query, trimmedQuery text ≠ query →
    after.asked.count query = before.asked.count query
  probed : before.probed <+: after.probed
  unprobed : finding.needsSnapshot = false → after.probed = before.probed

theorem Searches.isUndelayed {finding : Finding}
    (searches : Searches settings world before text finding after)
    (undelayed : before.IsUndelayed world) : after.IsUndelayed world where
  gate := searches.gate
  queries query asked later :=
    undelayed.queries query asked (Nat.le_trans (searches.asked.sublist.count_le query) later)
  probes call membership called later :=
    undelayed.probes call membership called
      (Nat.le_trans (searches.probed.sublist.count_le call.1) later)

/-- The search ends now, with the finding. -/
def EndsAtOnce (settings : Settings) (world : World) (before : State) (text : String)
    (finding : Finding) (progress : Progress) : Prop :=
  ∃ after, progress = finish after (.search finding.response) ∧
    Searches settings world before text finding after

/-- A query that is sent changes nothing but how often it has been asked. -/
structure Sends (query : String) (before after : State) : Prop where
  now : after.now = before.now
  gate : after.gate = before.gate
  cache : after.cache = before.cache
  snapshot : after.snapshot = before.snapshot
  probed : after.probed = before.probed
  asked : after.asked = before.asked ∨ after.asked = before.asked ++ [query]

namespace Sends

theorem asked_grown (sends : Sends query before after) : before.asked <+: after.asked := by
  rcases sends.asked with same | grown
  · exact same ▸ List.prefix_rfl
  · exact grown ▸ List.prefix_append _ _

theorem count_otherwise (sends : Sends query before after) {other : String}
    (different : query ≠ other) : after.asked.count other = before.asked.count other := by
  rcases sends.asked with same | grown
  · rw [same]
  · simp [grown, different]

theorem isUndelayed (sends : Sends query before after) (undelayed : before.IsUndelayed world) :
    after.IsUndelayed world where
  gate := sends.gate.trans undelayed.gate
  queries other asked later :=
    undelayed.queries other asked (Nat.le_trans (sends.asked_grown.sublist.count_le other) later)
  probes call membership called later := by
    rw [sends.probed] at later
    exact undelayed.probes call membership called later

theorem currentSnapshot_eq (sends : Sends query before after) :
    after.currentSnapshot settings world = before.currentSnapshot settings world := by
  have same : after.found settings world.calls = before.found settings world.calls :=
    State.found_congr fun _ _ => by rw [sends.probed]
  rw [State.currentSnapshot, State.currentSnapshot, State.captured, State.captured,
    sends.snapshot, sends.now, same]

/-- A search that does not need a snapshot changes nothing but how often its query has been asked. -/
theorem searches (sends : Sends (trimmedQuery text) before after) (free : before.gate = [])
    (response : SearchResponse) :
    Searches settings world before text (.apart response) after where
  now := sends.now
  gate := sends.gate.trans free
  cache := sends.cache
  snapshot := sends.snapshot
  asked := sends.asked_grown
  otherwise _ := sends.count_otherwise
  probed := sends.probed ▸ List.prefix_rfl
  unprobed _ := sends.probed

end Sends

theorem failSearch_endsAtOnce {error : SearchError} {sent : State}
    (sends : Sends (trimmedQuery text) before sent) (free : before.gate = []) :
    EndsAtOnce settings world before text (.apart (.failure error.message))
      (failSearch sent task query error) := by
  let noted := sent.note task (.searchFailed query error)
  have ends : Sends (trimmedQuery text) before noted :=
    ⟨sends.now, sends.gate, sends.cache, sends.snapshot, sends.probed, sends.asked⟩
  exact ⟨noted, rfl, ends.searches free _⟩

/-- A search whose query is answered with a listing has the current snapshot at once. -/
theorem deliver_endsAtOnce {listing : Listing} {sent : State}
    (sends : Sends (trimmedQuery text) before sent)
    (brings : Brings sent after (before.currentSnapshot settings world)) :
    EndsAtOnce settings world before text
      (.ofOutcome settings (before.currentSnapshot settings world) (some (.ok listing)))
      (deliver settings world after task (before.currentSnapshot settings world)
        (.assemble (trimmedQuery text) listing)) := by
  have now : after.now = before.now := brings.now.trans sends.now
  have cache : after.cache = before.cache := brings.cache.trans sends.cache
  have asked : before.asked <+: after.asked := brings.asked ▸ sends.asked_grown
  have otherwise : ∀ query, trimmedQuery text ≠ query →
      after.asked.count query = before.asked.count query := by
    intro query different
    rw [brings.asked]
    exact sends.count_otherwise different
  have probed : before.probed <+: after.probed := sends.probed ▸ brings.probed
  unfold deliver Finding.ofOutcome
  dsimp only
  cases assemble settings.limits listing (before.currentSnapshot settings world) with
  | error error =>
      exact ⟨after.note task (.searchFailed (trimmedQuery text) error), rfl, now, brings.gate, cache,
        brings.snapshot, asked, otherwise, probed, nofun⟩
  | ok response =>
      refine ⟨after.store settings task (trimmedQuery text) response, rfl, now, brings.gate, ?_,
        brings.snapshot, asked, otherwise, probed, nofun⟩
      rw [← now, ← cache]
      rfl

theorem sendQuery_endsAtOnce (undelayed : state.IsUndelayed world) :
    EndsAtOnce settings world state text
      (.ofOutcome settings (state.currentSnapshot settings world)
        ((state.queryReply world (trimmedQuery text)).outcome settings.searchTimeout))
      (sendQuery settings world state task (trimmedQuery text)) := by
  let query := trimmedQuery text
  let reply := state.queryReply world query
  let notes := reply.notesWithin settings.searchTimeout
  let sent := (state.noteQuery task query reply.commands).noteAll task (notes.map .queryNote)
  have sends : Sends query state sent := ⟨rfl, rfl, rfl, rfl, rfl, .inr rfl⟩
  have atOnce : reply.wait settings.searchTimeout = 0 :=
    Reply.wait_eq_zero (undelayed.queries query _ (Nat.le_refl _))
  have received : sendQuery settings world state task query = resumeSearch settings world
      (state.noteQuery task query reply.commands) task query
      (reply.outcome settings.searchTimeout) notes := if_pos atOnce
  rw [received]
  unfold resumeSearch
  cases reply.outcome settings.searchTimeout with
  | none => exact failSearch_endsAtOnce sends undelayed.gate
  | some result =>
      cases result with
      | error error => exact failSearch_endsAtOnce sends undelayed.gate
      | ok listing =>
          have delivers : DeliversAtOnce settings world sent task (.assemble query listing) _
              (askCurrent settings world sent task (.assemble query listing)) :=
            askCurrent_delivers (sends.isUndelayed undelayed)
          rw [sends.currentSnapshot_eq] at delivers
          obtain ⟨after, ends, brings⟩ := delivers
          obtain ⟨last, answered, searches⟩ : EndsAtOnce settings world state text
              (.ofOutcome settings _ (some (.ok listing))) (deliver settings world after task _ _) :=
            deliver_endsAtOnce sends brings
          exact ⟨last, ends.trans answered, searches⟩

theorem search_endsAtOnce (undelayed : state.IsUndelayed world) :
    EndsAtOnce settings world state text (state.finding settings world text)
      (search settings world state task text) := by
  have unsent : Sends (trimmedQuery text) state state := ⟨rfl, rfl, rfl, rfl, rfl, .inl rfl⟩
  unfold search State.finding
  dsimp only
  by_cases blank : (trimmedQuery text).isEmpty = true
  · rw [if_pos blank, if_pos blank]
    exact ⟨state, rfl, unsent.searches undelayed.gate _⟩
  · rw [if_neg blank, if_neg blank]
    by_cases overlong : settings.maxQueryLength < (trimmedQuery text).length
    · rw [if_pos overlong, if_pos overlong]
      exact failSearch_endsAtOnce unsent undelayed.gate
    · rw [if_neg overlong, if_neg overlong, keyOf]
      cases state.cache.lookup? settings.cache.ttl state.now (.ofQuery (trimmedQuery text)) with
      | none => exact sendQuery_endsAtOnce undelayed
      | some entry =>
          let noted := state.note task (.cacheHit (trimmedQuery text) (.ofQuery (trimmedQuery text)))
          have hit : Sends (trimmedQuery text) state noted := ⟨rfl, rfl, rfl, rfl, rfl, .inl rfl⟩
          exact ⟨noted, rfl, hit.searches undelayed.gate _⟩

/-! ### Searches one after the other -/

/-- Searches for the texts, one after the other, at one moment. -/
def State.searchAll (settings : Settings) (world : World) (state : State) (texts : List String) :
    State :=
  texts.foldl (fun state text => state.spawn settings world (.search text)) state

/-- No two of the texts have the same key. -/
def DistinctKeys (texts : List String) : Prop :=
  (texts.map keyOf).Nodup

/-- What searches for the texts that end as in this state put into the cache. -/
def State.batch (settings : Settings) (world : World) (state : State) (texts : List String) :
    Cache.Batch :=
  texts.flatMap fun text => (state.finding settings world text).batch (keyOf text)

/-- Whether one of these searches needs a snapshot. -/
def State.needsSnapshot (settings : Settings) (world : World) (state : State)
    (texts : List String) : Bool :=
  texts.any fun text => (state.finding settings world text).needsSnapshot

variable {texts done order : List String}

theorem batch_sublist (settings : Settings) (world : World) (state : State) (texts : List String) :
    ((state.batch settings world texts).map Prod.fst).Sublist (texts.map keyOf) := by
  induction texts with
  | nil => exact List.Sublist.refl _
  | cons first rest inductionHypothesis =>
      rw [State.batch, List.flatMap_cons, List.map_append, List.map_cons]
      cases state.finding settings world first with
      | assembled response => exact inductionHypothesis.cons_cons _
      | apart | unassembled => exact inductionHypothesis.cons _

theorem DistinctKeys.batch (distinct : DistinctKeys texts) (settings : Settings) (world : World)
    (state : State) : (state.batch settings world texts).Distinct :=
  (batch_sublist settings world state texts).nodup distinct

/-- What has become of a state when searches for the texts have been made one after the other. -/
structure Since (settings : Settings) (world : World) (start : State) (done : List String)
    (state : State) : Prop where
  undelayed : state.IsUndelayed world
  now : state.now = start.now
  cache : state.cache =
    start.cache.putAll settings.cache start.now (start.batch settings world done)
  snapshot : state.snapshot =
    if start.needsSnapshot settings world done then start.currentSnapshot settings world
    else start.snapshot
  asked : ∀ query, (∀ text ∈ done, trimmedQuery text ≠ query) →
    state.asked.count query = start.asked.count query
  probed : start.needsSnapshot settings world done = false → state.probed = start.probed
  stages : state.tasks.map Task.stage = start.tasks.map Task.stage ++ done.map fun text =>
    .finished (.search (start.finding settings world text).response) start.now

namespace Since

variable {start : State}

theorem refl (undelayed : start.IsUndelayed world) : Since settings world start [] start where
  undelayed := undelayed
  now := rfl
  cache := rfl
  snapshot := rfl
  asked _ _ := rfl
  probed _ := rfl
  stages := (List.append_nil _).symm

/-- What one of the searches has detected is current for the others, and if none has they would
detect the same. -/
theorem currentSnapshot_eq (since : Since settings world start done state)
    (positive : 0 < settings.installedTtl) :
    state.currentSnapshot settings world = start.currentSnapshot settings world := by
  cases needed : start.needsSnapshot settings world done with
  | false =>
      have snapshot : state.snapshot = start.snapshot := by simpa [needed] using since.snapshot
      have same : state.found settings world.calls = start.found settings world.calls :=
        State.found_congr fun _ _ => by rw [since.probed needed]
      rw [State.currentSnapshot, State.currentSnapshot, State.captured, State.captured, snapshot,
        since.now, same]
  | true =>
      have snapshot : state.snapshot = start.currentSnapshot settings world := by
        simpa [needed] using since.snapshot
      have fresh : state.snapshot.isStale settings.installedTtl state.now = false := by
        rw [snapshot, since.now]
        exact State.isStale_currentSnapshot positive
      rw [State.currentSnapshot, fresh, snapshot]
      rfl

/-- The searches before it do not change how a search with another key ends. -/
theorem finding_eq (since : Since settings world start done state)
    (positive : 0 < settings.installedTtl) (distinct : DistinctKeys (done ++ [text])) :
    state.finding settings world text = start.finding settings world text := by
  rw [DistinctKeys, List.map_append] at distinct
  obtain ⟨others, -, fresh⟩ := List.nodup_append.mp distinct
  have newKey : ∀ other ∈ done, keyOf other ≠ keyOf text := fun other membership =>
    fresh _ (List.mem_map_of_mem membership) _ List.mem_cons_self
  have sameLookup : state.cache.lookup? settings.cache.ttl state.now (keyOf text) =
      start.cache.lookup? settings.cache.ttl start.now (keyOf text) := by
    rw [since.cache, since.now]
    apply Cache.lookup?_putAll (DistinctKeys.batch others settings world start)
    intro present
    obtain ⟨other, membership, same⟩ :=
      List.mem_map.mp ((batch_sublist settings world start done).subset present)
    exact newKey other membership same
  have sameReply : state.queryReply world (trimmedQuery text) =
      start.queryReply world (trimmedQuery text) := by
    rw [State.queryReply, State.queryReply, since.asked]
    intro other membership same
    exact newKey other membership (congrArg Fingerprint.ofQuery same)
  exact State.finding_congr sameLookup sameReply (since.currentSnapshot_eq positive)

theorem search (since : Since settings world start done state)
    (positive : 0 < settings.installedTtl) (distinct : DistinctKeys (done ++ [text])) :
    Since settings world start (done ++ [text]) (state.spawn settings world (.search text)) := by
  let arrived := state.arrived (.search text)
  let finding := start.finding settings world text
  have arrives : Sends (trimmedQuery text) state arrived := ⟨rfl, rfl, rfl, rfl, rfl, .inl rfl⟩
  have unaffected : arrived.finding settings world text = state.finding settings world text :=
    State.finding_congr rfl rfl arrives.currentSnapshot_eq
  have sameFinding : arrived.finding settings world text = finding :=
    unaffected.trans (since.finding_eq positive distinct)
  obtain ⟨after, ends, searches⟩ : EndsAtOnce settings world arrived text finding
      (begin settings world arrived state.tasks.length (.search text)) := by
    rw [← sameFinding, begin_search]
    exact search_endsAtOnce (arrives.isUndelayed since.undelayed)
  have spawned : state.spawn settings world (.search text) =
      State.settle (finish after (.search finding.response)) state.tasks.length := by
    rw [← ends]
    rfl
  have sameCurrent := arrives.currentSnapshot_eq.trans (since.currentSnapshot_eq positive)
  have ended : (state.spawn settings world (.search text)).tasks.map Task.stage =
      state.tasks.map Task.stage ++ [.finished (.search finding.response) after.now] := by
    rw [State.map_stage_spawn, ends]
    rfl
  have batched : start.batch settings world (done ++ [text]) =
      start.batch settings world done ++ finding.batch (keyOf text) := by
    simp [State.batch, finding]
  have needed : start.needsSnapshot settings world (done ++ [text]) =
      (start.needsSnapshot settings world done || finding.needsSnapshot) := by
    simp [State.needsSnapshot, finding]
  have settled := searches.isUndelayed (arrives.isUndelayed since.undelayed)
  constructor
  · rw [spawned]
    exact ⟨settled.gate, settled.queries, settled.probes⟩
  · rw [spawned]
    exact searches.now.trans since.now
  · rw [spawned]
    calc after.cache
      _ = state.cache.putAll settings.cache state.now (finding.batch (keyOf text)) :=
        searches.cache
      _ = start.cache.putAll settings.cache start.now (start.batch settings world (done ++ [text])) := by
        rw [since.cache, since.now, batched, Cache.putAll_append]
  · rw [spawned]
    calc after.snapshot
      _ = if finding.needsSnapshot then arrived.currentSnapshot settings world
          else state.snapshot := searches.snapshot
      _ = _ := by
        rw [sameCurrent, since.snapshot, needed]
        cases finding.needsSnapshot <;> simp
  · intro query absent
    rw [spawned]
    have others : ∀ other ∈ done, trimmedQuery other ≠ query := fun other membership =>
      absent other (List.mem_append_left _ membership)
    exact (searches.otherwise query (absent text (by simp))).trans (since.asked query others)
  · intro unneeded
    rw [needed, Bool.or_eq_false_iff] at unneeded
    rw [spawned]
    exact (searches.unprobed unneeded.2).trans (since.probed unneeded.1)
  · have sameTime : after.now = start.now := searches.now.trans since.now
    rw [ended, since.stages, sameTime, List.map_append, List.append_assoc]
    rfl

theorem searchAll (since : Since settings world start done state)
    (positive : 0 < settings.installedTtl) (distinct : DistinctKeys (done ++ texts)) :
    Since settings world start (done ++ texts) (state.searchAll settings world texts) := by
  induction texts generalizing done state with
  | nil => rwa [List.append_nil]
  | cons first rest inductionHypothesis =>
      rw [List.append_cons] at distinct ⊢
      rw [State.searchAll, List.foldl_cons]
      have firstDistinct : DistinctKeys (done ++ [first]) := by
        rw [DistinctKeys, List.map_append] at distinct
        exact (List.nodup_append.mp distinct).1
      exact inductionHypothesis (since.search positive firstDistinct) distinct

end Since

/-- The answers that searches for the texts have been given, one after the other. -/
theorem Since.answer? {start : State} {place : Nat}
    (since : Since settings world start done state) (present : done[place]? = some text) :
    state.answer? (start.tasks.length + place) =
      some (.search (start.finding settings world text).response, start.now) := by
  apply State.answer?_eq_some_iff.mpr
  rw [State.stage?_eq_getElem?, since.stages]
  simp [List.getElem?_append_right, present]

/-! ### Worlds without delay -/

/-- Where a task stands in such a world: it waits for nobody, and while it detects it is alone at
the gate. -/
def Point.IsClear (world : World) (task : TaskId) (gate : List TaskId) : Point → Prop
  | .resting (.searching _ _ _ _) | .resting (.queued _ _) | .resting (.probing _ _ _ _ _ _) => False
  | .entering _ _ | .concluding _ _ _ => gate = [task]
  | .trying _ _ remaining | .hearing _ _ _ remaining _ =>
      gate = [task] ∧ ∀ call ∈ remaining, call.2 ∈ world.probes
  | _ => gate = []

theorem Move.isClear (prompt : world.IsPrompt) {before after : State × Point} {events : List Event}
    (move : Move settings world task before events after) (active : before.2.IsActive)
    (clear : before.2.IsClear world task before.1.gate) :
    after.2.IsClear world task after.1.gate := by
  cases move with
  | goOn => exact active.elim
  | queryWaits waits =>
      exact absurd (Reply.wait_eq_zero (prompt.queries _ _)) waits
  | probeWaits waits =>
      have undelayed := prompt.probes _ (clear.2 _ List.mem_cons_self)
      exact absurd (Reply.wait_eq_zero (undelayed _)) waits
  | probeAnswered =>
      exact ⟨clear.1, fun call membership => clear.2 call (List.mem_cons_of_mem _ membership)⟩
  | gateTaken taken => cases taken.symm.trans (List.isEmpty_iff.mpr clear)
  | @gateFree state demand purpose free =>
      have alone : state.gate ++ [task] = [task] := by
        rw [List.isEmpty_iff.mp free, List.nil_append]
      exact alone
  | refreshDemanded | stillStale =>
      refine ⟨clear, fun call membership => ?_⟩
      exact (List.of_mem_zip membership).2
  | broughtMeanwhile | kept | discarded =>
      refine (?_ : State.gate (State.leaveGate _) = [])
      rw [State.leaveGate_gate]
      exact congrArg List.tail clear
  | noProbeLeft | probeSucceeded => exact clear.1
  | _ => exact clear

theorem Moves.isClear (prompt : world.IsPrompt) {before after : State × Point}
    (moves : Moves settings world task before after)
    (clear : before.2.IsClear world task before.1.gate) :
    after.2.IsClear world task after.1.gate := by
  induction moves with
  | refl => exact clear
  | tail _ last inductionHypothesis =>
      obtain ⟨active, events, move⟩ := last
      exact move.isClear prompt active inductionHypothesis

/-- Nobody is at the gate, and nobody waits for the package query or a probe. -/
structure State.IsClear (world : World) (state : State) : Prop where
  gate : state.gate = []
  stages : ∀ stage ∈ state.tasks.map Task.stage, ∀ task,
    (Point.resting stage).IsClear world task []

theorem Point.isClear_resting {stage : Stage} {gate : List TaskId}
    (clear : (Point.resting stage).IsClear world task gate) :
    gate = [] ∧ ∀ other, (Point.resting stage).IsClear world other [] := by
  cases stage with
  | searching | queued | probing => exact clear.elim
  | _ => exact ⟨clear, fun _ => rfl⟩

theorem Step.isClear (prompt : world.IsPrompt) {next : State}
    (step : Step settings world state next) (clear : state.IsClear world) :
    next.IsClear world := by
  cases step with
  | arrive operation =>
      have moves : Moves settings world state.tasks.length
          (state.arrived operation, .beginning operation) _ := moves_begin _ operation
      obtain ⟨noGate, rests⟩ := Point.isClear_resting (moves.isClear prompt clear.gate)
      refine ⟨noGate, ?_⟩
      rw [State.map_stage_spawn]
      intro stage membership
      rcases List.mem_append.mp membership with old | new
      · exact clear.stages stage old
      · exact List.mem_singleton.mp new ▸ rests
  | announce operation start =>
      refine ⟨clear.gate, ?_⟩
      intro stage membership
      have among : stage ∈ state.tasks.map Task.stage ++ [.scheduled operation start] := by
        simpa [State.schedule] using membership
      rcases List.mem_append.mp among with old | new
      · exact clear.stages stage old
      · exact List.mem_singleton.mp new ▸ fun _ => rfl
  | pass => exact ⟨clear.gate, clear.stages⟩
  | @resume task ready =>
      obtain ⟨stage, waits, -⟩ := State.isReady_iff.mp ready
      have among : stage ∈ state.tasks.map Task.stage := by
        rw [State.stage?_eq_getElem?] at waits
        exact List.mem_of_getElem? waits
      have waiting := clear.stages stage among task
      have starts : stage.point.IsClear world task state.gate := by
        cases stage with
        | searching | queued | probing => exact waiting.elim
        | _ => exact clear.gate
      have moves : Moves settings world task (state, stage.point) _ := moves_proceed state stage
      obtain ⟨noGate, rests⟩ := Point.isClear_resting (moves.isClear prompt starts)
      constructor
      · obtain ⟨ticket, present⟩ := State.exists_getElem?_of_stage? waits
        have resumed : (state.resume settings world task).gate =
            (proceed settings world state task stage).1.gate := by
          simp [State.resume, present, State.settle]
        exact resumed.trans noGate
      · rw [State.map_stage_resume waits]
        intro other membership
        rcases List.mem_or_eq_of_mem_set membership with old | rfl
        · exact clear.stages other old
        · exact rests

theorem Reachable.isUndelayed (reachable : Reachable settings world state)
    (prompt : world.IsPrompt) : state.IsUndelayed world := by
  have clear : state.IsClear world := by
    induction reachable with
    | initial => exact ⟨rfl, by simp [State.initial]⟩
    | step _ step inductionHypothesis => exact step.isClear prompt inductionHypothesis
  refine ⟨clear.gate, fun query asked _ => prompt.queries query asked, ?_⟩
  intro call membership called _
  exact prompt.probes _ (List.of_mem_zip membership).2 called

/-! ### Searches in any order -/

/-- In a world without delay no state of a run makes a search wait. Where no search has to wait, and
what has been detected is current at the moment of the detection, searches whose texts have different
keys and that are made at one moment, one after the other, do not influence each other: in any order
each text gets the response that it would have got alone, and the cache is left with the same entries
and the server with the same snapshot. -/
theorem searches_do_not_interfere (reachable : Reachable settings world state)
    (positive : 0 < settings.installedTtl) :
    (world.IsPrompt → state.IsUndelayed world) ∧
    ∀ texts, state.IsUndelayed world → DistinctKeys texts → ∃ respond : String → SearchResponse,
      (∀ text ∈ texts, (state.spawn settings world (.search text)).answer? state.tasks.length =
        some (.search (respond text), state.now)) ∧
      ∀ order, texts.Perm order →
        (∀ place text, order[place]? = some text →
          (state.searchAll settings world order).answer? (state.tasks.length + place) =
            some (.search (respond text), state.now)) ∧
        (state.searchAll settings world order).cache.entries.Perm
          (state.searchAll settings world texts).cache.entries ∧
        (state.searchAll settings world order).snapshot =
          (state.searchAll settings world texts).snapshot := by
  refine ⟨reachable.isUndelayed, ?_⟩
  intro texts undelayed distinct
  have done {order : List String} (distinct : DistinctKeys order) :
      Since settings world state order (state.searchAll settings world order) :=
    (Since.refl undelayed).searchAll positive distinct
  refine ⟨fun text => (state.finding settings world text).response, ?_, ?_⟩
  · intro text _
    have single : DistinctKeys [text] := List.nodup_singleton _
    have first : [text][0]? = some text := List.getElem?_cons_zero
    have alone := (done single).answer? first
    rw [Nat.add_zero, State.searchAll, List.foldl_cons, List.foldl_nil] at alone
    exact alone
  · intro order reordered
    have orderDistinct : DistinctKeys order := (reordered.map keyOf).nodup_iff.mp distinct
    have since := done distinct
    have sinceOrder := done orderDistinct
    refine ⟨fun place text present => sinceOrder.answer? present, ?_, ?_⟩
    · rw [sinceOrder.cache, since.cache]
      exact Cache.putAll_perm (orderDistinct.batch settings world state)
        (reordered.symm.flatMap_right _)
    · have sameNeed : state.needsSnapshot settings world order =
          state.needsSnapshot settings world texts := reordered.symm.any_eq
      rw [sinceOrder.snapshot, since.snapshot, sameNeed]

/-- The first of the texts is found, the second is not. -/
def divergingWorld : World :=
  { smallWorld 0 0 with
    search := fun query _ =>
      { delay := 0
        result := if query = "vim" then .ok Listing.empty else .error (.queryFailure "no") } }

theorem searches_for_two_do_not_interfere :
    ∃ respond : String → SearchResponse,
      ((State.initial.searchAll smallSettings divergingWorld ["git", "vim"]).answer? 1 =
        some (.search (respond "vim"), 0)) ∧
      ((State.initial.searchAll smallSettings divergingWorld ["vim", "git"]).answer? 0 =
        some (.search (respond "vim"), 0)) ∧
      (State.initial.searchAll smallSettings divergingWorld ["git", "vim"]).cache.entries.Perm
        (State.initial.searchAll smallSettings divergingWorld ["vim", "git"]).cache.entries := by
  obtain ⟨undelayed, interferes⟩ := searches_do_not_interfere
    (Reachable.initial : Reachable smallSettings divergingWorld _) (by decide)
  have prompt : divergingWorld.IsPrompt := by
    refine ⟨fun _ _ => rfl, ?_⟩
    intro probe membership called
    rw [List.mem_singleton.mp membership]
  have distinct : (["vim", "git"].map keyOf).Nodup := by decide +kernel
  obtain ⟨respond, -, same⟩ := interferes ["vim", "git"] (undelayed prompt) distinct
  obtain ⟨answers, entries, -⟩ := same ["git", "vim"] (List.Perm.swap _ _ _)
  obtain ⟨unchanged, -⟩ := same ["vim", "git"] (List.Perm.refl _)
  exact ⟨respond, answers 1 "vim" rfl, unchanged 0 "vim" rfl, entries⟩

end Server

end PackageSearch
