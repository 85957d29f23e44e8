import PackageSearch.Proofs.Cache.Calls
import PackageSearch.Proofs.Cache.Insertion
import PackageSearch.Server.State

/-!
# How large a cache becomes

A sweep leaves exactly the keys that were put into the cache not too long ago, so an insertion leaves
no more entries than the threshold or than there are such keys. Nothing else makes a cache larger.
-/

namespace PackageSearch

namespace CacheLog

variable {log : CacheLog} {key : Fingerprint} {ttl now : Nat}

/-- The keys whose latest entry is no older than the time to live. -/
def unexpiredKeys (log : CacheLog) (ttl now : Nat) : List Fingerprint :=
  log.keys.filter fun key => (log.latest? key).any fun entry => now ≤ entry.createdAt + ttl

theorem nodup_unexpiredKeys : (log.unexpiredKeys ttl now).Nodup :=
  (List.nodup_dedup _).filter _

theorem mem_unexpiredKeys_iff : key ∈ log.unexpiredKeys ttl now ↔
    ∃ entry, log.latest? key = some entry ∧ entry.age now ≤ ttl := by
  have recent (entry : CacheEntry) : entry.age now ≤ ttl ↔ now ≤ entry.createdAt + ttl := by
    unfold CacheEntry.age
    omega
  rw [unexpiredKeys, List.mem_filter]
  cases latest : log.latest? key with
  | none => simp
  | some entry => simp [mem_keys_of_latest? latest, recent]

end CacheLog

namespace Cache

variable {cache : Cache} {log : CacheLog} {entry : CacheEntry} {key : Fingerprint} {ttl now : Nat}
  {policy : CachePolicy} {payload : SearchResponse}

def keys (cache : Cache) : List Fingerprint :=
  cache.entries.map CacheEntry.key

theorem length_keys (cache : Cache) : cache.keys.length = cache.size :=
  List.length_map _

theorem nodup_keys (cache : Cache) : cache.keys.Nodup :=
  cache.distinct

theorem mem_keys_insert :
    key ∈ (cache.insert entry).keys ↔ key = entry.key ∨ key ∈ cache.keys := by
  simp only [keys, List.mem_map, mem_insert]
  constructor
  · rintro ⟨other, rfl | ⟨stored, -⟩, rfl⟩
    · exact .inl rfl
    · exact .inr ⟨other, stored, rfl⟩
  · intro known
    by_cases own : key = entry.key
    · exact ⟨entry, .inl rfl, own.symm⟩
    · obtain ⟨other, stored, rfl⟩ := known.resolve_left own
      exact ⟨other, .inr ⟨stored, own⟩, rfl⟩

/-! ### Sweeps -/

/-- A sweep misses no entry that is too old, and takes no other. -/
theorem Reflects.keys_sweep (reflects : Reflects cache log ttl now) :
    (cache.sweep ttl now).keys.Perm (log.unexpiredKeys ttl now) := by
  rw [List.perm_ext_iff_of_nodup (nodup_keys _) CacheLog.nodup_unexpiredKeys]
  intro key
  rw [CacheLog.mem_unexpiredKeys_iff, keys, List.mem_map]
  constructor
  · rintro ⟨entry, kept, rfl⟩
    obtain ⟨stored, young⟩ := mem_sweep.mp kept
    exact ⟨entry, reflects.latest entry stored, young⟩
  · rintro ⟨entry, latest, young⟩
    obtain ⟨-, rfl⟩ := CacheLog.mem_of_latest? latest
    exact ⟨entry, mem_sweep.mpr ⟨reflects.present entry latest young, young⟩, rfl⟩

/-! ### Insertions -/

theorem put_of_full
    (full : policy.threshold < (cache.insert { key, payload, createdAt := now }).size) :
    (cache.put policy now key payload).1 =
      (cache.insert { key, payload, createdAt := now }).sweep policy.ttl now :=
  congrArg Prod.fst (if_pos full)

theorem put_of_sparse
    (sparse : (cache.insert { key, payload, createdAt := now }).size ≤ policy.threshold) :
    (cache.put policy now key payload).1 = cache.insert { key, payload, createdAt := now } :=
  congrArg Prod.fst (if_neg (Nat.not_lt.mpr sparse))

theorem mem_put_self : { key, payload, createdAt := now } ∈
    (cache.put policy now key payload).1.entries := by
  refine mem_put.mpr ⟨mem_insert.mpr (.inl rfl), fun _ => ?_⟩
  simp [CacheEntry.age]

/-- The number that is reported is by how much a sweep makes the cache smaller. -/
theorem put_removed : (cache.put policy now key payload).2 =
    (cache.insert { key, payload, createdAt := now }).size -
      (cache.put policy now key payload).1.size := by
  unfold put
  dsimp only
  split
  · rfl
  · exact (Nat.sub_self _).symm

/-- The keys that are there before and not after. -/
def lostKeys (before after : Cache) : List Fingerprint :=
  before.keys.filter fun key => key ∉ after.keys

theorem mem_lostKeys_iff {before after : Cache} :
    key ∈ lostKeys before after ↔ key ∈ before.keys ∧ key ∉ after.keys := by
  simp [lostKeys]

/-- What there is with the new entry is what remains and what is lost. -/
theorem keys_insert_perm :
    (cache.insert { key, payload, createdAt := now }).keys.Perm
      ((cache.put policy now key payload).1.keys ++
        lostKeys cache (cache.put policy now key payload).1) := by
  have apart : ((cache.put policy now key payload).1.keys ++
      lostKeys cache (cache.put policy now key payload).1).Nodup := by
    rw [List.nodup_append]
    refine ⟨nodup_keys _, (nodup_keys cache).filter _, ?_⟩
    rintro kept isKept other isLost rfl
    exact (mem_lostKeys_iff.mp isLost).2 isKept
  rw [List.perm_ext_iff_of_nodup (nodup_keys _) apart]
  intro other
  rw [List.mem_append, mem_lostKeys_iff, mem_keys_insert]
  constructor
  · rintro (rfl | old)
    · exact .inl (List.mem_map_of_mem mem_put_self)
    · by_cases kept : other ∈ (cache.put policy now key payload).1.keys
      · exact .inl kept
      · exact .inr ⟨old, kept⟩
  · rintro (kept | ⟨old, -⟩)
    · obtain ⟨entry, stored, rfl⟩ := List.mem_map.mp kept
      exact mem_keys_insert.mp (List.mem_map_of_mem (mem_put.mp stored).1)
    · exact .inr old

theorem put_removed_eq_length_lostKeys : (cache.put policy now key payload).2 =
    (lostKeys cache (cache.put policy now key payload).1).length := by
  have whole := (@keys_insert_perm cache key now policy payload).length_eq
  rw [List.length_append, length_keys, length_keys] at whole
  rw [put_removed]
  omega

end Cache

/-! ### Calls -/

def CacheCall.IsPut : CacheCall → Prop
  | .put .. => True
  | _ => False

namespace TimedCache

variable {policy : CachePolicy} {call : CacheCall}

theorem calls_concat (timed : TimedCache) (sequence : List CacheCall) (last : CacheCall) :
    timed.calls policy (sequence ++ [last]) = (timed.calls policy sequence).call policy last :=
  List.foldl_append

theorem size_call_le (timed : TimedCache) (notPut : ¬call.IsPut) :
    (timed.call policy call).cache.size ≤ timed.cache.size := by
  cases call with
  | put key payload => exact absurd trivial notPut
  | get key => exact Nat.le_refl _
  | stats => exact Nat.le_refl _
  | clear => exact Nat.zero_le _
  | advance milliseconds => exact Nat.le_refl _

theorem size_calls_le (timed : TimedCache) {sequence : List CacheCall}
    (noPut : ∀ call ∈ sequence, ¬call.IsPut) :
    (timed.calls policy sequence).cache.size ≤ timed.cache.size := by
  induction sequence generalizing timed with
  | nil => exact Nat.le_refl _
  | cons first rest inductionHypothesis =>
      obtain ⟨notPut, others⟩ := List.forall_mem_cons.mp noPut
      exact Nat.le_trans (inductionHypothesis (timed.call policy first) others)
        (timed.size_call_le notPut)

end TimedCache

namespace CacheHistory

theorem calls_concat (history : CacheHistory) (sequence : List CacheCall) (last : CacheCall) :
    history.calls (sequence ++ [last]) = (history.calls sequence).call last :=
  List.foldl_append

end CacheHistory

namespace Simulates

variable {policy : CachePolicy} {timed : TimedCache} {history : CacheHistory}
  {key : Fingerprint} {payload : SearchResponse}

/-- An insertion that sweeps leaves the keys that are not too old, the new one among them. -/
theorem keys_put (simulates : Simulates policy timed history)
    (full : policy.threshold <
      (timed.cache.insert { key, payload, createdAt := timed.now }).size) :
    (timed.call policy (.put key payload)).cache.keys.Perm
      ((history.call (.put key payload)).log.unexpiredKeys policy.ttl history.now) := by
  rw [simulates.now] at full
  simp only [TimedCache.call, CacheHistory.call, simulates.now, Cache.put_of_full full]
  exact (simulates.reflects.insert _).keys_sweep

end Simulates

open Server (State)

/-- An insertion that leaves more entries than the threshold leaves those that are no older than the
time to live, and another leaves no more than the threshold. What is reported as removed is gone, the
new entry is there, and only insertions make the cache larger. -/
theorem size_bounded_by_unexpired (policy : CachePolicy) (start : Nat) (sequence : List CacheCall)
    (key : Fingerprint) (payload : SearchResponse) :
    let before := (TimedCache.start start).calls policy sequence
    let after := (TimedCache.start start).calls policy (sequence ++ [.put key payload])
    let history := (CacheHistory.start start).calls (sequence ++ [.put key payload])
    let entry : CacheEntry := { key, payload, createdAt := before.now }
    let filled := before.cache.insert entry
    let unexpired := history.log.unexpiredKeys policy.ttl history.now
    let removed := (before.cache.put policy before.now key payload).2
    let lost := Cache.lostKeys before.cache after.cache
    (policy.threshold < filled.size →
      after.cache.keys.Perm unexpired ∧ after.cache.size = unexpired.length) ∧
    (filled.size ≤ policy.threshold →
      after.cache = filled ∧ after.cache.size ≤ policy.threshold) ∧
    after.cache.size ≤ max policy.threshold unexpired.length ∧
    removed = lost.length ∧
    State.sweepEvents removed = (if lost = [] then [] else [.entriesSwept lost.length]) ∧
    entry ∈ after.cache.entries ∧
    ∀ others, (∀ call ∈ others, ¬call.IsPut) →
      (before.calls policy others).cache.size ≤ before.cache.size := by
  rw [TimedCache.calls_concat, CacheHistory.calls_concat]
  intro before after history entry filled unexpired removed lost
  have simulates : Simulates policy before ((CacheHistory.start start).calls sequence) :=
    (Simulates.start start).calls sequence
  have full (exceeds : policy.threshold < filled.size) : after.cache.keys.Perm unexpired :=
    simulates.keys_put exceeds
  have fullSize (exceeds : policy.threshold < filled.size) :
      after.cache.size = unexpired.length := by
    rw [← Cache.length_keys, (full exceeds).length_eq]
  have sparse (within : filled.size ≤ policy.threshold) : after.cache = filled :=
    Cache.put_of_sparse within
  have counted : removed = lost.length := Cache.put_removed_eq_length_lostKeys
  refine ⟨fun exceeds => ⟨full exceeds, fullSize exceeds⟩,
    fun within => ⟨sparse within, sparse within ▸ within⟩, ?_, counted, ?_, Cache.mem_put_self,
    fun _ => before.size_calls_le⟩
  · rcases Nat.lt_or_ge policy.threshold filled.size with exceeds | within
    · exact Nat.le_trans (Nat.le_of_eq (fullSize exceeds)) (Nat.le_max_right _ _)
    · exact Nat.le_trans (sparse within ▸ within) (Nat.le_max_left _ _)
  · rw [State.sweepEvents, counted]
    simp only [List.length_eq_zero_iff]

def sampleKey (byte : UInt8) : Fingerprint :=
  ⟨List.replicate 16 byte, List.length_replicate⟩

/-- A third key that is put now finds the second exactly as old as the time to live, and the first
older. -/
def twoPuts : List CacheCall :=
  [.put (sampleKey 1) .empty, .advance 10, .put (sampleKey 2) .empty, .advance 10]

/-- The third key makes too many, and the first is swept. The second once more does not. -/
theorem threePuts_sweep_the_first :
    let policy : CachePolicy := { ttl := 10, threshold := 2 }
    let before := (TimedCache.start 0).calls policy twoPuts
    let after := (TimedCache.start 0).calls policy (twoPuts ++ [.put (sampleKey 3) .empty])
    policy.threshold <
        (before.cache.insert { key := sampleKey 3, payload := .empty, createdAt := 20 }).size ∧
      after.cache.keys.Perm [sampleKey 2, sampleKey 3] ∧
      (before.cache.put policy 20 (sampleKey 3) .empty).2 = 1 ∧
      (∀ call ∈ [CacheCall.get (sampleKey 1), .clear], ¬call.IsPut) ∧
      (before.calls policy [.get (sampleKey 1), .clear]).cache.size ≤ before.cache.size ∧
      (before.cache.insert { key := sampleKey 2, payload := .empty, createdAt := 20 }).size ≤
        policy.threshold ∧
      ((TimedCache.start 0).calls policy
        (twoPuts ++ [.put (sampleKey 2) .empty])).cache.size ≤ policy.threshold := by
  intro policy before after
  obtain ⟨full, -, -, counted, -, -, quiet⟩ :=
    size_bounded_by_unexpired policy 0 twoPuts (sampleKey 3) .empty
  obtain ⟨-, sparse, -⟩ := size_bounded_by_unexpired policy 0 twoPuts (sampleKey 2) .empty
  have exceeds : policy.threshold <
      (before.cache.insert { key := sampleKey 3, payload := .empty, createdAt := 20 }).size := by
    decide
  have within : (before.cache.insert
      { key := sampleKey 2, payload := .empty, createdAt := 20 }).size ≤ policy.threshold := by
    decide
  have noPut : ∀ call ∈ [CacheCall.get (sampleKey 1), .clear], ¬call.IsPut := by
    simp [CacheCall.IsPut]
  have unexpired : ((CacheHistory.start 0).calls
      (twoPuts ++ [.put (sampleKey 3) .empty])).log.unexpiredKeys 10 20 =
        [sampleKey 2, sampleKey 3] := by
    decide +kernel
  have lost : (Cache.lostKeys before.cache after.cache).length = 1 := by
    decide +kernel
  refine ⟨exceeds, ?_, counted.trans lost, noPut, quiet _ noPut, within, (sparse within).2⟩
  exact unexpired ▸ (full exceeds).1

end PackageSearch
