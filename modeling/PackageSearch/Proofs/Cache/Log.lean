import Mathlib.Data.List.Dedup
import Mathlib.Data.List.Perm.Subperm
import PackageSearch.Search.Cache

/-!
# The cache and the log of what was put into it

A log keeps every entry that was put since the cache was last cleared. A cache reflects its log
when each of its entries is the latest of its key, and when nothing that may still be served is
missing. Insertions, sweeps and the passing of time keep this, so that a lookup answers from the
log alone.
-/

namespace PackageSearch

/-- The entries put into a cache since it was last cleared, the first one first. -/
abbrev CacheLog := List CacheEntry

namespace CacheLog

/-- The entry last put under a key. -/
def latest? (log : CacheLog) (key : Fingerprint) : Option CacheEntry :=
  (log.filter fun entry => entry.key = key).getLast?

/-- The keys that something was put under, each once. -/
def keys (log : CacheLog) : List Fingerprint :=
  (log.map CacheEntry.key).dedup

/-- The keys whose latest entry is younger than the time to live. -/
def servableKeys (log : CacheLog) (ttl now : Nat) : List Fingerprint :=
  log.keys.filter fun key => (log.latest? key).any fun entry => now < entry.createdAt + ttl

@[simp]
theorem latest?_nil (key : Fingerprint) : latest? [] key = none := rfl

theorem latest?_concat (log : CacheLog) (entry : CacheEntry) (key : Fingerprint) :
    latest? (log ++ [entry]) key = if entry.key = key then some entry else log.latest? key := by
  unfold latest?
  rw [List.filter_append]
  by_cases same : entry.key = key <;> simp [same]

theorem mem_of_latest? {log : CacheLog} {key : Fingerprint} {entry : CacheEntry}
    (latest : log.latest? key = some entry) : entry ∈ log ∧ entry.key = key := by
  have membership := List.mem_of_getLast? latest
  simpa using membership

theorem mem_keys_of_latest? {log : CacheLog} {key : Fingerprint} {entry : CacheEntry}
    (latest : log.latest? key = some entry) : key ∈ log.keys := by
  obtain ⟨membership, rfl⟩ := mem_of_latest? latest
  exact List.mem_dedup.mpr (List.mem_map_of_mem membership)

theorem exists_of_mem_servableKeys {log : CacheLog} {ttl now : Nat} {key : Fingerprint}
    (membership : key ∈ log.servableKeys ttl now) :
    ∃ entry, log.latest? key = some entry ∧ now < entry.createdAt + ttl := by
  have servable := (List.mem_filter.mp membership).2
  cases latest : log.latest? key with
  | none => simp [latest] at servable
  | some entry => exact ⟨entry, rfl, by simpa [latest] using servable⟩

end CacheLog

theorem CacheEntry.age_le_age (entry : CacheEntry) {now later : Nat} (ordered : now ≤ later) :
    entry.age now ≤ entry.age later :=
  Nat.sub_le_sub_right ordered entry.createdAt

namespace Cache

variable {cache : Cache} {log : CacheLog} {ttl now : Nat}

theorem mem_insert {entry other : CacheEntry} :
    other ∈ (cache.insert entry).entries ↔
      other = entry ∨ other ∈ cache.entries ∧ other.key ≠ entry.key := by
  simp only [insert, List.mem_append, List.mem_filter, List.mem_singleton, decide_eq_true_eq]
  exact or_comm

theorem mem_sweep {entry : CacheEntry} :
    entry ∈ (cache.sweep ttl now).entries ↔ entry ∈ cache.entries ∧ entry.age now ≤ ttl := by
  simp [sweep]

theorem mem_of_find? {key : Fingerprint} {entry : CacheEntry}
    (found : cache.find? key = some entry) : entry ∈ cache.entries ∧ entry.key = key :=
  ⟨List.mem_of_find?_eq_some found, by simpa using List.find?_some found⟩

theorem find?_key_of_mem {entry : CacheEntry} (membership : entry ∈ cache.entries) :
    cache.find? entry.key = some entry := by
  cases found : cache.find? entry.key with
  | none => simpa using List.find?_eq_none.mp found entry membership
  | some other =>
      obtain ⟨otherMembership, sameKey⟩ := mem_of_find? found
      rw [List.inj_on_of_nodup_map cache.distinct otherMembership membership sameKey]

/-- What a cache has to do with its log. Only entries that are too old to be served may be
missing, and no entry may be there that a later one has replaced. -/
structure Reflects (cache : Cache) (log : CacheLog) (ttl now : Nat) : Prop where
  latest : ∀ entry ∈ cache.entries, log.latest? entry.key = some entry
  present : ∀ entry, log.latest? entry.key = some entry → entry.age now ≤ ttl →
    entry ∈ cache.entries

namespace Reflects

theorem empty : Reflects Cache.empty [] ttl now :=
  ⟨by simp [Cache.empty], by simp⟩

theorem later {moment : Nat} (reflects : Reflects cache log ttl now) (ordered : now ≤ moment) :
    Reflects cache log ttl moment :=
  ⟨reflects.latest, fun entry latest young =>
    reflects.present entry latest (Nat.le_trans (entry.age_le_age ordered) young)⟩

theorem insert (reflects : Reflects cache log ttl now) (entry : CacheEntry) :
    Reflects (cache.insert entry) (log ++ [entry]) ttl now := by
  constructor
  · intro other membership
    rw [CacheLog.latest?_concat]
    rcases mem_insert.mp membership with rfl | ⟨stored, otherKey⟩
    · rw [if_pos rfl]
    · rw [if_neg otherKey.symm]
      exact reflects.latest other stored
  · intro other latest young
    rw [CacheLog.latest?_concat] at latest
    apply mem_insert.mpr
    by_cases sameKey : entry.key = other.key
    · rw [if_pos sameKey, Option.some.injEq] at latest
      exact .inl latest.symm
    · rw [if_neg sameKey] at latest
      exact .inr ⟨reflects.present other latest young, fun equality => sameKey equality.symm⟩

/-- A sweep keeps entries whose age is exactly the time to live, which is more than lookups
need. -/
theorem sweep (reflects : Reflects cache log ttl now) :
    Reflects (cache.sweep ttl now) log ttl now := by
  constructor
  · intro entry membership
    exact reflects.latest entry (mem_sweep.mp membership).1
  · intro entry latest young
    exact mem_sweep.mpr ⟨reflects.present entry latest young, young⟩

theorem put {policy : CachePolicy} (reflects : Reflects cache log policy.ttl now)
    (key : Fingerprint) (payload : SearchResponse) :
    Reflects (cache.put policy now key payload).1
      (log ++ [{ key, payload, createdAt := now }]) policy.ttl now := by
  unfold Cache.put
  dsimp only
  split
  · exact (reflects.insert _).sweep
  · exact reflects.insert _

theorem find?_eq_some_iff (reflects : Reflects cache log ttl now) {key : Fingerprint}
    {entry : CacheEntry} (young : entry.age now ≤ ttl) :
    cache.find? key = some entry ↔ log.latest? key = some entry := by
  constructor
  · intro found
    obtain ⟨membership, rfl⟩ := mem_of_find? found
    exact reflects.latest entry membership
  · intro latest
    obtain ⟨_, rfl⟩ := CacheLog.mem_of_latest? latest
    exact find?_key_of_mem (reflects.present entry latest young)

/-- Lookups answer as if nothing had ever been removed. -/
theorem lookup?_eq_some_iff (reflects : Reflects cache log ttl now) {key : Fingerprint}
    {entry : CacheEntry} :
    cache.lookup? ttl now key = some entry ↔
      log.latest? key = some entry ∧ entry.age now < ttl := by
  simp only [lookup?, Option.filter_eq_some_iff, decide_eq_true_eq]
  constructor
  · rintro ⟨found, young⟩
    exact ⟨(reflects.find?_eq_some_iff (Nat.le_of_lt young)).mp found, young⟩
  · rintro ⟨latest, young⟩
    exact ⟨(reflects.find?_eq_some_iff (Nat.le_of_lt young)).mpr latest, young⟩

theorem size_le_keys (reflects : Reflects cache log ttl now) : cache.size ≤ log.keys.length := by
  have included : cache.entries.map CacheEntry.key ⊆ log.keys := by
    intro key membership
    obtain ⟨entry, stored, rfl⟩ := List.mem_map.mp membership
    exact CacheLog.mem_keys_of_latest? (reflects.latest entry stored)
  simpa [size] using (List.subperm_of_subset cache.distinct included).length_le

theorem servableKeys_le_size (reflects : Reflects cache log ttl now) :
    (log.servableKeys ttl now).length ≤ cache.size := by
  have distinct : (log.servableKeys ttl now).Nodup := (List.nodup_dedup _).filter _
  have included : log.servableKeys ttl now ⊆ cache.entries.map CacheEntry.key := by
    intro key membership
    obtain ⟨entry, latest, young⟩ := CacheLog.exists_of_mem_servableKeys membership
    obtain ⟨_, rfl⟩ := CacheLog.mem_of_latest? latest
    have notOld : entry.age now ≤ ttl := by
      unfold CacheEntry.age
      omega
    exact List.mem_map_of_mem (reflects.present entry latest notOld)
  simpa [size] using (List.subperm_of_subset distinct included).length_le

end Reflects

end Cache

end PackageSearch
