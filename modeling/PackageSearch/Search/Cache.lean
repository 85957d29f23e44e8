import PackageSearch.Digest.Fingerprint
import PackageSearch.Search.Response

/-!
The cache of search responses.

An entry is served while it is younger than the time to live. Entries that are too old stay until
the cache outgrows its threshold at an insertion, and then all entries older than the time to live
go at once.
-/

namespace PackageSearch

structure CacheEntry where
  key : Fingerprint
  payload : SearchResponse
  createdAt : Nat
  deriving DecidableEq

/-- An entry created after `now` counts as new. -/
def CacheEntry.age (entry : CacheEntry) (now : Nat) : Nat :=
  now - entry.createdAt

structure CachePolicy where
  ttl : Nat
  /-- An insertion that leaves more entries than this removes those that are too old. -/
  threshold : Nat
  deriving DecidableEq, Repr

/-- The entries, one for each key. -/
structure Cache where
  entries : List CacheEntry
  distinct : (entries.map CacheEntry.key).Nodup
  deriving DecidableEq

namespace Cache

def empty : Cache := ⟨[], List.nodup_nil⟩

def size (cache : Cache) : Nat :=
  cache.entries.length

def find? (cache : Cache) (key : Fingerprint) : Option CacheEntry :=
  cache.entries.find? fun entry => entry.key = key

/-- The entry of a key, unless it is too old to be served. -/
def lookup? (cache : Cache) (ttl now : Nat) (key : Fingerprint) : Option CacheEntry :=
  (cache.find? key).filter fun entry => entry.age now < ttl

def insert (cache : Cache) (entry : CacheEntry) : Cache where
  entries := cache.entries.filter (fun other => other.key ≠ entry.key) ++ [entry]
  distinct := by
    rw [List.map_append, List.nodup_append]
    refine ⟨(List.filter_sublist.map CacheEntry.key).nodup cache.distinct, by simp, ?_⟩
    intro present isPresent other isOther
    rcases List.mem_map.mp isPresent with ⟨stored, storedMembership, rfl⟩
    simp only [List.map_cons, List.map_nil, List.mem_singleton] at isOther
    subst isOther
    simpa using (List.mem_filter.mp storedMembership).2

def sweep (cache : Cache) (ttl now : Nat) : Cache where
  entries := cache.entries.filter fun entry => entry.age now ≤ ttl
  distinct := (List.filter_sublist.map CacheEntry.key).nodup cache.distinct

/-- Stores a response at the given time, and says how many entries a sweep has removed. -/
def put (cache : Cache) (policy : CachePolicy) (now : Nat) (key : Fingerprint)
    (payload : SearchResponse) : Cache × Nat :=
  let filled := cache.insert { key, payload, createdAt := now }
  if policy.threshold < filled.size then
    let kept := filled.sweep policy.ttl now
    (kept, filled.size - kept.size)
  else (filled, 0)

/-- The ages of all entries, also of those that are too old. -/
def ages (cache : Cache) (now : Nat) : List Nat :=
  cache.entries.map (CacheEntry.age · now)

end Cache

/-- An order in which a map gives its entries, as far as their ages show it. No order is fixed:
every map may have its own, and every look at it another one. -/
structure Arrangement where
  arrange : List Nat → List Nat
  rearranges (ages : List Nat) : (arrange ages).Perm ages

namespace Arrangement

/-- The order in which the entries were stored. -/
def asStored : Arrangement where
  arrange ages := ages
  rearranges := List.Perm.refl

def seconds (milliseconds : Nat) : Float :=
  Float.ofNat (milliseconds / 1000) + Float.ofNat (milliseconds % 1000 * 1000000) / 1e9

/-- The average of ages in seconds. They are added up in the order in which the map gives them, and
the sum is rounded each time. -/
def averageAge? (arrangement : Arrangement) (ages : List Nat) : Option Float :=
  if ages.isEmpty then none
  else
    let total := (arrangement.arrange ages).foldl (fun total age => total + seconds age) 0.0
    some (total / Float.ofNat ages.length)

end Arrangement

end PackageSearch
