import PackageSearch.Proofs.Cache.Log

/-!
# What insertions change

An insertion changes a cache under its own key, and may remove entries that are too old. Several
insertions at one moment, each under a key of its own, may be made in any order.
-/

namespace PackageSearch

namespace Cache

variable {cache before middle after : Cache} {key : Fingerprint} {ttl now : Nat}
  {policy : CachePolicy} {entry : CacheEntry}

theorem mem_put {payload : SearchResponse} :
    entry ∈ (cache.put policy now key payload).1.entries ↔
      entry ∈ (cache.insert { key, payload, createdAt := now }).entries ∧
        (policy.threshold < (cache.insert { key, payload, createdAt := now }).size →
          entry.age now ≤ policy.ttl) := by
  unfold put
  dsimp only
  split
  · rename_i full
    rw [mem_sweep, imp_iff_right full]
  · rename_i sparse
    exact ⟨fun inserted => ⟨inserted, fun full => absurd full sparse⟩, And.left⟩

/-! ### One insertion -/

/-- Nothing has changed but what is there under the key, and that entries older than the time to
live may be gone. -/
structure ChangesUnder (key : Fingerprint) (ttl now : Nat) (before after : Cache) : Prop where
  new : ∀ entry ∈ after.entries,
    entry ∈ before.entries ∨ entry.key = key ∧ entry.createdAt = now
  old : ∀ entry ∈ before.entries,
    entry ∈ after.entries ∨ entry.key = key ∨ ttl < entry.age now

namespace ChangesUnder

theorem refl (cache : Cache) : ChangesUnder key ttl now cache cache :=
  ⟨fun _ present => .inl present, fun _ present => .inl present⟩

theorem trans (first : ChangesUnder key ttl now before middle)
    (second : ChangesUnder key ttl now middle after) : ChangesUnder key ttl now before after := by
  constructor
  · intro entry present
    exact (second.new entry present).elim (first.new entry) .inr
  · intro entry present
    exact (first.old entry present).elim (second.old entry) .inr

theorem put (cache : Cache) (policy : CachePolicy) (payload : SearchResponse) :
    ChangesUnder key policy.ttl now cache (cache.put policy now key payload).1 := by
  constructor
  · intro entry present
    rcases mem_insert.mp (mem_put.mp present).1 with rfl | ⟨old, -⟩
    · exact .inr ⟨rfl, rfl⟩
    · exact .inl old
  · intro entry present
    by_cases own : entry.key = key
    · exact .inr (.inl own)
    · by_cases aged : policy.ttl < entry.age now
      · exact .inr (.inr aged)
      · left
        exact mem_put.mpr ⟨mem_insert.mpr (.inr ⟨present, own⟩), fun _ => Nat.le_of_not_lt aged⟩

end ChangesUnder

/-! ### Several insertions at one moment -/

/-- Responses with the keys under which they are put into a cache. -/
abbrev Batch := List (Fingerprint × SearchResponse)

variable {batch other : Batch}

/-- The keys, which are all different. -/
def Batch.Distinct (batch : Batch) : Prop :=
  (batch.map Prod.fst).Nodup

/-- A response as an entry that is made now. -/
def entryAt (now : Nat) (stored : Fingerprint × SearchResponse) : CacheEntry :=
  { key := stored.1, payload := stored.2, createdAt := now }

/-- The cache after all insertions of a batch, one after the other. -/
def putAll (policy : CachePolicy) (now : Nat) (cache : Cache) (batch : Batch) : Cache :=
  batch.foldl (fun cache stored => (cache.put policy now stored.1 stored.2).1) cache

/-- The cache after the same insertions if nothing was ever swept from it. -/
def insertAll (now : Nat) (cache : Cache) (batch : Batch) : Cache :=
  batch.foldl (fun cache stored => cache.insert (entryAt now stored)) cache

theorem putAll_append (cache : Cache) (batch other : Batch) :
    cache.putAll policy now (batch ++ other) =
      (cache.putAll policy now batch).putAll policy now other :=
  List.foldl_append

theorem size_le_size_insert (cache : Cache) (entry : CacheEntry) :
    cache.size ≤ (cache.insert entry).size := by
  have included : cache.entries.map CacheEntry.key ⊆
      (cache.insert entry).entries.map CacheEntry.key := by
    intro key present
    obtain ⟨other, membership, rfl⟩ := List.mem_map.mp present
    by_cases same : other.key = entry.key
    · rw [same]
      exact List.mem_map_of_mem (mem_insert.mpr (.inl rfl))
    · exact List.mem_map_of_mem (mem_insert.mpr (.inr ⟨membership, same⟩))
  simpa [size] using (List.subperm_of_subset cache.distinct included).length_le

theorem size_le_size_insertAll (cache : Cache) (batch : Batch) :
    cache.size ≤ (cache.insertAll now batch).size := by
  induction batch generalizing cache with
  | nil => exact Nat.le_refl _
  | cons first rest inductionHypothesis =>
      exact Nat.le_trans (size_le_size_insert cache _) (inductionHypothesis _)

/-- What is there after insertions under different keys: the new entries, and the old ones under
other keys. -/
def Remains (cache : Cache) (now : Nat) (batch : Batch) (entry : CacheEntry) : Prop :=
  entry ∈ batch.map (entryAt now) ∨ entry ∈ cache.entries ∧ entry.key ∉ batch.map Prod.fst

theorem remains_cons {first : Fingerprint × SearchResponse} {rest : Batch}
    (distinct : Batch.Distinct (first :: rest)) :
    Remains cache now (first :: rest) entry ↔
      Remains (cache.insert (entryAt now first)) now rest entry := by
  have fresh : first.1 ∉ rest.map Prod.fst := (List.nodup_cons.mp distinct).1
  simp only [Remains, List.map_cons, List.mem_cons, mem_insert, not_or]
  constructor
  · rintro ((rfl | new) | ⟨old, otherKey, elsewhere⟩)
    · exact .inr ⟨.inl rfl, fresh⟩
    · exact .inl new
    · exact .inr ⟨.inr ⟨old, otherKey⟩, elsewhere⟩
  · rintro (new | ⟨rfl | ⟨old, otherKey⟩, elsewhere⟩)
    · exact .inl (.inr new)
    · exact .inl (.inl rfl)
    · exact .inr ⟨old, otherKey, elsewhere⟩

theorem mem_insertAll (distinct : batch.Distinct) :
    entry ∈ (cache.insertAll now batch).entries ↔ Remains cache now batch entry := by
  induction batch generalizing cache with
  | nil => simp [insertAll, Remains]
  | cons first rest inductionHypothesis =>
      rw [remains_cons distinct]
      exact inductionHypothesis (List.nodup_cons.mp distinct).2

theorem remains_sweep {ttl : Nat} :
    Remains (cache.sweep ttl now) now batch entry ↔
      Remains cache now batch entry ∧ entry.age now ≤ ttl := by
  have young : entry ∈ batch.map (entryAt now) → entry.age now ≤ ttl := by
    intro new
    obtain ⟨stored, -, rfl⟩ := List.mem_map.mp new
    simp [CacheEntry.age, entryAt]
  simp only [Remains, mem_sweep]
  grind

/-- A sweep during the insertions, whenever it happens, removes what is too old, and there is one
exactly if there would be too many entries in the end without one. -/
theorem mem_putAll (distinct : batch.Distinct) :
    entry ∈ (cache.putAll policy now batch).entries ↔
      Remains cache now batch entry ∧
        (batch ≠ [] → policy.threshold < (cache.insertAll now batch).size →
          entry.age now ≤ policy.ttl) := by
  induction batch generalizing cache with
  | nil => simp [putAll, Remains]
  | cons first rest inductionHypothesis =>
      have others : Batch.Distinct rest := (List.nodup_cons.mp distinct).2
      let inserted := cache.insert (entryAt now first)
      have goesOn : cache.putAll policy now (first :: rest) =
        (cache.put policy now first.1 first.2).1.putAll policy now rest := rfl
      have filled : cache.insertAll now (first :: rest) = inserted.insertAll now rest := rfl
      rw [goesOn, filled, remains_cons distinct, imp_iff_right (List.cons_ne_nil _ _),
        inductionHypothesis others]
      by_cases full : policy.threshold < inserted.size
      · have swept : (cache.put policy now first.1 first.2).1 = inserted.sweep policy.ttl now := by
          unfold put
          exact congrArg Prod.fst (if_pos full)
        have larger : policy.threshold < (inserted.insertAll now rest).size :=
          Nat.lt_of_lt_of_le full (size_le_size_insertAll inserted rest)
        rw [swept, remains_sweep, imp_iff_right larger]
        exact ⟨And.left, fun kept => ⟨kept, fun _ _ => kept.2⟩⟩
      · have unswept : (cache.put policy now first.1 first.2).1 = inserted := by
          unfold put
          exact congrArg Prod.fst (if_neg full)
        rw [unswept]
        cases rest with
        | nil =>
            have never : ¬policy.threshold < (inserted.insertAll now []).size := full
            simp [inserted, never]
        | cons second rest => rw [imp_iff_right (List.cons_ne_nil _ _)]

theorem entries_perm (same : ∀ entry, entry ∈ before.entries ↔ entry ∈ after.entries) :
    before.entries.Perm after.entries :=
  (List.perm_ext_iff_of_nodup before.distinct.of_map after.distinct.of_map).mpr same

/-- Batches that differ in their order leave the same entries. -/
theorem putAll_perm (distinct : batch.Distinct) (reordered : batch.Perm other) :
    (cache.putAll policy now batch).entries.Perm (cache.putAll policy now other).entries := by
  have otherDistinct : other.Distinct := (reordered.map Prod.fst).nodup_iff.mp distinct
  have remains : ∀ entry, Remains cache now batch entry ↔ Remains cache now other entry := by
    intro entry
    rw [Remains, Remains, (reordered.map (entryAt now)).mem_iff,
      (reordered.map Prod.fst).mem_iff]
  have sameSize : (cache.insertAll now batch).size = (cache.insertAll now other).size := by
    apply List.Perm.length_eq
    apply entries_perm
    intro entry
    rw [mem_insertAll distinct, mem_insertAll otherDistinct, remains]
  have sameNil : batch = [] ↔ other = [] := by
    rw [← List.isEmpty_iff, ← List.isEmpty_iff, reordered.isEmpty_eq]
  apply entries_perm
  intro entry
  simp only [mem_putAll distinct, mem_putAll otherDistinct, remains, sameSize, ne_eq, sameNil]

theorem lookup?_eq_some_iff : cache.lookup? ttl now key = some entry ↔
    entry ∈ cache.entries ∧ entry.key = key ∧ entry.age now < ttl := by
  rw [lookup?, Option.filter_eq_some_iff, decide_eq_true_eq]
  constructor
  · rintro ⟨found, young⟩
    obtain ⟨present, sameKey⟩ := mem_of_find? found
    exact ⟨present, sameKey, young⟩
  · rintro ⟨present, rfl, young⟩
    exact ⟨find?_key_of_mem present, young⟩

/-- Insertions under other keys do not change what is found under a key. -/
theorem lookup?_putAll (distinct : batch.Distinct) (absent : key ∉ batch.map Prod.fst) :
    (cache.putAll policy now batch).lookup? policy.ttl now key =
      cache.lookup? policy.ttl now key := by
  ext entry
  rw [lookup?_eq_some_iff, lookup?_eq_some_iff, mem_putAll distinct]
  constructor
  · rintro ⟨⟨new | ⟨old, -⟩, -⟩, rfl, young⟩
    · obtain ⟨stored, membership, rfl⟩ := List.mem_map.mp new
      exact absurd (List.mem_map_of_mem membership) absent
    · exact ⟨old, rfl, young⟩
  · rintro ⟨old, rfl, young⟩
    exact ⟨⟨.inr ⟨old, absent⟩, fun _ _ => Nat.le_of_lt young⟩, rfl, young⟩

end Cache

end PackageSearch
