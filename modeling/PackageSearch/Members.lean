/-!
Members: values under keys, in an order that matters, each key once.
-/

namespace PackageSearch

namespace Members

variable {Value : Type}

def keys (members : List (String × Value)) : List String :=
  members.map Prod.fst

/-- Sets a key: a key that is present keeps its place, a new one comes last. -/
def put (key : String) (value : Value) : List (String × Value) → List (String × Value)
  | [] => [(key, value)]
  | (present, old) :: rest =>
      if present = key then (present, value) :: rest else (present, old) :: put key value rest

def get? (key : String) (members : List (String × Value)) : Option Value :=
  members.lookup key

/-- Members written one after the other: a repeated key keeps its first place and takes its last
value. -/
def ofPairs (pairs : List (String × Value)) : List (String × Value) :=
  pairs.foldl (fun members pair => put pair.1 pair.2 members) []

theorem keys_put (key : String) (value : Value) (members : List (String × Value)) :
    keys (put key value members) =
      if key ∈ keys members then keys members else keys members ++ [key] := by
  induction members with
  | nil => simp [put, keys]
  | cons member rest inductionHypothesis =>
      rcases member with ⟨present, old⟩
      by_cases same : present = key
      · simp [put, keys, same]
      · have different : ¬key = present := fun equality => same equality.symm
        simp only [keys] at inductionHypothesis
        simp only [put, same, if_false, keys, List.map_cons, inductionHypothesis, List.mem_cons,
          different, false_or]
        split <;> simp_all

theorem nodup_keys_put {members : List (String × Value)} (distinct : (keys members).Nodup)
    (key : String) (value : Value) : (keys (put key value members)).Nodup := by
  rw [keys_put]
  split
  · exact distinct
  · rename_i absent
    rw [List.nodup_append]
    refine ⟨distinct, by simp, ?_⟩
    intro present isPresent other isOther equality
    rw [List.mem_singleton] at isOther
    exact absent (isOther ▸ equality ▸ isPresent)

theorem nodup_keys_ofPairs (pairs : List (String × Value)) : (keys (ofPairs pairs)).Nodup := by
  suffices step : ∀ members : List (String × Value), (keys members).Nodup →
      (keys (pairs.foldl (fun members pair => put pair.1 pair.2 members) members)).Nodup from
    step [] List.nodup_nil
  induction pairs with
  | nil => exact fun _ distinct => distinct
  | cons pair pairs inductionHypothesis =>
      exact fun members distinct =>
        inductionHypothesis _ (nodup_keys_put distinct pair.1 pair.2)

end Members

end PackageSearch
