import PackageSearch.Members
import Mathlib.Data.List.Induction

/-!
# Repeated keys

Members written one after the other keep the first place of a key and its last value.
-/

namespace PackageSearch.Members

variable {Value : Type} {key : String} {value : Value} {entry : String × Value}
  {members pairs : List (String × Value)}

theorem put_of_not_mem (absent : key ∉ keys members) :
    put key value members = members ++ [(key, value)] := by
  induction members with
  | nil => rfl
  | cons member members inductionHypothesis =>
      rw [keys, List.map_cons, List.mem_cons, not_or] at absent
      rw [put, if_neg (Ne.symm absent.1), inductionHypothesis absent.2, List.cons_append]

theorem get?_isSome_iff : (get? key members).isSome = true ↔ key ∈ keys members := by
  simp [get?, keys]

/-- Under a key is found what stands under it. -/
theorem get?_eq_some_iff (distinct : (keys members).Nodup) :
    get? key members = some value ↔ (key, value) ∈ members := by
  induction members with
  | nil => simp [get?]
  | cons member members inductionHypothesis =>
      rcases member with ⟨present, old⟩
      obtain ⟨absent, distinct⟩ := List.nodup_cons.mp distinct
      rw [get?, List.lookup_cons, List.mem_cons]
      by_cases same : key = present
      · subst same
        have notLater : (key, value) ∉ members := fun later =>
          absent (List.mem_map.mpr ⟨_, later, rfl⟩)
        simp [notLater, eq_comm]
      · have different : (key == present) = false := by simp [same]
        rw [different]
        simp [same, ← inductionHypothesis distinct, get?]

/-- What is set replaces what was there under the key. -/
theorem eq_or_mem_of_mem_put (distinct : (keys members).Nodup)
    (membership : entry ∈ put key value members) :
    entry = (key, value) ∨ entry ∈ members ∧ entry.1 ≠ key := by
  induction members with
  | nil => exact .inl (List.mem_singleton.mp membership)
  | cons member members inductionHypothesis =>
      obtain ⟨absent, distinct⟩ := List.nodup_cons.mp distinct
      rw [put] at membership
      split at membership
      · rename_i same
        rcases List.mem_cons.mp membership with rfl | later
        · exact .inl (congrArg (·, value) same)
        · refine .inr ⟨List.mem_cons_of_mem _ later, ?_⟩
          intro sameKey
          exact absent (same.trans sameKey.symm ▸ List.mem_map_of_mem later)
      · rename_i different
        rcases List.mem_cons.mp membership with rfl | later
        · exact .inr ⟨List.mem_cons_self, different⟩
        · exact (inductionHypothesis distinct later).imp_right
            (And.imp_left (List.mem_cons_of_mem _))

theorem ofPairs_append_singleton (pairs : List (String × Value)) (pair : String × Value) :
    ofPairs (pairs ++ [pair]) = put pair.1 pair.2 (ofPairs pairs) := by
  rw [ofPairs, List.foldl_append]
  rfl

theorem keys_append (front back : List (String × Value)) :
    keys (front ++ back) = keys front ++ keys back :=
  List.map_append

/-- Each key keeps its first place. -/
theorem keys_ofPairs (pairs : List (String × Value)) :
    keys (ofPairs pairs) = (keys pairs).eraseDups := by
  induction pairs using List.reverseRecOn with
  | nil => rfl
  | append_singleton pairs pair inductionHypothesis =>
      have last : keys [pair] = [pair.1] := rfl
      rw [ofPairs_append_singleton, keys_put, inductionHypothesis, keys_append, last,
        List.eraseDups_append]
      by_cases present : pair.1 ∈ keys pairs
      · simp [present, List.removeAll]
      · simp [present, List.removeAll, List.eraseDups_cons]

/-- The entry is the last one with its key. -/
def IsLast (entry : String × Value) (pairs : List (String × Value)) : Prop :=
  ∃ before after, pairs = before ++ entry :: after ∧ entry.1 ∉ keys after

theorem not_isLast_nil : ¬IsLast entry [] := by
  rintro ⟨before, after, split, -⟩
  exact List.append_ne_nil_of_right_ne_nil before (List.cons_ne_nil _ _) split.symm

theorem isLast_cons_iff {member : String × Value} :
    IsLast entry (member :: members) ↔
      entry = member ∧ entry.1 ∉ keys members ∨ IsLast entry members := by
  constructor
  · rintro ⟨_ | ⟨first, before⟩, after, split, isLast⟩
    · obtain ⟨rfl, rfl⟩ := List.cons.inj split
      exact .inl ⟨rfl, isLast⟩
    · obtain ⟨rfl, rfl⟩ := List.cons.inj split
      exact .inr ⟨before, after, rfl, isLast⟩
  · rintro (⟨rfl, isLast⟩ | ⟨before, after, rfl, isLast⟩)
    · exact ⟨[], members, rfl, isLast⟩
    · exact ⟨member :: before, after, rfl, isLast⟩

/-- Each key keeps its last value. -/
theorem isLast_of_mem_ofPairs (membership : entry ∈ ofPairs pairs) : IsLast entry pairs := by
  induction pairs using List.reverseRecOn with
  | nil => cases membership
  | append_singleton pairs pair inductionHypothesis =>
      rw [ofPairs_append_singleton] at membership
      rcases eq_or_mem_of_mem_put (nodup_keys_ofPairs pairs) membership with rfl | ⟨earlier, other⟩
      · exact ⟨pairs, [], rfl, List.not_mem_nil⟩
      · obtain ⟨before, after, rfl, absent⟩ := inductionHypothesis earlier
        refine ⟨before, after ++ [pair], by simp, ?_⟩
        rw [keys_append, List.mem_append, not_or]
        exact ⟨absent, fun same => other (List.mem_singleton.mp same)⟩

/-- Members with distinct keys are kept as they are. -/
theorem ofPairs_of_nodup (distinct : (keys pairs).Nodup) : ofPairs pairs = pairs := by
  induction pairs using List.reverseRecOn with
  | nil => rfl
  | append_singleton pairs pair inductionHypothesis =>
      rw [keys_append, List.nodup_append] at distinct
      obtain ⟨distinctBefore, -, disjoint⟩ := distinct
      rw [ofPairs_append_singleton, inductionHypothesis distinctBefore, put_of_not_mem]
      exact fun present => disjoint _ present _ List.mem_cons_self rfl

end PackageSearch.Members
