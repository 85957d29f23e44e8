/-!
Finite sets of package names. A set is kept as its names in increasing order, each once, so that
sets with the same names are equal. The order is that of the characters' codes, which is also the
order of the UTF-8 bytes.
-/

namespace PackageSearch

def insertName (name : String) : List String → List String
  | [] => [name]
  | first :: rest =>
      if name < first then name :: first :: rest
      else if first < name then first :: insertName name rest
      else first :: rest

theorem mem_insertName {name other : String} {names : List String} :
    other ∈ insertName name names ↔ other = name ∨ other ∈ names := by
  induction names with
  | nil => simp [insertName]
  | cons first rest inductionHypothesis =>
      unfold insertName
      split
      · simp
      · rename_i notBelow
        split
        · simp only [List.mem_cons, inductionHypothesis]
          exact or_left_comm
        · rename_i notAbove
          have same : name = first :=
            String.le_antisymm (String.not_lt.mp notAbove) (String.not_lt.mp notBelow)
          subst same
          simp

theorem pairwise_insertName {names : List String} (increasing : names.Pairwise (· < ·))
    (name : String) : (insertName name names).Pairwise (· < ·) := by
  induction names with
  | nil => simp [insertName]
  | cons first rest inductionHypothesis =>
      rw [List.pairwise_cons] at increasing
      rcases increasing with ⟨firstBelow, restIncreasing⟩
      unfold insertName
      split
      · rename_i below
        refine List.Pairwise.cons ?_ (List.Pairwise.cons firstBelow restIncreasing)
        intro other membership
        rcases List.mem_cons.mp membership with same | later
        · exact same ▸ below
        · exact String.lt_trans below (firstBelow other later)
      · split
        · rename_i above
          refine List.Pairwise.cons ?_ (inductionHypothesis restIncreasing)
          intro other membership
          rcases mem_insertName.mp membership with same | later
          · exact same ▸ above
          · exact firstBelow other later
        · exact List.Pairwise.cons firstBelow restIncreasing

structure NameSet where
  names : List String
  increasing : names.Pairwise (· < ·)
  deriving DecidableEq

namespace NameSet

instance : Membership String NameSet where
  mem set name := name ∈ set.names

instance (name : String) (set : NameSet) : Decidable (name ∈ set) :=
  inferInstanceAs (Decidable (name ∈ set.names))

def empty : NameSet := ⟨[], List.Pairwise.nil⟩

def insert (set : NameSet) (name : String) : NameSet :=
  ⟨insertName name set.names, pairwise_insertName set.increasing name⟩

/-- The names of a list, whatever their order and however often they come. -/
def ofList (names : List String) : NameSet :=
  names.foldl insert empty

def size (set : NameSet) : Nat :=
  set.names.length

def isEmpty (set : NameSet) : Bool :=
  set.names.isEmpty

theorem mem_insert {set : NameSet} {name other : String} :
    other ∈ set.insert name ↔ other = name ∨ other ∈ set :=
  mem_insertName

theorem mem_foldl_insert {names : List String} {set : NameSet} {name : String} :
    name ∈ names.foldl insert set ↔ name ∈ names ∨ name ∈ set := by
  induction names generalizing set with
  | nil => simp
  | cons first rest inductionHypothesis =>
      rw [List.foldl_cons, inductionHypothesis, mem_insert, List.mem_cons]
      exact ⟨fun found => found.elim (fun later => .inl (.inr later))
          fun early => early.elim (fun same => .inl (.inl same)) .inr,
        fun found => found.elim
          (fun early => early.elim (fun same => .inr (.inl same)) .inl)
          fun old => .inr (.inr old)⟩

@[simp]
theorem mem_ofList {names : List String} {name : String} : name ∈ ofList names ↔ name ∈ names := by
  rw [ofList, mem_foldl_insert]
  exact or_iff_left List.not_mem_nil

end NameSet

end PackageSearch
