import Mathlib.Data.List.TakeWhile
import Mathlib.Order.MinMax
import PackageSearch.Installed.Match

/-!
# What the matching of names decides

A match is by the strongest rule that applies. Whether any rule applies depends on the base name of
the candidate alone, unless that is empty, and more installed names never make a match weaker.
-/

namespace PackageSearch

/-! ### Base names -/

namespace Package

variable {base name : List Char}

/-- There is no dash in the base, and it is all of the name or a dash follows. -/
inductive IsBaseOf (base : List Char) : List Char → Prop where
  | whole : '-' ∉ base → IsBaseOf base base
  | versioned (version : List Char) : '-' ∉ base → IsBaseOf base (base ++ '-' :: version)

theorem baseOf_of_not_mem (plain : '-' ∉ name) : baseOf name = name := by
  rw [baseOf, List.takeWhile_eq_self_iff]
  exact fun character membership => bne_iff_ne.mpr fun same => plain (same ▸ membership)

theorem not_mem_baseOf (name : List Char) : '-' ∉ baseOf name :=
  fun membership => absurd (List.mem_takeWhile_imp membership) (by decide)

theorem isBaseOf_baseOf (name : List Char) : IsBaseOf (baseOf name) name := by
  have plain := not_mem_baseOf name
  have split : baseOf name ++ name.dropWhile (· != '-') = name :=
    List.takeWhile_append_dropWhile
  cases rest : name.dropWhile (· != '-') with
  | nil =>
      rw [rest, List.append_nil] at split
      rw [split] at plain ⊢
      exact .whole plain
  | cons first version =>
      have stops := List.head?_dropWhile_not (· != '-') name
      rw [rest] at stops
      obtain rfl : first = '-' := by simpa using stops
      rw [rest] at split
      have versioned := IsBaseOf.versioned version plain
      rwa [split] at versioned

theorem isBaseOf_iff : IsBaseOf base name ↔ baseOf name = base := by
  refine ⟨?_, fun same => same ▸ isBaseOf_baseOf name⟩
  rintro (plain | ⟨version, plain⟩)
  · exact baseOf_of_not_mem plain
  · rw [baseOf_append_dash, baseOf_of_not_mem plain]

theorem IsBaseOf.starts (isBase : IsBaseOf base name) : base <+: name := by
  cases isBase with
  | whole => exact List.prefix_refl base
  | versioned version => exact List.prefix_append base _

/-- Only an empty name and one that begins with a dash have an empty base. -/
theorem IsBaseOf.ne_nil (isBase : IsBaseOf base name) (notEmpty : name ≠ [])
    (based : name.head? ≠ some '-') : base ≠ [] := by
  rintro rfl
  cases isBase with
  | whole => exact notEmpty rfl
  | versioned version => exact based rfl

end Package

open Package (IsBaseOf isBaseOf_iff)

/-! ### Larger sets of names -/

namespace NameSet

/-- The names of either set. -/
def union (first second : NameSet) : NameSet :=
  second.names.foldl insert first

@[simp]
theorem mem_union {first second : NameSet} {name : String} :
    name ∈ first.union second ↔ name ∈ first ∨ name ∈ second :=
  mem_foldl_insert.trans or_comm

/-- Every name of the one set is in the other. -/
def IsWithin (smaller larger : NameSet) : Prop :=
  ∀ name ∈ smaller, name ∈ larger

theorem not_isEmpty_of_mem {set : NameSet} {name : String} (present : name ∈ set) :
    ¬set.isEmpty = true := by
  rw [isEmpty, List.isEmpty_iff]
  exact List.ne_nil_of_mem present

end NameSet

namespace MatchRule

variable {candidate base : String} {installed others larger : NameSet} {rule : MatchRule}

/-! ### Rules that apply -/

/-- What a rule asks of the installed names, for a candidate with the given base. -/
inductive Applies (candidate base : String) (installed : NameSet) : MatchRule → Prop where
  | exact : candidate ∈ installed → Applies candidate base installed .exact
  | baseName : base ∈ installed → Applies candidate base installed .baseName
  | commonStart {name : String} : base ≠ "" → name ∈ installed → name ≠ "" →
      name.toList <+: base.toList ∨ base.toList <+: name.toList →
        Applies candidate base installed .commonStart

theorem Applies.mono (applies : Applies candidate base installed rule)
    (within : installed.IsWithin larger) : Applies candidate base larger rule := by
  cases applies with
  | exact present => exact .exact (within _ present)
  | baseName present => exact .baseName (within _ present)
  | commonStart notEmpty present named alike =>
      exact .commonStart notEmpty (within _ present) named alike

theorem applies_union_iff : Applies candidate base (installed.union others) rule ↔
    Applies candidate base installed rule ∨ Applies candidate base others rule := by
  constructor
  · rintro (present | present | ⟨notEmpty, present, named, alike⟩)
    · exact (NameSet.mem_union.mp present).imp .exact .exact
    · exact (NameSet.mem_union.mp present).imp .baseName .baseName
    · exact (NameSet.mem_union.mp present).imp
        (fun first => .commonStart notEmpty first named alike)
        (fun second => .commonStart notEmpty second named alike)
  · rintro (applies | applies)
    · exact applies.mono fun _ present => NameSet.mem_union.mpr (.inl present)
    · exact applies.mono fun _ present => NameSet.mem_union.mpr (.inr present)

/-! ### The strongest of them -/

/-- How strong a match is; no match is the weakest outcome. -/
def strength : Option MatchRule → Nat
  | none => 0
  | some .commonStart => 1
  | some .baseName => 2
  | some .exact => 3

/-- The stronger of two outcomes. -/
def stronger (first second : Option MatchRule) : Option MatchRule :=
  if strength first < strength second then second else first

theorem strength_injective : Function.Injective strength := by
  rintro (_ | (_ | _ | _)) (_ | (_ | _ | _)) same <;> first | rfl | contradiction

theorem strength_stronger (first second : Option MatchRule) :
    strength (stronger first second) = max (strength first) (strength second) := by
  unfold stronger
  split
  · rename_i weaker
    exact (Nat.max_eq_right (Nat.le_of_lt weaker)).symm
  · rename_i notWeaker
    exact (Nat.max_eq_left (Nat.le_of_not_lt notWeaker)).symm

end MatchRule

open MatchRule

variable {candidate base : String} {installed others larger : NameSet} {rule : MatchRule}

theorem startAlike_iff {first second : String} : startAlike first second = true ↔
    first.toList <+: second.toList ∨ second.toList <+: first.toList := by
  simp [startAlike, List.isPrefixOf_iff_prefix]

theorem applies_of_matchRule (found : matchRule candidate installed = some rule) :
    Applies candidate (Package.baseName candidate) installed rule := by
  unfold matchRule at found
  dsimp only at found
  split_ifs at found with empty exact base noBase alike
  · cases found
    exact .exact exact
  · cases found
    exact .baseName base
  · cases found
    obtain ⟨name, present, notEmpty⟩ := List.any_eq_true.mp alike
    simp only [Bool.and_eq_true, Bool.not_eq_true', String.isEmpty_eq_false_iff,
      startAlike_iff] at notEmpty
    exact .commonStart (by simpa using noBase) present notEmpty.1 notEmpty.2

/-- The rules are tried from the strongest to the weakest, so none that applies is missed. -/
theorem strength_le_of_applies
    (applies : Applies candidate (Package.baseName candidate) installed rule) :
    strength (some rule) ≤ strength (matchRule candidate installed) := by
  unfold matchRule
  cases applies with
  | exact present =>
      rw [if_neg (NameSet.not_isEmpty_of_mem present), if_pos present]
  | baseName present =>
      rw [if_neg (NameSet.not_isEmpty_of_mem present)]
      split_ifs
      · decide
      · exact Nat.le_refl 2
  | @commonStart name notEmpty present named starts =>
      have hasBase : ¬(Package.baseName candidate).isEmpty = true := by
        rwa [String.isEmpty_iff]
      have alike : (installed.names.any fun name =>
          !name.isEmpty && startAlike name (Package.baseName candidate)) = true := by
        refine List.any_eq_true.mpr ⟨name, present, ?_⟩
        rw [startAlike_iff.mpr starts, String.isEmpty_eq_false_iff.mpr named]
        rfl
      rw [if_neg (NameSet.not_isEmpty_of_mem present), if_neg hasBase, if_pos alike]
      split_ifs
      · decide
      · decide
      · exact Nat.le_refl 1

theorem le_strength_matchRule_iff {level : Nat} :
    level ≤ strength (matchRule candidate installed) ↔ level = 0 ∨
      ∃ rule, Applies candidate (Package.baseName candidate) installed rule ∧
        level ≤ strength (some rule) := by
  constructor
  · intro reached
    cases found : matchRule candidate installed with
    | none =>
        rw [found] at reached
        exact .inl (Nat.le_zero.mp reached)
    | some rule =>
        rw [found] at reached
        exact .inr ⟨rule, applies_of_matchRule found, reached⟩
  · rintro (rfl | ⟨rule, applies, below⟩)
    · exact Nat.zero_le _
    · exact Nat.le_trans below (strength_le_of_applies applies)

theorem isInstalled_iff_exists_applies : isInstalled candidate installed = true ↔
    ∃ rule, Applies candidate (Package.baseName candidate) installed rule := by
  constructor
  · intro isInstalled
    obtain ⟨rule, found⟩ := Option.isSome_iff_exists.mp isInstalled
    exact ⟨rule, applies_of_matchRule found⟩
  · rintro ⟨rule, applies⟩
    have reached := strength_le_of_applies applies
    cases found : matchRule candidate installed with
    | none =>
        rw [found] at reached
        cases rule <;> contradiction
    | some rule => rw [isInstalled, found, Option.isSome_some]

/-! ### What they come to -/

theorem matchRule_union (candidate : String) (installed others : NameSet) :
    matchRule candidate (installed.union others) =
      stronger (matchRule candidate installed) (matchRule candidate others) := by
  apply strength_injective
  rw [strength_stronger]
  apply eq_of_forall_le_iff
  intro level
  simp only [le_max_iff, le_strength_matchRule_iff, applies_union_iff, or_and_right, exists_or]
  exact or_or_distrib_left

theorem strength_matchRule_mono (candidate : String) (within : installed.IsWithin larger) :
    strength (matchRule candidate installed) ≤ strength (matchRule candidate larger) := by
  rcases le_strength_matchRule_iff.mp (Nat.le_refl (strength (matchRule candidate installed))) with
    none | ⟨rule, applies, reached⟩
  · rw [none]
    exact Nat.zero_le _
  · exact Nat.le_trans reached (strength_le_of_applies (applies.mono within))

theorem isInstalled_mono (within : installed.IsWithin larger)
    (matched : isInstalled candidate installed = true) : isInstalled candidate larger = true := by
  obtain ⟨rule, applies⟩ := isInstalled_iff_exists_applies.mp matched
  exact isInstalled_iff_exists_applies.mpr ⟨rule, applies.mono within⟩

/-- A name that is installed as it is, or as the base, starts like the base. -/
theorem isInstalled_iff_of_base (isBase : IsBaseOf base.toList candidate.toList)
    (notEmpty : base ≠ "") : isInstalled candidate installed = true ↔
      ∃ name ∈ installed, name ≠ "" ∧
        (name.toList <+: base.toList ∨ base.toList <+: name.toList) := by
  have same : Package.baseName candidate = base := by
    rw [Package.baseName, isBaseOf_iff.mp isBase, String.ofList_toList]
  rw [isInstalled_iff_exists_applies, same]
  constructor
  · rintro ⟨rule, present | present | ⟨-, present, named, alike⟩⟩
    · refine ⟨candidate, present, ?_, .inr isBase.starts⟩
      rintro rfl
      exact notEmpty (String.toList_eq_nil_iff.mp (List.prefix_nil.mp isBase.starts))
    · exact ⟨base, present, notEmpty, .inl (List.prefix_refl _)⟩
    · exact ⟨_, present, named, alike⟩
  · rintro ⟨name, present, named, alike⟩
    exact ⟨_, .commonStart notEmpty present named alike⟩

theorem isInstalled_iff_of_noBase (isBase : IsBaseOf [] candidate.toList) :
    isInstalled candidate installed = true ↔ candidate ∈ installed ∨ "" ∈ installed := by
  have same : Package.baseName candidate = "" := by
    rw [Package.baseName, isBaseOf_iff.mp isBase]
  rw [isInstalled_iff_exists_applies, same]
  constructor
  · rintro ⟨rule, present | present | ⟨notEmpty, -⟩⟩
    · exact .inl present
    · exact .inr present
    · exact absurd rfl notEmpty
  · rintro (present | present)
    · exact ⟨_, .exact present⟩
    · exact ⟨_, .baseName present⟩

/-- Which candidates match: with a base, those whose base starts like an installed name; without
one, only names that are installed as they are, and all if the empty name is. So versions of one
package match alike, and a set of names gives the stronger of what its parts give. -/
theorem matching_decided_by_base (isBase : IsBaseOf base.toList candidate.toList)
    (installed : NameSet) :
    (base ≠ "" →
      (isInstalled candidate installed = true ↔
        ∃ name ∈ installed, name ≠ "" ∧
          (name.toList <+: base.toList ∨ base.toList <+: name.toList)) ∧
      ∀ other, IsBaseOf base.toList other.toList →
        isInstalled other installed = isInstalled candidate installed) ∧
    (base = "" → (isInstalled candidate installed = true ↔
      candidate ∈ installed ∨ "" ∈ installed)) ∧
    (∀ others, matchRule candidate (installed.union others) =
      stronger (matchRule candidate installed) (matchRule candidate others)) ∧
    ∀ larger, installed.IsWithin larger →
      strength (matchRule candidate installed) ≤ strength (matchRule candidate larger) ∧
      (isInstalled candidate installed = true → isInstalled candidate larger = true) := by
  refine ⟨?_, ?_, matchRule_union candidate installed, ?_⟩
  · intro notEmpty
    refine ⟨isInstalled_iff_of_base isBase notEmpty, ?_⟩
    intro other otherBase
    rw [Bool.eq_iff_iff, isInstalled_iff_of_base isBase notEmpty,
      isInstalled_iff_of_base otherBase notEmpty]
  · rintro rfl
    exact isInstalled_iff_of_noBase isBase
  · exact fun larger within => ⟨strength_matchRule_mono candidate within, isInstalled_mono within⟩

/-- Another package is installed whose name starts alike, and then the package itself. A name that
begins with a dash has no base. -/
theorem versions_of_git_match_alike :
    let cousin := NameSet.ofList ["git-lfs"]
    let package := NameSet.ofList ["git"]
    (IsBaseOf "git".toList "git-2.42.0".toList ∧ "git" ≠ "" ∧
      isInstalled "git-2.42.0" cousin = true ∧
      IsBaseOf "git".toList "git".toList ∧ isInstalled "git" cousin = true ∧
      matchRule "git-2.42.0" (cousin.union package) = some .baseName ∧
      cousin.IsWithin (cousin.union package) ∧
      isInstalled "git-2.42.0" (cousin.union package) = true) ∧
    (IsBaseOf "".toList "-weird".toList ∧ isInstalled "-weird" cousin = false) := by
  intro cousin package
  have versioned : IsBaseOf "git".toList "git-2.42.0".toList :=
    .versioned "2.42.0".toList (by decide)
  have whole : IsBaseOf "git".toList "git".toList := .whole (by decide)
  have within : cousin.IsWithin (cousin.union package) :=
    fun _ present => NameSet.mem_union.mpr (.inl present)
  obtain ⟨withBase, -, union, larger⟩ := matching_decided_by_base versioned cousin
  obtain ⟨decided, alike⟩ := withBase (by decide)
  have matched : isInstalled "git-2.42.0" cousin = true :=
    decided.mpr ⟨"git-lfs", by decide, by decide, by decide⟩
  have noBase : IsBaseOf "".toList "-weird".toList := .versioned "weird".toList (by decide)
  obtain ⟨-, withoutBase, -⟩ := matching_decided_by_base noBase cousin
  refine ⟨⟨versioned, by decide, matched, whole, ?_, ?_, within, ?_⟩, noBase, ?_⟩
  · exact (alike "git" whole).trans matched
  · rw [union package]
    decide
  · exact (larger _ within).2 matched
  · rw [Bool.eq_false_iff, ne_eq, withoutBase rfl]
    decide

end PackageSearch
