import PackageSearch.Installed.Output
import PackageSearch.Proofs.Installed.Match
import PackageSearch.Proofs.Text.Blank
import PackageSearch.Proofs.Text.Lines

/-!
# Listed packages are recognised

A name that is read off a list of installed packages is matched by its package in every version. An
environment query gives base names, and a profile list gives whole names; the one cuts names where
the matching does, and the other leaves the cutting to it.
-/

namespace PackageSearch

open Text
open Package (IsBaseOf isBaseOf_iff)

variable {candidate name version : String} {installed : NameSet}

theorem NameSet.mem_ofList_map_ofList {found : List (List Char)} :
    name ∈ NameSet.ofList (found.map String.ofList) ↔ name.toList ∈ found := by
  rw [mem_ofList, List.mem_map]
  constructor
  · rintro ⟨characters, membership, rfl⟩
    rwa [String.toList_ofList]
  · exact fun membership => ⟨name.toList, membership, String.ofList_toList⟩

/-- An installed base name is matched by the base name at least. -/
theorem matchRule_of_base_mem (present : Package.baseName candidate ∈ installed) :
    matchRule candidate installed = some .exact ∨
      matchRule candidate installed = some .baseName := by
  have strong := strength_le_of_applies (.baseName present)
  cases found : matchRule candidate installed with
  | none =>
      rw [found] at strong
      contradiction
  | some rule =>
      rw [found] at strong
      cases rule with
      | exact => exact .inl rfl
      | baseName => exact .inr rfl
      | commonStart => contradiction

/-- An installed name that has a base is matched as it is and in all its versions. -/
theorem isInstalled_version (present : name ∈ installed) (named : name ≠ "")
    (based : name.toList.head? ≠ some '-') (version : String) :
    isInstalled name installed = true ∧
      isInstalled (name ++ "-" ++ version) installed = true := by
  let base := Package.baseName name
  have baseOfName : IsBaseOf base.toList name.toList :=
    isBaseOf_iff.mpr (Package.toList_baseName name).symm
  have baseOfVersion : IsBaseOf base.toList (name ++ "-" ++ version).toList := by
    have split : (name ++ "-" ++ version).toList = name.toList ++ '-' :: version.toList := by
      simp
    rw [split, isBaseOf_iff, Package.baseOf_append_dash, Package.toList_baseName]
  have notEmpty : base ≠ "" := by
    intro empty
    apply baseOfName.ne_nil (mt String.toList_eq_nil_iff.mp named) based
    exact String.toList_eq_nil_iff.mpr empty
  have starts : ∃ name ∈ installed, name ≠ "" ∧
      (name.toList <+: base.toList ∨ base.toList <+: name.toList) :=
    ⟨name, present, named, .inr baseOfName.starts⟩
  exact ⟨(isInstalled_iff_of_base baseOfName notEmpty).mpr starts,
    (isInstalled_iff_of_base baseOfVersion notEmpty).mpr starts⟩

namespace Installed

variable {line : List Char} {found : List Char} {output : String}

/-! ### Names in an environment query -/

theorem queryName?_eq_some_iff :
    queryName? line = some found ↔ IsBaseOf found (trim line) ∧ found ≠ [] := by
  rw [isBaseOf_iff]
  simp only [queryName?, List.isEmpty_iff]
  split
  · rename_i empty
    simp only [reduceCtorEq, false_iff, not_and, not_not]
    exact fun same => same ▸ empty
  · rename_i notEmpty
    rw [Option.some.injEq]
    exact ⟨fun same => ⟨same, same ▸ notEmpty⟩, And.left⟩

theorem queryName?_append_return (line : List Char) :
    queryName? (line ++ ['\r']) = queryName? line := by
  rw [queryName?, queryName?, trim_append (by decide)]

theorem mem_queryNames_iff_exists_line : name ∈ queryNames output ↔
    ∃ line ∈ Text.lines output.toList, queryName? line = some name.toList := by
  rw [queryNames, NameSet.mem_ofList_map_ofList, List.mem_filterMap]

/-- The base of what is on a line is among the names, unless it is empty. -/
theorem mem_queryNames_of_isLineOf {base : String} (isLine : IsLineOf line output.toList)
    (isBase : IsBaseOf base.toList (trim line)) (notEmpty : base ≠ "") :
    base ∈ queryNames output := by
  rw [queryNames, NameSet.mem_ofList_map_ofList]
  apply isLine.mem_filterMap_lines queryName?_append_return rfl
  exact queryName?_eq_some_iff.mpr ⟨isBase, mt String.toList_eq_nil_iff.mp notEmpty⟩

theorem properties_of_mem_queryNames (present : name ∈ queryNames output) :
    name ≠ "" ∧ '-' ∉ name.toList ∧ '\n' ∉ name.toList := by
  obtain ⟨line, isLine, found⟩ := mem_queryNames_iff_exists_line.mp present
  obtain ⟨isBase, notEmpty⟩ := queryName?_eq_some_iff.mp found
  refine ⟨mt String.toList_eq_nil_iff.mpr notEmpty, ?_, ?_⟩
  · rw [← isBaseOf_iff.mp isBase]
    exact Package.not_mem_baseOf _
  · obtain ⟨before, after, -, -, same⟩ := exists_eq_append_trim_append line
    intro broken
    apply not_mem_of_mem_lines isLine
    rw [same]
    exact List.mem_append_left _ (List.mem_append_right _ (isBase.starts.subset broken))

/-! ### Names in a profile list -/

theorem mem_profileNames_iff_exists_line : name ∈ profileNames output ↔
    ∃ line ∈ Text.lines output.toList, profileName? line = some name.toList := by
  rw [profileNames, NameSet.mem_ofList_map_ofList, List.mem_filterMap]

theorem properties_of_mem_profileNames (present : name ∈ profileNames output) :
    name ≠ "" ∧ IsTrimmed name.toList := by
  obtain ⟨line, -, found⟩ := mem_profileNames_iff_exists_line.mp present
  unfold profileName? at found
  split at found
  · contradiction
  · rename_i rest _
    dsimp only at found
    split at found
    · contradiction
    · rename_i notEmpty
      have same : trim rest = name.toList := Option.some.inj found
      rw [List.isEmpty_iff, same] at notEmpty
      exact ⟨mt String.toList_eq_nil_iff.mpr notEmpty, same ▸ isTrimmed_trim rest⟩

/-- No listed package is missed: what is on a line of an environment query is matched in every
version, exactly or by its base, and so is what a profile list names, unless there is no base.
Names from an environment query are bases, and none of either kind is empty or has white space
around it. -/
theorem listed_packages_are_matched (output : String) :
    (∀ line, IsLineOf line output.toList → ¬AllBlank line → (trim line).head? ≠ some '-' →
      ∀ base candidate : String,
        IsBaseOf base.toList (trim line) → IsBaseOf base.toList candidate.toList →
          matchRule candidate (queryNames output) = some .exact ∨
            matchRule candidate (queryNames output) = some .baseName) ∧
    (∀ name ∈ profileNames output, name.toList.head? ≠ some '-' → ∀ version : String,
      isInstalled name (profileNames output) = true ∧
        isInstalled (name ++ "-" ++ version) (profileNames output) = true) ∧
    (∀ name ∈ queryNames output, name ≠ "" ∧ '-' ∉ name.toList ∧ '\n' ∉ name.toList) ∧
    (∀ name ∈ profileNames output, name ≠ "" ∧ IsTrimmed name.toList) := by
  refine ⟨?_, ?_, fun _ => properties_of_mem_queryNames, fun _ => properties_of_mem_profileNames⟩
  · intro line isLine notBlank based base candidate isBase candidateBase
    have shown : trim line ≠ [] := fun empty =>
      notBlank (isEmpty_trim_iff.mp (List.isEmpty_iff.mpr empty))
    have notEmpty : base ≠ "" := by
      rintro rfl
      exact isBase.ne_nil shown based rfl
    have same : Package.baseName candidate = base := by
      rw [Package.baseName, isBaseOf_iff.mp candidateBase, String.ofList_toList]
    apply matchRule_of_base_mem
    rw [same]
    exact mem_queryNames_of_isLineOf isLine isBase notEmpty
  · intro name present based version
    exact isInstalled_version present (properties_of_mem_profileNames present).1 based version

/-- A query with white space around a name that has two dashes, and with a line of its own for
something without a base. -/
def spacedQuery : String := "\u3000git-lfs-3.4.0 \r\n-odd\n"

/-- A profile list with colours around the marker and a wide space behind a name with a dash. -/
def colouredProfile : String := "\x1b[1mName:\x1b[0m  gnome-shell\u3000\r\n"

theorem versions_of_listed_packages_are_matched :
    let line := "\u3000git-lfs-3.4.0 ".toList
    (IsLineOf line spacedQuery.toList ∧ ¬AllBlank line ∧ (trim line).head? ≠ some '-' ∧
      IsBaseOf "git".toList (trim line) ∧ IsBaseOf "git".toList "git-2.42.0".toList ∧
      (matchRule "git-2.42.0" (queryNames spacedQuery) = some .exact ∨
        matchRule "git-2.42.0" (queryNames spacedQuery) = some .baseName)) ∧
    ("gnome-shell" ∈ profileNames colouredProfile ∧ "gnome-shell".toList.head? ≠ some '-' ∧
      isInstalled "gnome-shell" (profileNames colouredProfile) = true ∧
      isInstalled "gnome-shell-44.2" (profileNames colouredProfile) = true) ∧
    ("git" ∈ queryNames spacedQuery ∧ '-' ∉ "git".toList) ∧
    IsTrimmed "gnome-shell".toList := by
  intro line
  have isLine : IsLineOf line spacedQuery.toList :=
    ⟨by decide, .inl (.inr ⟨_, "-odd\n".toList, .returnAndFeed, rfl⟩)⟩
  have isBase : IsBaseOf "git".toList (trim line) :=
    .versioned "lfs-3.4.0".toList (by decide)
  have version : IsBaseOf "git".toList "git-2.42.0".toList :=
    .versioned "2.42.0".toList (by decide)
  have queried : "git" ∈ queryNames spacedQuery := by decide +kernel
  have listed : "gnome-shell" ∈ profileNames colouredProfile := by decide +kernel
  obtain ⟨fromQuery, -, plain, -⟩ := listed_packages_are_matched spacedQuery
  obtain ⟨-, fromProfile, -, trimmed⟩ := listed_packages_are_matched colouredProfile
  obtain ⟨whole, versioned⟩ := fromProfile _ listed (by decide) "44.2"
  refine ⟨⟨isLine, by decide, by decide, isBase, version, ?_⟩,
    ⟨listed, by decide, whole, versioned⟩, ⟨queried, (plain _ queried).2.1⟩,
    (trimmed _ listed).2⟩
  exact fromQuery line isLine (by decide) (by decide) "git" "git-2.42.0" isBase version

end Installed

end PackageSearch
