import Mathlib.Data.List.Sort
import PackageSearch.Proofs.Installed.Recognition
import PackageSearch.Proofs.Server.Debug
import PackageSearch.Proofs.Text.Order

/-!
# The sample of a debug report

A debug report lists the first installed names in the order of their bytes and says how many names
there are. It depends on the set of names alone, and so not on how a probe has printed them.
-/

namespace PackageSearch

variable {names : NameSet} {name other : String}

/-! ### Name sets -/

namespace NameSet

/-- There are so many names in the set. -/
def Counts (names : NameSet) (count : Nat) : Prop :=
  ∃ all : List String, all.Nodup ∧ (∀ name, name ∈ all ↔ name ∈ names) ∧ all.length = count

theorem eq_of_mem_iff {first second : NameSet} (same : ∀ name, name ∈ first ↔ name ∈ second) :
    first = second := by
  rcases first with ⟨first, increasing⟩
  rcases second with ⟨second, increasingToo⟩
  obtain rfl : first = second := List.Pairwise.eq_of_mem_iff increasing increasingToo same
  rfl

theorem nodup (names : NameSet) : names.names.Nodup :=
  names.increasing.imp ne_of_lt

/-- However the names of the set come, sorted they are these. -/
theorem mergeSort_eq_names {all : List String} (distinct : all.Nodup)
    (same : ∀ name, name ∈ all ↔ name ∈ names) :
    all.mergeSort (· ≤ ·) = names.names := by
  have perm : (all.mergeSort (· ≤ ·)).Perm names.names :=
    (List.mergeSort_perm all _).trans ((List.perm_ext_iff_of_nodup distinct names.nodup).mpr same)
  have increasing : names.names.Pairwise (· ≤ ·) := names.increasing.imp le_of_lt
  exact perm.eq_of_sortedLE List.sortedLE_mergeSort (List.sortedLE_iff_pairwise.mpr increasing)

theorem counts_iff {count : Nat} : names.Counts count ↔ count = names.size := by
  constructor
  · rintro ⟨all, distinct, same, rfl⟩
    exact ((List.perm_ext_iff_of_nodup distinct names.nodup).mpr same).length_eq
  · rintro rfl
    exact ⟨names.names, names.nodup, fun _ => Iff.rfl, rfl⟩

end NameSet

namespace Installed

/-- What is read off the lines of an output depends neither on their order nor on how often each of
them comes. -/
theorem profileNames_eq_of_lines {first second : String}
    (same : ∀ line, line ∈ Text.lines first.toList ↔ line ∈ Text.lines second.toList) :
    profileNames first = profileNames second := by
  apply NameSet.eq_of_mem_iff
  intro name
  simp only [mem_profileNames_iff_exists_line, same]

theorem queryNames_eq_of_lines {first second : String}
    (same : ∀ line, line ∈ Text.lines first.toList ↔ line ∈ Text.lines second.toList) :
    queryNames first = queryNames second := by
  apply NameSet.eq_of_mem_iff
  intro name
  simp only [mem_queryNames_iff_exists_line, same]

end Installed

namespace Server

/-! ### Samples -/

/-- The sample lists the names with the least bytes, as many as there are but no more than 20. -/
structure IsSample (names : NameSet) (sample : List String) : Prop where
  increasing : sample.Pairwise fun name other =>
    Text.encode name.toList < Text.encode other.toList
  length : ∀ count, names.Counts count → sample.length = min 20 count
  installed : ∀ name ∈ sample, name ∈ names
  least : ∀ name ∈ names, name ∉ sample → ∀ listed ∈ sample,
    Text.encode listed.toList < Text.encode name.toList

theorem encode_lt_encode_of_lt (below : name < other) :
    Text.encode name.toList < Text.encode other.toList :=
  Text.encode_lt_encode_iff.mpr (String.lt_iff_toList_lt.mp below)

theorem isSample_take (names : NameSet) : IsSample names (names.names.take 20) where
  increasing := (names.increasing.imp encode_lt_encode_of_lt).take
  length count counts := by
    rw [NameSet.counts_iff.mp counts, List.length_take, NameSet.size]
  installed name := List.mem_of_mem_take
  least := by
    intro name installed unlisted listed membership
    have split : names.names.take 20 ++ names.names.drop 20 = names.names :=
      List.take_append_drop 20 names.names
    have increasing := names.increasing
    rw [← split, List.pairwise_append] at increasing
    have inTwo : name ∈ names.names.take 20 ++ names.names.drop 20 := split.symm ▸ installed
    have behind := (List.mem_append.mp inTwo).resolve_left unlisted
    exact encode_lt_encode_of_lt (increasing.2.2 _ membership _ behind)

/-- The sample is what is left of the names when they are sorted and cut, in whatever order the set
gives them. -/
theorem State.sample_debug_eq_take_mergeSort (settings : Settings) (world : World) (state : State)
    (snapshot : Snapshot) {all : List String} (distinct : all.Nodup)
    (same : ∀ name, name ∈ all ↔ name ∈ snapshot.names) :
    (state.debug settings world snapshot).sample =
      (all.mergeSort (· ≤ ·)).take sampleSize := by
  rw [NameSet.mergeSort_eq_names distinct same]
  rfl

/-- Every debug report lists the installed names with the least bytes, at most 20 of them, and tells
how many names there are; every answer to a debug request is such a report, on a snapshot that a
detection has found. Reports on snapshots with the same names agree in this at any time, and outputs
with the same lines have the same names, in whatever order the lines come and how often. -/
theorem debug_lists_least_names (settings : Settings) (world : World) :
    (∀ (state : State) (snapshot : Snapshot),
      let report := state.debug settings world snapshot
      IsSample snapshot.names report.sample ∧ snapshot.names.Counts report.installed ∧
      ∃ rest, report.toJson = .object
        (("installedPackages", .array (report.sample.map Json.string)) ::
          ("totalInstalled", natural report.installed) :: rest)) ∧
    (∀ state task next last answer time, Reachable settings world state →
      Begins settings world state .debug task next → Leads settings world next last →
      last.answer? task = some (answer, time) →
        ∃ made : State, ∃ snapshot, answer = .debug (made.debug settings world snapshot) ∧
          ∃ source captured, ⟨captured, source, .detected snapshot⟩ ∈ last.journal) ∧
    (∀ (elsewhere : Settings) (abroad : World) (state other : State) (first second : Snapshot),
      (∀ name, name ∈ first.names ↔ name ∈ second.names) →
        (state.debug settings world first).sample =
          (other.debug elsewhere abroad second).sample ∧
        (state.debug settings world first).installed =
          (other.debug elsewhere abroad second).installed) ∧
    (∀ first second : String,
      (∀ line, line ∈ Text.lines first.toList ↔ line ∈ Text.lines second.toList) →
        Installed.profileNames first = Installed.profileNames second ∧
        Installed.queryNames first = Installed.queryNames second) := by
  refine ⟨?_, ?_, ?_, ?_⟩
  · intro state snapshot
    exact ⟨isSample_take snapshot.names, NameSet.counts_iff.mpr rfl, _, rfl⟩
  · intro state task next last answer time reachable begins leads answered
    obtain ⟨made, snapshot, more, -, isReport, -, served⟩ :=
      begins.exists_report reachable leads answered
    obtain ⟨source, captured, -, detected⟩ := served.detected
    exact ⟨made, snapshot, isReport, source, captured, detected⟩
  · intro elsewhere abroad state other first second same
    have sameNames := NameSet.eq_of_mem_iff same
    simp only [State.debug, sameNames, and_self]
  · intro first second same
    exact ⟨Installed.profileNames_eq_of_lines same, Installed.queryNames_eq_of_lines same⟩

/-- Twenty-one lines, the last name first and some names more than once. -/
def scatteredQuery : String :=
  "😀-2\n｡-1\ns\nr\nq\np\no\nn\nm\nl\nk\nj\ni\nh\ng\nf\ne\nd\nc\nb\na\na\n｡-1\n"

def orderedQuery : String :=
  "a\nb\nc\nd\ne\nf\ng\nh\ni\nj\nk\nl\nm\nn\no\np\nq\nr\ns\n｡-1\n😀-2\n"

/-- A debug request that has been answered. -/
def inspected : State :=
  (State.initial.spawn smallSettings (smallWorld 0 0) .debug).resume smallSettings
    (smallWorld 0 0) 0

/-- The last name has four bytes, the one before it three. -/
theorem scatteredNames_sampled :
    let first : Snapshot := ⟨Installed.queryNames scatteredQuery, some 0⟩
    let second : Snapshot := ⟨Installed.queryNames orderedQuery, some 7⟩
    let report := inspected.debug smallSettings (smallWorld 0 0) first
    (Text.encode "a".toList < Text.encode "😀".toList ∧ report.sample.length = 20) ∧
    (report.sample = (State.initial.debug smallSettings (smallWorld 0 0) second).sample) ∧
    ∃ made : State, ∃ snapshot answer time, inspected.answer? 0 = some (answer, time) ∧
      answer = .debug (made.debug smallSettings (smallWorld 0 0) snapshot) := by
  intro first second report
  obtain ⟨reports, answers, sameNames, sameLines⟩ :=
    debug_lists_least_names smallSettings (smallWorld 0 0)
  have subset : ∀ line ∈ Text.lines scatteredQuery.toList,
      line ∈ Text.lines orderedQuery.toList := by
    decide +kernel
  have superset : ∀ line ∈ Text.lines orderedQuery.toList,
      line ∈ Text.lines scatteredQuery.toList := by
    decide +kernel
  have names := (sameLines scatteredQuery orderedQuery fun line =>
    ⟨subset line, superset line⟩).2
  obtain ⟨isSample, counts, -⟩ := reports inspected first
  refine ⟨⟨?_, ?_⟩, ?_, ?_⟩
  · exact isSample.least "😀" (by decide +kernel) (by decide +kernel) "a" (by decide +kernel)
  · exact isSample.length 21 ⟨_, first.names.nodup, fun _ => Iff.rfl, by decide +kernel⟩
  · exact (sameNames _ _ inspected State.initial first second fun name =>
      iff_of_eq (congrArg (name ∈ ·) names)).1
  · have answered : ∃ answer time, inspected.answer? 0 = some (answer, time) := by
      exact ⟨_, _, rfl⟩
    obtain ⟨answer, time, answered⟩ := answered
    have leads : Leads smallSettings (smallWorld 0 0)
        (State.initial.spawn smallSettings (smallWorld 0 0) .debug) inspected :=
      .single (.resume (by decide))
    obtain ⟨made, snapshot, isReport, -⟩ :=
      answers _ 0 _ _ answer time .initial .arriving leads answered
    exact ⟨made, snapshot, answer, time, answered, isReport⟩

end Server

end PackageSearch
