import Mathlib.Data.List.Forall2
import PackageSearch.Search.Assembly

/-!
# What a search answers

A response that is put together from a listing has as many records as the listing has entries, up
to the limit, one for each name. An answer finds nothing, fails or succeeds, and its fields tell
which.
-/

namespace PackageSearch

theorem describe_ne_empty (limit : Nat) (description : Option String) :
    describe limit description ≠ "" := by
  unfold describe
  split
  · decide
  · rename_i text
    dsimp only
    split
    · decide
    · rename_i notEmpty
      intro isEmpty
      apply notEmpty
      simpa using congrArg String.toList isEmpty

/-- Nothing is installed as far as an empty snapshot knows. -/
theorem Snapshot.holds_of_not_isAvailable {snapshot : Snapshot}
    (unavailable : snapshot.isAvailable = false) (candidate : String) :
    snapshot.holds candidate = false := by
  have noNames : snapshot.names.isEmpty = true := by simpa [isAvailable] using unavailable
  simp [holds, isInstalled, matchRule, noNames]

variable {limits : AssemblyLimits} {snapshot : Snapshot}

/-! ### Records -/

/-- What a record takes from its entry and from the snapshot. -/
theorem recordOf_eq_ok_iff {entry : String × Json} {record : PackageRecord} :
    recordOf limits snapshot entry = .ok record ↔
      ∃ metadata, Metadata.decode entry.2 = .ok metadata ∧ record = {
        name := entry.1
        version := metadata.version.getD missingVersion
        description := describe limits.description metadata.description
        installed := snapshot.holds entry.1
        installedKnown := snapshot.isAvailable } := by
  unfold recordOf
  cases Metadata.decode entry.2 with
  | error problem => simp
  | ok metadata => simp [eq_comm]

theorem recordsOf_eq_ok_iff {entries : List (String × Json)} {records : List PackageRecord} :
    recordsOf limits snapshot entries = .ok records ↔
      List.Forall₂ (fun entry record => recordOf limits snapshot entry = .ok record) entries
        records := by
  induction entries generalizing records with
  | nil => simp [recordsOf, eq_comm]
  | cons entry rest inductionHypothesis =>
      unfold recordsOf
      cases first : recordOf limits snapshot entry with
      | error error => simp [List.forall₂_cons_left_iff, first]
      | ok record =>
          cases others : recordsOf limits snapshot rest with
          | error error =>
              simp only [List.forall₂_cons_left_iff, first, ← inductionHypothesis, others]
              simp
          | ok records =>
              simp only [List.forall₂_cons_left_iff, first, ← inductionHypothesis, others]
              simp [eq_comm]

theorem map_name_of_recordsOf {entries : List (String × Json)} {records : List PackageRecord}
    (made : recordsOf limits snapshot entries = .ok records) :
    records.map PackageRecord.name = Members.keys entries := by
  induction recordsOf_eq_ok_iff.mp made with
  | nil => rfl
  | @cons entry record rest records first others inductionHypothesis =>
      obtain ⟨metadata, -, rfl⟩ := recordOf_eq_ok_iff.mp first
      simp only [List.map_cons, Members.keys, List.cons.injEq, true_and]
      exact inductionHypothesis (recordsOf_eq_ok_iff.mpr others)

/-- What all records of one snapshot have in common. -/
theorem mem_recordsOf {entries : List (String × Json)} {records : List PackageRecord}
    (made : recordsOf limits snapshot entries = .ok records) {record : PackageRecord}
    (membership : record ∈ records) :
    record.description ≠ "" ∧ record.installed = snapshot.holds record.name ∧
      record.installedKnown = snapshot.isAvailable := by
  induction recordsOf_eq_ok_iff.mp made with
  | nil => cases membership
  | @cons entry first rest records firstMade others inductionHypothesis =>
      rcases List.mem_cons.mp membership with rfl | later
      · obtain ⟨metadata, -, rfl⟩ := recordOf_eq_ok_iff.mp firstMade
        exact ⟨describe_ne_empty _ _, rfl, rfl⟩
      · exact inductionHypothesis (recordsOf_eq_ok_iff.mpr others) later

theorem assemble_eq_ok_iff {listing : Listing} {response : SearchResponse} :
    assemble limits listing snapshot = .ok response ↔
      ∃ records, recordsOf limits snapshot (listing.entries.take limits.results) = .ok records ∧
        response = .success records listing.size snapshot.isAvailable := by
  unfold assemble
  cases recordsOf limits snapshot (listing.entries.take limits.results) with
  | error error => simp
  | ok records => simp [eq_comm]

theorem exists_recordsOf_eq_ok_iff {entries : List (String × Json)} :
    (∃ records, recordsOf limits snapshot entries = .ok records) ↔
      ∀ entry ∈ entries, ∃ metadata, Metadata.decode entry.2 = .ok metadata := by
  induction entries with
  | nil => simp [recordsOf]
  | cons entry rest inductionHypothesis =>
      rw [List.forall_mem_cons, ← inductionHypothesis]
      constructor
      · rintro ⟨records, made⟩
        obtain ⟨record, others, first, remaining, rfl⟩ :=
          List.forall₂_cons_left_iff.mp (recordsOf_eq_ok_iff.mp made)
        obtain ⟨metadata, decoded, -⟩ := recordOf_eq_ok_iff.mp first
        exact ⟨⟨metadata, decoded⟩, others, recordsOf_eq_ok_iff.mpr remaining⟩
      · rintro ⟨⟨metadata, decoded⟩, records, made⟩
        obtain ⟨record, first⟩ : ∃ record, recordOf limits snapshot entry = .ok record :=
          ⟨_, recordOf_eq_ok_iff.mpr ⟨metadata, decoded, rfl⟩⟩
        exact ⟨record :: records,
          recordsOf_eq_ok_iff.mpr (.cons first (recordsOf_eq_ok_iff.mp made))⟩

/-- Whether a listing can be put together depends on its first entries alone, and not on what is
installed. -/
theorem exists_assemble_eq_ok_iff {listing : Listing} :
    (∃ response, assemble limits listing snapshot = .ok response) ↔
      ∀ entry ∈ listing.entries.take limits.results,
        ∃ metadata, Metadata.decode entry.2 = .ok metadata := by
  have sameRecords : (∃ response, assemble limits listing snapshot = .ok response) ↔
      ∃ records, recordsOf limits snapshot (listing.entries.take limits.results) = .ok records := by
    simp [assemble_eq_ok_iff]
  exact sameRecords.trans exists_recordsOf_eq_ok_iff

/-! ### Answers -/

namespace SearchResponse

/-- The response to a search that has failed. -/
structure IsFailure (response : SearchResponse) : Prop where
  error : ∃ message, response.error = some message
  results : response.results = []
  total : response.total = none
  cached : response.cached = false
  installedKnown : response.installedKnown = none

/-- The response to a search that has succeeded, fresh or from the cache. -/
structure IsSuccess (limit : Nat) (response : SearchResponse) : Prop where
  error : response.error = none
  total : ∃ total, response.total = some total ∧ response.results.length = min total limit
  distinct : (response.results.map PackageRecord.name).Nodup
  described : ∀ record ∈ response.results, record.description ≠ ""
  /-- Where nothing is known about installed packages, no record says that one is installed. -/
  installedKnown : ∃ known, response.installedKnown = some known ∧
    ∀ record ∈ response.results, record.installedKnown = known ∧
      (known = false → record.installed = false)

/-- The ways in which a search ends. -/
inductive Outcome where
  | nothing
  | failure
  | success
  deriving DecidableEq

/-- The fields of the response are those of an outcome. -/
def Has (limit : Nat) (response : SearchResponse) : Outcome → Prop
  | .nothing => response = .empty
  | .failure => response.IsFailure
  | .success => response.IsSuccess limit

variable {limit : Nat} {response : SearchResponse}

theorem IsSuccess.asCached (succeeded : response.IsSuccess limit) :
    response.asCached.IsSuccess limit :=
  ⟨succeeded.error, succeeded.total, succeeded.distinct, succeeded.described,
    succeeded.installedKnown⟩

theorem isFailure_failure (message : String) : (failure message).IsFailure :=
  ⟨⟨message, rfl⟩, rfl, rfl, rfl, rfl⟩

/-- The outcome that the fields of a response tell. -/
def outcome (response : SearchResponse) : Outcome :=
  if response.error.isSome then .failure
  else if response.total.isSome then .success
  else .nothing

end SearchResponse

theorem isSuccess_of_assemble {listing : Listing} {response : SearchResponse}
    (assembled : assemble limits listing snapshot = .ok response) :
    response.IsSuccess limits.results := by
  obtain ⟨records, made, rfl⟩ := assemble_eq_ok_iff.mp assembled
  have names := map_name_of_recordsOf made
  have counted : records.length = min listing.size limits.results := by
    have lengths := congrArg List.length names
    simpa [Members.keys, Listing.size, Nat.min_comm] using lengths
  refine ⟨rfl, ⟨listing.size, rfl, counted⟩, ?_, ?_, snapshot.isAvailable, rfl, ?_⟩
  · have included : (Members.keys (listing.entries.take limits.results)).Sublist
        (Members.keys listing.entries) := (List.take_sublist _ _).map Prod.fst
    simp only [SearchResponse.success, names]
    exact included.nodup listing.distinct
  · exact fun record membership => (mem_recordsOf made membership).1
  · intro record membership
    obtain ⟨-, installed, known⟩ := mem_recordsOf made membership
    refine ⟨known, fun unavailable => ?_⟩
    rw [installed, Snapshot.holds_of_not_isAvailable unavailable]

end PackageSearch
