import PackageSearch.Proofs.Package.Metadata
import PackageSearch.Proofs.Search.Assembly
import PackageSearch.Proofs.Text.Blank

/-!
# How a response is put together

The first entries of a listing decide: if all of them describe packages there is one record for
each, and otherwise the first that does not is to blame.
-/

namespace PackageSearch

open Metadata

variable {limits : AssemblyLimits} {listing : Listing} {snapshot : Snapshot}
  {entry : String × Json} {entries : List (String × Json)} {error : SearchError}

/-! ### Descriptions -/

/-- The text that is shown for a description: its words with single spaces between them, cut to the
limit, unless nothing is left of it. -/
inductive IsShownAs (limit : Nat) : Option String → String → Prop where
  | missing : IsShownAs limit none "No description"
  | nothing {text : String} {words : List (List Char)} :
      Text.Spaced words text.toList → ([' '].intercalate words).take limit = [] →
        IsShownAs limit (some text) "No description"
  | cut {text : String} {words : List (List Char)} :
      Text.Spaced words text.toList → ([' '].intercalate words).take limit ≠ [] →
        IsShownAs limit (some text) (String.ofList (([' '].intercalate words).take limit))

theorem isShownAs_describe (limit : Nat) (description : Option String) :
    IsShownAs limit description (describe limit description) := by
  cases description with
  | none => exact .missing
  | some text =>
      have spaced := Text.spaced_words text.toList
      by_cases isEmpty : cleanDescription text.toList limit = []
      · have shown : describe limit (some text) = "No description" := by
          simp only [describe, isEmpty, List.isEmpty_nil, if_true, missingDescription]
        rw [shown]
        exact .nothing spaced isEmpty
      · have shown : describe limit (some text) =
            String.ofList (cleanDescription text.toList limit) := by
          simp only [describe, List.isEmpty_iff, isEmpty, if_false]
        rw [shown]
        exact .cut spaced isEmpty

/-! ### Records -/

theorem Snapshot.isAvailable_iff : snapshot.isAvailable = true ↔ ∃ name, name ∈ snapshot.names := by
  have notEmpty : snapshot.isAvailable = true ↔ snapshot.names.names ≠ [] := by
    simp [isAvailable, NameSet.isEmpty]
  rw [notEmpty]
  constructor
  · exact List.exists_mem_of_ne_nil _
  · rintro ⟨name, membership⟩
    exact List.ne_nil_of_mem membership

/-- The record is made from the entry. -/
structure IsRecordOf (limit : Nat) (snapshot : Snapshot) (entry : String × Json)
    (record : PackageRecord) : Prop where
  name : record.name = entry.1
  installed : record.installed = isInstalled entry.1 snapshot.names
  installedKnown : record.installedKnown = true ↔ ∃ name, name ∈ snapshot.names
  described : ∃ metadata, Describes entry.2 metadata ∧
    record.version = metadata.version.getD "unknown" ∧
      IsShownAs limit metadata.description record.description
  notEmpty : record.description ≠ ""

theorem isRecordOf_of_recordOf {record : PackageRecord}
    (made : recordOf limits snapshot entry = .ok record) :
    IsRecordOf limits.description snapshot entry record := by
  obtain ⟨metadata, decoded, rfl⟩ := recordOf_eq_ok_iff.mp made
  exact ⟨rfl, rfl, snapshot.isAvailable_iff,
    ⟨metadata, decode_eq_ok_iff.mp decoded, rfl, isShownAs_describe _ _⟩, describe_ne_empty _ _⟩

/-- The response succeeds with a record of each of the first entries. -/
structure IsAssembledFrom (limits : AssemblyLimits) (listing : Listing) (snapshot : Snapshot)
    (response : SearchResponse) : Prop where
  results : List.Forall₂ (IsRecordOf limits.description snapshot)
    (listing.entries.take limits.results) response.results
  total : response.total = some listing.entries.length
  installedKnown : ∃ known, response.installedKnown = some known ∧
    (known = true ↔ ∃ name, name ∈ snapshot.names)
  error : response.error = none
  cached : response.cached = false

theorem isAssembledFrom_of_assemble {response : SearchResponse}
    (assembled : assemble limits listing snapshot = .ok response) :
    IsAssembledFrom limits listing snapshot response := by
  obtain ⟨records, made, rfl⟩ := assemble_eq_ok_iff.mp assembled
  exact ⟨(recordsOf_eq_ok_iff.mp made).imp fun _ _ => isRecordOf_of_recordOf, rfl,
    ⟨_, rfl, snapshot.isAvailable_iff⟩, rfl, rfl⟩

/-! ### Failures -/

/-- The entry is the first that describes no package, and the error names it and the reason. -/
structure Blames (entries : List (String × Json)) (error : SearchError) (entry : String × Json) :
    Prop where
  first : ∃ before after, entries = before ++ entry :: after ∧
    ∀ earlier ∈ before, ∃ metadata, Describes earlier.2 metadata
  undescribed : ∀ metadata, ¬Describes entry.2 metadata
  reason : ∃ problem, decode entry.2 = .error problem ∧
    error = .parse (entry.1 ++ ": " ++ problem.message)

theorem blames_of_recordOf (failed : recordOf limits snapshot entry = .error error) :
    Blames (entry :: entries) error entry := by
  rw [recordOf] at failed
  split at failed
  · rename_i problem decoded
    refine ⟨⟨[], entries, rfl, fun _ absent => absurd absent List.not_mem_nil⟩, ?_,
      ⟨problem, decoded, (Except.error.inj failed).symm⟩⟩
    intro metadata describes
    have decodes := decode_eq_ok_iff.mpr describes
    rw [decoded] at decodes
    contradiction
  · contradiction

theorem Blames.cons {earlier : String × Json} (blames : Blames entries error entry)
    (described : ∃ metadata, Describes earlier.2 metadata) :
    Blames (earlier :: entries) error entry := by
  obtain ⟨⟨before, after, rfl, allDescribed⟩, undescribed, reason⟩ := blames
  exact ⟨⟨earlier :: before, after, rfl, List.forall_mem_cons.mpr ⟨described, allDescribed⟩⟩,
    undescribed, reason⟩

theorem exists_blames (failed : recordsOf limits snapshot entries = .error error) :
    ∃ entry, Blames entries error entry := by
  induction entries with
  | nil => contradiction
  | cons entry entries inductionHypothesis =>
      rw [recordsOf] at failed
      split at failed
      · rename_i problem first
        cases failed
        exact ⟨entry, blames_of_recordOf first⟩
      · rename_i record first
        split at failed
        · rename_i problem others
          cases failed
          obtain ⟨blamed, blames⟩ := inductionHypothesis others
          obtain ⟨metadata, decoded, -⟩ := recordOf_eq_ok_iff.mp first
          exact ⟨blamed, blames.cons ⟨metadata, decode_eq_ok_iff.mp decoded⟩⟩
        · contradiction

/-! ### Responses -/

theorem map_results_assemble :
    (assemble limits listing snapshot).map SearchResponse.results =
      recordsOf limits snapshot (listing.entries.take limits.results) := by
  unfold assemble
  cases recordsOf limits snapshot (listing.entries.take limits.results) with
  | error error => rfl
  | ok records => rfl

/-- A response is put together from the first entries: whether it succeeds, its records, and which
entry is to blame otherwise do not depend on any entry beyond the limit. -/
theorem assemble_from_first_entries (limits : AssemblyLimits) (listing : Listing)
    (snapshot : Snapshot) :
    (∀ value metadata, decode value = .ok metadata ↔ Describes value metadata) ∧
    ((∃ response, assemble limits listing snapshot = .ok response) ↔
      ∀ entry ∈ listing.entries.take limits.results, ∃ metadata, Describes entry.2 metadata) ∧
    (∀ response, assemble limits listing snapshot = .ok response →
      IsAssembledFrom limits listing snapshot response) ∧
    (∀ error, assemble limits listing snapshot = .error error →
      ∃ entry, Blames (listing.entries.take limits.results) error entry) ∧
    ∀ other : Listing,
      other.entries.take limits.results = listing.entries.take limits.results →
        (assemble limits other snapshot).map SearchResponse.results =
          (assemble limits listing snapshot).map SearchResponse.results := by
  refine ⟨fun _ _ => decode_eq_ok_iff, ?_, fun _ => isAssembledFrom_of_assemble, ?_, ?_⟩
  · simp only [exists_assemble_eq_ok_iff, decode_eq_ok_iff]
  · intro error failed
    have noRecords := congrArg (Except.map SearchResponse.results) failed
    rw [map_results_assemble] at noRecords
    exact exists_blames noRecords
  · intro other sameEntries
    rw [map_results_assemble, map_results_assemble, sameEntries]

/-- Three packages, of which the last has no metadata that can be read. -/
def threePackages : Listing where
  entries := [
    ("htop-3.2", .object [("version", .string "3.2"),
      ("meta", .object [("description", .string "  Interactive\n process viewer")])]),
    ("blank", .array [.null, .array [.string "\n"]]),
    ("broken", .string "not an object")]
  distinct := by decide

def onlyHtop : Snapshot := ⟨NameSet.ofList ["htop"], none⟩

theorem threePackages_are_assembled :
    (∃ response, assemble ⟨2, 16⟩ threePackages onlyHtop = .ok response ∧
      IsAssembledFrom ⟨2, 16⟩ threePackages onlyHtop response ∧ response.results = [
        ⟨"htop-3.2", "3.2", "Interactive proc", true, true⟩,
        ⟨"blank", "unknown", "No description", false, true⟩]) ∧
    ∃ error entry, assemble ⟨3, 16⟩ threePackages onlyHtop = .error error ∧
      Blames threePackages.entries error entry := by
  obtain ⟨-, -, assembled, -, -⟩ := assemble_from_first_entries ⟨2, 16⟩ threePackages onlyHtop
  obtain ⟨-, -, -, blamed, -⟩ := assemble_from_first_entries ⟨3, 16⟩ threePackages onlyHtop
  constructor
  · exact ⟨_, rfl, assembled _ rfl, rfl⟩
  · obtain ⟨entry, blames⟩ := blamed _ rfl
    exact ⟨_, entry, rfl, blames⟩

end PackageSearch
