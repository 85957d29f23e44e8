import PackageSearch.Package.Listing
import PackageSearch.Proofs.Json.RoundTrip

/-!
# Printed listings are read back

The names of a listing are the distinct keys of the object it was printed from, in their order, each
with its last value. No other value is a listing, whatever it holds.
-/

namespace PackageSearch

namespace Json

variable {Found : Type} {value : Json} {text rest : List Char} {fuel depth : Nat}
  {members : List (String × Json)}

theorem eq_of_readIdentifier {found : Found} {expected : List Char} {given : Found}
    (read : readIdentifier given expected text = .ok (found, rest)) : found = given := by
  fun_induction readIdentifier given expected text with
  | case1 text =>
      cases read
      rfl
  | case2 => contradiction
  | case3 letters character following inductionHypothesis => exact inductionHypothesis read
  | case4 => contradiction

theorem exists_eq_of_map {reading : Reading Found} {wrap : Found → Json}
    (read : (reading.map fun (found, rest) => (wrap found, rest)) = .ok (value, rest)) :
    ∃ found, value = wrap found := by
  cases reading with
  | error fault => contradiction
  | ok found =>
      cases read
      exact ⟨_, rfl⟩

/-- An object is read only where a brace opens. -/
theorem exists_skipBlanks_eq_cons
    (read : readValue fuel depth text = .ok (.object members, rest)) :
    ∃ others, skipBlanks text = '\x7b' :: others := by
  cases depth with
  | zero => contradiction
  | succ depth =>
      rw [readValue] at read
      split at read
      · contradiction
      iterate 3
        · have same := eq_of_readIdentifier read
          contradiction
      · obtain ⟨number, same⟩ := @exists_eq_of_map _ _ _ _ Json.number read
        contradiction
      · obtain ⟨text, same⟩ := @exists_eq_of_map _ _ _ _ Json.string read
        contradiction
      · split at read
        · contradiction
        · obtain ⟨items, same⟩ := @exists_eq_of_map _ _ _ _ Json.array read
          contradiction
      · rename_i others opens
        exact ⟨others, opens⟩
      · split at read
        · obtain ⟨number, same⟩ := @exists_eq_of_map _ _ _ _ Json.number read
          contradiction
        · contradiction

/-- Nothing but an object is printed with a brace first, so nothing else is read as an object. -/
theorem parse_print_ne_object (other : ∀ members, value ≠ .object members) :
    parse value.print ≠ .ok (.object members) := by
  intro parsed
  rw [parse] at parsed
  split at parsed
  · contradiction
  · rename_i found rest read
    split at parsed
    · obtain rfl := Except.ok.inj parsed
      obtain ⟨following, opens⟩ := exists_skipBlanks_eq_cons read
      obtain ⟨first, others, printed, starts⟩ := exists_print_eq_cons value
      obtain ⟨sameFirst, sameOthers, same, notBlank, -⟩ := startsItem_print value []
      rw [List.append_nil] at same
      rw [same, skipBlanks_cons notBlank, ← same, printed] at opens
      obtain ⟨rfl, -⟩ := List.cons.inj opens
      rcases starts with listed | isDigit | ⟨-, members, isObject⟩
      · exact absurd listed (by decide)
      · exact absurd isDigit (by decide)
      · exact other members isObject
    · contradiction

end Json

namespace Listing

variable {pairs : List (String × Json)} {value : Json}

theorem parse_eq_error (other : ∀ members, value ≠ .object members) :
    ∃ problem, parse value.print = .error problem := by
  unfold parse
  split
  · exact ⟨_, rfl⟩
  · rename_i members parsed
    exact absurd parsed (Json.parse_print_ne_object other)
  · exact ⟨_, rfl⟩

/-- The object that pairs are printed as is read with their last values under distinct keys. -/
theorem parse_object (readable : ∀ pair ∈ pairs, Json.Readable 126 pair.2) :
    parse (Json.print (.object pairs)) = .ok (ofPairs (Members.ofPairs pairs)) := by
  have length := Json.length_print_object pairs
  have count := Json.length_le_separated Json.printMember pairs
  have readBack : ∀ pair ∈ pairs,
      Json.ReadsBack (Json.readValue (Json.print (.object pairs)).length 127) pair.2 := by
    intro pair membership
    have shorter := @Json.length_le_of_mem _ Json.printMember _ _ membership
    have shorterValue := Json.length_printMember pair
    exact (readable pair membership).readsBack (by decide) (by omega)
  have read := Json.readValue_object (by decide) readBack (by omega) []
  rw [List.append_nil] at read
  have parsed : Json.parse (Json.print (.object pairs)) =
      .ok (.object (Members.ofPairs pairs)) := by
    rw [Json.parse, show Json.depthLimit = 127 + 1 from rfl, read]
    rfl
  rw [parse, parsed]

theorem parse_eq_notObject (other : ∀ members, value ≠ .object members)
    (readable : Json.Readable 127 value) : parse value.print = .error (.notObject value) := by
  have read := readable.readsBack (show 127 < Json.depthLimit by decide) (Nat.le_refl _) []
    Json.endsNumeral_nil
  rw [List.append_nil] at read
  have parsed : Json.parse value.print = .ok value := by
    rw [Json.parse, read]
    rfl
  rw [parse, parsed]
  split
  · contradiction
  · rename_i members same
    exact absurd (Except.ok.inj same) (other members)
  · rename_i same
    rw [Except.ok.inj same]

/-- Reading a listing undoes printing an object: names come in the order of their first places, each
with its last value. What is printed from any other value is not a listing. -/
theorem print_is_read_back :
    (∀ pairs : List (String × Json), (∀ pair ∈ pairs, Json.Readable 126 pair.2) →
      ∃ listing, parse (Json.print (.object pairs)) = .ok listing ∧
        Members.keys listing.entries = (Members.keys pairs).eraseDups ∧
        ∀ entry ∈ listing.entries, Members.IsLast entry pairs) ∧
    ∀ value : Json, (∀ members, value ≠ .object members) →
      (∃ problem, parse value.print = .error problem) ∧
      (Json.Readable 127 value → parse value.print = .error (.notObject value)) := by
  constructor
  · intro pairs readable
    have entries : (ofPairs (Members.ofPairs pairs)).entries = Members.ofPairs pairs :=
      Members.ofPairs_of_nodup (Members.nodup_keys_ofPairs pairs)
    refine ⟨_, parse_object readable, ?_, ?_⟩
    · rw [entries, Members.keys_ofPairs]
    · intro entry membership
      rw [entries] at membership
      exact Members.isLast_of_mem_ofPairs membership
  · exact fun value other => ⟨parse_eq_error other, parse_eq_notObject other⟩

/-- Pairs with a repeated name, escapes and the bounds of integers. -/
def repeatedName : List (String × Json) := [
  ("zsh\n", .array [
    .number (.integer (-0x8000000000000000)),
    .number (.integer 0xFFFFFFFFFFFFFFFF)]),
  ("\"λ\"", .object [("", .null), ("\x01\\", .array [])]),
  ("zsh\n", .boolean true)]

theorem repeatedName_is_read_back :
    (∃ listing, parse (Json.print (.object repeatedName)) = .ok listing ∧
      Members.keys listing.entries = ["zsh\n", "\"λ\""] ∧
      ∀ entry ∈ listing.entries, Members.IsLast entry repeatedName) ∧
    parse (Json.print (.array [.string "zsh"])) = .error (.notObject (.array [.string "zsh"])) := by
  have readable : ∀ pair ∈ repeatedName, Json.Readable 126 pair.2 := by
    intro pair membership
    simp only [repeatedName, List.mem_cons, List.not_mem_nil, or_false] at membership
    rcases membership with rfl | rfl | rfl
    · apply Json.Readable.array
      intro item membership
      simp only [List.mem_cons, List.not_mem_nil, or_false] at membership
      rcases membership with rfl | rfl
      · exact .integer (by decide)
      · exact .integer (by decide)
    · refine .object (by decide) ?_
      intro member membership
      simp only [List.mem_cons, List.not_mem_nil, or_false] at membership
      rcases membership with rfl | rfl
      · exact .null
      · exact .array (fun _ absent => absurd absent List.not_mem_nil)
    · exact .boolean true
  constructor
  · obtain ⟨listing, parsed, keys, last⟩ := print_is_read_back.1 repeatedName readable
    refine ⟨listing, parsed, ?_, last⟩
    rw [keys]
    decide
  · apply (print_is_read_back.2 (.array [.string "zsh"]) (fun members => nofun)).2
    apply Json.Readable.array
    intro item membership
    rw [List.mem_singleton.mp membership]
    exact .string "zsh"

end Listing

end PackageSearch
