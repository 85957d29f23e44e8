import PackageSearch.Package.Metadata
import PackageSearch.Proofs.Members

/-!
# Which metadata can be read

Metadata is an object, of which the members `version` and `meta` matter, or an array of these two.
Its description is in `meta`, which has the same two forms.
-/

namespace PackageSearch.Metadata

variable {reads : Json → Option String → Prop} {key present : String}
  {missing found text version description : Option String} {value : Json} {metadata : Metadata}
  {members rest : List (String × Json)}

/-- An optional text, in place of which there may be `null`. -/
inductive IsText : Json → Option String → Prop where
  | null : IsText .null none
  | string (text : String) : IsText (.string text) (some text)

/-- What members hold under a key: what the last member with the key is read as, or what stands for
a missing one. All members with the key have to be readable. -/
structure Holds (reads : Json → Option String → Prop) (key : String) (missing : Option String)
    (members : List (String × Json)) (found : Option String) : Prop where
  readable : ∀ value, (key, value) ∈ members → ∃ found, reads value found
  found : key ∉ Members.keys members ∧ found = missing ∨
    ∃ value, Members.IsLast (key, value) members ∧ reads value found

/-- The details of a package: its description. -/
inductive IsDetails : Json → Option String → Prop where
  | object {members : List (String × Json)} {description : Option String} :
      Holds IsText "description" none members description → IsDetails (.object members) description
  | empty : IsDetails (.array []) none
  | description {value : Json} {description : Option String} :
      IsText value description → IsDetails (.array [value]) description

/-- The value describes a package by this metadata. -/
inductive Describes : Json → Metadata → Prop where
  | object {members : List (String × Json)} {version description : Option String} :
      Holds IsText "version" none members version →
        Holds IsDetails "meta" none members description →
          Describes (.object members) ⟨version, description⟩
  | empty : Describes (.array []) ⟨none, none⟩
  | version {value : Json} {version : Option String} :
      IsText value version → Describes (.array [value]) ⟨version, none⟩
  | details {value details : Json} {version description : Option String} :
      IsText value version → IsDetails details description →
        Describes (.array [value, details]) ⟨version, description⟩

/-! ### Members -/

theorem holds_nil_iff : Holds reads key missing [] found ↔ found = missing := by
  constructor
  · rintro ⟨-, ⟨-, isMissing⟩ | ⟨value, isLast, -⟩⟩
    · exact isMissing
    · exact absurd isLast Members.not_isLast_nil
  · exact fun isMissing => ⟨fun _ absent => absurd absent List.not_mem_nil,
      .inl ⟨List.not_mem_nil, isMissing⟩⟩

theorem holds_cons_iff_of_ne (different : key ≠ present) :
    Holds reads key missing ((present, value) :: rest) found ↔
      Holds reads key missing rest found := by
  have notFirst (other : Json) : (key, other) ≠ (present, value) :=
    fun same => different (congrArg Prod.fst same)
  have sameMembers (other : Json) : (key, other) ∈ (present, value) :: rest ↔ (key, other) ∈ rest :=
    List.mem_cons.trans (or_iff_right (notFirst other))
  have sameLast (other : Json) : Members.IsLast (key, other) ((present, value) :: rest) ↔
      Members.IsLast (key, other) rest :=
    Members.isLast_cons_iff.trans (or_iff_right fun first => notFirst other first.1)
  have sameKeys : key ∈ Members.keys ((present, value) :: rest) ↔ key ∈ Members.keys rest :=
    List.mem_cons.trans (or_iff_right different)
  constructor
  · rintro ⟨readable, found⟩
    simp only [sameMembers, sameLast, sameKeys] at readable found
    exact ⟨readable, found⟩
  · rintro ⟨readable, found⟩
    simp only [← sameMembers, ← sameLast, ← sameKeys] at readable found
    exact ⟨readable, found⟩

/-- What is read first stands for what is missing in the rest. -/
theorem holds_cons_self_iff :
    Holds reads key missing ((key, value) :: rest) found ↔
      ∃ text, reads value text ∧ Holds reads key text rest found := by
  constructor
  · rintro ⟨readable, ⟨absent, -⟩ | ⟨last, isLast, readsLast⟩⟩
    · exact absurd List.mem_cons_self absent
    · have readableRest : ∀ value, (key, value) ∈ rest → ∃ found, reads value found :=
        fun value membership => readable value (List.mem_cons_of_mem _ membership)
      rcases Members.isLast_cons_iff.mp isLast with ⟨same, absent⟩ | isLast
      · obtain rfl : last = value := congrArg Prod.snd same
        exact ⟨found, readsLast, readableRest, .inl ⟨absent, rfl⟩⟩
      · obtain ⟨text, readsFirst⟩ := readable value List.mem_cons_self
        exact ⟨text, readsFirst, readableRest, .inr ⟨last, isLast, readsLast⟩⟩
  · rintro ⟨text, readsFirst, readable, found⟩
    constructor
    · intro other membership
      rcases List.mem_cons.mp membership with same | later
      · obtain rfl : other = value := congrArg Prod.snd same
        exact ⟨text, readsFirst⟩
      · exact readable other later
    · rcases found with ⟨absent, rfl⟩ | ⟨last, isLast, readsLast⟩
      · exact .inr ⟨value, Members.isLast_cons_iff.mpr (.inl ⟨rfl, absent⟩), readsFirst⟩
      · exact .inr ⟨last, Members.isLast_cons_iff.mpr (.inr isLast), readsLast⟩

/-! ### Decoding -/

theorem decodeText_eq_ok_iff : decodeText value = .ok text ↔ IsText value text := by
  constructor
  · intro decoded
    cases value with
    | null =>
        cases decoded
        exact .null
    | string text =>
        cases decoded
        exact .string text
    | boolean | number | array | object => contradiction
  · rintro (_ | text)
    · rfl
    · rfl

theorem decodeDescription_eq_ok_iff :
    decodeDescription missing members = .ok found ↔
      Holds IsText "description" missing members found := by
  induction members generalizing missing with
  | nil =>
      rw [holds_nil_iff, decodeDescription, Except.ok.injEq]
      exact eq_comm
  | cons member members inductionHypothesis =>
      obtain ⟨present, value⟩ := member
      rw [decodeDescription]
      by_cases same : present = "description"
      · subst present
        rw [if_pos rfl, holds_cons_self_iff]
        simp only [← inductionHypothesis, ← decodeText_eq_ok_iff]
        cases decodeText value with
        | error problem => simp
        | ok text => simp
      · rw [if_neg same, holds_cons_iff_of_ne (Ne.symm same), inductionHypothesis]

theorem decodeDetails_eq_ok_iff :
    decodeDetails value = .ok description ↔ IsDetails value description := by
  constructor
  · intro decoded
    cases value with
    | object members => exact .object (decodeDescription_eq_ok_iff.mp decoded)
    | array items =>
        cases items with
        | nil =>
            cases decoded
            exact .empty
        | cons first rest =>
            rw [decodeDetails] at decoded
            cases text : decodeText first with
            | error problem => simp [text] at decoded
            | ok found =>
                cases rest with
                | nil =>
                    rw [text] at decoded
                    cases decoded
                    exact .description (decodeText_eq_ok_iff.mp text)
                | cons second others => simp [text] at decoded
    | null | boolean | number | string => contradiction
  · intro isDetails
    cases isDetails with
    | object holds => exact decodeDescription_eq_ok_iff.mpr holds
    | empty => rfl
    | description isText =>
        rw [decodeDetails, decodeText_eq_ok_iff.mpr isText]
        rfl

theorem decodeMembers_eq_ok_iff {start : Metadata} :
    decodeMembers start members = .ok ⟨version, description⟩ ↔
      Holds IsText "version" start.version members version ∧
        Holds IsDetails "meta" start.description members description := by
  induction members generalizing start with
  | nil =>
      rw [holds_nil_iff, holds_nil_iff, decodeMembers, Except.ok.injEq]
      constructor
      · rintro rfl
        exact ⟨rfl, rfl⟩
      · rintro ⟨rfl, rfl⟩
        rfl
  | cons member members inductionHypothesis =>
      obtain ⟨present, value⟩ := member
      rw [decodeMembers]
      by_cases isVersion : present = "version"
      · subst present
        rw [if_pos rfl, holds_cons_self_iff, holds_cons_iff_of_ne (by decide)]
        simp only [← decodeText_eq_ok_iff]
        cases decodeText value with
        | error problem => simp
        | ok text => simp [inductionHypothesis]
      · by_cases isMeta : present = "meta"
        · subst present
          rw [if_neg isVersion, if_pos rfl, holds_cons_self_iff, holds_cons_iff_of_ne (by decide)]
          simp only [← decodeDetails_eq_ok_iff]
          cases decodeDetails value with
          | error problem => simp
          | ok text => simp [inductionHypothesis]
        · rw [if_neg isVersion, if_neg isMeta, holds_cons_iff_of_ne (Ne.symm isVersion),
            holds_cons_iff_of_ne (Ne.symm isMeta), inductionHypothesis]

theorem describes_of_decodeFields {fields : List Json}
    (decoded : decodeFields fields = .ok metadata) : Describes (.array fields) metadata := by
  unfold decodeFields at decoded
  split at decoded
  · cases decoded
    exact .empty
  · split at decoded
    · contradiction
    · rename_i text
      cases decoded
      exact .version (decodeText_eq_ok_iff.mp text)
  · split at decoded
    · contradiction
    · rename_i text
      split at decoded
      · contradiction
      · rename_i details
        split at decoded
        · rename_i isEmpty
          cases decoded
          rw [List.isEmpty_iff.mp isEmpty]
          exact .details (decodeText_eq_ok_iff.mp text) (decodeDetails_eq_ok_iff.mp details)
        · contradiction

/-- Decoding succeeds on the values that describe a package, and gives the metadata by which they
do. -/
theorem decode_eq_ok_iff : decode value = .ok metadata ↔ Describes value metadata := by
  constructor
  · intro decoded
    cases value with
    | object members =>
        obtain ⟨holdsVersion, holdsMeta⟩ := decodeMembers_eq_ok_iff.mp decoded
        exact .object holdsVersion holdsMeta
    | array fields => exact describes_of_decodeFields decoded
    | null | boolean | number | string => contradiction
  · intro describes
    cases describes with
    | object holdsVersion holdsMeta =>
        exact decodeMembers_eq_ok_iff.mpr ⟨holdsVersion, holdsMeta⟩
    | empty => rfl
    | version isText => rw [decode, decodeFields, decodeText_eq_ok_iff.mpr isText]
    | details isText isDetails =>
        rw [decode, decodeFields, decodeText_eq_ok_iff.mpr isText]
        simp only [decodeDetails_eq_ok_iff.mpr isDetails, List.isEmpty_nil, if_true]

end PackageSearch.Metadata
