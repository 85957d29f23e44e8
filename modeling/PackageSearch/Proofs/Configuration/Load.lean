import PackageSearch.Configuration.Load
import PackageSearch.Proofs.Configuration.Fields
import PackageSearch.Proofs.Text.Utf8
import PackageSearch.Proofs.Toml.Document

/-!
# Loading a configuration

A configuration has what the file gives, and defaults for the rest; two environment variables come
before the file. Nothing that is wrong with one of them is passed over in silence.
-/

namespace PackageSearch.Configuration

open Host

variable {setting? : Variables} {files : Files} {written configuration : Configuration}
  {text digits : List Char} {value port : Nat}

/-! ### Ports -/

/-- The text is a decimal number that a port can be, perhaps with a plus sign before it. -/
def IsPort (text : List Char) (port : Nat) : Prop :=
  ∃ digits, (text = digits ∨ text = '+' :: digits) ∧ digits ≠ [] ∧
    (∀ digit ∈ digits, digit.isDigit = true) ∧ Nat.ofDigitChars 10 digits 0 = port ∧ port ≤ 65535

/-- The number only grows, so it is too large once a beginning of it is. -/
theorem portAfter_eq_ok_iff (within : value ≤ largestPort) : portAfter value digits = .ok port ↔
    (∀ digit ∈ digits, digit.isDigit = true) ∧ Nat.ofDigitChars 10 digits value = port ∧
      port ≤ largestPort := by
  induction digits generalizing value with
  | nil =>
      simp only [portAfter, Except.ok.injEq, List.not_mem_nil, false_implies, implies_true,
        Nat.ofDigitChars_nil, true_and]
      exact ⟨fun same => ⟨same, same ▸ within⟩, And.left⟩
  | cons digit digits inductionHypothesis =>
      have next : 10 * value + (digit.toNat - '0'.toNat) = value * 10 + (digit.toNat - 48) :=
        congrArg (· + (digit.toNat - 48)) (Nat.mul_comm 10 value)
      rw [Nat.ofDigitChars_cons, next, List.forall_mem_cons]
      by_cases isDigit : digit.isDigit = true
      · by_cases tooLarge : largestPort < value * 10 + (digit.toNat - 48)
        · have more := Json.le_ofDigitChars digits (value * 10 + (digit.toNat - 48))
          simp only [portAfter, isDigit, tooLarge, if_true, reduceCtorEq, false_iff]
          omega
        · simp only [portAfter, isDigit, tooLarge, if_true, if_false, true_and]
          exact inductionHypothesis (Nat.le_of_not_lt tooLarge)
      · simp [portAfter, isDigit]

theorem readPort_eq_ok_iff : readPort text = .ok port ↔ IsPort text port := by
  have isNumber : ∀ digits, portAfter 0 digits = .ok port ↔
      (∀ digit ∈ digits, digit.isDigit = true) ∧ Nat.ofDigitChars 10 digits 0 = port ∧
        port ≤ 65535 :=
    fun _ => portAfter_eq_ok_iff (Nat.zero_le _)
  unfold readPort
  split
  · simp [IsPort]
  · simp [IsPort]
  · rename_i digits notAlone
    have nonempty : digits ≠ [] := by
      rintro rfl
      exact notAlone rfl
    have signed : ¬∀ digit ∈ '+' :: digits, digit.isDigit = true := fun areDigits =>
      absurd (areDigits '+' List.mem_cons_self) (by decide)
    rw [isNumber]
    constructor
    · exact fun number => ⟨digits, .inr rfl, nonempty, number⟩
    · rintro ⟨others, rfl | same, -, number⟩
      · exact absurd number.1 signed
      · obtain rfl := (List.cons.inj same).2
        exact number
  · rename_i nonempty notAlone notSigned
    rw [isNumber]
    constructor
    · exact fun number => ⟨text, .inl rfl, nonempty, number⟩
    · rintro ⟨others, rfl | same, -, number⟩
      · exact number
      · exact absurd same (notSigned others)

/-! ### Environment variables -/

/-- The configuration is the written one, but for what environment variables say. -/
structure Overrides (setting? : Variables) (written configuration : Configuration) : Prop where
  bind : configuration.bind = (setting? "LIAN_NIX_BIND").getD written.bind
  port : match setting? "LIAN_NIX_PORT" with
    | some text => IsPort text.toList configuration.port
    | none => configuration.port = written.port
  text : ∀ field : TextField, field ≠ .bind → field.get configuration = field.get written
  natural : ∀ field : NaturalField, field ≠ .port → field.get configuration = field.get written

theorem eq_of_fields {other : Configuration}
    (text : ∀ field : TextField, field.get configuration = field.get other)
    (natural : ∀ field : NaturalField, field.get configuration = field.get other) :
    configuration = other :=
  calc configuration
    _ = ofFields (TextField.get configuration) (NaturalField.get configuration) := rfl
    _ = ofFields (TextField.get other) (NaturalField.get other) := by
      rw [funext text, funext natural]
    _ = other := rfl

theorem TextField.get_update {field : TextField} (other : field ≠ .bind)
    (written : Configuration) (bind : String) (port : Nat) :
    field.get { written with bind, port } = field.get written := by
  cases field with
  | bind => contradiction
  | _ => rfl

theorem NaturalField.get_update {field : NaturalField} (other : field ≠ .port)
    (written : Configuration) (bind : String) (port : Nat) :
    field.get { written with bind, port } = field.get written := by
  cases field with
  | port => contradiction
  | _ => rfl

theorem overrides_bind_port {bind : String} {port : Nat}
    (isBind : bind = (setting? "LIAN_NIX_BIND").getD written.bind)
    (isPort : match setting? "LIAN_NIX_PORT" with
      | some text => IsPort text.toList port
      | none => port = written.port) :
    Overrides setting? written { written with bind, port } where
  bind := isBind
  port := isPort
  text _ other := TextField.get_update other written bind port
  natural _ other := NaturalField.get_update other written bind port

theorem Overrides.eq (overrides : Overrides setting? written configuration) :
    configuration = { written with
      bind := (setting? "LIAN_NIX_BIND").getD written.bind
      port := configuration.port } := by
  apply eq_of_fields
  · intro field
    by_cases isBind : field = .bind
    · rw [isBind]
      exact overrides.bind
    · rw [overrides.text field isBind]
      exact (TextField.get_update isBind _ _ _).symm
  · intro field
    by_cases isPort : field = .port
    · rw [isPort]
      rfl
    · rw [overrides.natural field isPort]
      exact (NaturalField.get_update isPort _ _ _).symm

theorem override_eq_ok_iff :
    override setting? written = .ok configuration ↔ Overrides setting? written configuration := by
  constructor
  · intro loaded
    unfold override at loaded
    split at loaded
    · rename_i unset
      cases loaded
      exact overrides_bind_port rfl (by rw [unset])
    · rename_i text set
      split at loaded
      · contradiction
      · rename_i port read
        cases loaded
        exact overrides_bind_port rfl (by rw [set]; exact readPort_eq_ok_iff.mp read)
  · intro overrides
    have isPort := overrides.port
    rw [overrides.eq]
    unfold override
    split at isPort
    · rename_i text set
      simp only [set, readPort_eq_ok_iff.mpr isPort]
    · rename_i unset
      simp only [unset, isPort]

/-! ### The file -/

/-- What a file that can be read gives. -/
theorem ofFile_eq_ok_iff {bytes : List UInt8} {place : String}
    (isFile : files place = some (.ok bytes)) : ofFile files place = .ok configuration ↔
      ∃ text table, Text.decode? bytes = some text ∧ Toml.parse text = some table ∧
        Holds table configuration := by
  have fromText : ∀ text, parse text = some configuration ↔
      ∃ table, Toml.parse text = some table ∧ Holds table configuration := by
    intro text
    rw [parse, Option.bind_eq_some_iff]
    simp only [ofTable_eq_some_iff]
  unfold ofFile
  simp only [isFile]
  cases decoded : Text.decode? bytes with
  | none => simp
  | some text =>
      have read := fromText text
      cases parsed : parse text with
      | none => simpa [parsed] using read
      | some found => simpa [parsed] using read

variable {entries : List (String × Toml.Node)} {place : String}

theorem ofFile_of_writesLines (isFile : files place = some (.ok (Text.encode text)))
    (writes : Toml.WritesLines text entries) (distinct : (Members.keys entries).Nodup) :
    ofFile files place = .ok configuration ↔
      (∀ entry ∈ entries, entry.2.Fits) ∧ Holds entries configuration := by
  rw [ofFile_eq_ok_iff isFile]
  have parsed := Toml.parse_of_writesLines writes
  rw [Text.decode?_encode]
  constructor
  · rintro ⟨_, table, ⟨⟩, isTable, holds⟩
    rw [parsed] at isTable
    split_ifs at isTable with suits
    cases isTable
    exact ⟨suits.1, holds⟩
  · rintro ⟨fits, holds⟩
    rw [if_pos ⟨fits, distinct⟩] at parsed
    exact ⟨text, entries, rfl, parsed, holds⟩

theorem ofFile_eq_malformed (isFile : files place = some (.ok (Text.encode text)))
    (fails : ∀ configuration, ofFile files place ≠ .ok configuration) :
    ofFile files place = .error (.malformed place) := by
  unfold ofFile at fails ⊢
  simp only [isFile, Text.decode?_encode] at fails ⊢
  cases read : parse text with
  | none => rfl
  | some configuration => exact absurd (by rw [read]) (fails configuration)

theorem load_eq_ok_iff : load setting? files = .ok configuration ↔
    ∃ written, ofFile files (path setting?) = .ok written ∧
      Overrides setting? written configuration := by
  unfold load
  cases ofFile files (path setting?) with
  | error => simp
  | ok written => simp [override_eq_ok_iff]

/-! ### Precedence -/

/-- The environment sets no port, or a proper one. -/
def PortAdmitted (setting? : Variables) : Prop :=
  ∀ text, setting? "LIAN_NIX_PORT" = some text → ∃ port, IsPort text.toList port

/-- What comes of a written configuration: the one that the environment makes of it, unless it sets
a port that is none. -/
structure Yields (setting? : Variables) (written : Configuration)
    (result : Except LoadError Configuration) : Prop where
  admitted : PortAdmitted setting? →
    ∃ configuration, result = .ok configuration ∧ Overrides setting? written configuration
  refused : ¬PortAdmitted setting? → ∃ value problem,
    setting? "LIAN_NIX_PORT" = some value ∧ result = .error (.badPort value problem)

/-- Everything given in the file fits into 64 bits, and suits the field that it is for, if any. -/
def AllAdmitted (entries : List (String × Toml.Node)) : Prop :=
  ∀ entry ∈ entries, entry.2.Fits ∧ Admits entry

theorem exists_overrides (admitted : PortAdmitted setting?) (written : Configuration) :
    ∃ configuration, Overrides setting? written configuration := by
  cases set : setting? "LIAN_NIX_PORT" with
  | none => exact ⟨_, overrides_bind_port rfl (by rw [set])⟩
  | some text =>
      obtain ⟨port, isPort⟩ := admitted text set
      exact ⟨_, overrides_bind_port rfl (by rw [set]; exact isPort)⟩

theorem yields_override (setting? : Variables) (written : Configuration) :
    Yields setting? written (override setting? written) where
  admitted admitted := by
    obtain ⟨configuration, overrides⟩ := exists_overrides admitted written
    exact ⟨configuration, override_eq_ok_iff.mpr overrides, overrides⟩
  refused refused := by
    obtain ⟨value, notAdmitted⟩ := not_forall.mp refused
    obtain ⟨set, noPort⟩ := Classical.not_imp.mp notAdmitted
    cases read : readPort value.toList with
    | ok port => exact absurd ⟨port, readPort_eq_ok_iff.mp read⟩ noPort
    | error problem =>
        refine ⟨value, problem, set, ?_⟩
        unfold override
        simp only [set, read]

theorem yields_of_ofFile (isWritten : ofFile files (path setting?) = .ok written) :
    Yields setting? written (load setting? files) := by
  have loaded : load setting? files = override setting? written := by
    unfold load
    rw [isWritten]
  rw [loaded]
  exact yields_override setting? written

theorem exists_holds_iff_allAdmitted (distinct : (Members.keys entries).Nodup) :
    ((∀ entry ∈ entries, entry.2.Fits) ∧ ∃ written, Holds entries written) ↔
      AllAdmitted entries := by
  rw [exists_holds_iff distinct]
  exact forall₂_and.symm

/-- Of a file with lines for distinct keys, in any order and however their values are written, every
field takes what is given for it, or its default; the environment comes first. The file is refused
as a whole if anything in it does not suit its field or fits into no integer, and so is a port in
the environment that is none. Without a file the environment has the defaults before it. A file of
any other kind is refused too, unless it stands for a table that gives every field something that
suits it, or nothing. There are such lines for all keys and values. -/
theorem load_takes_precedence (setting? : Variables) (files : Files) :
    (∀ text entries, files (path setting?) = some (.ok (Text.encode text)) →
      Toml.WritesLines text entries → (Members.keys entries).Nodup →
        (AllAdmitted entries → ∃ written, Holds entries written ∧
          Yields setting? written (load setting? files)) ∧
        (¬AllAdmitted entries → load setting? files = .error (.malformed (path setting?)))) ∧
    (files (path setting?) = none → Yields setting? standard (load setting? files)) ∧
    (∀ bytes, files (path setting?) = some (.ok bytes) →
      (∀ text table written, Text.decode? bytes = some text → Toml.parse text = some table →
        ¬Holds table written) → ∃ error, load setting? files = .error error) ∧
    (∀ entries : List (String × Toml.Node), (∀ entry ∈ entries, entry.2.IsPlain) →
      ∃ text, Toml.WritesLines text entries) := by
  refine ⟨?_, ?_, ?_, Toml.exists_writesLines⟩
  · intro text entries isFile writes distinct
    have given : ∀ written, ofFile files (path setting?) = .ok written ↔
        (∀ entry ∈ entries, entry.2.Fits) ∧ Holds entries written :=
      fun _ => ofFile_of_writesLines isFile writes distinct
    constructor
    · intro admitted
      obtain ⟨fits, written, holds⟩ := (exists_holds_iff_allAdmitted distinct).mpr admitted
      exact ⟨written, holds, yields_of_ofFile ((given written).mpr ⟨fits, holds⟩)⟩
    · intro notAdmitted
      have malformed : ofFile files (path setting?) = .error (.malformed (path setting?)) := by
        apply ofFile_eq_malformed isFile
        intro written isWritten
        obtain ⟨fits, holds⟩ := (given written).mp isWritten
        exact notAdmitted ((exists_holds_iff_allAdmitted distinct).mp ⟨fits, written, holds⟩)
      unfold load
      rw [malformed]
  · intro noFile
    apply yields_of_ofFile
    unfold ofFile
    rw [noFile]
  · intro bytes isFile noTable
    cases loaded : load setting? files with
    | error error => exact ⟨error, rfl⟩
    | ok configuration =>
        obtain ⟨written, isWritten, -⟩ := load_eq_ok_iff.mp loaded
        obtain ⟨text, table, decoded, parsed, holds⟩ := (ofFile_eq_ok_iff isFile).mp isWritten
        exact absurd holds (noTable text table written decoded parsed)

/-- The file has two lines, the last one without an end, and the port in the environment has a sign
and a zero before it. -/
def escapedText : List Char :=
  "port = 8080\n\"bind\" = \"\\u0061\" # local".toList

def signedPort : Variables := fun name =>
  if name = "LIAN_NIX_CONFIG" then some "here" else if name = "LIAN_NIX_PORT" then some "+080"
  else none

theorem escapedText_written :
    Toml.WritesLines escapedText [("port", .integer 8080), ("bind", .text "a")] := by
  have noSpace : Toml.AreSpaces [] := fun _ => List.not_mem_nil.elim
  have space : Toml.AreSpaces [' '] := List.all_eq_true.mp rfl
  have bareName : Toml.WritesName "port".toList "port" :=
    .bare (by decide) (List.all_eq_true.mp rfl)
  have integer : Toml.WritesValue (Nat.toDigits 10 8080) (.integer 8080) :=
    .integer (.unsigned 8080)
  have name : Toml.WritesName "\"bind\"".toList "bind" := by
    refine .quoted ⟨"bind".toList, rfl, ?_⟩
    exact .cons (.plain rfl (by decide) (by decide)) (.cons (.plain rfl (by decide) (by decide))
      (.cons (.plain rfl (by decide) (by decide)) (.cons (.plain rfl (by decide) (by decide))
        .nil)))
  have letter : Toml.WritesCharacter "\\u0061".toList 'a' :=
    .coded List.mem_cons_self (rfl : "0061".toList.mapM Text.hexValue? = some [0, 0, 6, 1]) rfl
  have value : Toml.WritesValue "\"\\u0061\"".toList (.text "a") :=
    .text ⟨"\\u0061".toList, rfl, .cons letter .nil⟩
  have comment : Toml.IsRemark " # local".toList := .comment space (List.all_eq_true.mp rfl)
  exact .entry (.intro noSpace bareName space space integer) (.spaces noSpace) (.newline _)
    (.entry (.intro noSpace name space space value) comment .last .nil)

theorem admits_escapedText : AllAdmitted [("port", .integer 8080), ("bind", .text "a")] := by
  intro entry membership
  simp only [List.mem_cons, List.not_mem_nil, or_false] at membership
  rcases membership with rfl | rfl
  · refine ⟨by decide, fun field same => ?_, fun field same => ⟨8080, ?_, rfl⟩⟩
    · cases field <;> exact absurd same (by decide)
    · cases field <;> decide
  · refine ⟨trivial, fun field same => ⟨_, rfl⟩, fun field same => ?_⟩
    cases field <;> exact absurd same (by decide)

theorem signedPort_admitted : IsPort "+080".toList 80 :=
  ⟨"080".toList, .inr rfl, by decide, List.all_eq_true.mp rfl, rfl, by decide⟩

theorem escapedText_overridden :
    (∃ configuration : Configuration,
      load signedPort (fun _ => some (.ok (Text.encode escapedText))) = .ok configuration ∧
      configuration.port = 80 ∧ configuration.bind = "a" ∧ configuration.probeTimeout = 10) ∧
    (∃ configuration, load signedPort (fun _ => none) = .ok configuration) ∧
    ∃ error, load signedPort (fun _ => some (.ok [0xff])) = .error error := by
  obtain ⟨fromFile, -⟩ :=
    load_takes_precedence signedPort fun _ => some (.ok (Text.encode escapedText))
  obtain ⟨-, fromDefaults, -⟩ := load_takes_precedence signedPort fun _ => none
  obtain ⟨-, -, fromOther, -⟩ := load_takes_precedence signedPort fun _ => some (.ok [0xff])
  have admitted : PortAdmitted signedPort := by
    rintro text ⟨⟩
    exact ⟨80, signedPort_admitted⟩
  refine ⟨?_, ?_, ?_⟩
  · obtain ⟨accepted, -⟩ := fromFile _ _ rfl escapedText_written (by decide)
    obtain ⟨written, holds, yields⟩ := accepted admits_escapedText
    obtain ⟨configuration, loaded, overrides⟩ := yields.admitted admitted
    refine ⟨configuration, loaded, ?_, ?_, ?_⟩
    · have read : readPort "+080".toList = .ok configuration.port :=
        readPort_eq_ok_iff.mpr overrides.port
      exact (Except.ok.inj read).symm
    · rcases holds.text .bind with given | ⟨absent, -⟩
      · exact overrides.bind.trans (Toml.Node.text.inj (Option.some.inj given)).symm
      · exact absurd absent (by decide)
    · rcases holds.natural .probeTimeout with ⟨given, -⟩ | ⟨-, default⟩
      · cases given
      · exact (overrides.natural .probeTimeout (by decide)).trans default
  · obtain ⟨configuration, loaded, -⟩ := (fromDefaults rfl).admitted admitted
    exact ⟨configuration, loaded⟩
  · apply fromOther _ rfl
    have invalid : Text.decode? [0xff] = none := by decide
    intro text table written decoded
    rw [invalid] at decoded
    contradiction

end PackageSearch.Configuration
