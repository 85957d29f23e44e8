import PackageSearch.Proofs.Json.Numeral
import PackageSearch.Proofs.Members
import Mathlib.Tactic.SplitIfs

/-!
# Printed values are read back

A value without doubles is read back from its text, when it does not hold more levels of lists and
objects than may be read: its strings character by character, its integers digit by digit, and its
lists and objects by induction on the value.
-/

namespace PackageSearch.Json

variable {Entry : Type} {done rest text : List Char} {character : Char} {fuel depth levels : Nat}
  {value : Json}

/-! ### Strings -/

theorem readString_backslash (read : readEscape text = .ok (character, rest)) :
    readString done ('\\' :: text) = readString (character :: done) rest := by
  rw [readString, read]

theorem readString_cons (notQuote : character ≠ '"') (notBackslash : character ≠ '\\')
    (notControl : 0x20 ≤ character.toNat) :
    readString done (character :: rest) = readString (character :: done) rest := by
  rw [readString]
  · exact if_neg (Nat.not_lt.mpr notControl)
  · exact notQuote
  · exact notBackslash

/-- A control character is written with its code, which has two digits. -/
theorem readUnicode_control (control : character.toNat < 0x20) :
    readUnicode ('0' :: '0' :: Text.hexDigit (character.toNat / 16) ::
      Text.hexDigit (character.toNat % 16) :: rest) = .ok (character, rest) := by
  have high := @Text.hexValue?_hexDigit (character.toNat / 16) (by omega)
  have low := @Text.hexValue?_hexDigit (character.toNat % 16) (by omega)
  have zero : Text.hexValue? '0' = some 0 := rfl
  have code : ((0 * 16 + 0) * 16 + character.toNat / 16) * 16 + character.toNat % 16 =
      character.toNat := by omega
  have notSurrogate {first last : Nat} (above : 0x20 ≤ first) :
      (decide (first ≤ character.toNat) && decide (character.toNat ≤ last)) = false := by
    rw [decide_eq_false (Nat.not_le.mpr (Nat.lt_of_lt_of_le control above)), Bool.false_and]
  rw [readUnicode, readHex, zero, high, low]
  simp only [code]
  rw [notSurrogate (by decide), if_neg Bool.false_ne_true, notSurrogate (by decide),
    if_neg Bool.false_ne_true, Char.ofNat_toNat]

/-- A character is read back from its escape. -/
theorem readString_escapeCharacter :
    readString done (escapeCharacter character ++ rest) = readString (character :: done) rest := by
  unfold escapeCharacter
  split_ifs with quote backslash backspace formFeed newline carriageReturn tab control
  iterate 7
    · subst character
      exact readString_backslash rfl
  · exact readString_backslash (readUnicode_control control)
  · exact readString_cons quote backslash (Nat.not_lt.mp control)

theorem readString_flatMap_escapeCharacter :
    readString done (text.flatMap escapeCharacter ++ '"' :: rest) =
      .ok (String.ofList (done.reverse ++ text), rest) := by
  induction text generalizing done with
  | nil => rw [List.append_nil, List.flatMap_nil, List.nil_append, readString]
  | cons character text inductionHypothesis =>
      rw [List.flatMap_cons, List.append_assoc, readString_escapeCharacter, inductionHypothesis,
        List.reverse_cons, List.append_assoc, List.singleton_append]

/-! ### Separated entries -/

/-- Entries with a comma before each of them. -/
def afterCommas (write : Entry → List Char) (entries : List Entry) : List Char :=
  entries.flatMap fun entry => ',' :: write entry

/-- Entries with a comma between any two of them. -/
def separated (write : Entry → List Char) : List Entry → List Char
  | [] => []
  | first :: others => write first ++ afterCommas write others

def printMember (member : String × Json) : List Char :=
  printString member.1 ++ ':' :: member.2.print

theorem printItems_eq (items : List Json) : printItems items = separated print items := by
  induction items with
  | nil => rfl
  | cons item rest inductionHypothesis =>
      cases rest with
      | nil => simp [printItems, separated, afterCommas]
      | cons next rest =>
          rw [printItems, inductionHypothesis]
          rfl

theorem printMembers_eq (members : List (String × Json)) :
    printMembers members = separated printMember members := by
  induction members with
  | nil => rfl
  | cons member rest inductionHypothesis =>
      cases rest with
      | nil => simp [printMembers, separated, afterCommas, printMember]
      | cons next rest =>
          rw [printMembers, inductionHypothesis]
          rfl

theorem length_le_afterCommas (write : Entry → List Char) (entries : List Entry) :
    entries.length ≤ (afterCommas write entries).length := by
  induction entries with
  | nil => exact Nat.le_refl 0
  | cons entry entries inductionHypothesis =>
      simp only [afterCommas, List.flatMap_cons, List.length_append, List.length_cons] at *
      omega

theorem length_le_separated (write : Entry → List Char) (entries : List Entry) :
    entries.length ≤ (separated write entries).length + 1 := by
  cases entries with
  | nil => exact Nat.zero_le _
  | cons first others =>
      have shorter := length_le_afterCommas write others
      simp only [separated, List.length_cons, List.length_append]
      omega

theorem length_le_of_mem {write : Entry → List Char} {entries : List Entry} {entry : Entry}
    (membership : entry ∈ entries) : (write entry).length ≤ (separated write entries).length := by
  cases entries with
  | nil => cases membership
  | cons first others =>
      rw [separated, List.length_append]
      rcases List.mem_cons.mp membership with rfl | later
      · exact Nat.le_add_right _ _
      · obtain ⟨before, after, rfl⟩ := List.append_of_mem later
        simp only [afterCommas, List.flatMap_append, List.flatMap_cons, List.length_append,
          List.length_cons]
        omega

/-! ### Where a printed value starts and ends -/

/-- A double is written with a digit after its sign, or as `null`. -/
theorem exists_floatText_eq_cons (value : Float) : ∃ first others,
    Number.floatText value = first :: others ∧ (first ∈ ['n', '-'] ∨ first.isDigit = true) := by
  have starts (digits : Nat) (place : Int) : ∃ first others,
      Number.decimalText digits place = first :: others ∧ first.isDigit = true := by
    obtain ⟨first, others, shown, areDigits⟩ := exists_toDigits_eq_cons digits
    have isDigit := areDigits first List.mem_cons_self
    have written : (toString digits).toList = first :: others := by
      rw [Nat.toString_eq_repr, Nat.toList_repr, shown]
    unfold Number.decimalText
    simp only [written]
    split_ifs
    · exact ⟨first, _, rfl, isDigit⟩
    · exact ⟨first, _, rfl, isDigit⟩
    · exact ⟨'0', _, rfl, rfl⟩
    · exact ⟨first, _, rfl, isDigit⟩
    · exact ⟨first, _, rfl, isDigit⟩
  unfold Number.floatText
  dsimp only
  split_ifs
  · exact ⟨'n', _, rfl, .inl (by decide)⟩
  · exact ⟨'-', _, rfl, .inl (by decide)⟩
  · exact ⟨'-', _, rfl, .inl (by decide)⟩
  · exact ⟨'0', _, rfl, .inr rfl⟩
  · obtain ⟨first, others, written, isDigit⟩ := starts _ _
    exact ⟨first, others, written, .inr isDigit⟩

theorem exists_integer_eq_cons (value : Int) : ∃ first others,
    (Number.integer value).print = first :: others ∧ (first = '-' ∨ first.isDigit = true) := by
  rcases print_integer_cases value with ⟨magnitude, -, printed⟩ | ⟨magnitude, -, -, printed⟩
  · obtain ⟨first, others, digits, areDigits⟩ := exists_toDigits_eq_cons magnitude
    exact ⟨first, others, printed.trans digits, .inr (areDigits first List.mem_cons_self)⟩
  · exact ⟨'-', _, printed, .inl rfl⟩

/-- What a printed value starts with. -/
theorem exists_print_eq_cons (value : Json) : ∃ first others, value.print = first :: others ∧
    (first ∈ ['n', 't', 'f', '"', '[', '-'] ∨ first.isDigit = true ∨
      first = '\x7b' ∧ ∃ members, value = .object members) := by
  cases value with
  | null => exact ⟨'n', _, rfl, .inl (by decide)⟩
  | boolean value =>
      cases value with
      | true => exact ⟨'t', _, rfl, .inl (by decide)⟩
      | false => exact ⟨'f', _, rfl, .inl (by decide)⟩
  | number value =>
      cases value with
      | integer value =>
          obtain ⟨first, others, printed, rfl | isDigit⟩ := exists_integer_eq_cons value
          · exact ⟨'-', others, printed, .inl (by decide)⟩
          · exact ⟨first, others, printed, .inr (.inl isDigit)⟩
      | float value =>
          obtain ⟨first, others, printed, starts | isDigit⟩ := exists_floatText_eq_cons value
          · have included : ['n', '-'] ⊆ ['n', 't', 'f', '"', '[', '-'] := by decide
            exact ⟨first, others, printed, .inl (included starts)⟩
          · exact ⟨first, others, printed, .inr (.inl isDigit)⟩
  | string text => exact ⟨'"', _, rfl, .inl (by decide)⟩
  | array items => exact ⟨'[', _, rfl, .inl (by decide)⟩
  | object members => exact ⟨'\x7b', _, rfl, .inr (.inr ⟨rfl, members, rfl⟩)⟩

/-- The text starts with a character that is not skipped and that closes no list. -/
def StartsItem (text : List Char) : Prop :=
  ∃ first others, text = first :: others ∧ isBlank first = false ∧ first ≠ ']'

theorem startsItem_print (value : Json) (rest : List Char) : StartsItem (value.print ++ rest) := by
  obtain ⟨first, others, printed, starts⟩ := exists_print_eq_cons value
  refine ⟨first, others ++ rest, by rw [printed, List.cons_append], ?_⟩
  rcases starts with listed | isDigit | ⟨rfl, -⟩
  · have checked : ∀ first ∈ ['n', 't', 'f', '"', '[', '-'],
        isBlank first = false ∧ first ≠ ']' := by simp [isBlank]
    exact checked first listed
  · exact ⟨isBlank_eq_false_of_isDigit isDigit, ne_of_isDigit isDigit (by decide)⟩
  · decide

theorem endsNumeral_cons (ends : character.isDigit = false ∧ character ∉ ['.', 'e', 'E']) :
    EndsNumeral (character :: rest) := by
  rintro first same
  obtain rfl := Option.some.inj same
  exact ends

theorem endsNumeral_afterCommas (write : Entry → List Char) (entries : List Entry)
    (ends : EndsNumeral rest) : EndsNumeral (afterCommas write entries ++ rest) := by
  cases entries with
  | nil => exact ends
  | cons entry entries => exact endsNumeral_cons (by decide)

/-! ### Lists and objects -/

/-- The value is read back, whatever follows it. -/
def ReadsBack (read : List Char → Reading Json) (value : Json) : Prop :=
  ∀ rest, EndsNumeral rest → read (value.print ++ rest) = .ok (value, rest)

variable {read : List Char → Reading Json}

theorem afterCommas_cons (write : Entry → List Char) (entry : Entry) (entries : List Entry) :
    afterCommas write (entry :: entries) ++ rest =
      ',' :: (write entry ++ (afterCommas write entries ++ rest)) := by
  rw [afterCommas, List.flatMap_cons, List.append_assoc, List.cons_append]
  rfl

theorem readItems_comma {item : Json} {items : List Json} (starts : StartsItem text)
    (found : read text = .ok (item, rest)) :
    readItems read (fuel + 1) items (',' :: text) = readItems read fuel (item :: items) rest := by
  obtain ⟨first, others, rfl, notBlank, notEnd⟩ := starts
  have comma : skipBlanks (',' :: first :: others) = ',' :: first :: others := skipBlanks_cons rfl
  simp only [readItems, comma, skipBlanks_cons notBlank]
  split
  · contradiction
  · rename_i same
    exact absurd (List.cons.inj same).1 notEnd
  · rw [found]

theorem readList_of_startsItem {item : Json} (starts : StartsItem text)
    (found : read text = .ok (item, rest)) :
    readList read fuel text = readItems read fuel [item] rest := by
  obtain ⟨first, others, rfl, notBlank, notEnd⟩ := starts
  rw [readList, skipBlanks_cons notBlank]
  split
  · contradiction
  · rename_i same
    exact absurd (List.cons.inj same).1 notEnd
  · rw [found]

theorem readItems_afterCommas {items done : List Json}
    (readBack : ∀ item ∈ items, ReadsBack read item) (enough : items.length < fuel) :
    readItems read fuel done (afterCommas print items ++ ']' :: rest) =
      .ok (done.reverse ++ items, rest) := by
  induction items generalizing fuel done with
  | nil =>
      cases fuel with
      | zero => contradiction
      | succ fuel =>
          rw [List.append_nil]
          rfl
  | cons item items inductionHypothesis =>
      cases fuel with
      | zero => contradiction
      | succ fuel =>
          obtain ⟨readsBack, readBack⟩ := List.forall_mem_cons.mp readBack
          have ends : EndsNumeral (afterCommas print items ++ ']' :: rest) :=
            endsNumeral_afterCommas print items (endsNumeral_cons (by decide))
          rw [afterCommas_cons, readItems_comma (startsItem_print item _) (readsBack _ ends),
            inductionHypothesis readBack (Nat.lt_of_succ_lt_succ enough), List.reverse_cons,
            List.append_assoc, List.singleton_append]

theorem readList_separated {items : List Json} (readBack : ∀ item ∈ items, ReadsBack read item)
    (enough : items.length ≤ fuel) :
    readList read fuel (separated print items ++ ']' :: rest) = .ok (items, rest) := by
  cases items with
  | nil => rfl
  | cons item items =>
      obtain ⟨readsBack, readBack⟩ := List.forall_mem_cons.mp readBack
      have ends : EndsNumeral (afterCommas print items ++ ']' :: rest) :=
        endsNumeral_afterCommas print items (endsNumeral_cons (by decide))
      rw [separated, List.append_assoc,
        readList_of_startsItem (startsItem_print item _) (readsBack _ ends),
        readItems_afterCommas readBack enough]
      rfl

/-! ### Objects -/

variable {member : String × Json} {members done : List (String × Json)}

theorem readMember_printMember (readsBack : ReadsBack read member.2) (ends : EndsNumeral rest) :
    ∃ text, printMember member ++ rest = '"' :: text ∧
      readMember read text = .ok (member, rest) := by
  refine ⟨_, rfl, ?_⟩
  have key : readString [] (member.1.toList.flatMap escapeCharacter ++
      '"' :: ':' :: (member.2.print ++ rest)) =
        .ok (member.1, ':' :: (member.2.print ++ rest)) := by
    rw [readString_flatMap_escapeCharacter, List.reverse_nil, List.nil_append,
      String.ofList_toList]
  have colon : skipBlanks (':' :: (member.2.print ++ rest)) = ':' :: (member.2.print ++ rest) :=
    skipBlanks_cons rfl
  simp only [List.append_assoc, List.cons_append, List.nil_append, List.append_eq]
  simp only [readMember, key, colon, readsBack rest ends]

theorem readMembers_comma (found : readMember read text = .ok (member, rest)) :
    readMembers read (fuel + 1) done (',' :: '"' :: text) =
      readMembers read fuel (member :: done) rest := by
  have comma : skipBlanks (',' :: '"' :: text) = ',' :: '"' :: text := skipBlanks_cons rfl
  have quote : skipBlanks ('"' :: text) = '"' :: text := skipBlanks_cons rfl
  simp only [readMembers, comma, quote, found]

theorem readMembers_afterCommas (readBack : ∀ member ∈ members, ReadsBack read member.2)
    (enough : members.length < fuel) :
    readMembers read fuel done (afterCommas printMember members ++ '\x7d' :: rest) =
      .ok (done.reverse ++ members, rest) := by
  induction members generalizing fuel done with
  | nil =>
      cases fuel with
      | zero => contradiction
      | succ fuel =>
          rw [List.append_nil]
          rfl
  | cons member members inductionHypothesis =>
      cases fuel with
      | zero => contradiction
      | succ fuel =>
          obtain ⟨readsBack, readBack⟩ := List.forall_mem_cons.mp readBack
          have ends : EndsNumeral (afterCommas printMember members ++ '\x7d' :: rest) :=
            endsNumeral_afterCommas printMember members (endsNumeral_cons (by decide))
          obtain ⟨text, written, found⟩ := readMember_printMember readsBack ends
          rw [afterCommas_cons, written, readMembers_comma found,
            inductionHypothesis readBack (Nat.lt_of_succ_lt_succ enough), List.reverse_cons,
            List.append_assoc, List.singleton_append]

theorem readObject_separated (readBack : ∀ member ∈ members, ReadsBack read member.2)
    (enough : members.length ≤ fuel) :
    readObject read fuel (separated printMember members ++ '\x7d' :: rest) =
      .ok (members, rest) := by
  cases members with
  | nil => rfl
  | cons member members =>
      obtain ⟨readsBack, readBack⟩ := List.forall_mem_cons.mp readBack
      have ends : EndsNumeral (afterCommas printMember members ++ '\x7d' :: rest) :=
        endsNumeral_afterCommas printMember members (endsNumeral_cons (by decide))
      obtain ⟨text, written, found⟩ := readMember_printMember readsBack ends
      have quote : skipBlanks ('"' :: text) = '"' :: text := skipBlanks_cons rfl
      simp only [separated, List.append_assoc, written, readObject, quote, found,
        readMembers_afterCommas readBack enough, List.reverse_singleton, List.singleton_append]

/-! ### Values -/

/-- Values without doubles, with at most `levels` levels of lists and objects. -/
inductive Readable : Nat → Json → Prop where
  | null {levels : Nat} : Readable levels .null
  | boolean {levels : Nat} (value : Bool) : Readable levels (.boolean value)
  | integer {levels : Nat} {value : Int} : IsKept value → Readable levels (.number (.integer value))
  | string {levels : Nat} (text : String) : Readable levels (.string text)
  | array {levels : Nat} {items : List Json} :
      (∀ item ∈ items, Readable levels item) → Readable (levels + 1) (.array items)
  | object {levels : Nat} {members : List (String × Json)} :
      (Members.keys members).Nodup → (∀ member ∈ members, Readable levels member.2) →
        Readable (levels + 1) (.object members)

theorem readsBack_string (text : String) :
    ReadsBack (readValue fuel (depth + 1)) (.string text) := by
  intro rest ends
  have written : print (.string text) ++ rest =
      '"' :: (text.toList.flatMap escapeCharacter ++ '"' :: rest) := by
    rw [print, printString, List.cons_append, List.cons_append, List.append_assoc,
      List.singleton_append]
  have quote : skipBlanks ('"' :: (text.toList.flatMap escapeCharacter ++ '"' :: rest)) =
      '"' :: (text.toList.flatMap escapeCharacter ++ '"' :: rest) := skipBlanks_cons rfl
  simp only [written, readValue, quote, readString_flatMap_escapeCharacter, List.reverse_nil,
    List.nil_append, String.ofList_toList]
  rfl

theorem readsBack_array {items : List Json} (nested : depth ≠ 0)
    (readBack : ∀ item ∈ items, ReadsBack (readValue fuel depth) item)
    (enough : items.length ≤ fuel) : ReadsBack (readValue fuel (depth + 1)) (.array items) := by
  intro rest ends
  have text : print (.array items) ++ rest = '[' :: (separated print items ++ ']' :: rest) := by
    rw [print, printItems_eq, List.cons_append, List.cons_append, List.append_assoc,
      List.singleton_append]
  have bracket : skipBlanks ('[' :: (separated print items ++ ']' :: rest)) =
      '[' :: (separated print items ++ ']' :: rest) := skipBlanks_cons rfl
  simp only [text, readValue, bracket, nested, if_false, readList_separated readBack enough]
  rfl

/-- Members are read in the order in which they are printed, though a key may come twice. -/
theorem readValue_object {members : List (String × Json)} (nested : depth ≠ 0)
    (readBack : ∀ member ∈ members, ReadsBack (readValue fuel depth) member.2)
    (enough : members.length ≤ fuel) (rest : List Char) :
    readValue fuel (depth + 1) (print (.object members) ++ rest) =
      .ok (.object (Members.ofPairs members), rest) := by
  have text : print (.object members) ++ rest =
      '\x7b' :: (separated printMember members ++ '\x7d' :: rest) := by
    rw [print, printMembers_eq, List.cons_append, List.cons_append, List.append_assoc,
      List.singleton_append]
  have brace : skipBlanks ('\x7b' :: (separated printMember members ++ '\x7d' :: rest)) =
      '\x7b' :: (separated printMember members ++ '\x7d' :: rest) := skipBlanks_cons rfl
  simp only [text, readValue, brace, nested, if_false, readObject_separated readBack enough]
  rfl

theorem length_print_array (items : List Json) :
    (print (.array items)).length = (separated print items).length + 2 := by
  rw [print, printItems_eq, List.length_append, List.length_cons, List.length_singleton]

theorem length_print_object (members : List (String × Json)) :
    (print (.object members)).length = (separated printMember members).length + 2 := by
  rw [print, printMembers_eq, List.length_append, List.length_cons, List.length_singleton]

theorem length_printMember (member : String × Json) :
    member.2.print.length ≤ (printMember member).length := by
  rw [printMember, List.length_append, List.length_cons]
  omega

/-- A value without doubles is read back, when its levels are within the depth. -/
theorem Readable.readsBack (readable : Readable levels value) (within : levels < depth)
    (enough : value.print.length ≤ fuel) : ReadsBack (readValue fuel depth) value := by
  cases depth with
  | zero => contradiction
  | succ depth =>
      induction readable generalizing depth with
      | null => exact fun rest _ => rfl
      | boolean value =>
          cases value with
          | true => exact fun rest _ => rfl
          | false => exact fun rest _ => rfl
      | integer kept => exact fun rest ends => readValue_integer kept ends
      | string text => exact readsBack_string text
      | @array levels items readable inductionHypothesis =>
          cases depth with
          | zero => exact absurd within (Nat.not_lt.mpr (Nat.le_add_left 1 levels))
          | succ depth =>
              rw [length_print_array] at enough
              have count := length_le_separated print items
              refine readsBack_array (Nat.succ_ne_zero depth) ?_ (by omega)
              intro item membership
              have shorter := @length_le_of_mem _ print _ _ membership
              exact inductionHypothesis item membership (by omega) depth (by omega)
      | @object levels members distinct readable inductionHypothesis =>
          cases depth with
          | zero => exact absurd within (Nat.not_lt.mpr (Nat.le_add_left 1 levels))
          | succ depth =>
              intro rest ends
              rw [length_print_object] at enough
              have count := length_le_separated printMember members
              rw [readValue_object (Nat.succ_ne_zero depth) ?_ (by omega) rest,
                Members.ofPairs_of_nodup distinct]
              intro member membership
              have shorter := @length_le_of_mem _ printMember _ _ membership
              have shorterValue := length_printMember member
              exact inductionHypothesis member membership (by omega) depth (by omega)

end PackageSearch.Json
