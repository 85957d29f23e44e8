import PackageSearch.Proofs.Members
import PackageSearch.Proofs.Text.Blank
import PackageSearch.Proofs.Toml.Numeral
import PackageSearch.Proofs.Toml.Quoted
import PackageSearch.Toml.Document

/-!
# Lines with a key and a value

A TOML text in which every line gives a value to a key, or nothing, stands for the table of these
keys and values, in their order. It stands for nothing if a key is given twice, or if an integer
does not fit into 64 bits.
-/

namespace PackageSearch.Toml

variable {text rest tail : List Char} {name value : String} {node : Node}
  {entry : String × Node} {entries : List (String × Node)}

/-! ### How a line may be written -/

/-- A name in a key: letters, digits and the like, or a basic string. -/
inductive WritesName : List Char → String → Prop where
  | bare {name : String} : name ≠ "" → (∀ character ∈ name.toList, isBare character = true) →
      WritesName name.toList name
  | quoted {text : List Char} {name : String} : IsBasic text name → WritesName text name

inductive WritesValue : List Char → Node → Prop where
  | text {text : List Char} {value : String} : IsBasic text value → WritesValue text (.text value)
  | integer {text : List Char} {value : Int} : WritesInteger text value →
      WritesValue text (.integer value)
  | boolean (value : Bool) :
      WritesValue (if value then "true".toList else "false".toList) (.boolean value)

def AreSpaces (text : List Char) : Prop :=
  ∀ character ∈ text, isSpace character = true

inductive WritesEntry : List Char → String × Node → Prop where
  | intro {indent key before after shown : List Char} {name : String} {node : Node} :
      AreSpaces indent → WritesName key name → AreSpaces before → AreSpaces after →
      WritesValue shown node →
      WritesEntry (indent ++ (key ++ (before ++ '=' :: (after ++ shown)))) (name, node)

/-- Spaces and a comment, or only one of them, or nothing. -/
inductive IsRemark : List Char → Prop where
  | spaces {spaces : List Char} : AreSpaces spaces → IsRemark spaces
  | comment {spaces comment : List Char} : AreSpaces spaces →
      (∀ character ∈ comment, isPlain character = true) → IsRemark (spaces ++ '#' :: comment)

/-- The end of a line with what follows it; the last line may have none. -/
inductive EndsLine : List Char → List Char → Prop where
  | newline (rest : List Char) : EndsLine ('\n' :: rest) rest
  | carriageReturn (rest : List Char) : EndsLine ('\r' :: '\n' :: rest) rest
  | last : EndsLine [] []

inductive WritesLines : List Char → List (String × Node) → Prop where
  | nil : WritesLines [] []
  | remark {remark tail rest : List Char} {entries : List (String × Node)} :
      IsRemark remark → EndsLine tail rest → WritesLines rest entries →
      WritesLines (remark ++ tail) entries
  | entry {text remark tail rest : List Char} {entry : String × Node}
      {entries : List (String × Node)} :
      WritesEntry text entry → IsRemark remark → EndsLine tail rest → WritesLines rest entries →
      WritesLines (text ++ (remark ++ tail)) (entry :: entries)

/-! ### Every list of keys and values can be written -/

/-- The values that a line is written with here. -/
def Node.IsPlain : Node → Prop
  | .text _ | .integer _ | .boolean _ => True
  | _ => False

theorem exists_writesValue (plain : node.IsPlain) : ∃ text, WritesValue text node := by
  cases node with
  | text value =>
      obtain ⟨text, isBasic⟩ := exists_isBasic value
      exact ⟨text, .text isBasic⟩
  | integer value =>
      cases value with
      | ofNat magnitude => exact ⟨_, .integer (.unsigned magnitude)⟩
      | negSucc less => exact ⟨_, .integer (.negative (less + 1))⟩
  | boolean value => exact ⟨_, .boolean value⟩
  | _ => exact plain.elim

theorem exists_writesLines (entries : List (String × Node))
    (plain : ∀ entry ∈ entries, entry.2.IsPlain) : ∃ text, WritesLines text entries := by
  have noSpaces : AreSpaces [] := fun _ => List.not_mem_nil.elim
  induction entries with
  | nil => exact ⟨[], .nil⟩
  | cons entry entries inductionHypothesis =>
      obtain ⟨isPlain, plain⟩ := List.forall_mem_cons.mp plain
      obtain ⟨key, isBasic⟩ := exists_isBasic entry.1
      obtain ⟨shown, writes⟩ := exists_writesValue isPlain
      obtain ⟨rest, writesRest⟩ := inductionHypothesis plain
      exact ⟨_, .entry (.intro noSpaces (.quoted isBasic) noSpaces noSpaces writes)
        (.spaces noSpaces) (.newline rest) writesRest⟩

/-! ### What can be read -/

/-- An integer has to fit into 64 bits. -/
def Node.Fits : Node → Prop
  | .integer value => FitsInteger value
  | _ => True

instance (node : Node) : Decidable node.Fits := by
  unfold Node.Fits
  split <;> infer_instance

/-! ### Spaces and ends of lines -/

theorem isSpace_iff {character : Char} :
    isSpace character = true ↔ character = ' ' ∨ character = '\t' := by
  simp [isSpace]

theorem skipSpaces_append {spaces : List Char} (areSpaces : AreSpaces spaces)
    (notSpace : ∀ first ∈ rest.head?, isSpace first = false) :
    skipSpaces (spaces ++ rest) = rest :=
  Text.dropWhile_append_of_head? areSpaces notSpace

theorem skipSpaces_of_head (notSpace : ∀ first ∈ rest.head?, isSpace first = false) :
    skipSpaces rest = rest :=
  skipSpaces_append (fun _ => List.not_mem_nil.elim) notSpace

theorem EndsLine.head (ends : EndsLine tail rest) :
    ∀ first ∈ tail.head?, first = '\n' ∨ first = '\r' := by
  cases ends with
  | newline =>
      rintro first ⟨⟩
      exact .inl rfl
  | carriageReturn =>
      rintro first ⟨⟩
      exact .inr rfl
  | last => exact fun _ isFirst => nomatch isFirst

theorem EndsLine.dropWhile_eq (ends : EndsLine tail rest) {holds : Char → Bool}
    (newline : holds '\n' = false) (carriageReturn : holds '\r' = false) :
    tail.dropWhile holds = tail := by
  cases ends <;> simp [newline, carriageReturn]

theorem EndsLine.afterLine?_eq (ends : EndsLine tail rest) : afterLine? tail = some rest := by
  cases ends <;> rfl

theorem afterLine?_of_isRemark {remark : List Char} (isRemark : IsRemark remark)
    (ends : EndsLine tail rest) : afterLine? (remark ++ tail) = some rest := by
  have endsAtOnce := ends.afterLine?_eq
  have noSpaces : skipSpaces tail = tail := ends.dropWhile_eq rfl rfl
  cases isRemark with
  | spaces areSpaces =>
      have skipped : skipSpaces (remark ++ tail) = skipSpaces tail := by
        rw [skipSpaces, List.dropWhile_append_of_pos areSpaces, ← skipSpaces]
      rw [afterLine?, skipped, ← afterLine?, endsAtOnce]
  | @comment spaces comment areSpaces arePlain =>
      have skipped : skipSpaces (spaces ++ '#' :: comment ++ tail) = '#' :: (comment ++ tail) := by
        rw [List.append_assoc, skipSpaces_append areSpaces]
        · rfl
        · rintro first ⟨⟩
          rfl
      have skippedComment : skipComment ('#' :: (comment ++ tail)) = tail := by
        rw [skipComment, List.dropWhile_append_of_pos arePlain, ends.dropWhile_eq rfl rfl]
      have noComment : skipComment tail = tail := by
        cases ends <;> rfl
      rw [afterLine?, skipped, skippedComment]
      rw [afterLine?, noSpaces, noComment] at endsAtOnce
      exact endsAtOnce

theorem EndsValue.spaces {spaces : List Char} (areSpaces : AreSpaces spaces)
    (ends : EndsValue rest) : EndsValue (spaces ++ rest) := by
  intro first isFirst
  cases spaces with
  | nil => exact ends first isFirst
  | cons space spaces =>
      obtain rfl := Option.some.inj isFirst
      rcases isSpace_iff.mp (areSpaces space List.mem_cons_self) with rfl | rfl <;> decide

theorem endsValue_of_isRemark {remark : List Char} (isRemark : IsRemark remark)
    (ends : EndsLine tail rest) : EndsValue (remark ++ tail) := by
  cases isRemark with
  | spaces areSpaces =>
      apply EndsValue.spaces areSpaces
      intro first isFirst
      rcases ends.head first isFirst with rfl | rfl <;> decide
  | comment areSpaces =>
      rw [List.append_assoc]
      apply EndsValue.spaces areSpaces
      rintro first ⟨⟩
      decide

/-! ### Names and values -/

theorem readBasic_of_isBasic (isBasic : IsBasic text value) : ∃ inside, text = '"' :: inside ∧
    ∀ rest, readBasic [] (inside ++ rest) = some (value, rest) := by
  obtain ⟨inside, rfl, writes⟩ := isBasic
  refine ⟨inside ++ ['"'], rfl, fun rest => ?_⟩
  have read : readBasic [] (inside ++ '"' :: rest) = _ := readBasic_append writes []
  rw [List.append_assoc, List.singleton_append, read, List.reverse_nil, List.nil_append,
    String.ofList_toList]

theorem readName_of_writesName (writes : WritesName text name)
    (ends : ∀ first ∈ rest.head?, isBare first = false) :
    readName (text ++ rest) = some (name, rest) := by
  cases writes with
  | bare nonempty areBare =>
      have taken := Text.takeWhile_append_of_head? areBare ends
      have dropped := Text.dropWhile_append_of_head? areBare ends
      obtain ⟨first, others, isName⟩ :=
        List.exists_cons_of_ne_nil (mt String.toList_eq_nil_iff.mp nonempty)
      have firstBare := areBare first (isName ▸ List.mem_cons_self)
      have notMarked : ∀ mark following, isBare mark = false →
          name.toList ++ rest ≠ mark :: following := by
        intro mark following notBare same
        rw [isName] at same
        rw [(List.cons.inj same).1, notBare] at firstBare
        contradiction
      unfold readName
      split
      · exact absurd ‹_› (notMarked _ _ rfl)
      · exact absurd ‹_› (notMarked _ _ rfl)
      · have notEmpty : name.toList.isEmpty = false := by rw [isName, List.isEmpty_cons]
        simp only [taken, dropped, notEmpty, Bool.false_eq_true, if_false, String.ofList_toList]
  | quoted isBasic =>
      obtain ⟨inside, rfl, read⟩ := readBasic_of_isBasic isBasic
      exact read rest

/-- A string is not over several lines, not even an empty one, unless a third mark follows it. -/
theorem readString_of_isBasic (isBasic : IsBasic text value) (ends : EndsValue rest) :
    readString (text ++ rest) = some (value, rest) := by
  obtain ⟨inside, isText, read⟩ := readBasic_of_isBasic isBasic
  obtain ⟨written, rfl, writes⟩ := isBasic
  have notLong : ∀ others, '"' :: written ++ ['"'] ++ rest ≠ '"' :: '"' :: '"' :: others := by
    intro others same
    cases written with
    | nil =>
        obtain rfl : rest = '"' :: others := (List.cons.inj (List.cons.inj same).2).2
        exact ends.ne rfl (by decide) rfl
    | cons first written =>
        exact writes.ne_mark first rfl (List.cons.inj (List.cons.inj same).2).1
  unfold readString
  split
  · exact absurd ‹_› (notLong _)
  · rename_i opened
    rw [isText, List.cons_append] at opened
    obtain rfl := (List.cons.inj opened).2
    exact read rest
  · rename_i opened
    exact absurd (List.cons.inj opened).1 (by decide)
  · rename_i opened
    exact absurd (List.cons.inj opened).1 (by decide)
  · rename_i other _ _
    exact absurd rfl (other _)

theorem readNode_of_writesValue (writes : WritesValue text node) (ends : EndsValue rest)
    (fuel depth : Nat) :
    readNode fuel depth (text ++ rest) = if node.Fits then some (node, rest) else none := by
  cases writes with
  | text isBasic =>
      obtain ⟨inside, isText, read⟩ := readBasic_of_isBasic isBasic
      have read := readString_of_isBasic isBasic ends
      subst isText
      rw [List.cons_append] at read ⊢
      rw [readNode.eq_def]
      simp [read, Node.Fits]
  | @integer _ number writes =>
      have quantity : readQuantity (text ++ rest) =
          if FitsInteger number then some (.integer number, rest) else none := by
        rw [readQuantity, readMoment_of_writesInteger writes ends,
          readFloat_of_writesInteger writes ends, readInteger_of_writesInteger writes ends]
        split_ifs <;> rfl
      obtain ⟨first, others, rfl, other⟩ := writes.exists_cons
      rw [List.cons_append] at quantity ⊢
      have isQuantity : readNode fuel depth (first :: (others ++ rest)) =
          readQuantity (first :: (others ++ rest)) := by
        rw [readNode.eq_def]
        simp [literalMark, other '"' rfl (by decide), other '\x27' rfl (by decide),
          other 't' rfl (by decide), other 'f' rfl (by decide), other '[' rfl (by decide),
          other '\x7b' rfl (by decide)]
      rw [isQuantity, quantity]
      exact if_congr Iff.rfl rfl rfl
  | boolean value =>
      cases value <;> rw [readNode.eq_def] <;> simp [readWord, Node.Fits, literalMark]

/-- A name begins with none of the characters that begin anything else on a line. -/
theorem WritesName.exists_cons (writes : WritesName text name) :
    ∃ first others, text = first :: others ∧
      ∀ other, isBare other = false → other ≠ '"' → first ≠ other := by
  cases writes with
  | bare nonempty areBare =>
      obtain ⟨first, others, isName⟩ :=
        List.exists_cons_of_ne_nil (mt String.toList_eq_nil_iff.mp nonempty)
      have isBare := areBare first (isName ▸ List.mem_cons_self)
      refine ⟨first, others, isName, ?_⟩
      rintro other notBare - rfl
      rw [notBare] at isBare
      contradiction
  | quoted isBasic =>
      obtain ⟨inside, rfl, -⟩ := isBasic
      exact ⟨'"', _, rfl, fun _ _ notMark => Ne.symm notMark⟩

theorem WritesName.isSpace_eq_false (writes : WritesName text name) :
    ∀ first ∈ (text ++ rest).head?, isSpace first = false := by
  obtain ⟨first, others, rfl, other⟩ := writes.exists_cons
  rintro _ ⟨⟩
  simp [isSpace, other ' ' rfl (by decide), other '\t' rfl (by decide)]

theorem WritesValue.isSpace_eq_false (writes : WritesValue text node) :
    ∀ first ∈ (text ++ rest).head?, isSpace first = false := by
  cases writes with
  | text isBasic =>
      obtain ⟨inside, rfl, -⟩ := isBasic
      rintro _ ⟨⟩
      rfl
  | integer writes =>
      obtain ⟨first, others, rfl, other⟩ := writes.exists_cons
      rintro _ ⟨⟩
      simp [isSpace, other ' ' rfl (by decide), other '\t' rfl (by decide)]
  | boolean value =>
      cases value <;>
      · rintro _ ⟨⟩
        rfl

/-! ### Assignments -/

/-- The assignment of a value to a key of a single name. -/
def Assignment.ofEntry (entry : String × Node) : Assignment where
  key := { parents := [], name := entry.1 }
  value := entry.2

theorem readKey_of_writesName (writes : WritesName text name) {spaces : List Char}
    (areSpaces : AreSpaces spaces) :
    readKey (text ++ (spaces ++ '=' :: rest)) = some ({ parents := [], name }, '=' :: rest) := by
  have noSpace : skipSpaces (text ++ (spaces ++ '=' :: rest)) = text ++ (spaces ++ '=' :: rest) :=
    skipSpaces_of_head writes.isSpace_eq_false
  have ends : ∀ first ∈ (spaces ++ '=' :: rest).head?, isBare first = false := by
    cases spaces with
    | nil =>
        rintro _ ⟨⟩
        rfl
    | cons space spaces =>
        rintro _ ⟨⟩
        rcases isSpace_iff.mp (areSpaces space List.mem_cons_self) with rfl | rfl <;> rfl
  have afterName : skipSpaces (spaces ++ '=' :: rest) = '=' :: rest := by
    apply skipSpaces_append areSpaces
    rintro _ ⟨⟩
    rfl
  rw [readKey, keyLimit, readKeyAfter, noSpace, readName_of_writesName writes ends]
  simp only [afterName]
  rfl

theorem WritesEntry.exists_unindented (writes : WritesEntry text entry) :
    ∃ key before after shown, WritesName key entry.1 ∧ AreSpaces before ∧ AreSpaces after ∧
      WritesValue shown entry.2 ∧ ∀ rest, skipSpaces (text ++ rest) =
        key ++ (before ++ '=' :: (after ++ (shown ++ rest))) := by
  cases writes with
  | @intro indent key before after shown name node areSpaces writesName areBefore areAfter
      writesValue =>
    refine ⟨key, before, after, shown, writesName, areBefore, areAfter, writesValue, ?_⟩
    intro rest
    simp only [List.append_assoc, List.cons_append]
    exact skipSpaces_append areSpaces writesName.isSpace_eq_false

theorem readAssignment_of_writesEntry (writes : WritesEntry text entry) (ends : EndsValue rest)
    (fuel depth : Nat) :
    readAssignment (readNode fuel depth) (skipSpaces (text ++ rest)) =
      if entry.2.Fits then some (.ofEntry entry, rest) else none := by
  obtain ⟨key, before, after, shown, writesName, areBefore, areAfter, writesValue, unindented⟩ :=
    writes.exists_unindented
  have value : skipSpaces (after ++ (shown ++ rest)) = shown ++ rest :=
    skipSpaces_append areAfter writesValue.isSpace_eq_false
  rw [unindented, readAssignment, readKey_of_writesName writesName areBefore]
  simp only [value, readNode_of_writesValue writesValue ends]
  split_ifs <;> rfl

def statementOf? (entry : String × Node) : Option Statement :=
  if entry.2.Fits then some (.assignment (.ofEntry entry)) else none

theorem readStatement_of_writesEntry (writes : WritesEntry text entry) (ends : EndsValue rest)
    (length : Nat) :
    readStatement length (skipSpaces (text ++ rest)) = (statementOf? entry).map (·, rest) := by
  have read := readAssignment_of_writesEntry writes ends length (depthLimit - 1)
  obtain ⟨key, before, after, shown, writesName, -, -, -, unindented⟩ := writes.exists_unindented
  obtain ⟨first, others, rfl, other⟩ := writesName.exists_cons
  unfold readStatement
  split
  · rename_i isHeader
    rw [unindented] at isHeader
    exact absurd (List.cons.inj isHeader).1 (other '[' rfl (by decide))
  · rw [read, statementOf?]
    split_ifs <;> rfl

theorem afterLine?_of_writesEntry (writes : WritesEntry text entry) :
    afterLine? (text ++ rest) = none := by
  obtain ⟨key, before, after, shown, writesName, -, -, -, unindented⟩ := writes.exists_unindented
  obtain ⟨first, others, rfl, other⟩ := writesName.exists_cons
  have noComment : ∀ following, skipComment (first :: following) = first :: following := by
    intro following
    unfold skipComment
    split
    · rename_i same
      exact absurd (List.cons.inj same).1 (other '#' rfl (by decide))
    · rfl
  rw [afterLine?, unindented, List.cons_append, noComment]
  unfold afterLineEnd?
  split
  · contradiction
  · split
    · rename_i same
      exact absurd (List.cons.inj same).1 (other '\n' rfl (by decide))
    · rename_i same
      exact absurd (List.cons.inj same).1 (other '\r' rfl (by decide))
    · rfl

/-! ### Lines -/

variable {length fuel : Nat} {done : List Statement}

theorem readStatements_nil : readStatements length (fuel + 1) done [] = some done.reverse :=
  rfl

theorem readStatements_of_afterLine? (ended : afterLine? text = some rest) :
    readStatements length (fuel + 1) done text =
      if rest = [] then some done.reverse else readStatements length fuel done rest := by
  rw [readStatements, ended]
  cases rest <;> rfl

theorem EndsLine.length_lt (ends : EndsLine tail rest) (goesOn : rest ≠ []) :
    rest.length < tail.length := by
  cases ends with
  | newline => exact Nat.lt_succ_self _
  | carriageReturn => exact Nat.lt_succ_of_lt (Nat.lt_succ_self _)
  | last => contradiction

theorem readStatements_of_statement {line : List Char} {statement : Statement}
    (notEmpty : afterLine? text = none)
    (read : readStatement length (skipSpaces text) = some (statement, line))
    (ended : afterLine? line = some rest) :
    readStatements length (fuel + 1) done text =
      readStatements length fuel (statement :: done) rest := by
  rw [readStatements, notEmpty]
  simp only [read, ended]

theorem readStatements_of_misfit (notEmpty : afterLine? text = none)
    (unread : readStatement length (skipSpaces text) = none) :
    readStatements length (fuel + 1) done text = none := by
  rw [readStatements, notEmpty]
  simp only [unread]

theorem EndsLine.length_le (ends : EndsLine tail rest) : rest.length ≤ tail.length := by
  by_cases goesOn : rest = []
  · simp [goesOn]
  · exact Nat.le_of_lt (ends.length_lt goesOn)

theorem WritesEntry.length_pos (writes : WritesEntry text entry) : 0 < text.length := by
  cases writes with
  | intro =>
      simp only [List.length_append, List.length_cons]
      omega

/-- Each line costs one unit of fuel and has at least one character, or is the last one. -/
theorem readStatements_of_writesLines (writes : WritesLines text entries) (length fuel : Nat)
    (done : List Statement) (enough : text.length < fuel) :
    readStatements length fuel done text =
      (entries.mapM statementOf?).map (done.reverse ++ ·) := by
  induction writes generalizing fuel done with
  | nil =>
      obtain ⟨fuel, rfl⟩ := Nat.exists_eq_add_of_lt enough
      simp [readStatements_nil]
  | @remark remark tail rest entries isRemark ends writes inductionHypothesis =>
      obtain ⟨more, rfl⟩ := Nat.exists_eq_add_of_lt enough
      rw [readStatements_of_afterLine? (afterLine?_of_isRemark isRemark ends)]
      split_ifs with isLast
      · subst isLast
        exact inductionHypothesis 1 done (by decide)
      · have shorter := ends.length_lt isLast
        rw [List.length_append]
        exact inductionHypothesis _ done (by omega)
  | @entry text remark tail rest entry entries writesEntry isRemark ends writes
      inductionHypothesis =>
      obtain ⟨more, rfl⟩ := Nat.exists_eq_add_of_lt enough
      have notEmpty : afterLine? (text ++ (remark ++ tail)) = none :=
        afterLine?_of_writesEntry writesEntry
      have read := readStatement_of_writesEntry writesEntry (endsValue_of_isRemark isRemark ends)
        length
      have ended := afterLine?_of_isRemark isRemark ends
      rw [List.mapM_cons]
      cases fits : statementOf? entry with
      | none =>
          rw [fits] at read
          exact readStatements_of_misfit notEmpty read
      | some statement =>
          rw [fits] at read
          have shorter : rest.length ≤ tail.length := ends.length_le
          have notNil : 0 < text.length := writesEntry.length_pos
          rw [readStatements_of_statement notEmpty read ended, inductionHypothesis]
          · cases entries.mapM statementOf? <;> simp
          · rw [List.length_append, List.length_append]
            omega

theorem mapM_statementOf? (entries : List (String × Node)) : entries.mapM statementOf? =
    if ∀ entry ∈ entries, entry.2.Fits then
      some (entries.map fun entry => .assignment (.ofEntry entry))
    else none := by
  induction entries with
  | nil => simp
  | cons entry entries inductionHypothesis =>
      rw [List.mapM_cons, inductionHypothesis, statementOf?]
      have all : (∀ other ∈ entry :: entries, other.2.Fits) ↔
          entry.2.Fits ∧ ∀ other ∈ entries, other.2.Fits :=
        List.forall_mem_cons
      by_cases fits : entry.2.Fits
      · by_cases others : ∀ other ∈ entries, other.2.Fits
        · rw [if_pos fits, if_pos others, if_pos (all.mpr ⟨fits, others⟩)]
          rfl
        · rw [if_pos fits, if_neg others, if_neg fun both => others (all.mp both).2]
          rfl
      · rw [if_neg fits, if_neg fun both => fits (all.mp both).1]
        rfl

/-! ### Tables -/

theorem assign_ofEntry (table : Table) (entry : String × Node) :
    Table.assign table (.ofEntry entry) =
      if entry.1 ∈ Members.keys table then none else some (table ++ [entry]) := by
  have added : Table.assign table (.ofEntry entry) = Table.add entry.1 entry.2 table := by
    simp [Table.assign, Assignment.ofEntry, Table.changeAt]
  rw [added, Table.add]
  by_cases present : entry.1 ∈ Members.keys table
  · rw [if_pos (Members.get?_isSome_iff.mpr present), if_pos present]
  · rw [if_neg (mt Members.get?_isSome_iff.mp present), if_neg present,
      Members.put_of_not_mem present]

theorem assignAll_ofEntry (table : Table) (distinct : (Members.keys table).Nodup)
    (entries : List (String × Node)) :
    Table.assignAll table (entries.map .ofEntry) =
      if (Members.keys (table ++ entries)).Nodup then some (table ++ entries) else none := by
  induction entries generalizing table with
  | nil => simp [Table.assignAll, distinct]
  | cons entry entries inductionHypothesis =>
      have next : Table.assignAll table ((entry :: entries).map .ofEntry) =
          (Table.assign table (.ofEntry entry)).bind fun table =>
            Table.assignAll table (entries.map .ofEntry) :=
        rfl
      have moved : table ++ entry :: entries = table ++ [entry] ++ entries := by simp
      rw [next, assign_ofEntry]
      by_cases present : entry.1 ∈ Members.keys table
      · have repeated : ¬(Members.keys (table ++ entry :: entries)).Nodup := by
          rw [Members.keys_append, List.nodup_append]
          exact fun split => split.2.2 _ present _ List.mem_cons_self rfl
        rw [if_pos present, if_neg repeated]
        rfl
      · have longer := Members.nodup_keys_put distinct entry.1 entry.2
        rw [Members.put_of_not_mem present] at longer
        rw [if_neg present, Option.bind_some, inductionHypothesis _ longer, moved]

theorem ofStatements_map (entries : List (String × Node)) :
    Document.ofStatements (entries.map fun entry => .assignment (.ofEntry entry)) =
      ⟨entries.map .ofEntry, []⟩ := by
  induction entries with
  | nil => rfl
  | cons entry entries inductionHypothesis =>
      rw [List.map_cons, Document.ofStatements, inductionHypothesis]
      rfl

theorem WritesEntry.ne_mark (writes : WritesEntry text entry) :
    ∀ first ∈ (text ++ rest).head?, first ≠ '\ufeff' := by
  cases writes with
  | @intro indent key before after shown name node areSpaces writesName =>
    cases indent with
    | nil =>
        obtain ⟨first, others, rfl, other⟩ := writesName.exists_cons
        rintro _ ⟨⟩
        exact other '\ufeff' rfl (by decide)
    | cons space spaces =>
        rintro _ ⟨⟩
        rcases isSpace_iff.mp (areSpaces space List.mem_cons_self) with rfl | rfl <;> decide

/-- No line begins with a byte order mark. -/
theorem skipMark_of_writesLines (writes : WritesLines text entries) : skipMark text = text := by
  have other : ∀ first ∈ text.head?, first ≠ '\ufeff' := by
    cases writes with
    | nil => exact fun _ isFirst => nomatch isFirst
    | remark isRemark ends _ =>
        exact fun first isFirst => (endsValue_of_isRemark isRemark ends).ne isFirst (by decide)
    | entry writesEntry _ _ _ => exact writesEntry.ne_mark
  unfold skipMark
  split
  · exact absurd rfl (other _ rfl)
  · rfl

/-- Lines stand for the table of their keys and values, if they stand for one at all. -/
theorem parse_of_writesLines (writes : WritesLines text entries) : parse text =
    if (∀ entry ∈ entries, entry.2.Fits) ∧ (Members.keys entries).Nodup then some entries
    else none := by
  have read := readStatements_of_writesLines writes text.length (text.length + 1) []
    (Nat.lt_succ_self _)
  rw [mapM_statementOf?] at read
  rw [parse, skipMark_of_writesLines writes, read]
  by_cases fits : ∀ entry ∈ entries, entry.2.Fits
  · have table := assignAll_ofEntry [] List.nodup_nil entries
    rw [List.nil_append] at table
    rw [if_pos fits]
    simp only [Option.map_some, List.reverse_nil, List.nil_append, Option.bind_eq_bind,
      Option.bind_some, ofStatements_map, Table.ofDocument, table]
    by_cases distinct : (Members.keys entries).Nodup
    · rw [if_pos distinct, if_pos ⟨fits, distinct⟩]
      rfl
    · rw [if_neg distinct, if_neg fun both => distinct both.2]
      rfl
  · rw [if_neg fits, if_neg fun both => fits both.1]
    rfl

end PackageSearch.Toml
