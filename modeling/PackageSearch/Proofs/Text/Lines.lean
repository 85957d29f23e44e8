import PackageSearch.Text.Lines

/-!
# Lines joined to a text

Lines may be joined with line feeds or with pairs of a carriage return and a line feed, and the last
line may be ended or not. What is read off each line does not depend on this, as long as a carriage
return at the end of a line makes no difference to it and there is nothing to read on an empty line.
-/

namespace PackageSearch.Text

variable {line text : List Char}

inductive IsLineEnd : List Char → Prop where
  | feed : IsLineEnd ['\n']
  | returnAndFeed : IsLineEnd ['\r', '\n']

/-- The text consists of the lines, each with a line end of its own; the last one may be without. -/
inductive Joined : List (List Char) → List Char → Prop where
  | nil : Joined [] []
  | unended (line : List Char) : Joined [line] line
  | ended {lines : List (List Char)} {line ending text : List Char} :
      IsLineEnd ending → Joined lines text → Joined (line :: lines) (line ++ ending ++ text)

/-- The text begins with the line: it ends where the line does, or a line end follows. -/
def BeginsWithLine (line text : List Char) : Prop :=
  text = line ∨ ∃ ending rest, IsLineEnd ending ∧ text = line ++ ending ++ rest

/-- The pieces of a text between its line feeds. -/
def pieces (text : List Char) : List (List Char) :=
  text.splitOnP (· == '\n')

theorem pieces_of_not_mem (unbroken : '\n' ∉ line) : pieces line = [line] := by
  apply List.splitOnP_eq_singleton
  exact fun character membership =>
    beq_eq_false_iff_ne.mpr fun same => unbroken (same ▸ membership)

theorem pieces_append_feed (front back : List Char) :
    pieces (front ++ '\n' :: back) = pieces front ++ pieces back :=
  List.splitOnP_append_cons front back (beq_self_eq_true '\n')

theorem pieces_append (unbroken : '\n' ∉ line) :
    pieces (line ++ '\n' :: text) = line :: pieces text := by
  rw [pieces_append_feed, pieces_of_not_mem unbroken, List.singleton_append]

/-- The line before a line end is a piece, with the carriage return if there is one. -/
theorem exists_pieces_append {ending : List Char} (unbroken : '\n' ∉ line)
    (isEnd : IsLineEnd ending) :
    ∃ piece, (piece = line ∨ piece = line ++ ['\r']) ∧
      pieces (line ++ ending ++ text) = piece :: pieces text := by
  cases isEnd with
  | feed =>
      refine ⟨line, .inl rfl, ?_⟩
      rw [List.append_assoc]
      exact pieces_append unbroken
  | returnAndFeed =>
      have stillUnbroken : '\n' ∉ line ++ ['\r'] := by simp [unbroken]
      refine ⟨line ++ ['\r'], .inr rfl, ?_⟩
      rw [← pieces_append stillUnbroken]
      simp

theorem dropReturn_cases (line : List Char) :
    dropReturn line = line ∨ line = dropReturn line ++ ['\r'] := by
  unfold dropReturn
  split
  · rename_i ends
    obtain ⟨front, rfl⟩ := List.getLast?_eq_some_iff.mp ends
    exact .inr (by rw [List.dropLast_concat])
  · exact .inl rfl

/-- There is no line feed within a piece. -/
theorem not_mem_of_mem_pieces (isPiece : line ∈ pieces text) : '\n' ∉ line := by
  induction text generalizing line with
  | nil =>
      obtain rfl := List.mem_singleton.mp isPiece
      exact List.not_mem_nil
  | cons character rest inductionHypothesis =>
      rw [pieces, List.splitOnP_cons_eq_if_modifyHead] at isPiece
      split at isPiece
      · rcases List.mem_cons.mp isPiece with rfl | later
        · exact List.not_mem_nil
        · exact inductionHypothesis later
      · rename_i notFeed
        obtain ⟨first, others, split⟩ : ∃ first others, pieces rest = first :: others :=
          List.exists_cons_of_ne_nil (List.splitOnP_ne_nil (· == '\n') rest)
        have unbroken : ∀ piece ∈ first :: others, '\n' ∉ piece :=
          split ▸ fun _ => inductionHypothesis
        change _ ∈ (pieces rest).modifyHead _ at isPiece
        rw [split, List.modifyHead_cons] at isPiece
        rcases List.mem_cons.mp isPiece with rfl | later
        · simp only [List.mem_cons, not_or]
          exact ⟨fun same => notFeed (beq_iff_eq.mpr same.symm),
            unbroken first List.mem_cons_self⟩
        · exact unbroken line (List.mem_cons_of_mem first later)

theorem not_mem_dropReturn (unbroken : '\n' ∉ line) : '\n' ∉ dropReturn line := by
  rcases dropReturn_cases line with same | same
  · rwa [same]
  · rw [same] at unbroken
    exact fun membership => unbroken (List.mem_append_left ['\r'] membership)

theorem not_mem_of_mem_closeLines {pieces : List (List Char)}
    (unbroken : ∀ piece ∈ pieces, '\n' ∉ piece) (isLine : line ∈ closeLines pieces) :
    '\n' ∉ line := by
  induction pieces with
  | nil => exact absurd isLine List.not_mem_nil
  | cons piece rest inductionHypothesis =>
      obtain ⟨unbrokenPiece, unbrokenRest⟩ := List.forall_mem_cons.mp unbroken
      cases rest with
      | nil =>
          rw [closeLines] at isLine
          split at isLine
          · exact absurd isLine List.not_mem_nil
          · exact List.mem_singleton.mp isLine ▸ unbrokenPiece
      | cons next rest =>
          rw [closeLines] at isLine
          rcases List.mem_cons.mp isLine with rfl | later
          · exact not_mem_dropReturn unbrokenPiece
          · exact inductionHypothesis unbrokenRest later

theorem not_mem_of_mem_lines (isLine : line ∈ lines text) : '\n' ∉ line :=
  not_mem_of_mem_closeLines (fun _ => not_mem_of_mem_pieces) isLine

/-- The line begins where the text does or behind a line feed, and ends where the text does or
before a line end. -/
def IsLineOf (line text : List Char) : Prop :=
  '\n' ∉ line ∧ (BeginsWithLine line text ∨
    ∃ before rest, text = before ++ '\n' :: rest ∧ BeginsWithLine line rest)

theorem BeginsWithLine.exists_mem_pieces (begins : BeginsWithLine line text)
    (unbroken : '\n' ∉ line) : ∃ piece ∈ pieces text, piece = line ∨ piece = line ++ ['\r'] := by
  rcases begins with rfl | ⟨ending, rest, isEnd, rfl⟩
  · rw [pieces_of_not_mem unbroken]
    exact ⟨text, List.mem_singleton_self text, .inl rfl⟩
  · obtain ⟨piece, isPiece, split⟩ := @exists_pieces_append line rest ending unbroken isEnd
    exact ⟨piece, split ▸ List.mem_cons_self, isPiece⟩

theorem IsLineOf.exists_mem_pieces (isLine : IsLineOf line text) :
    ∃ piece ∈ pieces text, piece = line ∨ piece = line ++ ['\r'] := by
  obtain ⟨unbroken, begins | ⟨before, rest, rfl, begins⟩⟩ := isLine
  · exact begins.exists_mem_pieces unbroken
  · obtain ⟨piece, membership, isPiece⟩ := begins.exists_mem_pieces unbroken
    refine ⟨piece, ?_, isPiece⟩
    rw [pieces_append_feed]
    exact List.mem_append_right _ membership

/-- A text that begins with a line has a first line, which differs from it at most by a carriage
return, unless there is nothing at all. -/
theorem BeginsWithLine.lines_eq (begins : BeginsWithLine line text) (unbroken : '\n' ∉ line) :
    lines text = [] ∧ line = [] ∨
      ∃ first rest, lines text = first :: rest ∧ (first = line ∨ line = first ++ ['\r']) := by
  rcases begins with rfl | ⟨ending, rest, isEnd, rfl⟩
  · have alone : lines text = if text.isEmpty then [] else [text] := by
      rw [lines, show text.splitOnP _ = _ from pieces_of_not_mem unbroken]
      rfl
    cases text with
    | nil => exact .inl ⟨alone, rfl⟩
    | cons first rest => exact .inr ⟨first :: rest, [], alone, .inl rfl⟩
  · obtain ⟨piece, isPiece, split⟩ := @exists_pieces_append line rest ending unbroken isEnd
    obtain ⟨next, others, more⟩ :=
      List.exists_cons_of_ne_nil (List.splitOnP_ne_nil (· == '\n') rest)
    refine .inr ⟨dropReturn piece, closeLines (next :: others), ?_, ?_⟩
    · rw [lines, show List.splitOnP _ _ = _ from split, show pieces rest = _ from more]
      rfl
    · rcases isPiece with rfl | rfl
      · exact dropReturn_cases piece
      · left
        simp [dropReturn]

theorem dropReturn_concat (line : List Char) : dropReturn (line ++ ['\r']) = line := by
  simp [dropReturn]

/-- Lines with a carriage return and a line feed between any two of them are read back, if the last
one is not empty. -/
theorem lines_intercalate {parts : List (List Char)} (unbroken : ∀ line ∈ parts, '\n' ∉ line)
    (notEmpty : ∀ line ∈ parts, line ≠ []) :
    lines (['\r', '\n'].intercalate parts) = parts := by
  induction parts with
  | nil => rfl
  | cons line rest inductionHypothesis =>
      obtain ⟨unbrokenLine, unbrokenRest⟩ := List.forall_mem_cons.mp unbroken
      obtain ⟨notEmptyLine, notEmptyRest⟩ := List.forall_mem_cons.mp notEmpty
      cases rest with
      | nil =>
          have alone : lines line = closeLines [line] :=
            congrArg closeLines (pieces_of_not_mem unbrokenLine)
          rw [List.intercalate_singleton, alone, closeLines, if_neg (by simpa using notEmptyLine)]
      | cons next rest =>
          have stillUnbroken : '\n' ∉ line ++ ['\r'] := by simp [unbrokenLine]
          obtain ⟨first, others, more⟩ : ∃ first others,
              pieces (['\r', '\n'].intercalate (next :: rest)) = first :: others :=
            List.exists_cons_of_ne_nil (List.splitOnP_ne_nil _ _)
          have split : pieces (['\r', '\n'].intercalate (line :: next :: rest)) =
              (line ++ ['\r']) :: first :: others := by
            rw [← more, ← pieces_append stillUnbroken, List.intercalate_cons_cons]
            simp
          have later : closeLines (first :: others) = next :: rest :=
            (congrArg closeLines more).symm.trans (inductionHypothesis unbrokenRest notEmptyRest)
          rw [show lines _ = _ from congrArg closeLines split, closeLines, dropReturn_concat, later]

/-! ### What is read off each line -/

section ReadOff

variable {Value : Type} {read : List Char → Option Value}

theorem filterMap_closeLines (ignored : ∀ line, read (line ++ ['\r']) = read line)
    (nothing : read [] = none) (pieces : List (List Char)) :
    (closeLines pieces).filterMap read = pieces.filterMap read := by
  have dropped : ∀ line, read (dropReturn line) = read line := by
    intro line
    rcases dropReturn_cases line with same | same
    · rw [same]
    · rw [same, ignored, ← same]
  induction pieces with
  | nil => rfl
  | cons piece rest inductionHypothesis =>
      cases rest with
      | nil =>
          cases piece with
          | nil => simp [closeLines, nothing]
          | cons first rest => rfl
      | cons next rest =>
          rw [closeLines, List.filterMap_cons, dropped, inductionHypothesis, ← List.filterMap_cons]

theorem filterMap_lines (ignored : ∀ line, read (line ++ ['\r']) = read line)
    (nothing : read [] = none) (text : List Char) :
    (lines text).filterMap read = (pieces text).filterMap read :=
  filterMap_closeLines ignored nothing _

/-- What is there to read on a line is found among the lines of the text. -/
theorem IsLineOf.mem_filterMap_lines {value : Value} (isLine : IsLineOf line text)
    (ignored : ∀ line, read (line ++ ['\r']) = read line) (nothing : read [] = none)
    (found : read line = some value) : value ∈ (lines text).filterMap read := by
  obtain ⟨piece, membership, isPiece⟩ := isLine.exists_mem_pieces
  rw [filterMap_lines ignored nothing, List.mem_filterMap]
  refine ⟨piece, membership, ?_⟩
  rcases isPiece with rfl | rfl
  · exact found
  · exact (ignored line).trans found

/-- The induction is on the lines. -/
theorem Joined.filterMap_pieces {lines : List (List Char)} (joined : Joined lines text)
    (unbroken : ∀ line ∈ lines, '\n' ∉ line)
    (ignored : ∀ line, read (line ++ ['\r']) = read line) (nothing : read [] = none) :
    (pieces text).filterMap read = lines.filterMap read := by
  induction joined with
  | nil => simp [pieces, nothing]
  | unended line => rw [pieces_of_not_mem (unbroken line List.mem_cons_self)]
  | @ended lines line ending text isEnd joined inductionHypothesis =>
      obtain ⟨unbrokenLine, unbrokenRest⟩ := List.forall_mem_cons.mp unbroken
      obtain ⟨piece, isPiece, split⟩ := @exists_pieces_append line text ending unbrokenLine isEnd
      have same : read piece = read line := by
        rcases isPiece with rfl | rfl
        · rfl
        · exact ignored line
      rw [split, List.filterMap_cons, List.filterMap_cons, same, inductionHypothesis unbrokenRest]

end ReadOff

end PackageSearch.Text
