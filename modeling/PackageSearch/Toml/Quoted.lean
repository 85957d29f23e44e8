import PackageSearch.Text.Hex
import PackageSearch.Toml.Blank

/-!
Quoted strings of TOML: basic ones between `"` have escapes, literal ones between `'` have none, and
either may span lines between three such marks.
-/

namespace PackageSearch.Toml

def characterOf? (digits : List Char) : Option Char :=
  match digits.mapM Text.hexValue? with
  | none => none
  | some values =>
      let code := values.foldl (fun code value => code * 16 + value) 0
      if code.isValidChar then some (Char.ofNat code) else none

def readCode (width : Nat) (text : List Char) : Reading Char :=
  let digits := text.take width
  if digits.length < width then none
  else (characterOf? digits).map fun character => (character, text.drop width)

def readEscape : List Char → Reading Char
  | '"' :: rest => some ('"', rest)
  | '\\' :: rest => some ('\\', rest)
  | 'b' :: rest => some ('\x08', rest)
  | 'f' :: rest => some ('\x0c', rest)
  | 'n' :: rest => some ('\n', rest)
  | 'r' :: rest => some ('\r', rest)
  | 't' :: rest => some ('\t', rest)
  | 'u' :: rest => readCode 4 rest
  | 'U' :: rest => readCode 8 rest
  | _ => none

theorem length_of_readCode {width : Nat} {text rest : List Char} {character : Char}
    (read : readCode width text = some (character, rest)) : rest.length ≤ text.length := by
  simp only [readCode] at read
  split at read
  · contradiction
  · rcases Option.map_eq_some_iff.mp read with ⟨found, _, same⟩
    cases same
    exact (List.drop_sublist width text).length_le

theorem length_of_readEscape {text rest : List Char} {character : Char}
    (read : readEscape text = some (character, rest)) : rest.length < text.length := by
  unfold readEscape at read
  split at read
  all_goals first
    | contradiction
    | (cases read; simp)
    | exact Nat.lt_succ_of_le (length_of_readCode read)

/-- Reads a basic string after its opening mark; `done` holds its characters so far, the latest
first. -/
def readBasic (done : List Char) (text : List Char) : Reading String :=
  match text with
  | [] => none
  | '"' :: rest => some (String.ofList done.reverse, rest)
  | '\\' :: rest =>
      match _read : readEscape rest with
      | none => none
      | some (character, remaining) => readBasic (character :: done) remaining
  | character :: rest =>
      if isPlain character then readBasic (character :: done) rest else none
termination_by text.length
decreasing_by
  · exact Nat.lt_succ_of_lt (length_of_readEscape ‹_›)
  · simp

def literalMark : Char := '\x27'

def isLiteral (character : Char) : Bool :=
  isPlain character && character != literalMark

def readLiteral (text : List Char) : Reading String :=
  match text.dropWhile isLiteral with
  | [] => none
  | mark :: rest =>
      if mark = literalMark then some (String.ofList (text.takeWhile isLiteral), rest) else none

/-- Reads the end of a string over several lines: three marks, before which up to two more belong to
the string. -/
def readClosing (mark : Char) (text : List Char) : Reading (List Char) :=
  let marks := text.takeWhile (· == mark)
  if marks.length < 3 then none
  else some ((marks.drop 3).take 2, text.drop (min marks.length 5))

/-- A line end just after the opening marks does not belong to the string. -/
def dropLineEnd (text : List Char) : List Char :=
  (afterLineEnd? text).getD text

def skipLines : List Char → List Char
  | [] => []
  | '\n' :: rest => skipLines rest
  | '\r' :: '\n' :: rest => skipLines rest
  | character :: rest => if isSpace character then skipLines rest else character :: rest

theorem length_skipLines_le (text : List Char) : (skipLines text).length ≤ text.length := by
  fun_induction skipLines text <;> simp_all <;> omega

/-- What follows the backslash that joins a line to the next one with something on it. -/
def afterJoint? (text : List Char) : Option (List Char) :=
  (afterLineEnd? (skipSpaces text)).map skipLines

theorem length_of_afterJoint? {text rest : List Char} (joined : afterJoint? text = some rest) :
    rest.length < text.length := by
  rcases Option.map_eq_some_iff.mp joined with ⟨line, ended, rfl⟩
  have shorter := length_of_afterLineEnd? ended
  have spaces := (List.dropWhile_sublist isSpace (l := text)).length_le
  have lines := length_skipLines_le line
  unfold skipSpaces at shorter
  omega

def readLongBasic (done : List Char) (text : List Char) : Reading String :=
  match text with
  | [] => none
  | '"' :: rest =>
      match readClosing '"' ('"' :: rest) with
      | some (marks, remaining) => some (String.ofList (done.reverse ++ marks), remaining)
      | none => readLongBasic ('"' :: done) rest
  | '\\' :: rest =>
      match _joined : afterJoint? rest with
      | some remaining => readLongBasic done remaining
      | none =>
          match _read : readEscape rest with
          | none => none
          | some (character, remaining) => readLongBasic (character :: done) remaining
  | '\n' :: rest => readLongBasic ('\n' :: done) rest
  | '\r' :: '\n' :: rest => readLongBasic ('\n' :: done) rest
  | character :: rest =>
      if isPlain character then readLongBasic (character :: done) rest else none
termination_by text.length
decreasing_by
  · simp
  · exact Nat.lt_succ_of_lt (length_of_afterJoint? ‹_›)
  · exact Nat.lt_succ_of_lt (length_of_readEscape ‹_›)
  · simp
  · simp only [List.length_cons]
    omega
  · simp

def readLongLiteral (done : List Char) : List Char → Reading String
  | [] => none
  | '\n' :: rest => readLongLiteral ('\n' :: done) rest
  | '\r' :: '\n' :: rest => readLongLiteral ('\n' :: done) rest
  | character :: rest =>
      if character = literalMark then
        match readClosing literalMark (character :: rest) with
        | some (marks, remaining) => some (String.ofList (done.reverse ++ marks), remaining)
        | none => readLongLiteral (character :: done) rest
      else if isPlain character then readLongLiteral (character :: done) rest
      else none

def readString (text : List Char) : Reading String :=
  match text with
  | '"' :: '"' :: '"' :: rest => readLongBasic [] (dropLineEnd rest)
  | '"' :: rest => readBasic [] rest
  | '\x27' :: '\x27' :: '\x27' :: rest => readLongLiteral [] (dropLineEnd rest)
  | '\x27' :: rest => readLiteral rest
  | _ => none

end PackageSearch.Toml
