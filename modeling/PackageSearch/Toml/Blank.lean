/-!
What separates the parts of a TOML text: spaces, comments and line ends.
-/

namespace PackageSearch.Toml

/-- Reading a part at the start of a text gives the part and what follows it. -/
abbrev Reading (Part : Type) := Option (Part × List Char)

def isSpace (character : Char) : Bool :=
  character == ' ' || character == '\t'

def skipSpaces (text : List Char) : List Char :=
  text.dropWhile isSpace

/-- The characters that comments and quoted strings may hold as they are: no control characters
but the tab. -/
def isPlain (character : Char) : Bool :=
  character == '\t' || (0x20 ≤ character.toNat && character.toNat != 0x7F)

/-- What follows the line end that a text starts with, if it does. A carriage return alone ends no
line. -/
def afterLineEnd? : List Char → Option (List Char)
  | '\n' :: rest => some rest
  | '\r' :: '\n' :: rest => some rest
  | _ => none

def skipComment : List Char → List Char
  | '#' :: rest => rest.dropWhile isPlain
  | text => text

/-- What follows a line on which nothing but a comment is left. The last line needs no end. -/
def afterLine? (text : List Char) : Option (List Char) :=
  match skipComment (skipSpaces text) with
  | [] => some []
  | rest => afterLineEnd? rest

/-- Skips what may stand between the items of an array, where lines do not matter. -/
def skipBetween : (inComment : Bool) → List Char → List Char
  | _, [] => []
  | _, '\n' :: rest => skipBetween false rest
  | _, '\r' :: '\n' :: rest => skipBetween false rest
  | true, character :: rest =>
      if isPlain character then skipBetween true rest else character :: rest
  | false, '#' :: rest => skipBetween true rest
  | false, character :: rest =>
      if isSpace character then skipBetween false rest else character :: rest

theorem length_of_afterLineEnd? {text rest : List Char} (ended : afterLineEnd? text = some rest) :
    rest.length < text.length := by
  unfold afterLineEnd? at ended
  split at ended
  · cases ended
    simp
  · cases ended
    simp only [List.length_cons]
    omega
  · contradiction

end PackageSearch.Toml
