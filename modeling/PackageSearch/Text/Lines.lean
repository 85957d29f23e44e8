/-!
Lines of a text. A line ends with a line feed, and a carriage return just before that line feed
belongs to the line end; characters after the last line feed form a line of their own unless there
are none.
-/

namespace PackageSearch.Text

def dropReturn (line : List Char) : List Char :=
  if line.getLast? = some '\r' then line.dropLast else line

/-- Reads the pieces between line feeds as lines: every piece but the last was ended by one. -/
def closeLines : List (List Char) → List (List Char)
  | [] => []
  | [unended] => if unended.isEmpty then [] else [unended]
  | ended :: next :: rest => dropReturn ended :: closeLines (next :: rest)

def lines (text : List Char) : List (List Char) :=
  closeLines (text.splitOnP (· == '\n'))

end PackageSearch.Text
