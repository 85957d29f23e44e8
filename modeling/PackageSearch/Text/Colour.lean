/-!
Colour sequences of terminals and their removal.

A colour sequence opens with an escape character and `[`, or with the same written out as the five
characters `\033[`; digits and semicolons follow, and `m` ends it. Only complete sequences are
removed.
-/

namespace PackageSearch.Text

/-- What follows the opening of a colour sequence, if the text starts with one. -/
def afterOpening? : List Char → Option (List Char)
  | '\x1b' :: '[' :: body => some body
  | '\\' :: '0' :: '3' :: '3' :: '[' :: body => some body
  | _ => none

/-- The characters between the opening of a colour sequence and its end. -/
def isColourParameter (character : Char) : Bool :=
  character.isDigit || character == ';'

/-- What follows the complete colour sequence that the text starts with, if it does. -/
def afterColour? (text : List Char) : Option (List Char) :=
  match afterOpening? text with
  | none => none
  | some body =>
      match body.dropWhile isColourParameter with
      | 'm' :: rest => some rest
      | _ => none

theorem length_of_afterOpening? {text body : List Char} (opened : afterOpening? text = some body) :
    body.length < text.length := by
  unfold afterOpening? at opened
  split at opened
  · cases opened
    simp only [List.length_cons]
    omega
  · cases opened
    simp only [List.length_cons]
    omega
  · contradiction

theorem length_of_afterColour? {text rest : List Char} (complete : afterColour? text = some rest) :
    rest.length < text.length := by
  unfold afterColour? at complete
  split at complete
  · contradiction
  · rename_i body opened
    have shorter := length_of_afterOpening? opened
    have dropped := (List.dropWhile_sublist isColourParameter (l := body)).length_le
    split at complete
    · rename_i remaining parameters
      cases complete
      rw [parameters] at dropped
      simp only [List.length_cons] at dropped
      omega
    · contradiction

/-- Removes every complete colour sequence, reading from the front. -/
def stripColour (text : List Char) : List Char :=
  match text with
  | [] => []
  | character :: following =>
      match _complete : afterColour? (character :: following) with
      | some rest => stripColour rest
      | none => character :: stripColour following
termination_by text.length
decreasing_by
  · exact length_of_afterColour? ‹_›
  · simp

end PackageSearch.Text
