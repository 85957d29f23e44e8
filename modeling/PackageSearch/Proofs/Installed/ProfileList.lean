import Mathlib.Data.List.Forall2
import PackageSearch.Installed.Output
import PackageSearch.Proofs.Text.Blank
import PackageSearch.Proofs.Text.Colour
import PackageSearch.Proofs.Text.Lines

/-!
# The names in a profile list

A line shows a name if it holds one behind the marker. Colours anywhere in the list, also between
the two characters of a line end, and the choice of line ends change nothing: the names that are
found are those on the lines.
-/

namespace PackageSearch

open Text

/-! ### Coloured lines -/

namespace Text

theorem isForeign_feed : IsForeign '\n' :=
  isForeign_of (by decide) (by decide)

theorem isForeign_return : IsForeign '\r' :=
  isForeign_of (by decide) (by decide)

/-- A line feed stays where it is when colours are removed. The induction is on the number of
characters, since the pieces end at line feeds and not at every character. -/
theorem pieces_stripColour (text : List Char) :
    pieces (stripColour text) = (pieces text).map stripColour := by
  induction length : text.length using Nat.strong_induction_on generalizing text with
  | _ size inductionHypothesis =>
      have unbroken {line : List Char} (plain : '\n' ∉ line) : '\n' ∉ stripColour line :=
        fun inside => plain ((coloured_stripColour line).sublist.subset inside)
      by_cases broken : '\n' ∈ text
      · obtain ⟨line, rest, rfl, plain⟩ := List.eq_append_cons_of_mem broken
        have shorter : rest.length < size := by
          simp only [List.length_append, List.length_cons] at length
          omega
        rw [isForeign_feed.stripColour_append_cons, pieces_append (unbroken plain),
          pieces_append plain, List.map_cons, inductionHypothesis _ shorter rest rfl]
      · rw [pieces_of_not_mem (unbroken broken), pieces_of_not_mem broken, List.map_singleton]

theorem Joined.not_holdsColour {lines : List (List Char)} {text : List Char}
    (joined : Joined lines text) (plain : ∀ line ∈ lines, ¬HoldsColour line) :
    ¬HoldsColour text := by
  induction joined with
  | nil => exact not_holdsColour_nil
  | unended line => exact plain line List.mem_cons_self
  | @ended lines line ending text isEnd joined inductionHypothesis =>
      obtain ⟨plainLine, plainRest⟩ := List.forall_mem_cons.mp plain
      have later := inductionHypothesis plainRest
      rw [List.append_assoc]
      cases isEnd with
      | feed => exact isForeign_feed.not_holdsColour_append_cons plainLine later
      | returnAndFeed =>
          apply isForeign_return.not_holdsColour_append_cons plainLine
          exact isForeign_feed.not_holdsColour_append_cons not_holdsColour_nil later

end Text

namespace Installed

variable {line : List Char} {shown : Option (List Char)}

/-! ### One line -/

/-- What a line shows: the name behind the marker, or none if nothing is behind the marker or if
something else comes first. -/
inductive Shows : List Char → Option (List Char) → Prop where
  | name {before between name after : List Char} :
      AllBlank before → AllBlank between → name ≠ [] → IsTrimmed name → AllBlank after →
        Shows (before ++ nameMarker ++ (between ++ name ++ after)) (some name)
  | nothing {before after : List Char} :
      AllBlank before → AllBlank after → Shows (before ++ nameMarker ++ after) none
  | other {line : List Char} :
      (∀ before rest, AllBlank before → line ≠ before ++ nameMarker ++ rest) → Shows line none

/-- The name on a line without colours. -/
def plainName? (line : List Char) : Option (List Char) :=
  match afterMarker? nameMarker (trimStart line) with
  | none => none
  | some rest =>
      let name := trim rest
      if name.isEmpty then none else some name

theorem profileName?_eq (line : List Char) : profileName? line = plainName? (stripColour line) :=
  rfl

theorem afterMarker?_eq_some_iff {marker text rest : List Char} :
    afterMarker? marker text = some rest ↔ text = marker ++ rest := by
  unfold afterMarker?
  constructor
  · intro found
    split at found
    · rename_i starts
      obtain ⟨following, rfl⟩ := List.isPrefixOf_iff_prefix.mp starts
      rw [← Option.some.inj found, List.drop_left]
    · cases found
  · rintro rfl
    rw [if_pos (List.isPrefixOf_iff_prefix.mpr (List.prefix_append marker rest)), List.drop_left]

/-- The marker is found behind white space. -/
theorem plainName?_of_marker {before rest : List Char} (blank : AllBlank before) :
    plainName? (before ++ nameMarker ++ rest) =
      if (trim rest).isEmpty then none else some (trim rest) := by
  have starts : ∀ character ∈ (nameMarker ++ rest).head?, isBlank character = false := by
    intro character first
    obtain rfl : 'N' = character := Option.some.inj first
    decide
  have found : afterMarker? nameMarker (trimStart (before ++ nameMarker ++ rest)) = some rest := by
    rw [List.append_assoc, trimStart_append blank, trimStart_eq_self starts]
    exact afterMarker?_eq_some_iff.mpr rfl
  rw [plainName?, found]

theorem Shows.plainName?_eq (shows : Shows line shown) : plainName? line = shown := by
  cases shows with
  | name blankBefore blankBetween notEmpty trimmed blankAfter =>
      rw [plainName?_of_marker blankBefore, trim_eq blankBetween trimmed blankAfter]
      simp [notEmpty]
  | @nothing before after blankBefore blankAfter =>
      have none : trim after = [] := by
        have trimmed := @trim_eq after [] [] blankAfter ⟨by simp, by simp⟩ allBlank_nil
        simpa using trimmed
      rw [plainName?_of_marker blankBefore, none]
      rfl
  | other notMarked =>
      obtain ⟨before, blank, same⟩ := exists_eq_append_trimStart line
      have absent : afterMarker? nameMarker (trimStart line) = none := by
        rw [Option.eq_none_iff_forall_ne_some]
        intro rest found
        rw [afterMarker?_eq_some_iff.mp found] at same
        exact notMarked before rest blank (same.trans (List.append_assoc _ _ _).symm)
      rw [plainName?, absent]

theorem exists_shows (line : List Char) : ∃ shown, Shows line shown := by
  by_cases marked : ∃ before rest, AllBlank before ∧ line = before ++ nameMarker ++ rest
  · obtain ⟨before, rest, blank, rfl⟩ := marked
    obtain ⟨between, after, blankBetween, blankAfter, same⟩ := exists_eq_append_trim_append rest
    by_cases empty : trim rest = []
    · rw [empty, List.append_nil] at same
      rw [same]
      exact ⟨none, .nothing blank (allBlank_append_iff.mpr ⟨blankBetween, blankAfter⟩)⟩
    · rw [same]
      exact ⟨_, .name blank blankBetween empty (isTrimmed_trim rest) blankAfter⟩
  · refine ⟨none, .other ?_⟩
    exact fun before rest blank same => marked ⟨before, rest, blank, same⟩

/-- A carriage return at its end makes no difference to what a line shows. -/
theorem Shows.append_return (shows : Shows line shown) : Shows (line ++ ['\r']) shown := by
  have longer {after : List Char} (blank : AllBlank after) : AllBlank (after ++ ['\r']) :=
    allBlank_append_iff.mpr ⟨blank, allBlank_cons_iff.mpr ⟨rfl, allBlank_nil⟩⟩
  cases shows with
  | name blankBefore blankBetween notEmpty trimmed blankAfter =>
      rw [List.append_assoc, List.append_assoc (_ ++ _)]
      exact .name blankBefore blankBetween notEmpty trimmed (longer blankAfter)
  | nothing blankBefore blankAfter =>
      rw [List.append_assoc]
      exact .nothing blankBefore (longer blankAfter)
  | other notMarked =>
      apply Shows.other
      intro before rest blank same
      rcases List.eq_nil_or_concat rest with rfl | ⟨front, last, rfl⟩
      · -- The last character would be the colon of the marker.
        have colon : nameMarker.getLast? = some ':' := rfl
        have lasts := congrArg List.getLast? same
        simp [colon] at lasts
      · have shorter : line ++ ['\r'] = before ++ nameMarker ++ front ++ [last] := by
          rw [same, List.concat_eq_append, List.append_assoc _ front]
        exact notMarked before front blank (List.append_inj_left' shorter rfl)

theorem plainName?_append_return (line : List Char) :
    plainName? (line ++ ['\r']) = plainName? line := by
  obtain ⟨shown, shows⟩ := exists_shows line
  rw [shows.plainName?_eq, shows.append_return.plainName?_eq]

theorem profileName?_append_return (line : List Char) :
    profileName? (line ++ ['\r']) = profileName? line := by
  have stripped : stripColour (line ++ ['\r']) = stripColour line ++ ['\r'] := by
    rw [isForeign_return.stripColour_append_cons, stripColour]
  rw [profileName?_eq, stripped, plainName?_append_return, ← profileName?_eq]

/-! ### All lines -/

theorem profileName?_nil : profileName? [] = none := by
  rw [profileName?_eq, stripColour]
  rfl

theorem filterMap_plainName? {lines : List (List Char)} {shown : List (Option (List Char))}
    (shows : List.Forall₂ Shows lines shown) : lines.filterMap plainName? = shown.filterMap id := by
  induction shows with
  | nil => rfl
  | cons first others inductionHypothesis =>
      rw [List.filterMap_cons, List.filterMap_cons, first.plainName?_eq, inductionHypothesis]
      rfl

/-- The names found in a list of lines, coloured anywhere and joined in any way, are those that the
lines show. -/
theorem mem_profileNames_iff {lines : List (List Char)} {shown : List (Option (List Char))}
    {text coloured : List Char} (shows : List.Forall₂ Shows lines shown)
    (plain : ∀ line ∈ lines, '\n' ∉ line ∧ ¬HoldsColour line) (joined : Joined lines text)
    (made : Coloured text coloured) (name : String) :
    name ∈ profileNames (String.ofList coloured) ↔ some name.toList ∈ shown := by
  have stripped : stripColour coloured = text :=
    made.stripColour_eq (joined.not_holdsColour fun line membership => (plain line membership).2)
  have found : (Text.lines coloured).filterMap profileName? = shown.filterMap id :=
    calc (Text.lines coloured).filterMap profileName?
      _ = (pieces coloured).filterMap profileName? :=
        filterMap_lines profileName?_append_return profileName?_nil coloured
      _ = ((pieces coloured).map stripColour).filterMap plainName? := by
        rw [List.filterMap_map]
        rfl
      _ = (pieces text).filterMap plainName? := by rw [← pieces_stripColour, stripped]
      _ = lines.filterMap plainName? :=
        joined.filterMap_pieces (fun line membership => (plain line membership).1)
          plainName?_append_return rfl
      _ = shown.filterMap id := filterMap_plainName? shows
  rw [profileNames, NameSet.mem_ofList, String.toList_ofList, found, List.mem_map]
  constructor
  · rintro ⟨characters, membership, rfl⟩
    rw [String.toList_ofList]
    simpa using membership
  · intro membership
    exact ⟨name.toList, by simpa using membership, String.ofList_toList⟩

/-- A name with a space and an unfinished sequence in it stands behind a wide space and the marker;
on the other lines are the marker alone and something else before it. -/
def trickyLines : List (List Char) :=
  [['\u3000', 'N', 'a', 'm', 'e', ':', ' ', 'é', ' ', '\x1b', '['],
    ['N', 'a', 'm', 'e', ':', '\t'],
    ['1', ' ', 'N', 'a', 'm', 'e', ':']]

/-- Colours begin inside the marker and end between the two characters of the line end. -/
def trickyList : List Char :=
  ['\u3000', 'N', 'a'] ++ (['\x1b', '[', '1', ';', '4', 'm'] ++
    (['m', 'e', ':', ' ', 'é', ' ', '\x1b', '[', '\r'] ++ (['\\', '0', '3', '3', '[', 'm'] ++
      ['\n', 'N', 'a', 'm', 'e', ':', '\t', '\n', '1', ' ', 'N', 'a', 'm', 'e', ':'])))

theorem tricky_names_recovered :
    (∀ line ∈ trickyLines, '\n' ∉ line ∧ ¬HoldsColour line) ∧
      ∀ name, name ∈ profileNames (String.ofList trickyList) ↔ name = "é \x1b[" := by
  have shows : List.Forall₂ Shows trickyLines [some ['é', ' ', '\x1b', '['], none, none] := by
    refine .cons ?_ (.cons ?_ (.cons ?_ .nil))
    · have trimmed : IsTrimmed ['é', ' ', '\x1b', '['] := by
        constructor
        · rintro character ⟨⟩
          rfl
        · rintro character ⟨⟩
          rfl
      exact @Shows.name ['\u3000'] [' '] ['é', ' ', '\x1b', '['] [] (by decide) (by decide)
        (by decide) trimmed allBlank_nil
    · exact @Shows.nothing [] ['\t'] allBlank_nil (by decide)
    · apply Shows.other
      intro before rest blank same
      cases before with
      | nil => cases same
      | cons first before =>
          obtain rfl : '1' = first := (List.cons.inj same).1
          exact absurd (allBlank_cons_iff.mp blank).1 (by decide)
  have plain : ∀ line ∈ trickyLines, '\n' ∉ line ∧ ¬HoldsColour line := by
    simp only [trickyLines, List.forall_mem_cons]
    refine ⟨⟨by decide, ?_⟩, ⟨by decide, ?_⟩, ⟨by decide, ?_⟩, by simp⟩
    · iterate 11 refine not_holdsColour_cons_iff.mpr ⟨rfl, ?_⟩
      exact not_holdsColour_nil
    · iterate 6 refine not_holdsColour_cons_iff.mpr ⟨rfl, ?_⟩
      exact not_holdsColour_nil
    · iterate 7 refine not_holdsColour_cons_iff.mpr ⟨rfl, ?_⟩
      exact not_holdsColour_nil
  have joined : Joined trickyLines _ :=
    .ended .returnAndFeed (.ended .feed (.unended _))
  have underlined : IsColour ['\x1b', '[', '1', ';', '4', 'm'] :=
    @IsColour.escaped ['1', ';', '4'] (by simp [AreParameters])
  have reset : IsColour ['\\', '0', '3', '3', '[', 'm'] :=
    @IsColour.written [] (by simp [AreParameters])
  have made : Coloured _ trickyList :=
    (Coloured.insert underlined
      ((Coloured.insert reset (Coloured.refl _)).keepAll _)).keepAll _
  refine ⟨plain, fun name => ?_⟩
  rw [mem_profileNames_iff shows plain joined made name]
  have isName : name.toList = ['é', ' ', '\x1b', '['] ↔ name = "é \x1b[" := by
    rw [← String.toList_inj]
    rfl
  simp [isName]

end Installed

end PackageSearch
