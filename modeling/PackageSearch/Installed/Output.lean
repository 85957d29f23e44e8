import PackageSearch.Installed.NameSet
import PackageSearch.Package.Name
import PackageSearch.Text.Blank
import PackageSearch.Text.Colour
import PackageSearch.Text.Lines

/-!
The names that the commands listing installed packages print.
-/

namespace PackageSearch.Installed

/-- What opens a line with a package name in a profile list. -/
def nameMarker : List Char := "Name:".toList

/-- What follows a marker at the start of a text. -/
def afterMarker? (marker text : List Char) : Option (List Char) :=
  if marker.isPrefixOf text then some (text.drop marker.length) else none

/-- The name on a line of a profile list: colours removed, it starts with the marker. -/
def profileName? (line : List Char) : Option (List Char) :=
  match afterMarker? nameMarker (Text.trimStart (Text.stripColour line)) with
  | none => none
  | some rest =>
      let name := Text.trim rest
      if name.isEmpty then none else some name

/-- The names in a profile list. -/
def profileNames (output : String) : NameSet :=
  NameSet.ofList (((Text.lines output.toList).filterMap profileName?).map String.ofList)

/-- The base name on a line of an environment query. -/
def queryName? (line : List Char) : Option (List Char) :=
  let name := Package.baseOf (Text.trim line)
  if name.isEmpty then none else some name

/-- The names in the output of an environment query. -/
def queryNames (output : String) : NameSet :=
  NameSet.ofList (((Text.lines output.toList).filterMap queryName?).map String.ofList)

end PackageSearch.Installed
