import PackageSearch.Installed.NameSet
import PackageSearch.Package.Name

/-!
Whether a package that a search found is installed.

Installed names seldom carry versions and found ones do, so names are compared loosely: packages
whose names start alike count as the same, although they may be different.
-/

namespace PackageSearch

/-- The rule by which a name matches, the strongest first. -/
inductive MatchRule where
  | exact
  | baseName
  /-- An installed name and the base name start alike, one being the start of the other. -/
  | commonStart
  deriving DecidableEq, Repr

def startAlike (first second : String) : Bool :=
  first.toList.isPrefixOf second.toList || second.toList.isPrefixOf first.toList

def matchRule (candidate : String) (installed : NameSet) : Option MatchRule :=
  let base := Package.baseName candidate
  if installed.isEmpty then none
  else if candidate ∈ installed then some .exact
  else if base ∈ installed then some .baseName
  else if base.isEmpty then none
  else if installed.names.any fun name => !name.isEmpty && startAlike name base then
    some .commonStart
  else none

def isInstalled (candidate : String) (installed : NameSet) : Bool :=
  (matchRule candidate installed).isSome

end PackageSearch
