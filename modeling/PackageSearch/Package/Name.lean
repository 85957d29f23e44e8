/-!
Package names. A listing names packages `name-version`; what comes before the first `-` is the base
name.
-/

namespace PackageSearch.Package

/-- The characters before the first `-`. -/
def baseOf (name : List Char) : List Char :=
  name.takeWhile (· != '-')

def baseName (name : String) : String :=
  String.ofList (baseOf name.toList)

@[simp]
theorem toList_baseName (name : String) : (baseName name).toList = baseOf name.toList := by
  simp [baseName]

/-- What follows a base name does not change it. -/
theorem baseOf_append_dash (name version : List Char) :
    baseOf (name ++ '-' :: version) = baseOf name := by
  induction name with
  | nil => rfl
  | cons character name inductionHypothesis =>
      simp only [baseOf, List.cons_append, List.takeWhile_cons] at *
      split
      · rw [inductionHypothesis]
      · rfl

end PackageSearch.Package
