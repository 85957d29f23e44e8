import PackageSearch.Text.Blank

/-!
Short excerpts of long messages.
-/

namespace PackageSearch.Text

def ellipsis : Char := '…'

/-- A text without white space at its ends, cut to `limit` characters and marked where cut. -/
def excerpt (text : List Char) (limit : Nat) : List Char :=
  let trimmed := trim text
  if limit < trimmed.length then trimmed.take limit ++ [ellipsis] else trimmed

end PackageSearch.Text
