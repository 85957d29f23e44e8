import PackageSearch.Members

/-!
JSON values. The members of an object keep the order in which their keys first came.
-/

namespace PackageSearch

/-- A number is an integer, or a double when it was written with a fraction or an exponent, is
minus zero, or is beyond 64 bits. -/
inductive Number where
  | integer (value : Int)
  | float (value : Float)

inductive Json where
  | null
  | boolean (value : Bool)
  | number (value : Number)
  | string (value : String)
  | array (items : List Json)
  | object (members : List (String × Json))

end PackageSearch
