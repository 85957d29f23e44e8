import PackageSearch.Json.Parser

/-!
The listing that answers a package query: package names with their metadata, in the order in which
they were printed and each name once.
-/

namespace PackageSearch

namespace Json

/-- A kind of value, with its article. -/
def kind : Json → String
  | .null => "null"
  | .boolean _ => "a boolean"
  | .number _ => "a number"
  | .string _ => "a string"
  | .array _ => "an array"
  | .object _ => "an object"

end Json

structure Listing where
  entries : List (String × Json)
  distinct : (Members.keys entries).Nodup

inductive ListingProblem where
  | notJson (fault : Json.Fault)
  | notObject (found : Json)

def ListingProblem.message (text : List Char) : ListingProblem → String
  | .notJson fault => fault.message text
  | .notObject found => "expected a JSON object, got " ++ found.kind

namespace Listing

def empty : Listing := ⟨[], List.nodup_nil⟩

/-- The listing with the given entries, a repeated name keeping its first place and its last
value. -/
def ofPairs (pairs : List (String × Json)) : Listing :=
  ⟨Members.ofPairs pairs, Members.nodup_keys_ofPairs pairs⟩

def size (listing : Listing) : Nat :=
  listing.entries.length

def parse (text : List Char) : Except ListingProblem Listing :=
  match Json.parse text with
  | .error fault => .error (.notJson fault)
  | .ok (.object members) => .ok (ofPairs members)
  | .ok other => .error (.notObject other)

end Listing

end PackageSearch
