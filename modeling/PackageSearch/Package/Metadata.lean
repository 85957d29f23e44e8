import PackageSearch.Json.Printer
import PackageSearch.Text.Quoted

/-!
The metadata of one package in a listing: a version, and a description inside `meta`.

Both are optional texts. A structure may be an object, whose other members do not matter, or an
array of its fields in order.
-/

namespace PackageSearch

structure Metadata where
  version : Option String
  description : Option String
  deriving DecidableEq, Repr

namespace Metadata

def empty : Metadata := ⟨none, none⟩

/-- What a place in the metadata has to hold. -/
inductive Shape where
  | text
  | package
  | details
  deriving DecidableEq, Repr

def Shape.name : Shape → String
  | .text => "a string"
  | .package => "struct NixPackageInfo"
  | .details => "struct NixPackageMeta"

inductive Problem where
  | wrongType (found : Json) (expected : Shape)
  | tooManyFields (count : Nat)

def describe : Json → String
  | .null => "null"
  | .boolean value => "boolean `" ++ toString value ++ "`"
  | .number (.integer value) => "integer `" ++ toString value ++ "`"
  | .number (.float value) => "floating point `" ++ String.ofList (Number.floatText value) ++ "`"
  | .string value => "string " ++ Text.quote value
  | .array _ => "sequence"
  | .object _ => "map"

def Problem.message : Problem → String
  | .wrongType found expected =>
      "invalid type: " ++ describe found ++ ", expected " ++ expected.name
  | .tooManyFields count =>
      "invalid length " ++ toString count ++ ", expected fewer elements in array"

def decodeText : Json → Except Problem (Option String)
  | .null => .ok none
  | .string value => .ok (some value)
  | other => .error (.wrongType other .text)

/-- The description in the members of `meta`, read in order. -/
def decodeDescription (description : Option String) :
    List (String × Json) → Except Problem (Option String)
  | [] => .ok description
  | (key, value) :: rest =>
      if key = "description" then
        match decodeText value with
        | .error problem => .error problem
        | .ok found => decodeDescription found rest
      else decodeDescription description rest

def decodeDetails : Json → Except Problem (Option String)
  | .object members => decodeDescription none members
  | .array [] => .ok none
  | .array (first :: rest) =>
      match decodeText first with
      | .error problem => .error problem
      | .ok description =>
          if rest.isEmpty then .ok description else .error (.tooManyFields (rest.length + 1))
  | other => .error (.wrongType other .details)

/-- The metadata in the members of an object, read in order. -/
def decodeMembers (metadata : Metadata) : List (String × Json) → Except Problem Metadata
  | [] => .ok metadata
  | (key, value) :: rest =>
      if key = "version" then
        match decodeText value with
        | .error problem => .error problem
        | .ok version => decodeMembers { metadata with version } rest
      else if key = "meta" then
        match decodeDetails value with
        | .error problem => .error problem
        | .ok description => decodeMembers { metadata with description } rest
      else decodeMembers metadata rest

/-- The metadata in an array: a version, then `meta`. -/
def decodeFields : List Json → Except Problem Metadata
  | [] => .ok empty
  | [version] =>
      match decodeText version with
      | .error problem => .error problem
      | .ok version => .ok { version, description := none }
  | version :: details :: rest =>
      match decodeText version with
      | .error problem => .error problem
      | .ok version =>
          match decodeDetails details with
          | .error problem => .error problem
          | .ok description =>
              if rest.isEmpty then .ok { version, description }
              else .error (.tooManyFields (rest.length + 2))

def decode : Json → Except Problem Metadata
  | .object members => decodeMembers empty members
  | .array fields => decodeFields fields
  | other => .error (.wrongType other .package)

end Metadata

end PackageSearch
