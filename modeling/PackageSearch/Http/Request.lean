import PackageSearch.Http.Form
import PackageSearch.Text.Blank
import PackageSearch.Text.Lines

/-!
Requests, as far as their first line tells.
-/

namespace PackageSearch.Http

structure Request where
  method : String
  /-- The path of the target as it was written. -/
  path : String
  query : List (String × String)
  deriving DecidableEq, Repr

namespace Request

def parameter? (request : Request) (name : String) : Option String :=
  request.query.lookup name

def ofParts? (method target version : List Char) : Option Request :=
  let path := target.takeWhile (· != '?')
  let query := (target.dropWhile (· != '?')).drop 1
  if "HTTP/".toList.isPrefixOf version && (path.head? == some '/' || path == ['*']) then
    some {
      method := String.ofList method
      path := String.ofList path
      query := Form.decode (Text.encode query) }
  else none

/-- Reads the head of a request. Only its first line matters, which holds a method, a target and a
version between white space. -/
def parse? (head : List Char) : Option Request :=
  match Text.lines head with
  | [] => none
  | line :: _ =>
      match Text.words line with
      | [method, target, version] => ofParts? method target version
      | _ => none

end Request

end PackageSearch.Http
