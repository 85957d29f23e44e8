import PackageSearch.Json.Printer
import PackageSearch.Text.Utf8

/-!
Responses and the message that carries them.
-/

namespace PackageSearch.Http

structure Response where
  status : Nat
  body : Option Json

namespace Response

def ofJson (status : Nat) (body : Json) : Response :=
  { status, body := some body }

def noContent : Response :=
  { status := 204, body := none }

def failure (status : Nat) (error : String) : Response :=
  ofJson status (.object [("error", .string error)])

def reason : Nat → String
  | 200 => "OK"
  | 204 => "No Content"
  | 400 => "Bad Request"
  | 404 => "Not Found"
  | 405 => "Method Not Allowed"
  | 500 => "Internal Server Error"
  | _ => "Unknown"

def lineEnd : List Char := ['\r', '\n']

/-- The lines before the empty one, each without its end. -/
def headLines (status : Nat) (hasBody : Bool) (length : Nat) : List String :=
  ["HTTP/1.1 " ++ toString status ++ " " ++ reason status] ++
    (if hasBody then ["Content-Type: application/json"] else []) ++
    ["Access-Control-Allow-Origin: *",
      "Access-Control-Allow-Methods: GET, OPTIONS",
      "Access-Control-Allow-Headers: Content-Type",
      "Content-Length: " ++ toString length,
      "Connection: close"]

def bodyText (response : Response) : List Char :=
  match response.body with
  | none => []
  | some body => body.print

/-- The whole message: the head with the number of bytes of the body, an empty line, the body. -/
def message (response : Response) : List Char :=
  let lines := headLines response.status response.body.isSome (Text.byteCount response.bodyText)
  (lines.flatMap fun line => line.toList ++ lineEnd) ++ lineEnd ++ response.bodyText

def bytes (response : Response) : List UInt8 :=
  Text.encode response.message

end Response

end PackageSearch.Http
