import PackageSearch.Text.Hex
import PackageSearch.Text.Utf8

/-!
Form encoded parameters, as in the query of a request target: `key=value` segments between `&`,
where `+` stands for a space and `%` with two hexadecimal digits for a byte.
-/

namespace PackageSearch.Http.Form

def hexValue? (byte : UInt8) : Option Nat :=
  Text.hexValue? (Char.ofNat byte.toNat)

/-- Replaces each `%` that is followed by two hexadecimal digits. -/
def percentDecode : List UInt8 → List UInt8
  | [] => []
  | 0x25 :: high :: low :: rest =>
      match hexValue? high, hexValue? low with
      | some upper, some lower => UInt8.ofNat (upper * 16 + lower) :: percentDecode rest
      | _, _ => 0x25 :: percentDecode (high :: low :: rest)
  | byte :: rest => byte :: percentDecode rest

def plusToSpace (byte : UInt8) : UInt8 :=
  if byte = 0x2B then 0x20 else byte

def decodeText (bytes : List UInt8) : String :=
  String.ofList (Text.decodeLossy (percentDecode (bytes.map plusToSpace)))

/-- A segment as key and value; without `=` the value is empty. -/
def decodePair (segment : List UInt8) : String × String :=
  (decodeText (segment.takeWhile (· != 0x3D)),
    decodeText ((segment.dropWhile (· != 0x3D)).drop 1))

/-- The pairs in order; empty segments do not count. -/
def decode (bytes : List UInt8) : List (String × String) :=
  ((bytes.splitOnP (· == 0x26)).filter fun segment => !segment.isEmpty).map decodePair

end PackageSearch.Http.Form
