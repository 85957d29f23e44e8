import PackageSearch.Decimal.Shortest
import PackageSearch.Json.Value
import PackageSearch.Text.Hex

/-!
JSON values as compact text: no white space, members in their order, and only the characters
escaped that have to be.
-/

namespace PackageSearch

namespace Number

/-- The exponents of ten at which a double is still written without an exponent. -/
def writtenOut (exponent : Int) : Bool :=
  -5 ≤ exponent && exponent ≤ 15

def exponentText (exponent : Int) : List Char :=
  (if exponent < 0 then '-' else '+') :: (toString exponent.natAbs).toList

/-- Digits times a power of ten: written out with at least one digit after the point, or as one
leading digit with an exponent. -/
def decimalText (value : Nat) (place : Int) : List Char :=
  let digits := (toString value).toList
  let exponent := place + digits.length - 1
  if writtenOut exponent then
    if 0 ≤ place then
      digits ++ List.replicate place.toNat '0' ++ ['.', '0']
    else if 0 ≤ exponent then
      digits.take (exponent.toNat + 1) ++ '.' :: digits.drop (exponent.toNat + 1)
    else
      '0' :: '.' :: List.replicate (-exponent - 1).toNat '0' ++ digits
  else
    digits.take 1 ++ (if digits.length = 1 then [] else '.' :: digits.drop 1) ++
      'e' :: exponentText exponent

/-- A double with the fewest digits that read back. JSON has no text for one that is not finite. -/
def floatText (value : Float) : List Char :=
  if value.isNaN || value.isInf then "null".toList
  else
    let bits := value.toBits
    let magnitude :=
      if value == 0.0 then "0.0".toList
      else
        let (digits, place) := Decimal.shortest bits
        decimalText digits place
    if bits >>> 63 == 1 then '-' :: magnitude else magnitude

def print : Number → List Char
  | .integer value => (toString value).toList
  | .float value => floatText value

end Number

namespace Json

def escapeCharacter (character : Char) : List Char :=
  if character = '"' then ['\\', '"']
  else if character = '\\' then ['\\', '\\']
  else if character = '\x08' then ['\\', 'b']
  else if character = '\x0c' then ['\\', 'f']
  else if character = '\n' then ['\\', 'n']
  else if character = '\r' then ['\\', 'r']
  else if character = '\t' then ['\\', 't']
  else if character.toNat < 0x20 then
    ['\\', 'u', '0', '0', Text.hexDigit (character.toNat / 16), Text.hexDigit (character.toNat % 16)]
  else [character]

def printString (text : String) : List Char :=
  '"' :: text.toList.flatMap escapeCharacter ++ ['"']

mutual

def print : Json → List Char
  | .null => "null".toList
  | .boolean true => "true".toList
  | .boolean false => "false".toList
  | .number value => value.print
  | .string value => printString value
  | .array items => '[' :: printItems items ++ [']']
  | .object members => '{' :: printMembers members ++ ['}']

def printItems : List Json → List Char
  | [] => []
  | [item] => print item
  | item :: next :: rest => print item ++ ',' :: printItems (next :: rest)

def printMembers : List (String × Json) → List Char
  | [] => []
  | [(key, value)] => printString key ++ ':' :: print value
  | (key, value) :: next :: rest =>
      printString key ++ ':' :: print value ++ ',' :: printMembers (next :: rest)

end

def render (value : Json) : String :=
  String.ofList value.print

end Json

end PackageSearch
