import PackageSearch.Text.Hex
import PackageSearch.Text.Printable

/-!
Text between quotes for messages: quotes, backslashes and the usual control characters are escaped
with a backslash, other characters that cannot be shown with their code in hexadecimal.
-/

namespace PackageSearch.Text

/-- The hexadecimal digits of a number, the lowest first and at most `fuel` of them. -/
def hexDigitsReversed : (fuel : Nat) → Nat → List Char
  | 0, _ => []
  | fuel + 1, value =>
      hexDigit (value % 16) :: if value < 16 then [] else hexDigitsReversed fuel (value / 16)

def quoteCharacter (character : Char) : List Char :=
  if character = '\x00' then ['\\', '0']
  else if character = '\t' then ['\\', 't']
  else if character = '\r' then ['\\', 'r']
  else if character = '\n' then ['\\', 'n']
  else if character = '"' then ['\\', '"']
  else if character = '\\' then ['\\', '\\']
  else if isShown character then [character]
  else ['\\', 'u', '\x7b'] ++ (hexDigitsReversed 6 character.toNat).reverse ++ ['\x7d']

def quote (text : String) : String :=
  String.ofList ('"' :: text.toList.flatMap quoteCharacter ++ ['"'])

end PackageSearch.Text
